/-
Names and paths of files. A name is a sequence of bytes. A path is absolute and kept as it was written: the pieces between
its slashes, in which an empty piece and a dot mean "stay here" and two dots mean "up".
-/
import StyleIndex.Text.LowerCase
import StyleIndex.Text.Utf8

namespace StyleIndex

/-- all initial parts of a list, shortest first -/
def initialParts {α : Type} : List α → List (List α)
  | [] => [[]]
  | a :: rest => [] :: (initialParts rest).map (a :: ·)

/-- a file name -/
abbrev Name := List UInt8

/-- the name that a text writes -/
def Name.ofString (s : String) : Name := Utf8.ofString s

namespace Name

def dot : UInt8 := 0x2E

def slash : UInt8 := 0x2F

/-- the piece that means "stay here" -/
def here : Name := [dot]

/-- the piece that means "up" -/
def up : Name := [dot, dot]

/-- hidden names start with a dot -/
def isHidden (name : Name) : Bool :=
  name.head? = some dot

/-- what stands behind the last dot of a name; a dot that starts the name does not count -/
def extension? (name : Name) : Option Name :=
  if name = up then none
  else
    let after := (name.reverse.takeWhile (· ≠ dot)).reverse
    if after.length + 1 < name.length then some after else none

end Name

/-- an absolute path: the pieces behind the leading slash -/
structure FilePath where
  pieces : List Name
deriving DecidableEq, Repr

namespace FilePath

/-- the path that bytes write, if it is absolute -/
def ofBytes? : List UInt8 → Option FilePath
  | b :: rest => if b = Name.slash then some ⟨rest.splitOn Name.slash⟩ else none
  | [] => none

/-- the pieces that name something -/
def components (p : FilePath) : List Name :=
  p.pieces.filter fun piece => piece ≠ [] && piece ≠ Name.here

/-- the path of something inside this directory -/
def join (p : FilePath) (names : List Name) : FilePath :=
  ⟨p.pieces ++ names⟩

/-- the extension of the last component, if it is a text -/
def extension? (p : FilePath) : Option String :=
  (p.components.getLast?.bind Name.extension?).bind Utf8.string?

end FilePath

/-- the extension at the end of a URL or path: what stands behind the last dot of the last piece, in ASCII lower case -/
def extensionOf? (text : String) : Option String :=
  let name := (text.toList.reverse.takeWhile (· ≠ '/')).reverse
  let after := (name.reverse.takeWhile (· ≠ '.')).reverse
  if after.length < name.length && !after.isEmpty then some (Text.asciiLower (String.ofList after)) else none

end StyleIndex
