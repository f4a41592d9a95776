/-
The symbols known per file, ranked by how recently a file was updated.

A registry is a list of files, least recently updated first, each with its symbols. An update replaces a file's symbols
and moves the file to the end; a failed read changes nothing. `items` merges the files from the most recent one back,
and a symbol stands where it is met first.
-/
import StyleIndex.Symbol.Extract

namespace StyleIndex

/-- a file's identity: its URL as text -/
abbrev FileId := String

structure Registry where
  kind : Kind
  /-- files and their symbols, least recently updated first -/
  entries : List (FileId × List String)
deriving DecidableEq, Repr

namespace Registry

def empty (kind : Kind) : Registry := ⟨kind, []⟩

/-- forgets a file -/
def remove (r : Registry) (file : FileId) : Registry :=
  { r with entries := r.entries.filter fun e => e.1 ≠ file }

/-- the symbols of a text, each once, where it first occurs -/
def symbolsOf (kind : Kind) (text : String) : List String :=
  (kind.extract text).eraseDups

/-- replaces the symbols of a file by those of its new text and makes it the most recent file -/
def update (r : Registry) (file : FileId) (text : String) : Registry :=
  { r with entries := (r.remove file).entries ++ [(file, symbolsOf r.kind text)] }

/-- an update with what was read from disk; a failed read leaves the registry alone -/
def load (r : Registry) (file : FileId) : Option String → Registry
  | some text => r.update file text
  | none => r

/-- forgets every file -/
def reset (r : Registry) : Registry := { r with entries := [] }

def size (r : Registry) : Nat := r.entries.length

/-- the symbols of one file -/
def symbols? (r : Registry) (file : FileId) : Option (List String) :=
  r.entries.lookup file

def contains (r : Registry) (file : FileId) : Bool :=
  (r.symbols? file).isSome

/-- all symbols, most recently updated file first, each once -/
def items (r : Registry) : List String :=
  (r.entries.reverse.flatMap Prod.snd).eraseDups

end Registry
end StyleIndex
