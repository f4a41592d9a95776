/-
Repositories on a disk. A directory is the root of one if `.git` or `.jj` stands in it.

The exclude file of a repository is in its `.git` directory. In a linked working tree `.git` is a file instead: its first
line names a directory, and a file `commondir` there names the one that all working trees share. Only absolute paths are
followed in a `.git` file.
-/
import StyleIndex.Disk

namespace StyleIndex

/-- a file of a directory, named by its path from there -/
def FilePath.inside (place : List Name) (names : List String) : FilePath :=
  ⟨place ++ names.map Name.ofString⟩

namespace Repository

/-- the directory is the root of a repository -/
def isRoot (d : Disk) (place : List Name) : Bool :=
  d.pathExists (.inside place [".git"]) || d.pathExists (.inside place [".jj"])

/-- the first line of a file, without its line end -/
def firstLine (content : List UInt8) : List UInt8 :=
  let line := content.takeWhile (· ≠ 0x0A)
  if line.length < content.length && line.getLast? = some 0x0D then line.dropLast else line

/-- a line is text -/
def isText (line : List UInt8) : Bool :=
  (Utf8.string? line).isSome

/-- where the files of a repository are -/
inductive Store where
  | directory (path : FilePath)
  /-- no directory is named, or none that is there -/
  | unknown
  /-- a line that should name a directory is no text -/
  | unreadable
deriving DecidableEq, Repr

/-- the directory that the line of a `.git` file names -/
def linked? (line : List UInt8) : Option FilePath :=
  let start := Utf8.ofString "gitdir: "
  if start.isPrefixOf line then FilePath.ofBytes? (line.drop start.length) else none

/-- the directory that the line of a `commondir` file in directory `base` names -/
def shared? (base : FilePath) (line : List UInt8) : Option FilePath :=
  if line.head? = some Name.dot then some (base.join (line.splitOn Name.slash)) else FilePath.ofBytes? line

/-- the path of the file in which a linked directory names the shared one -/
def sharedFile (linked : FilePath) : FilePath :=
  linked.join [Name.ofString "commondir"]

/-- where the files of the repository with this root are -/
def store (d : Disk) (place : List Name) : Store :=
  match (d.readBytes? (.inside place [".git"])).map firstLine with
  | none => .directory (.inside place [".git"])
  | some line =>
    if !isText line then .unreadable
    else
      match linked? line with
      | none => .unknown
      | some linked =>
        match (d.readBytes? (sharedFile linked)).map firstLine with
        | none => .unknown
        | some line => if isText line then (shared? linked line).elim .unknown .directory else .unreadable

/-- the path of a repository's own exclude file -/
def excludeFile? (d : Disk) (place : List Name) : Option FilePath :=
  match store d place with
  | .directory path => some (path.join [Name.ofString "info", Name.ofString "exclude"])
  | _ => none

/-- the paths that have to be looked at, one after another, to find the exclude file -/
def lookups (d : Disk) (place : List Name) : List FilePath :=
  let linked := ((d.readBytes? (.inside place [".git"])).map firstLine).bind linked?
  (linked.map sharedFile).toList ++ (excludeFile? d place).toList

end Repository
end StyleIndex
