/-
A disk as a value: what stands at which path. A path here is the list of names from the root down; the root itself is
always a directory and has no entry of its own.

`locate?` follows a written path through links to where it leads. `write` and `delete` change what a path leads to and keep
the disk closed: whatever exists stands in directories that exist.
-/
import StyleIndex.FilePath

namespace StyleIndex

/-- what a path holds -/
inductive Node where
  | file (content : List UInt8)
  | directory
  /-- a symbolic link and the path written in it -/
  | link (target : List UInt8)
deriving DecidableEq, Repr

def Node.isFile : Node → Bool
  | .file _ => true
  | _ => false

structure Disk where
  /-- each path at most once -/
  nodes : List (List Name × Node)
deriving DecidableEq, Repr

namespace Disk

def empty : Disk := ⟨[]⟩

/-- what stands at a place -/
def node? (d : Disk) : List Name → Option Node
  | [] => some .directory
  | place => d.nodes.lookup place

def isDirectory (d : Disk) (place : List Name) : Bool :=
  d.node? place = some .directory

/-! ## Following paths -/

/-- how far a path can be followed without passing a link -/
inductive Step where
  | arrived (place : List Name)
  /-- nothing stands at the end of the path, but the directory it would stand in does -/
  | vacant (place : List Name)
  | missing
  /-- a link stands in directory `base`; `rest` is left to follow behind its target -/
  | link (base : List Name) (target : List UInt8) (rest : List Name)

/-- follows the pieces of a path from a place up to the next link; a link at the very end is entered only if `follow` -/
def advance (d : Disk) (follow : Bool) (place : List Name) : List Name → Step
  | [] => .arrived place
  | piece :: rest =>
    if !d.isDirectory place then .missing
    else if piece = [] || piece = Name.here then advance d follow place rest
    else if piece = Name.up then advance d follow place.dropLast rest
    else
      match d.node? (place ++ [piece]) with
      | none => if rest.isEmpty then .vacant (place ++ [piece]) else .missing
      | some (.link target) =>
        if rest.isEmpty && !follow then .arrived (place ++ [piece]) else .link place target rest
      | some _ => advance d follow (place ++ [piece]) rest

/-- how many links a path may pass -/
def maxLinks : Nat := 40

/-- the pieces of a link target and the place it starts from -/
def linkStart (base : List Name) (target : List UInt8) : List Name × List Name :=
  match target with
  | b :: rest => if b = Name.slash then ([], rest.splitOn Name.slash) else (base, target.splitOn Name.slash)
  | [] => (base, [[]])

/-- follows a path, passing at most `links` links, to the place of what it leads to or of what can be made there -/
def follow? (d : Disk) (follow : Bool) : Nat → List Name → List Name → Option (List Name)
  | links, place, pieces =>
    match d.advance follow place pieces with
    | .arrived place => some place
    | .vacant place => some place
    | .missing => none
    | .link base target rest =>
      match links with
      | 0 => none
      | links + 1 => follow? d follow links (linkStart base target).1 ((linkStart base target).2 ++ rest)

/-- the place that a path names, through all links; nothing need stand there yet -/
def target? (d : Disk) (path : FilePath) : Option (List Name) :=
  d.follow? true maxLinks [] path.pieces

/-- the place that a path names, not through a link at its end; nothing need stand there yet -/
def place? (d : Disk) (path : FilePath) : Option (List Name) :=
  d.follow? false maxLinks [] path.pieces

/-- where a path leads, through all links -/
def locate? (d : Disk) (path : FilePath) : Option (List Name) :=
  (d.target? path).filter fun place => (d.node? place).isSome

/-- a path leads to something -/
def pathExists (d : Disk) (path : FilePath) : Bool :=
  (d.locate? path).isSome

/-- the bytes of the file that a path leads to -/
def readBytes? (d : Disk) (path : FilePath) : Option (List UInt8) :=
  match (d.locate? path).bind d.node? with
  | some (.file content) => some content
  | _ => none

/-- the text of the file that a path leads to, if it is UTF-8 -/
def readText? (d : Disk) (path : FilePath) : Option String :=
  (d.readBytes? path).bind Utf8.string?

/-! ## Changes -/

/-- sets what stands at a place -/
def put (d : Disk) (place : List Name) (node : Node) : Disk :=
  ⟨d.nodes.filter (fun e => e.1 ≠ place) ++ [(place, node)]⟩

/-- makes a directory where a path leads nowhere yet -/
def ensureDirectory (d : Disk) (path : FilePath) : Disk :=
  match d.place? path with
  | some place => if (d.node? place).isSome then d else d.put place .directory
  | none => d

/-- makes the directories on the way of a path, itself left out -/
def ensureParents (d : Disk) (path : FilePath) : Disk :=
  ((initialParts path.pieces).dropLast.map FilePath.mk).foldl ensureDirectory d

/-- writes a node where a path leads, making the directories on the way. A file is written through a link, and a link in
the place of what stands there. -/
def write (d : Disk) (path : FilePath) (node : Node) : Disk :=
  let d := d.ensureParents path
  match node with
  | .directory => d.ensureDirectory path
  | .file _ => (d.target? path).elim d fun place => if d.isDirectory place then d else d.put place node
  | .link _ => (d.place? path).elim d fun place => if d.isDirectory place then d else d.put place node

/-- removes what stands at the end of a path with everything inside; a link is removed, not what it leads to -/
def delete (d : Disk) (path : FilePath) : Disk :=
  (d.place? path).elim d fun place => ⟨d.nodes.filter fun e => !place.isPrefixOf e.1⟩

end Disk
end StyleIndex
