/-
Tables under construction. A document defines tables in three ways: by a header, by the path of a header to a deeper
table, and by a dotted key. Each table may be defined once, and the rules depend on how it came about, so an unfinished
table remembers that.

`Entries.modify` walks a path to the table that a definition is about. `Entries.insert` adds a key and value there.
-/
import StyleIndex.Json

namespace StyleIndex.Toml

/-- what a key of an unfinished table holds -/
inductive Entry where
  /-- a finished value; inline tables and plain arrays are finished -/
  | value (value : Json)
  /-- a table: whether it exists only as part of a path so far, whether it belongs to dotted keys, and what it holds -/
  | table (implicit dotted : Bool) (entries : List (String × Entry))
  /-- an array of tables: the table being filled and the earlier ones, last first -/
  | tables (current : List (String × Entry)) (earlier : List (List (String × Entry)))

abbrev Entries := List (String × Entry)

mutual

/-- the value an entry stands for -/
def Entry.toJson : Entry → Json
  | .value v => v
  | .table _ _ entries => .obj (entriesToFields entries)
  | .tables current earlier => .arr (tablesToItems earlier ++ [.obj (entriesToFields current)])

def entriesToFields : List (String × Entry) → List (String × Json)
  | [] => []
  | (key, entry) :: rest => (key, entry.toJson) :: entriesToFields rest

/-- earlier tables in the order they were written -/
def tablesToItems : List (List (String × Entry)) → List Json
  | [] => []
  | entries :: rest => tablesToItems rest ++ [.obj (entriesToFields entries)]

end

namespace Entries

/-- puts an entry in the place of the entry with its key -/
def replace (entries : Entries) (key : String) (entry : Entry) : Entries :=
  entries.map fun e => if e.1 = key then (key, entry) else e

/-- changes the table at a path. `dotted` tells whether a dotted key or a header walks the path. Missing tables are made on
the way. A dotted key does not enter a table that a header defined, and the tables it does enter are its own from then on,
so that no header defines them later. The change is told whether the table belongs to dotted keys. -/
def modify (dotted : Bool) (change : Bool → Entries → Option Entries) :
    List String → Bool → Entries → Option Entries
  | [], keyed, entries => change keyed entries
  | key :: path, _, entries =>
    match entries.lookup key with
    | none =>
      (modify dotted change path dotted []).map fun sub => entries ++ [(key, .table true dotted sub)]
    | some (.value _) => none
    | some (.tables current earlier) =>
      (modify dotted change path false current).map fun sub => replace entries key (.tables sub earlier)
    | some (.table implicit keyed sub) =>
      if dotted && !implicit then none
      else
        (modify dotted change path (keyed || dotted) sub).map fun sub =>
          replace entries key (.table implicit (keyed || dotted) sub)

/-- adds a value under a dotted key; the key must be new, and its last table must be one that belongs to dotted keys -/
def insert (entries : Entries) (path : List String) (key : String) (value : Json) : Option Entries :=
  modify true
    (fun keyed entries =>
      if keyed = path.isEmpty || (entries.lookup key).isSome then none else some (entries ++ [(key, .value value)]))
    path false entries

end Entries

/-- a table header: the path to the parent, the last key, and whether it adds to an array of tables -/
structure Header where
  path : List String
  key : String
  isArray : Bool

/-- a document under construction: the finished part and the table that the last header opened -/
structure Draft where
  root : Entries
  header : Option Header
  current : Entries

namespace Draft

def empty : Draft := ⟨[], none, []⟩

/-- puts the current table in its place -/
def close? (d : Draft) : Option Entries :=
  match d.header with
  | none => some d.current
  | some h =>
    Entries.modify false
      (fun _ parent =>
        if h.isArray then
          match parent.lookup h.key with
          | none => some (parent ++ [(h.key, .tables d.current [])])
          | some (.tables current earlier) => some (parent.replace h.key (.tables d.current (current :: earlier)))
          | some _ => none
        else some (parent ++ [(h.key, .table false false d.current)]))
      h.path false d.root

/-- the entries a header starts from: those of a table that so far was only part of a path, and none otherwise -/
def reopen? (root : Entries) (h : Header) : Option (Entries × Entries) :=
  let found : Option Entry :=
    h.path.foldl
      (fun (at? : Option Entry) key =>
        match at? with
        | some (.table _ _ entries) => entries.lookup key
        | some (.tables current _) => current.lookup key
        | _ => none)
      (some (.table false false root))
  let existing : Option Entry :=
    match found with
    | some (.table _ _ entries) => entries.lookup h.key
    | some (.tables current _) => current.lookup h.key
    | _ => none
  let removed := Entries.modify false (fun _ parent => some (parent.filter fun e => e.1 ≠ h.key)) h.path false root
  match existing, removed with
  | none, some root => some (root, [])
  | some (.table true false entries), some root => some (root, entries)
  | _, _ => none

/-- starts the table of a header -/
def open? (d : Draft) (h : Header) : Option Draft := do
  let root ← d.close?
  if h.isArray then return ⟨root, some h, []⟩
  let (root, current) ← reopen? root h
  return ⟨root, some h, current⟩

/-- adds a key and value to the current table -/
def put? (d : Draft) (path : List String) (key : String) (value : Json) : Option Draft :=
  (d.current.insert path key value).map fun current => { d with current }

/-- the finished document -/
def finish? (d : Draft) : Option Json :=
  d.close?.map fun root => .obj (entriesToFields root)

end Draft
end StyleIndex.Toml
