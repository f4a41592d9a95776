/-
Disks that differ in the contents of some files only.

`redact` empties the files at the places that are held back. Two disks with the same redaction have the same directories,
links and files, so paths lead to the same places on both (`locate?_congr`), and a path that does not lead to a place held
back reads the same (`readBytes?_congr`). A walk reads the rule files of the directories above the files that it could
find: if none of them is held back, it finds the same files on both (`found_congr`).
-/
import Mathlib.Tactic
import StyleIndex.Proofs.Walk

namespace StyleIndex

/-- a file without its content -/
def Node.emptied : Node → Node
  | .file _ => .file []
  | node => node

@[simp] theorem Node.emptied_eq_directory_iff {node : Node} : node.emptied = .directory ↔ node = .directory := by
  cases node <;> simp [emptied]

@[simp] theorem Node.isFile_emptied (node : Node) : node.emptied.isFile = node.isFile := by
  cases node <;> rfl

namespace Disk

/-- the disk with the files at some places emptied -/
def redact (held : List Name → Bool) (d : Disk) : Disk :=
  ⟨d.nodes.map fun e => (e.1, if held e.1 then e.2.emptied else e.2)⟩

/-- the path does not lead to a place that is held back -/
def avoids (d : Disk) (held : List Name → Bool) (path : FilePath) : Bool :=
  !(d.locate? path).any held

variable {held : List Name → Bool} {d d' : Disk}

/-! ## Paths -/

theorem lookup_redact (nodes : List (List Name × Node)) (place : List Name) :
    (nodes.map fun e => (e.1, if held e.1 then e.2.emptied else e.2)).lookup place =
      (nodes.lookup place).map fun node => if held place then node.emptied else node := by
  induction nodes with
  | nil => rfl
  | cons e nodes ih =>
    rw [List.map_cons, List.lookup_cons, List.lookup_cons, ih]
    cases hplace : place == e.1 with
    | false => rfl
    | true => rw [Option.map_some, eq_of_beq hplace]

theorem node?_redact (d : Disk) (place : List Name) :
    (d.redact held).node? place = (d.node? place).map fun node => if held place then node.emptied else node := by
  by_cases hplace : place = []
  · subst hplace
    simp [node?, Node.emptied]
  · rw [node?_of_ne_nil _ hplace, node?_of_ne_nil _ hplace]
    exact lookup_redact d.nodes place

theorem isDirectory_redact (d : Disk) (place : List Name) : (d.redact held).isDirectory place = d.isDirectory place := by
  rw [isDirectory, isDirectory, node?_redact]
  cases d.node? place with
  | none => rfl
  | some node =>
    rw [Option.map_some]
    split_ifs <;> simp

/-- A path is followed by directories and links, and the contents of files do not count. -/
theorem advance_redact (d : Disk) (follow : Bool) (place pieces : List Name) :
    (d.redact held).advance follow place pieces = d.advance follow place pieces := by
  induction pieces generalizing place with
  | nil => rfl
  | cons piece rest ih =>
    rw [advance, advance, isDirectory_redact, ih, ih, ih, node?_redact]
    cases d.node? (place ++ [piece]) with
    | none => rfl
    | some node =>
      cases node with
      | file | directory => cases held (place ++ [piece]) <;> rfl
      | link target => cases held (place ++ [piece]) <;> rfl

theorem follow?_redact (d : Disk) (follow : Bool) (links : Nat) (place pieces : List Name) :
    (d.redact held).follow? follow links place pieces = d.follow? follow links place pieces := by
  induction links generalizing place pieces with
  | zero => rw [follow?, follow?, advance_redact]
  | succ links ih =>
    rw [follow?, follow?, advance_redact]
    simp only [ih]

theorem locate?_redact (d : Disk) (path : FilePath) : (d.redact held).locate? path = d.locate? path := by
  simp only [locate?, target?, follow?_redact, node?_redact, Option.isSome_map]

/-! ## Two disks -/

theorem isDirectory_congr (h : d'.redact held = d.redact held) (place : List Name) :
    d'.isDirectory place = d.isDirectory place := by
  rw [← isDirectory_redact d', h, isDirectory_redact]

theorem locate?_congr (h : d'.redact held = d.redact held) (path : FilePath) : d'.locate? path = d.locate? path := by
  rw [← locate?_redact d', h, locate?_redact]

theorem pathExists_congr (h : d'.redact held = d.redact held) (path : FilePath) :
    d'.pathExists path = d.pathExists path := by
  rw [pathExists, pathExists, locate?_congr h]

/-- **A path that avoids the places held back reads the same.** -/
theorem readBytes?_congr (h : d'.redact held = d.redact held) {path : FilePath} (havoids : d.avoids held path = true) :
    d'.readBytes? path = d.readBytes? path := by
  rw [readBytes?, readBytes?, locate?_congr h]
  cases hlocate : d.locate? path with
  | none => rfl
  | some place =>
    have hfree : held place = false := by simpa [avoids, hlocate] using havoids
    have hnode : d'.node? place = d.node? place := by
      simpa [node?_redact, hfree] using congrArg (fun disk => disk.node? place) h
    rw [Option.bind_some, Option.bind_some, hnode]

theorem readText?_congr (h : d'.redact held = d.redact held) {path : FilePath} (havoids : d.avoids held path = true) :
    d'.readText? path = d.readText? path := by
  rw [readText?, readText?, readBytes?_congr h havoids]

/-! ## Walks -/

theorem store_congr (h : d'.redact held = d.redact held) {place : List Name}
    (hgit : d.avoids held (.inside place [".git"]) = true)
    (hlookups : ∀ path ∈ Repository.lookups d place, d.avoids held path = true) :
    Repository.store d' place = Repository.store d place := by
  rw [Repository.store, Repository.store, readBytes?_congr h hgit]
  cases hline : (d.readBytes? (.inside place [".git"])).map Repository.firstLine with
  | none => rfl
  | some line =>
    cases hlinked : Repository.linked? line with
    | none => simp only [hlinked]
    | some linked =>
      have hmem : Repository.sharedFile linked ∈ Repository.lookups d place := by
        simp [Repository.lookups, hline, hlinked]
      simp only [hlinked, readBytes?_congr h (hlookups _ hmem)]

end Disk

namespace Walk

/-- the paths of the files that are read for the rules of a directory -/
def rulePaths (d : Disk) (place : List Name) : List FilePath :=
  [.inside place [".ignore"], .inside place [".gitignore"], .inside place [".git"]] ++ Repository.lookups d place

/-- the directories whose rules a walk may ask for: those above the files below its start -/
def asked (d : Disk) (start : List Name) : List (List Name) :=
  (d.nodes.filter fun e => e.2.isFile && start.isPrefixOf e.1).flatMap fun e => upward e.1.dropLast

variable {held : List Name → Bool} {d d' : Disk}

theorem directoryRules_congr (h : d'.redact held = d.redact held) {place : List Name}
    (havoids : ∀ path ∈ rulePaths d place, d.avoids held path = true) :
    directoryRules d' place = directoryRules d place := by
  have hlookups : ∀ path ∈ Repository.lookups d place, d.avoids held path = true := fun path hpath =>
    havoids path (List.mem_append_right _ hpath)
  refine Untouched.directoryRules_eq ⟨?_, ?_, ?_, ?_, ?_⟩
  · exact Disk.readBytes?_congr h (havoids _ (by simp [rulePaths]))
  · exact Disk.readBytes?_congr h (havoids _ (by simp [rulePaths]))
  · rw [Repository.isRoot, Repository.isRoot, Disk.pathExists_congr h, Disk.pathExists_congr h]
  · exact Disk.store_congr h (havoids _ (by simp [rulePaths])) hlookups
  · cases hexclude : Repository.excludeFile? d place with
    | none => rfl
    | some path => exact Disk.readBytes?_congr h (hlookups path (by simp [Repository.lookups, hexclude]))

theorem dropLast_prefix_dropLast {part whole : List Name} (h : part <+: whole) : part.dropLast <+: whole.dropLast := by
  obtain ⟨rest, rfl⟩ := h
  by_cases hrest : rest = []
  · simp [hrest]
  · rw [List.dropLast_append_of_ne_nil hrest]
    exact (List.dropLast_prefix part).trans (List.prefix_append _ _)

theorem reaches_congr (h : d'.redact held = d.redact held) (excludes : List IgnoreRule) {start names : List Name}
    (hrules : ∀ dir, dir <+: (start ++ names).dropLast → directoryRules d' dir = directoryRules d dir) :
    reaches d' excludes start names = reaches d excludes start names := by
  have hskipped : ∀ part ∈ (initialParts names).drop 1,
      isSkipped d' excludes start part = isSkipped d excludes start part := by
    intro part hpart
    have hpart : part <+: names := mem_initialParts_iff.1 (List.mem_of_mem_drop hpart)
    refine isSkipped_congr excludes (Disk.isDirectory_congr h _) fun dir hdir => hrules dir (hdir.trans ?_)
    exact dropLast_prefix_dropLast ((List.prefix_append_right_inj start).2 hpart)
  rw [reaches, reaches, Bool.eq_iff_iff, List.all_eq_true, List.all_eq_true]
  exact forall₂_congr fun part hpart => by rw [hskipped part hpart]

theorem places_redact (d : Disk) :
    ((d.redact held).nodes.filter fun e => e.2.isFile).map Prod.fst =
      (d.nodes.filter fun e => e.2.isFile).map Prod.fst := by
  have hfile : ∀ e ∈ d.nodes, (if held e.1 then e.2.emptied else e.2).isFile = e.2.isFile := by
    intro e _
    split_ifs <;> simp
  rw [Disk.redact, List.filter_map, List.map_map]
  exact congrArg (List.map Prod.fst) (List.filter_congr hfile)

theorem files_congr (h : d'.redact held = d.redact held) (excludes : List IgnoreRule) {start : List Name}
    (havoids : ∀ dir ∈ asked d start, ∀ path ∈ rulePaths d dir, d.avoids held path = true) :
    files d' excludes start = files d excludes start := by
  have hfiles : ∀ disk : Disk, files disk excludes start =
      ((disk.nodes.filter fun e => e.2.isFile).map Prod.fst).filterMap fun place =>
        (relative? start place).filter (reaches disk excludes start) := by
    intro disk
    rw [List.filterMap_map]
    rfl
  rw [hfiles, hfiles, ← places_redact d', h, places_redact]
  refine List.filterMap_congr fun place hplace => ?_
  obtain ⟨e, he, rfl⟩ := List.mem_map.1 hplace
  obtain ⟨he, hfile⟩ := List.mem_filter.1 he
  cases hrelative : relative? start e.1 with
  | none => rfl
  | some names =>
    obtain ⟨hnames, _⟩ := relative?_eq_some_iff.1 hrelative
    have hreaches : reaches d' excludes start names = reaches d excludes start names := by
      refine reaches_congr h excludes fun dir hdir => directoryRules_congr h (havoids dir ?_)
      rw [← hnames] at hdir
      refine List.mem_flatMap.2 ⟨e, List.mem_filter.2 ⟨he, ?_⟩, List.mem_reverse.2 (mem_initialParts_iff.2 hdir)⟩
      rw [hfile, Bool.true_and, List.isPrefixOf_iff_prefix, hnames]
      exact List.prefix_append _ _
    rw [Option.filter_some, Option.filter_some, hreaches]

end Walk

/-- the paths of the rule files that a walk from a path may read -/
def Disk.rulesRead (d : Disk) (root : FilePath) : List FilePath :=
  ((d.locate? root).toList.flatMap (Walk.asked d)).flatMap (Walk.rulePaths d)

/-- **A walk that reads no rule held back** finds the same files on both disks. -/
theorem Disk.found_congr {held : List Name → Bool} {d d' : Disk} (h : d'.redact held = d.redact held)
    (excludes : List IgnoreRule) {root : FilePath} (havoids : ∀ path ∈ d.rulesRead root, d.avoids held path = true) :
    (d'.walk excludes root).found = (d.walk excludes root).found := by
  rw [walk, walk, locate?_congr h]
  cases hlocate : d.locate? root with
  | none => rfl
  | some start =>
    have hfiles : Walk.files d' excludes start = Walk.files d excludes start := by
      refine Walk.files_congr h excludes fun dir hdir path hpath => havoids path ?_
      rw [rulesRead, hlocate]
      exact List.mem_flatMap.2 ⟨dir, by simpa using hdir, hpath⟩
    simp only [isDirectory_congr h, hfiles]
    split_ifs <;> rfl

end StyleIndex
