/-
What the walk of a workspace sees, and how a change of one file changes that.

`Sees` is the view that a walk has of a disk: a path is seen with the bytes of the file it leads to. Whether the walk
reaches a file depends only on the directories above it and their rules (`reaches_eq`). So a file that is written and then
seen changes the view at its own path (`sees_write_iff`), and so does a file that was seen and is deleted
(`sees_delete_iff`). Both need that the rules of the directories stay the same (`SameRules`), as they do when no file that
holds rules is touched (`sameRules_of_untouched`).
-/
import Mathlib.Tactic
import StyleIndex.Disk.Walk
import StyleIndex.Proofs.DiskChange

namespace StyleIndex

namespace Walk

variable {d d' : Disk}

/-! ## Rules -/

theorem verdicts_congr (select : DirectoryRules → IgnoreFile) (place : List Name) (isDirectory : Bool)
    {directories : List (List Name)} (h : ∀ dir ∈ directories, directoryRules d' dir = directoryRules d dir) :
    verdicts d' select place isDirectory directories = verdicts d select place isDirectory directories := by
  unfold verdicts
  induction directories with
  | nil => rfl
  | cons dir directories ih =>
    rw [List.findSome?_cons, List.findSome?_cons, h dir (by simp), ih fun other hother => h other (by simp [hother])]

theorem repositoryPart_congr {directories : List (List Name)}
    (h : ∀ dir ∈ directories, directoryRules d' dir = directoryRules d dir) :
    repositoryPart d' directories = repositoryPart d directories := by
  induction directories with
  | nil => rfl
  | cons dir directories ih =>
    rw [repositoryPart, repositoryPart, h dir (by simp), ih fun other hother => h other (by simp [hother])]

theorem mem_of_mem_repositoryPart {directories : List (List Name)} {dir : List Name}
    (h : dir ∈ repositoryPart d directories) : dir ∈ directories := by
  induction directories with
  | nil => exact h
  | cons first directories ih =>
    rw [repositoryPart] at h
    split_ifs at h
    · simp [List.mem_singleton.1 h]
    · rcases List.mem_cons.1 h with rfl | h
      · simp
      · simp [ih h]

theorem any_isRepository_congr {directories : List (List Name)}
    (h : ∀ dir ∈ directories, directoryRules d' dir = directoryRules d dir) :
    (directories.any fun dir => (directoryRules d' dir).isRepository) =
      directories.any fun dir => (directoryRules d dir).isRepository := by
  induction directories with
  | nil => rfl
  | cons dir directories ih =>
    rw [List.any_cons, List.any_cons, h dir (by simp), ih fun other hother => h other (by simp [hother])]

theorem ignoreVerdict?_congr {place : List Name} (isDirectory : Bool)
    (h : ∀ dir, dir <+: place.dropLast → directoryRules d' dir = directoryRules d dir) :
    ignoreVerdict? d' place isDirectory = ignoreVerdict? d place isDirectory := by
  have habove : ∀ dir ∈ upward place.dropLast, directoryRules d' dir = directoryRules d dir := fun dir hdir =>
    h dir (mem_initialParts_iff.1 (List.mem_reverse.1 hdir))
  have hpart : ∀ dir ∈ repositoryPart d (upward place.dropLast), directoryRules d' dir = directoryRules d dir :=
    fun dir hdir => habove dir (mem_of_mem_repositoryPart hdir)
  unfold ignoreVerdict?
  simp only [any_isRepository_congr habove, repositoryPart_congr habove, verdicts_congr _ place isDirectory habove]
  split_ifs
  · simp only [verdicts_congr _ place isDirectory hpart]
  · rfl

theorem isSkipped_congr (excludes : List IgnoreRule) {start names : List Name}
    (hdir : d'.isDirectory (start ++ names) = d.isDirectory (start ++ names))
    (hrules : ∀ dir, dir <+: (start ++ names).dropLast → directoryRules d' dir = directoryRules d dir) :
    isSkipped d' excludes start names = isSkipped d excludes start names := by
  unfold isSkipped
  simp only [hdir, ignoreVerdict?_congr _ hrules]

/-- directories that both disks have follow the same rules -/
def SameRules (d d' : Disk) : Prop :=
  ∀ place, d.isDirectory place = true → d'.isDirectory place = true → directoryRules d' place = directoryRules d place

/-- the files that hold rules for a directory, or mark it as a repository, are the same on both disks -/
def Untouched (d d' : Disk) (place : List Name) : Prop :=
  d'.readBytes? (.inside place [".ignore"]) = d.readBytes? (.inside place [".ignore"]) ∧
    d'.readBytes? (.inside place [".gitignore"]) = d.readBytes? (.inside place [".gitignore"]) ∧
    Repository.isRoot d' place = Repository.isRoot d place ∧ Repository.store d' place = Repository.store d place ∧
    (Repository.excludeFile? d place).bind d'.readBytes? = (Repository.excludeFile? d place).bind d.readBytes?

instance (d d' : Disk) (place : List Name) : Decidable (Untouched d d' place) :=
  inferInstanceAs (Decidable (_ ∧ _))

theorem Untouched.directoryRules_eq {place : List Name} (h : Untouched d d' place) :
    directoryRules d' place = directoryRules d place := by
  obtain ⟨hignore, hgitIgnore, hroot, hstore, hexclude⟩ := h
  have hexcludeFile : Repository.excludeFile? d' place = Repository.excludeFile? d place := by
    rw [Repository.excludeFile?, Repository.excludeFile?, hstore]
  have hgitExclude : (Repository.excludeFile? d place).elim IgnoreFile.empty (ignoreFile d') =
      (Repository.excludeFile? d place).elim IgnoreFile.empty (ignoreFile d) := by
    cases hpath : Repository.excludeFile? d place with
    | none => rfl
    | some path =>
      rw [hpath, Option.bind_some, Option.bind_some] at hexclude
      simp only [Option.elim_some, ignoreFile, hexclude]
  simp only [directoryRules, ignoreFile, hignore, hgitIgnore, hroot, hstore, hexcludeFile] at hgitExclude ⊢
  rw [hgitExclude]

/-- **No rule file touched, no rule changed.** -/
theorem sameRules_of_untouched (hd : d.WellFormed) (h : ∀ place ∈ [] :: d.nodes.map Prod.fst, Untouched d d' place) :
    SameRules d d' := by
  intro place hdir _
  refine (h place ?_).directoryRules_eq
  by_cases hplace : place = []
  · simp [hplace]
  · exact List.mem_cons_of_mem _ (List.mem_map.2 ⟨_, hd.mem_nodes_iff.2 ⟨hplace, Disk.isDirectory_iff.1 hdir⟩, rfl⟩)

/-- A walk reaches a file on both disks or on none. -/
theorem reaches_eq (hd : d.WellFormed) (hd' : d'.WellFormed) (hrules : SameRules d d') (excludes : List IgnoreRule)
    {start names : List Name} {content content' : List UInt8} (hfile : d.node? (start ++ names) = some (.file content))
    (hfile' : d'.node? (start ++ names) = some (.file content')) :
    reaches d' excludes start names = reaches d excludes start names := by
  have hskipped : ∀ part ∈ (initialParts names).drop 1,
      isSkipped d' excludes start part = isSkipped d excludes start part := by
    intro part hpart
    have hpart : part <+: names := mem_initialParts_iff.1 (List.mem_of_mem_drop hpart)
    have hplace : start ++ part <+: start ++ names := (List.prefix_append_right_inj start).2 hpart
    refine isSkipped_congr excludes ?_ fun dir hdir => ?_
    · by_cases heq : start ++ part = start ++ names
      · rw [heq, Disk.isDirectory_eq_false hfile (by simp), Disk.isDirectory_eq_false hfile' (by simp)]
      · rw [hd.isDirectory_above hfile hplace heq, hd'.isDirectory_above hfile' hplace heq]
    · -- a directory above a part of the way is above the file
      have hne : start ++ names ≠ [] := by
        intro hnil
        rw [hnil] at hfile
        cases hfile
      have habove : dir <+: start ++ names := hdir.trans ((List.dropLast_prefix _).trans hplace)
      have hbelow : dir ≠ start ++ names := by
        rintro rfl
        have hlength := hdir.length_le
        have hlength' := hplace.length_le
        have hpos := List.length_pos_of_ne_nil hne
        rw [List.length_dropLast] at hlength
        omega
      exact hrules dir (hd.isDirectory_above hfile habove hbelow) (hd'.isDirectory_above hfile' habove hbelow)
  unfold reaches
  rw [Bool.eq_iff_iff, List.all_eq_true, List.all_eq_true]
  exact forall₂_congr fun part hpart => by rw [hskipped part hpart]

/-! ## Files -/

theorem relative?_eq_some_iff {start place names : List Name} :
    relative? start place = some names ↔ place = start ++ names ∧ names ≠ [] := by
  unfold relative?
  split_ifs with h
  · rw [Bool.and_eq_true, List.isPrefixOf_iff_prefix, decide_eq_true_eq] at h
    obtain ⟨⟨rest, rfl⟩, hlength⟩ := h
    have hrest : rest ≠ [] := by
      rintro rfl
      simp at hlength
    rw [List.drop_left, Option.some.injEq, List.append_right_inj]
    constructor
    · rintro rfl
      exact ⟨rfl, hrest⟩
    · exact And.left
  · simp only [false_iff]
    rintro ⟨rfl, hne⟩
    refine h ?_
    rw [Bool.and_eq_true, List.isPrefixOf_iff_prefix, decide_eq_true_eq, List.length_append]
    exact ⟨List.prefix_append _ _, by have := List.length_pos_of_ne_nil hne; omega⟩

theorem mem_files_iff (hd : d.WellFormed) {excludes : List IgnoreRule} {start names : List Name} :
    names ∈ files d excludes start ↔ names ≠ [] ∧ (∃ content, d.node? (start ++ names) = some (.file content)) ∧
      reaches d excludes start names = true := by
  rw [files, List.mem_filterMap]
  constructor
  · rintro ⟨e, he, hnames⟩
    obtain ⟨hmem, hfile⟩ := List.mem_filter.1 he
    obtain ⟨hrelative, hreaches⟩ := Option.filter_eq_some_iff.1 hnames
    obtain ⟨hplace, hne⟩ := relative?_eq_some_iff.1 hrelative
    obtain ⟨place, node⟩ := e
    subst hplace
    cases node with
    | file content => exact ⟨hne, ⟨content, (hd.mem_nodes_iff.1 hmem).2⟩, hreaches⟩
    | directory | link => cases hfile
  · rintro ⟨hne, ⟨content, hnode⟩, hreaches⟩
    refine ⟨(start ++ names, .file content), List.mem_filter.2 ⟨hd.mem_nodes_iff.2 ⟨by simp [hne], hnode⟩, rfl⟩, ?_⟩
    exact Option.filter_eq_some_iff.2 ⟨relative?_eq_some_iff.2 ⟨rfl, hne⟩, hreaches⟩

end Walk

namespace Disk

variable {d d' : Disk}

/-- the walk from a root sees a path, which leads to a file with these bytes -/
def Sees (d : Disk) (excludes : List IgnoreRule) (root path : FilePath) (content : List UInt8) : Prop :=
  path ∈ (d.walk excludes root).found ∧ d.readBytes? path = some content

theorem locate?_eq_some_iff {path : FilePath} {place : List Name} :
    d.locate? path = some place ↔ Leads d true maxLinks [] path.pieces place ∧ (d.node? place).isSome = true := by
  rw [locate?, Option.filter_eq_some_iff, target?_eq_some_iff]

theorem readBytes?_of_leads {path : FilePath} {place : List Name} {content : List UInt8}
    (hleads : Leads d true maxLinks [] path.pieces place) (hnode : d.node? place = some (.file content)) :
    d.readBytes? path = some content := by
  have hlocate : d.locate? path = some place := locate?_eq_some_iff.2 ⟨hleads, by rw [hnode]; rfl⟩
  rw [readBytes?, hlocate, Option.bind_some, hnode]

/-- where a root leads: nowhere, to a file, or to a directory -/
theorem root_cases (hd : d.WellFormed) (root : FilePath) :
    (∀ start, Leads d true maxLinks [] root.pieces start → d.node? start = none) ∨
      (∃ start content, Leads d true maxLinks [] root.pieces start ∧ d.node? start = some (.file content)) ∨
      ∃ start, Leads d true maxLinks [] root.pieces start ∧ d.isDirectory start = true := by
  cases htarget : d.target? root with
  | none =>
    refine Or.inl fun start hstart => ?_
    rw [target?_eq_some_iff.2 hstart] at htarget
    cases htarget
  | some start =>
    rw [target?_eq_some_iff] at htarget
    cases hnode : d.node? start with
    | none =>
      refine Or.inl fun other hother => ?_
      rw [hother.unique htarget]
      exact hnode
    | some node =>
      cases node with
      | file content => exact Or.inr (Or.inl ⟨start, content, htarget, hnode⟩)
      | directory => exact Or.inr (Or.inr ⟨start, htarget, isDirectory_iff.2 hnode⟩)
      | link => cases htarget.isLink_eq_false hd (by rintro _ ⟨⟩; rfl) hnode

theorem found_of_lost {root : FilePath} (h : ∀ start, Leads d true maxLinks [] root.pieces start → d.node? start = none)
    (excludes : List IgnoreRule) : (d.walk excludes root).found = [] := by
  have hlocate : d.locate? root = none := by
    rw [Option.eq_none_iff_forall_ne_some]
    intro start hstart
    obtain ⟨hleads, hnode⟩ := locate?_eq_some_iff.1 hstart
    rw [h start hleads] at hnode
    cases hnode
  rw [walk, hlocate]

theorem found_of_file {root : FilePath} {start : List Name} {content : List UInt8}
    (hstart : Leads d true maxLinks [] root.pieces start) (hnode : d.node? start = some (.file content))
    (excludes : List IgnoreRule) : (d.walk excludes root).found = [root] := by
  have hlocate : d.locate? root = some start := locate?_eq_some_iff.2 ⟨hstart, by rw [hnode]; rfl⟩
  rw [walk, hlocate]
  simp [isDirectory_eq_false hnode (by simp)]

theorem mem_found_iff (hd : d.WellFormed) {root : FilePath} {start : List Name}
    (hstart : Leads d true maxLinks [] root.pieces start) (hdir : d.isDirectory start = true) {excludes : List IgnoreRule}
    {path : FilePath} :
    path ∈ (d.walk excludes root).found ↔ ∃ names, path = root.join names ∧ names ≠ [] ∧
      (∃ content, d.node? (start ++ names) = some (.file content)) ∧ Walk.reaches d excludes start names = true := by
  have hlocate : d.locate? root = some start := locate?_eq_some_iff.2 ⟨hstart, by rw [isDirectory_iff.1 hdir]; rfl⟩
  rw [walk, hlocate]
  simp only [hdir, if_true, List.mem_map, Walk.mem_files_iff hd]
  exact exists_congr fun names => ⟨fun h => ⟨h.2.symm, h.1⟩, fun h => ⟨h.2, h.1.symm⟩⟩

/-- A path below a directory leads to what stands there. -/
theorem leads_join (hd : d.WellFormed) (follow : Bool) {root : FilePath} {start names : List Name} {content : List UInt8}
    (hstart : Leads d true maxLinks [] root.pieces start) (hne : names ≠ [])
    (hnode : d.node? (start ++ names) = some (.file content)) :
    Leads d follow maxLinks [] (root.join names).pieces (start ++ names) :=
  hstart.append (fun links => leads_names hd follow links hnode rfl) hne

/-- What the walk sees below a directory: the files it reaches. -/
theorem sees_iff (hd : d.WellFormed) {root : FilePath} {start : List Name}
    (hstart : Leads d true maxLinks [] root.pieces start) (hdir : d.isDirectory start = true) {excludes : List IgnoreRule}
    {path : FilePath} {content : List UInt8} :
    d.Sees excludes root path content ↔ ∃ names, path = root.join names ∧ names ≠ [] ∧
      d.node? (start ++ names) = some (.file content) ∧ Walk.reaches d excludes start names = true := by
  rw [Sees, mem_found_iff hd hstart hdir]
  constructor
  · rintro ⟨⟨names, rfl, hne, ⟨other, hnode⟩, hreaches⟩, hread⟩
    rw [readBytes?_of_leads (leads_join hd true hstart hne hnode) hnode, Option.some.injEq] at hread
    exact ⟨names, rfl, hne, hread ▸ hnode, hreaches⟩
  · rintro ⟨names, rfl, hne, hnode, hreaches⟩
    exact ⟨⟨names, rfl, hne, ⟨content, hnode⟩, hreaches⟩, readBytes?_of_leads (leads_join hd true hstart hne hnode) hnode⟩

/-- Two disks with the same files, one place apart, show a walk the same files, one path apart. -/
theorem sees_iff_of_ne (hd : d.WellFormed) (hd' : d'.WellFormed) (hrules : Walk.SameRules d d') {root : FilePath}
    {start names : List Name} (hstart : Leads d true maxLinks [] root.pieces start) (hdir : d.isDirectory start = true)
    (hstart' : Leads d' true maxLinks [] root.pieces start) (hdir' : d'.isDirectory start = true)
    (hfiles : ∀ x content, x ≠ start ++ names → (d'.node? x = some (.file content) ↔ d.node? x = some (.file content)))
    {excludes : List IgnoreRule} {path : FilePath} {content : List UInt8} (hpath : path ≠ root.join names) :
    d'.Sees excludes root path content ↔ d.Sees excludes root path content := by
  rw [sees_iff hd' hstart' hdir', sees_iff hd hstart hdir]
  refine exists_congr fun other => and_congr_right fun hother => and_congr_right fun _ => ?_
  have hne : start ++ other ≠ start ++ names := by
    intro heq
    rw [List.append_cancel_left heq] at hother
    exact hpath hother
  rw [hfiles _ content hne]
  refine and_congr_right fun hnode => ?_
  rw [Walk.reaches_eq hd hd' hrules excludes hnode ((hfiles _ content hne).2 hnode)]

theorem sees_iff_of_file {root : FilePath} {start : List Name} {content : List UInt8}
    (hstart : Leads d true maxLinks [] root.pieces start) (hnode : d.node? start = some (.file content))
    {excludes : List IgnoreRule} {path : FilePath} {bytes : List UInt8} :
    d.Sees excludes root path bytes ↔ path = root ∧ bytes = content := by
  rw [Sees, found_of_file hstart hnode, List.mem_singleton]
  refine and_congr_right ?_
  rintro rfl
  rw [readBytes?_of_leads hstart hnode, Option.some.injEq, eq_comm]

theorem not_sees_of_lost {root : FilePath}
    (h : ∀ start, Leads d true maxLinks [] root.pieces start → d.node? start = none) {excludes : List IgnoreRule}
    {path : FilePath} {content : List UInt8} : ¬ d.Sees excludes root path content := by
  rintro ⟨hfound, _⟩
  rw [found_of_lost h] at hfound
  cases hfound

/-! ## Changes -/

section Write

variable {excludes : List IgnoreRule} {root path other : FilePath} {content bytes : List UInt8} {start : List Name}

/-- A written file that is the root itself. -/
theorem sees_write_root_iff (hd : d.WellFormed) {old : List UInt8}
    (hstart : Leads (d.write root (.file content)) true maxLinks [] root.pieces start)
    (hnode : (d.write root (.file content)).node? start = some (.file old)) :
    (d.write root (.file content)).Sees excludes root other bytes ↔
      other = root ∧ bytes = content ∨ other ≠ root ∧ d.Sees excludes root other bytes := by
  have hwritten := written_write hd hstart (isDirectory_eq_false hnode (by simp))
  rw [sees_iff_of_file hstart hwritten.written]
  refine ⟨Or.inl, fun h => h.resolve_right ?_⟩
  rintro ⟨hne, hsees⟩
  rcases root_cases hd root with hlost | ⟨before, old, hbefore, hold⟩ | ⟨before, hbefore, hdir⟩
  · exact not_sees_of_lost hlost hsees
  · exact hne ((sees_iff_of_file hbefore hold).1 hsees).1
  · -- a file is not written where a directory stands
    rw [hstart.unique (hwritten.leads hbefore)] at hwritten
    cases hwritten.replaced _ (isDirectory_iff.1 hdir)

/-- A written file below the root, seen from any other path. -/
theorem sees_write_below_iff (hd : d.WellFormed) {names : List Name} (hne : names ≠ []) (hup : Name.up ∉ root.pieces)
    (hrules : Walk.SameRules d (d.write (root.join names) (.file content)))
    (hstart : Leads (d.write (root.join names) (.file content)) true maxLinks [] root.pieces start)
    (hdir : (d.write (root.join names) (.file content)).isDirectory start = true)
    (hleads : Leads (d.write (root.join names) (.file content)) true maxLinks [] (root.join names).pieces (start ++ names))
    (hwritten : Written d (d.write (root.join names) (.file content)) (start ++ names) content)
    (hother : other ≠ root.join names) :
    (d.write (root.join names) (.file content)).Sees excludes root other bytes ↔ d.Sees excludes root other bytes := by
  have hd' : (d.write (root.join names) (.file content)).WellFormed := wellFormed_write hd _ _
  have hfiles : ∀ x bytes, x ≠ start ++ names →
      ((d.write (root.join names) (.file content)).node? x = some (.file bytes) ↔ d.node? x = some (.file bytes)) := by
    intro x bytes hx
    refine ⟨fun hnode => ?_, hwritten.kept x _ hx⟩
    rcases hwritten.fresh x _ hx hnode with hold | ⟨_, hnew⟩
    · exact hold
    · cases hnew
  rcases root_cases hd root with hlost | ⟨before, old, hbefore, hold⟩ | ⟨before, hbefore, hold⟩
  · -- the root is new, and so nothing old is below it
    refine ⟨fun hsees => ?_, fun hsees => absurd hsees (not_sees_of_lost hlost)⟩
    have hfresh : d.node? start = none := by
      refine node?_eq_none_of_write hd hup (fun place hplace => ?_) hne hleads ?_ hstart hdir
      · rw [isDirectory, hlost place hplace]
        rfl
      · exact isDirectory_eq_false hwritten.written (by simp)
    obtain ⟨below, rfl, hbelow, hnode, _⟩ := (sees_iff hd' hstart hdir).1 hsees
    have hplace : start ++ below ≠ start ++ names := by
      intro heq
      rw [List.append_cancel_left heq] at hother
      exact hother rfl
    have habove := hd.isDirectory_above ((hfiles _ _ hplace).1 hnode) (List.prefix_append start below) (by simpa using hbelow)
    rw [isDirectory_iff, hfresh] at habove
    cases habove
  · -- a file at the root would still be there
    obtain rfl := hstart.unique (hwritten.leads hbefore)
    have hkept := hwritten.kept start _ (by simpa using hne) hold
    rw [isDirectory_eq_false hkept (by simp)] at hdir
    cases hdir
  · obtain rfl := hstart.unique (hwritten.leads hbefore)
    exact sees_iff_of_ne hd hd' hrules hbefore hold hstart hdir hfiles hother

/-- **A file that is written and then seen changes what the walk sees at its path.** -/
theorem sees_write_iff (hd : d.WellFormed) (hup : Name.up ∉ path.components)
    (hrules : Walk.SameRules d (d.write path (.file content)))
    (hfound : path ∈ ((d.write path (.file content)).walk excludes root).found) :
    (d.write path (.file content)).Sees excludes root other bytes ↔
      other = path ∧ bytes = content ∨ other ≠ path ∧ d.Sees excludes root other bytes := by
  have hd' : (d.write path (.file content)).WellFormed := wellFormed_write hd path _
  rcases root_cases hd' root with hlost | ⟨start, old, hstart, hnode⟩ | ⟨start, hstart, hdir⟩
  · rw [found_of_lost hlost] at hfound
    cases hfound
  · rw [found_of_file hstart hnode, List.mem_singleton] at hfound
    subst hfound
    exact sees_write_root_iff hd hstart hnode
  · obtain ⟨names, rfl, hne, ⟨old, hnode⟩, _⟩ := (mem_found_iff hd' hstart hdir).1 hfound
    have hleads := leads_join hd' true hstart hne hnode
    have hwritten := written_write hd hleads (isDirectory_eq_false hnode (by simp))
    have hroot : Name.up ∉ root.pieces := fun hmem =>
      hup (List.mem_filter.2 ⟨List.mem_append_left names hmem, by decide⟩)
    by_cases hother : other = root.join names
    · subst hother
      rw [Sees, readBytes?_of_leads hleads hwritten.written, Option.some.injEq]
      simp [hfound, eq_comm]
    · rw [sees_write_below_iff hd hne hroot hrules hstart hdir hleads hwritten hother]
      simp [hother]

end Write

/-- A path that led to a file leads nowhere once it is deleted. -/
theorem lost_of_delete (hd : d.WellFormed) {path : FilePath} {place : List Name} {content : List UInt8}
    (hleads : Leads d true maxLinks [] path.pieces place) (hnode : d.node? place = some (.file content)) :
    ∀ found, Leads (d.delete path) true maxLinks [] path.pieces found → (d.delete path).node? found = none := by
  obtain ⟨last, hlast, hend⟩ := hleads.unfollowed
  obtain ⟨node, hstands, hplain⟩ : ∃ node, d.node? last = some node ∧ node ≠ .directory := by
    rcases hend with rfl | ⟨target, hlink⟩
    · exact ⟨_, hnode, by simp⟩
    · exact ⟨_, hlink, by simp⟩
  have hdelete := node?_delete hd hlast hstands hplain
  have hkept : ∀ x node, (d.delete path).node? x = some node → d.node? x = some node := by
    intro x node hx
    rw [hdelete] at hx
    split_ifs at hx
    exact hx
  intro found hfound
  rw [Option.eq_none_iff_forall_ne_some]
  intro node' hnode'
  -- up to its last link the path would lead on both disks to the same place, which is gone
  obtain ⟨last', hlast', hend'⟩ := hfound.unfollowed
  obtain ⟨node'', hstands'⟩ : ∃ node, (d.delete path).node? last' = some node := by
    rcases hend' with rfl | ⟨target, hlink⟩
    · exact ⟨_, hnode'⟩
    · exact ⟨_, hlink⟩
  have hsame : Leads d false maxLinks [] path.pieces last' := by
    refine hlast'.mono (fun x node _ => hkept x node) fun target htarget => ?_
    rw [hkept last' _ hstands'] at htarget
    rw [hstands', htarget]
  rw [hdelete, if_pos (hsame.unique hlast)] at hstands'
  cases hstands'

/-- **A file that is seen and deleted changes what the walk sees at its path.** -/
theorem sees_delete_iff (hd : d.WellFormed) {excludes : List IgnoreRule} {root path : FilePath}
    (hrules : Walk.SameRules d (d.delete path)) (hfound : path ∈ (d.walk excludes root).found) {other : FilePath}
    {bytes : List UInt8} :
    (d.delete path).Sees excludes root other bytes ↔ other ≠ path ∧ d.Sees excludes root other bytes := by
  have hd' : (d.delete path).WellFormed := wellFormed_delete hd path
  rcases root_cases hd root with hlost | ⟨start, content, hstart, hnode⟩ | ⟨start, hstart, hdir⟩
  · rw [found_of_lost hlost] at hfound
    cases hfound
  · rw [found_of_file hstart hnode, List.mem_singleton] at hfound
    subst hfound
    refine ⟨fun hsees => absurd hsees (not_sees_of_lost (lost_of_delete hd hstart hnode)), ?_⟩
    rintro ⟨hother, hsees⟩
    exact absurd ((sees_iff_of_file hstart hnode).1 hsees).1 hother
  · obtain ⟨names, rfl, hne, ⟨content, hnode⟩, _⟩ := (mem_found_iff hd hstart hdir).1 hfound
    have hdelete := node?_delete hd (leads_join hd false hstart hne hnode) hnode (by simp)
    have hkept : ∀ x node, x ≠ start ++ names → d.node? x = some node →
        (d.delete (root.join names)).node? x = some node := by
      intro x node hx hold
      rw [hdelete, if_neg hx]
      exact hold
    have hdir' : (d.delete (root.join names)).isDirectory start = true :=
      isDirectory_iff.2 (hkept start _ (by simpa using hne) (isDirectory_iff.1 hdir))
    have hstart' : Leads (d.delete (root.join names)) true maxLinks [] root.pieces start := by
      refine hstart.mono (fun x node hplain hx => hkept x node ?_ hx) fun target htarget => ?_
      · rintro rfl
        rw [hnode] at hx
        rw [← Option.some.inj hx] at hplain
        cases hplain
      · rw [isDirectory_iff.1 hdir'] at htarget
        cases htarget
    by_cases hother : other = root.join names
    · subst hother
      simp only [ne_eq, not_true_eq_false, false_and, iff_false]
      intro hsees
      obtain ⟨below, hjoin, _, hgone, _⟩ := (sees_iff hd' hstart' hdir').1 hsees
      have hsame : names = below := by simpa [FilePath.join] using hjoin
      rw [← hsame, hdelete, if_pos rfl] at hgone
      cases hgone
    · have hfiles : ∀ x bytes, x ≠ start ++ names →
          ((d.delete (root.join names)).node? x = some (.file bytes) ↔ d.node? x = some (.file bytes)) := by
        intro x bytes hx
        rw [hdelete, if_neg hx]
      rw [sees_iff_of_ne hd hd' hrules hstart hdir hstart' hdir' hfiles hother]
      simp [hother]

/-! ## Identities -/

/-- A path to something below a root has the components of the root and the names from there. -/
theorem components_join_of_node? (hd : d.WellFormed) (root : FilePath) {start names : List Name} {node : Node}
    (hnode : d.node? (start ++ names) = some node) : (root.join names).components = root.components ++ names := by
  rw [FilePath.components, FilePath.join, List.filter_append, FilePath.components, List.append_right_inj,
    List.filter_eq_self]
  intro name hname
  have hproper := hd.isProper hnode name (List.mem_append_right _ hname)
  simp only [Name.isProper, ne_eq, Bool.and_eq_true, decide_eq_true_eq] at hproper
  simp [hproper.1]

theorem names_eq_of_id_eq (hd : d.WellFormed) {root : FilePath} {start names names' : List Name} {node node' : Node}
    (hnode : d.node? (start ++ names) = some node) (hnode' : d.node? (start ++ names') = some node')
    (hid : (root.join names).id = (root.join names').id) : names = names' := by
  have hsame := FilePath.components_eq_of_id_eq hid
  rw [components_join_of_node? hd root hnode, components_join_of_node? hd root hnode', List.append_right_inj] at hsame
  exact hsame

/-- The walk sees no two paths with one identity. -/
theorem eq_of_id_eq (hd : d.WellFormed) {excludes : List IgnoreRule} {root path other : FilePath}
    (hpath : path ∈ (d.walk excludes root).found) (hother : other ∈ (d.walk excludes root).found)
    (hid : path.id = other.id) : path = other := by
  rcases root_cases hd root with hlost | ⟨start, content, hstart, hnode⟩ | ⟨start, hstart, hdir⟩
  · rw [found_of_lost hlost] at hpath
    cases hpath
  · rw [found_of_file hstart hnode, List.mem_singleton] at hpath hother
    rw [hpath, hother]
  · obtain ⟨names, rfl, _, ⟨content, hnode⟩, _⟩ := (mem_found_iff hd hstart hdir).1 hpath
    obtain ⟨names', rfl, _, ⟨content', hnode'⟩, _⟩ := (mem_found_iff hd hstart hdir).1 hother
    rw [names_eq_of_id_eq hd hnode hnode' hid]

end Disk
end StyleIndex
