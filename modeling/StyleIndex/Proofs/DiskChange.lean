/-
What writing and deleting do to a disk. Both keep it well formed (`wellFormed_write`, `wellFormed_delete`).

Making the directories on the way of a path adds directories and nothing else (`Grown`). A path that led nowhere before
leads to a new directory afterwards, unless nothing was made (`ensureAll_append_cases`); so a new directory holds nothing
old. Apart from that a file that is written changes the one place it is written to (`Written`), and a file or link that is
deleted the one place it stood at (`node?_delete`). Names without slashes stay that way (`named_write`).
-/
import Mathlib.Tactic
import StyleIndex.Proofs.Disk
import StyleIndex.Proofs.FileUrl

namespace StyleIndex

theorem initialParts_concat {α : Type} (pieces : List α) (piece : α) :
    initialParts (pieces ++ [piece]) = initialParts pieces ++ [pieces ++ [piece]] := by
  induction pieces with
  | nil => rfl
  | cons first pieces ih => simp [initialParts, ih]

theorem mem_initialParts_iff {α : Type} {part whole : List α} : part ∈ initialParts whole ↔ part <+: whole := by
  induction whole using List.reverseRecOn with
  | nil => simp [initialParts]
  | append_singleton whole last ih =>
    rw [initialParts_concat, List.mem_append, ih, List.mem_singleton, List.prefix_concat_iff, or_comm]

namespace Disk

variable {d d' d'' : Disk}

/-! ## Directories on the way -/

/-- the second disk has what the first one has, and maybe more directories -/
structure Grown (d d' : Disk) : Prop where
  kept : ∀ x node, d.node? x = some node → d'.node? x = some node
  fresh : ∀ x node, d'.node? x = some node → d.node? x = some node ∨ d.node? x = none ∧ node = .directory

theorem Grown.refl (d : Disk) : Grown d d :=
  ⟨fun _ _ h => h, fun _ _ h => Or.inl h⟩

theorem Grown.trans (h : Grown d d') (h' : Grown d' d'') : Grown d d'' where
  kept x node hnode := h'.kept x node (h.kept x node hnode)
  fresh x node hnode := by
    rcases h'.fresh x node hnode with hold | ⟨hnone, hdir⟩
    · exact h.fresh x node hold
    · refine Or.inr ⟨?_, hdir⟩
      cases hx : d.node? x with
      | none => rfl
      | some other =>
        rw [h.kept x other hx] at hnone
        cases hnone

theorem Grown.node?_eq_none (h : Grown d d') {x : List Name} (hx : d'.node? x = none) : d.node? x = none := by
  cases hnode : d.node? x with
  | none => rfl
  | some node =>
    rw [h.kept x node hnode] at hx
    cases hx

theorem Grown.leads (h : Grown d d') {follow : Bool} {links : Nat} {place pieces found : List Name}
    (hleads : Leads d follow links place pieces found) : Leads d' follow links place pieces found := by
  refine hleads.mono (fun x node _ => h.kept x node) fun target htarget => ?_
  rcases h.fresh found _ htarget with hold | ⟨_, hdir⟩
  · exact hold
  · cases hdir

theorem ne_nil_of_node?_eq_none {place : List Name} (h : d.node? place = none) : place ≠ [] := by
  rintro rfl
  cases h

theorem grown_put_directory {place : List Name} (h : d.node? place = none) : Grown d (d.put place .directory) where
  kept x node hnode := by
    have hne : x ≠ place := by
      rintro rfl
      rw [h] at hnode
      cases hnode
    rw [node?_put d (ne_nil_of_node?_eq_none h), if_neg hne]
    exact hnode
  fresh x node hnode := by
    rw [node?_put d (ne_nil_of_node?_eq_none h)] at hnode
    split_ifs at hnode with hx
    · exact Or.inr ⟨hx ▸ h, (Option.some.inj hnode).symm⟩
    · exact Or.inl hnode

theorem place?_eq_some_iff {path : FilePath} {place : List Name} :
    d.place? path = some place ↔ Leads d false maxLinks [] path.pieces place :=
  follow?_eq_some_iff

theorem target?_eq_some_iff {path : FilePath} {place : List Name} :
    d.target? path = some place ↔ Leads d true maxLinks [] path.pieces place :=
  follow?_eq_some_iff

theorem ensureDirectory_eq {path : FilePath} {place : List Name} (h : Leads d false maxLinks [] path.pieces place) :
    d.ensureDirectory path = if (d.node? place).isSome then d else d.put place .directory := by
  rw [ensureDirectory, place?_eq_some_iff.2 h]

/-- What making a directory can do: nothing, or one that was not there. -/
theorem ensureDirectory_cases (d : Disk) (path : FilePath) :
    d.ensureDirectory path = d ∨ ∃ place, Leads d false maxLinks [] path.pieces place ∧ d.node? place = none ∧
      d.ensureDirectory path = d.put place .directory := by
  cases hplace : d.place? path with
  | none =>
    left
    rw [ensureDirectory, hplace]
  | some place =>
    rw [place?_eq_some_iff] at hplace
    rw [ensureDirectory_eq hplace]
    split_ifs with hnode
    · exact Or.inl rfl
    · exact Or.inr ⟨place, hplace, Option.not_isSome_iff_eq_none.1 hnode, rfl⟩

theorem wellFormed_put_of_leads (h : d.WellFormed) {follow : Bool} {links : Nat} {pieces place : List Name}
    (hleads : Leads d follow links [] pieces place) (hplain : d.isDirectory place = false) (node : Node) :
    (d.put place node).WellFormed := by
  have hne : place ≠ [] := by
    rintro rfl
    cases hplain
  obtain ⟨dir, name, rfl, hdir, hname⟩ := hleads.exists_parent h rfl hne
  exact wellFormed_put h hdir hname hplain node

theorem wellFormed_ensureDirectory (h : d.WellFormed) (path : FilePath) : (d.ensureDirectory path).WellFormed := by
  rcases ensureDirectory_cases d path with heq | ⟨place, hleads, hnone, heq⟩
  · rw [heq]
    exact h
  · rw [heq]
    exact wellFormed_put_of_leads h hleads (by simp [isDirectory, hnone]) .directory

theorem grown_ensureDirectory (d : Disk) (path : FilePath) : Grown d (d.ensureDirectory path) := by
  rcases ensureDirectory_cases d path with heq | ⟨place, _, hnone, heq⟩
  · rw [heq]
    exact Grown.refl d
  · rw [heq]
    exact grown_put_directory hnone

theorem wellFormed_foldl_ensureDirectory (h : d.WellFormed) (paths : List FilePath) :
    (paths.foldl ensureDirectory d).WellFormed := by
  induction paths generalizing d with
  | nil => exact h
  | cons path paths ih => exact ih (wellFormed_ensureDirectory h path)

theorem grown_foldl_ensureDirectory (d : Disk) (paths : List FilePath) : Grown d (paths.foldl ensureDirectory d) := by
  induction paths generalizing d with
  | nil => exact Grown.refl d
  | cons path paths ih => exact (grown_ensureDirectory d path).trans (ih _)

/-- makes the directories on the way of a path and its own -/
def ensureAll (d : Disk) (pieces : List Name) : Disk :=
  ((initialParts pieces).map FilePath.mk).foldl ensureDirectory d

theorem ensureAll_concat (d : Disk) (pieces : List Name) (piece : Name) :
    d.ensureAll (pieces ++ [piece]) = (d.ensureAll pieces).ensureDirectory ⟨pieces ++ [piece]⟩ := by
  simp [ensureAll, initialParts_concat]

theorem ensureParents_concat (d : Disk) (pieces : List Name) (piece : Name) :
    d.ensureParents ⟨pieces ++ [piece]⟩ = d.ensureAll pieces := by
  simp [ensureParents, ensureAll, initialParts_concat]

theorem leads_put_directory {pieces place : List Name} (hleads : Leads d false maxLinks [] pieces place)
    (hnone : d.node? place = none) :
    Leads (d.put place .directory) true maxLinks [] pieces place ∧
      (d.put place .directory).isDirectory place = true := by
  constructor
  · exact (grown_put_directory hnone).leads (hleads.followed (by simp [hnone]))
  · rw [isDirectory_iff, node?_put d (ne_nil_of_node?_eq_none hnone), if_pos rfl]

/-- Making all directories of a path changes nothing, or the path then leads to a new one. -/
theorem ensureAll_cases (hd : d.WellFormed) {pieces : List Name} (hup : Name.up ∉ pieces) :
    d.ensureAll pieces = d ∨ ∃ place, Leads (d.ensureAll pieces) true maxLinks [] pieces place ∧
      (d.ensureAll pieces).isDirectory place = true ∧ d.node? place = none := by
  induction pieces using List.reverseRecOn with
  | nil => exact Or.inl (ensureDirectory_eq (.arrive maxLinks []))
  | append_singleton pieces piece ih =>
    rw [ensureAll_concat]
    rcases ih fun hmem => hup (List.mem_append_left _ hmem) with heq | ⟨place, hleads, hdir, hfresh⟩
    · rw [heq]
      rcases ensureDirectory_cases d ⟨pieces ++ [piece]⟩ with hsame | ⟨place, hleads, hnone, hput⟩
      · exact Or.inl hsame
      · rw [hput]
        obtain ⟨hleads', hdir⟩ := leads_put_directory hleads hnone
        exact Or.inr ⟨place, hleads', hdir, hnone⟩
    · right
      have hgrown : Grown d (d.ensureAll pieces) := grown_foldl_ensureDirectory d _
      generalize d.ensureAll pieces = made at hleads hdir hgrown ⊢
      rcases stays_or_up_or_isProper piece with hstays | rfl | hname
      · have hleads' : ∀ follow, Leads made follow maxLinks [] (pieces ++ [piece]) place := fun follow =>
          hleads.append (fun links => .stay hdir hstays (.arrive links place)) (by simp)
        rw [ensureDirectory_eq (hleads' false), if_pos (by rw [isDirectory_iff.1 hdir]; rfl)]
        exact ⟨place, hleads' true, hdir, hfresh⟩
      · exact absurd (by simp) hup
      · -- what stood here before would have stood in a directory that is new
        have hfresh' : d.node? (place ++ [piece]) = none := by
          cases hnode : d.node? (place ++ [piece]) with
          | none => rfl
          | some node =>
            have hold := isDirectory_iff.1 (hd.isDirectory_parent hnode)
            rw [hfresh] at hold
            cases hold
        cases hnode : made.node? (place ++ [piece]) with
        | none =>
          have hleads' : Leads made false maxLinks [] (pieces ++ [piece]) (place ++ [piece]) :=
            hleads.append (fun _ => .vacant hdir hname hnode) (by simp)
          rw [ensureDirectory_eq hleads', if_neg (by simp [hnode])]
          obtain ⟨hleads'', hdir'⟩ := leads_put_directory hleads' hnode
          exact ⟨place ++ [piece], hleads'', hdir', hfresh'⟩
        | some node =>
          obtain rfl : node = .directory := by
            rcases hgrown.fresh _ node hnode with hold | ⟨_, hnew⟩
            · rw [hfresh'] at hold
              cases hold
            · exact hnew
          have hleads' : ∀ follow, Leads made follow maxLinks [] (pieces ++ [piece]) (place ++ [piece]) := fun follow =>
            hleads.append (fun links => .enter hdir hname hnode rfl (.arrive links _)) (by simp)
          rw [ensureDirectory_eq (hleads' false), if_pos (by rw [hnode]; rfl)]
          exact ⟨place ++ [piece], hleads' true, isDirectory_iff.2 hnode, hfresh'⟩

/-- If a path leads to no directory, then making directories at the end of it changes nothing, or the path then leads to a
new one. -/
theorem ensureAll_append_cases (hd : d.WellFormed) {pieces : List Name} (hup : Name.up ∉ pieces)
    (hlost : ∀ place, Leads d true maxLinks [] pieces place → d.isDirectory place = false) (names : List Name) :
    d.ensureAll (pieces ++ names) = d ∨
      ∃ place, Leads (d.ensureAll (pieces ++ names)) true maxLinks [] pieces place ∧ d.node? place = none := by
  induction names using List.reverseRecOn with
  | nil =>
    rw [List.append_nil]
    rcases ensureAll_cases hd hup with heq | ⟨place, hleads, _, hfresh⟩
    · exact Or.inl heq
    · exact Or.inr ⟨place, hleads, hfresh⟩
  | append_singleton names name ih =>
    rw [← List.append_assoc, ensureAll_concat]
    rcases ih with heq | ⟨place, hleads, hfresh⟩
    · rw [heq]
      rcases ensureDirectory_cases d ⟨pieces ++ names ++ [name]⟩ with hsame | ⟨place, hleads, _, _⟩
      · exact Or.inl hsame
      · rw [List.append_assoc] at hleads
        obtain ⟨start, hstart, hdir⟩ := hleads.of_append (by simp)
        rw [hlost start hstart] at hdir
        cases hdir
    · exact Or.inr ⟨place, (grown_ensureDirectory _ _).leads hleads, hfresh⟩

/-! ## Writing -/

theorem wellFormed_write (h : d.WellFormed) (path : FilePath) (node : Node) : (d.write path node).WellFormed := by
  have hparents : (d.ensureParents path).WellFormed := wellFormed_foldl_ensureDirectory h _
  unfold write
  generalize d.ensureParents path = made at hparents
  cases node with
  | directory => exact wellFormed_ensureDirectory hparents path
  | file content =>
    cases htarget : made.target? path with
    | none => simpa only [htarget, Option.elim_none] using hparents
    | some place =>
      simp only [htarget, Option.elim_some]
      split_ifs with hdir
      · exact hparents
      · exact wellFormed_put_of_leads hparents (target?_eq_some_iff.1 htarget) (by simpa using hdir) _
  | link target =>
    cases hplace : made.place? path with
    | none => simpa only [hplace, Option.elim_none] using hparents
    | some place =>
      simp only [hplace, Option.elim_some]
      split_ifs with hdir
      · exact hparents
      · exact wellFormed_put_of_leads hparents (place?_eq_some_iff.1 hplace) (by simpa using hdir) _

/-- the second disk is the first with a file written to a place, and maybe more directories -/
structure Written (d d' : Disk) (place : List Name) (content : List UInt8) : Prop where
  written : d'.node? place = some (.file content)
  replaced : ∀ node, d.node? place = some node → node.isFile = true
  kept : ∀ x node, x ≠ place → d.node? x = some node → d'.node? x = some node
  fresh : ∀ x node, x ≠ place → d'.node? x = some node → d.node? x = some node ∨ d.node? x = none ∧ node = .directory

theorem Written.of_grown {place : List Name} {content : List UInt8} (h : Written d' d'' place content)
    (hgrown : Grown d d') : Written d d'' place content where
  written := h.written
  replaced node hnode := h.replaced node (hgrown.kept place node hnode)
  kept x node hx hnode := h.kept x node hx (hgrown.kept x node hnode)
  fresh x node hx hnode := by
    rcases h.fresh x node hx hnode with hold | ⟨hnone, hdir⟩
    · exact hgrown.fresh x node hold
    · exact Or.inr ⟨hgrown.node?_eq_none hnone, hdir⟩

/-- A path leads to the same place after a file is written. -/
theorem Written.leads {place : List Name} {content : List UInt8} (h : Written d d' place content) {follow : Bool}
    {links : Nat} {start pieces found : List Name} (hleads : Leads d follow links start pieces found) :
    Leads d' follow links start pieces found := by
  refine hleads.mono (fun x node hnode hx => ?_) fun target htarget => ?_
  · refine h.kept x node ?_ hx
    rintro rfl
    rw [h.replaced node hx] at hnode
    cases hnode
  · have hne : found ≠ place := by
      rintro rfl
      rw [h.written] at htarget
      cases htarget
    rcases h.fresh found _ hne htarget with hold | ⟨_, hdir⟩
    · exact hold
    · cases hdir

theorem written_put (hgrown : Grown d d') {place : List Name} (hplain : d'.isDirectory place = false)
    (hlink : ∀ node, d'.node? place = some node → node.isLink = false) (content : List UInt8) :
    Written d (d'.put place (.file content)) place content := by
  have hne : place ≠ [] := by
    rintro rfl
    cases hplain
  refine ⟨by rw [node?_put d' hne, if_pos rfl], fun node hnode => ?_, fun x node hx hnode => ?_, fun x node hx hnode => ?_⟩
  · have hnode' := hgrown.kept place node hnode
    cases node with
    | file => rfl
    | directory =>
      rw [isDirectory_iff.2 hnode'] at hplain
      cases hplain
    | link => cases hlink _ hnode'
  · rw [node?_put d' hne, if_neg hx]
    exact hgrown.kept x node hnode
  · rw [node?_put d' hne, if_neg hx] at hnode
    exact hgrown.fresh x node hnode

/-- What writing a file can do: only make directories, if the path then leads nowhere or to a directory, or also put the
file where the path leads. -/
theorem write_file_cases (d : Disk) (path : FilePath) (content : List UInt8) :
    ((∀ place, Leads (d.ensureParents path) true maxLinks [] path.pieces place →
        (d.ensureParents path).isDirectory place = true) ∧ d.write path (.file content) = d.ensureParents path) ∨
      ∃ place, Leads (d.ensureParents path) true maxLinks [] path.pieces place ∧
        (d.ensureParents path).isDirectory place = false ∧
        d.write path (.file content) = (d.ensureParents path).put place (.file content) := by
  unfold write
  generalize d.ensureParents path = made
  cases htarget : made.target? path with
  | none =>
    refine Or.inl ⟨fun place hleads => ?_, by simp only [htarget, Option.elim_none]⟩
    rw [target?_eq_some_iff.2 hleads] at htarget
    cases htarget
  | some place =>
    have hleads := target?_eq_some_iff.1 htarget
    simp only [htarget, Option.elim_some]
    split_ifs with hdir
    · refine Or.inl ⟨fun other hother => ?_, rfl⟩
      rw [hother.unique hleads]
      exact hdir
    · exact Or.inr ⟨place, hleads, by simpa using hdir, rfl⟩

/-- If the path leads to no directory after a file is written, then the file was put where it leads. -/
theorem write_eq_put (hd : d.WellFormed) {path : FilePath} {content : List UInt8} {place : List Name}
    (hleads : Leads (d.write path (.file content)) true maxLinks [] path.pieces place)
    (hplain : (d.write path (.file content)).isDirectory place = false) :
    d.write path (.file content) = (d.ensureParents path).put place (.file content) ∧
      Written (d.ensureParents path) (d.write path (.file content)) place content := by
  have hmade : (d.ensureParents path).WellFormed := wellFormed_foldl_ensureDirectory hd _
  rcases write_file_cases d path content with ⟨hdirs, heq⟩ | ⟨target, htarget, hfile, heq⟩
  · rw [heq] at hleads hplain
    rw [hdirs place hleads] at hplain
    cases hplain
  · have hwritten : Written (d.ensureParents path) (d.write path (.file content)) target content := by
      rw [heq]
      exact written_put (Grown.refl _) hfile (fun node => htarget.isLink_eq_false hmade (by rintro _ ⟨⟩; rfl)) content
    -- the path leads to the same place before and after the file is put there
    rw [hleads.unique (hwritten.leads htarget)]
    exact ⟨heq, hwritten⟩

/-- **Writing changes one place.** If the path leads to no directory afterwards, then the file stands where it leads. -/
theorem written_write (hd : d.WellFormed) {path : FilePath} {content : List UInt8} {place : List Name}
    (hleads : Leads (d.write path (.file content)) true maxLinks [] path.pieces place)
    (hplain : (d.write path (.file content)).isDirectory place = false) :
    Written d (d.write path (.file content)) place content :=
  (write_eq_put hd hleads hplain).2.of_grown (grown_foldl_ensureDirectory d _)

/-- A path that leads to a directory only once a file is written below it leads to a new one. -/
theorem node?_eq_none_of_write (hd : d.WellFormed) {root : FilePath} (hup : Name.up ∉ root.pieces)
    (hlost : ∀ place, Leads d true maxLinks [] root.pieces place → d.isDirectory place = false) {names : List Name}
    (hne : names ≠ []) {content : List UInt8} {place start : List Name}
    (hleads : Leads (d.write (root.join names) (.file content)) true maxLinks [] (root.join names).pieces place)
    (hplain : (d.write (root.join names) (.file content)).isDirectory place = false)
    (hstart : Leads (d.write (root.join names) (.file content)) true maxLinks [] root.pieces start)
    (hdir : (d.write (root.join names) (.file content)).isDirectory start = true) : d.node? start = none := by
  obtain ⟨heq, hwritten⟩ := write_eq_put hd hleads hplain
  obtain ⟨dirs, name, rfl⟩ := (List.eq_nil_or_concat names).resolve_left hne
  have hparents : d.ensureParents (root.join (dirs.concat name)) = d.ensureAll (root.pieces ++ dirs) := by
    rw [← ensureParents_concat d _ name, FilePath.join, List.concat_eq_append, List.append_assoc]
  rw [hparents] at heq hwritten
  rcases ensureAll_append_cases hd hup hlost dirs with hsame | ⟨fresh, hfresh, hnone⟩
  · -- no directory is new, so the path led to the same one before
    rw [hsame] at heq
    have hplace : place ≠ [] := by
      rintro rfl
      cases hplain
    have hold : ∀ x node, node.isFile = false →
        (d.write (root.join (dirs.concat name)) (.file content)).node? x = some node → d.node? x = some node := by
      intro x node hnode hx
      rw [heq, node?_put d hplace] at hx
      split_ifs at hx
      · rw [← Option.some.inj hx] at hnode
        cases hnode
      · exact hx
    have hdir' : d.node? start = some .directory := hold start .directory rfl (isDirectory_iff.1 hdir)
    have hstart' : Leads d true maxLinks [] root.pieces start := by
      refine hstart.mono hold fun target htarget => ?_
      rw [hdir'] at htarget
      cases htarget
    have hplain' := hlost start hstart'
    rw [isDirectory_iff.2 hdir'] at hplain'
    cases hplain'
  · rw [hstart.unique (hwritten.leads hfresh)]
    exact hnone

/-! ## Deleting -/

theorem wellFormed_delete (h : d.WellFormed) (path : FilePath) : (d.delete path).WellFormed := by
  unfold delete
  cases d.place? path with
  | none => exact h
  | some last =>
    simp only [Option.elim_some]
    have hnodup : ((d.nodes.filter fun e => !last.isPrefixOf e.1).map Prod.fst).Nodup :=
      h.nodup.sublist (List.filter_sublist.map _)
    refine ⟨hnodup, fun e he => ?_⟩
    obtain ⟨hmem, hkept⟩ := List.mem_filter.1 he
    obtain ⟨hne, hparent, hproper⟩ := h.stands e hmem
    refine ⟨hne, ?_, hproper⟩
    rw [isDirectory_iff] at hparent ⊢
    by_cases hroot : e.1.dropLast = []
    · rw [hroot]
      rfl
    · rw [node?_of_ne_nil _ hroot, lookup_eq_some_iff_mem hnodup, List.mem_filter]
      refine ⟨h.mem_nodes_iff.2 ⟨hroot, hparent⟩, ?_⟩
      -- what is deleted with the parent is deleted with everything in it
      simp only [Bool.not_eq_true', Bool.eq_false_iff, ne_eq, List.isPrefixOf_iff_prefix] at hkept ⊢
      exact fun hgone => hkept (hgone.trans (List.dropLast_prefix e.1))

/-- **Deleting a file or a link changes one place.** -/
theorem node?_delete (h : d.WellFormed) {path : FilePath} {last : List Name} {node : Node}
    (hleads : Leads d false maxLinks [] path.pieces last) (hnode : d.node? last = some node) (hplain : node ≠ .directory)
    (x : List Name) : (d.delete path).node? x = if x = last then none else d.node? x := by
  have hfilter : (d.nodes.filter fun e => !last.isPrefixOf e.1) = d.nodes.filter fun e => e.1 ≠ last := by
    refine List.filter_congr fun e he => ?_
    rw [Bool.eq_iff_iff]
    simp only [Bool.not_eq_true', Bool.eq_false_iff, ne_eq, List.isPrefixOf_iff_prefix, decide_eq_true_eq]
    constructor
    · rintro hkept rfl
      exact hkept List.prefix_rfl
    · intro hne hinside
      have hbelow := h.mem_nodes_iff.1 (show (e.1, e.2) ∈ d.nodes from he)
      have hdir := isDirectory_iff.1 (h.isDirectory_above hbelow.2 hinside (Ne.symm hne))
      rw [hnode] at hdir
      exact hplain (Option.some.inj hdir)
  rw [delete, place?_eq_some_iff.2 hleads, Option.elim_some, hfilter]
  by_cases hx : x = []
  · have hlast : x ≠ last := by
      rintro rfl
      rw [hx] at hnode
      exact hplain (Option.some.inj hnode).symm
    rw [if_neg hlast, hx]
    rfl
  · rw [node?_of_ne_nil _ hx, node?_of_ne_nil _ hx, lookup_filter_ne]

/-! ## Names -/

/-- no name on the disk holds a slash -/
def Named (d : Disk) : Prop :=
  ∀ e ∈ d.nodes, ∀ name ∈ e.1, Name.slash ∉ name

instance (d : Disk) : Decidable d.Named :=
  inferInstanceAs (Decidable (∀ e ∈ d.nodes, ∀ name ∈ e.1, Name.slash ∉ name))

theorem slash_notMem_linkStart {base : List Name} (hbase : ∀ name ∈ base, Name.slash ∉ name) (target : List UInt8) :
    (∀ name ∈ (linkStart base target).1, Name.slash ∉ name) ∧ ∀ name ∈ (linkStart base target).2, Name.slash ∉ name := by
  cases target with
  | nil => exact ⟨hbase, by simp [linkStart]⟩
  | cons b rest =>
    rw [linkStart]
    split_ifs
    · exact ⟨by simp, fun name hname => notMem_of_mem_splitOn hname⟩
    · exact ⟨hbase, fun name hname => notMem_of_mem_splitOn hname⟩

/-- A path without slashes in its pieces leads to a place without slashes, through whatever links. -/
theorem Leads.slash_notMem {follow : Bool} {links : Nat} {place pieces found : List Name}
    (h : Leads d follow links place pieces found) (hplace : ∀ name ∈ place, Name.slash ∉ name)
    (hpieces : ∀ name ∈ pieces, Name.slash ∉ name) : ∀ name ∈ found, Name.slash ∉ name := by
  have hentered : ∀ {place : List Name} {piece : Name}, (∀ name ∈ place, Name.slash ∉ name) → Name.slash ∉ piece →
      ∀ name ∈ place ++ [piece], Name.slash ∉ name := by
    intro place piece hplace hpiece name hname
    rcases List.mem_append.1 hname with hname | hname
    · exact hplace name hname
    · rw [List.mem_singleton.1 hname]
      exact hpiece
  induction h with
  | arrive => exact hplace
  | stay _ _ _ ih => exact ih hplace fun name hname => hpieces name (by simp [hname])
  | up _ _ ih =>
    exact ih (fun name hname => hplace name (List.dropLast_subset _ hname)) fun name hname => hpieces name (by simp [hname])
  | enter _ _ _ _ _ ih =>
    exact ih (hentered hplace (hpieces _ (by simp))) fun name hname => hpieces name (by simp [hname])
  | vacant | stop => exact hentered hplace (hpieces _ (by simp))
  | @pass _ _ _ _ _ target _ _ _ _ _ ih =>
    obtain ⟨hstart, htarget⟩ := slash_notMem_linkStart hplace target
    refine ih hstart fun name hname => ?_
    rcases List.mem_append.1 hname with hname | hname
    · exact htarget name hname
    · exact hpieces name (by simp [hname])

theorem named_put (h : d.Named) {follow : Bool} {links : Nat} {pieces place : List Name}
    (hleads : Leads d follow links [] pieces place) (hpieces : ∀ name ∈ pieces, Name.slash ∉ name) (node : Node) :
    (d.put place node).Named := by
  intro e he
  rcases List.mem_append.1 he with he | he
  · exact h e (List.mem_filter.1 he).1
  · rw [List.mem_singleton.1 he]
    exact hleads.slash_notMem (by simp) hpieces

theorem named_ensureDirectory (h : d.Named) {path : FilePath} (hpath : ∀ name ∈ path.pieces, Name.slash ∉ name) :
    (d.ensureDirectory path).Named := by
  rcases ensureDirectory_cases d path with heq | ⟨place, hleads, _, heq⟩
  · rw [heq]
    exact h
  · rw [heq]
    exact named_put h hleads hpath .directory

theorem named_ensureParents (h : d.Named) {path : FilePath} (hpath : ∀ name ∈ path.pieces, Name.slash ∉ name) :
    (d.ensureParents path).Named := by
  refine List.foldlRecOn _ _ h fun made hmade above habove => ?_
  apply named_ensureDirectory hmade
  intro name hname
  obtain ⟨part, hpart, rfl⟩ := List.mem_map.1 habove
  have habove := mem_initialParts_iff.1 (List.dropLast_subset _ hpart)
  exact hpath name (habove.subset hname)

/-- Writing keeps names without slashes, if the path has none. -/
theorem named_write (h : d.Named) {path : FilePath} (hpath : ∀ name ∈ path.pieces, Name.slash ∉ name) (node : Node) :
    (d.write path node).Named := by
  have hparents : (d.ensureParents path).Named := named_ensureParents h hpath
  unfold write
  generalize d.ensureParents path = made at hparents
  cases node with
  | directory => exact named_ensureDirectory hparents hpath
  | file content =>
    cases htarget : made.target? path with
    | none => simpa only [htarget, Option.elim_none] using hparents
    | some place =>
      simp only [htarget, Option.elim_some]
      split_ifs
      · exact hparents
      · exact named_put hparents (target?_eq_some_iff.1 htarget) hpath _
  | link target =>
    cases hplace : made.place? path with
    | none => simpa only [hplace, Option.elim_none] using hparents
    | some place =>
      simp only [hplace, Option.elim_some]
      split_ifs
      · exact hparents
      · exact named_put hparents (place?_eq_some_iff.1 hplace) hpath _

theorem named_delete (h : d.Named) (path : FilePath) : (d.delete path).Named := by
  unfold delete
  cases d.place? path with
  | none => exact h
  | some place =>
    intro e he
    exact h e (List.mem_filter.1 he).1

end Disk
end StyleIndex
