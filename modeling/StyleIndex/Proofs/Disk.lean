/-
Disks that are well formed, and where paths lead on them.

On a well-formed disk each path stands once and whatever stands somewhere stands in a directory (`WellFormed`), so all
places above it are directories (`WellFormed.isDirectory_above`).

`Leads` says piece by piece where a path leads; `follow?_eq_some_iff` says that this is what following a path finds. The
laws of paths are inductions over it: a path through directories can be made longer by names (`Leads.append`), the start of
a path leads to a directory (`Leads.of_append`), and a path leads to the same place on every disk that has the same
directories and links (`Leads.mono`).
-/
import Mathlib.Tactic
import StyleIndex.Proofs.FileId
import StyleIndex.Proofs.Registry

namespace StyleIndex

/-- a name that something in a directory can have -/
def Name.isProper (name : Name) : Bool :=
  name ≠ [] && name ≠ Name.here && name ≠ Name.up

def Node.isLink : Node → Bool
  | .link _ => true
  | _ => false

namespace Disk

/-! ## What stands where -/

theorem node?_of_ne_nil (d : Disk) {place : List Name} (h : place ≠ []) : d.node? place = d.nodes.lookup place := by
  cases place with
  | nil => exact absurd rfl h
  | cons => rfl

theorem isDirectory_iff {d : Disk} {place : List Name} :
    d.isDirectory place = true ↔ d.node? place = some .directory := by
  rw [isDirectory, decide_eq_true_eq]

theorem isDirectory_eq_false {d : Disk} {place : List Name} {node : Node} (h : d.node? place = some node)
    (hnode : node ≠ .directory) : d.isDirectory place = false := by
  rw [isDirectory, h, decide_eq_false_iff_not, Option.some.injEq]
  exact hnode

/-- each path stands once, in a directory and under proper names -/
structure WellFormed (d : Disk) : Prop where
  nodup : (d.nodes.map Prod.fst).Nodup
  stands : ∀ e ∈ d.nodes, e.1 ≠ [] ∧ d.isDirectory e.1.dropLast = true ∧ e.1.all Name.isProper = true

theorem WellFormed.mem_nodes_iff {d : Disk} (h : d.WellFormed) {place : List Name} {node : Node} :
    (place, node) ∈ d.nodes ↔ place ≠ [] ∧ d.node? place = some node := by
  constructor
  · intro hmem
    have hplace : place ≠ [] := (h.stands _ hmem).1
    rw [node?_of_ne_nil d hplace]
    exact ⟨hplace, (lookup_eq_some_iff_mem h.nodup place node).2 hmem⟩
  · rintro ⟨hplace, hnode⟩
    rw [node?_of_ne_nil d hplace] at hnode
    exact (lookup_eq_some_iff_mem h.nodup place node).1 hnode

theorem WellFormed.isDirectory_parent {d : Disk} (h : d.WellFormed) {place : List Name} {name : Name} {node : Node}
    (hnode : d.node? (place ++ [name]) = some node) : d.isDirectory place = true := by
  have hstands := h.stands _ (h.mem_nodes_iff.2 ⟨by simp, hnode⟩)
  simpa using hstands.2.1

/-- All places above something are directories. -/
theorem WellFormed.isDirectory_above {d : Disk} (h : d.WellFormed) {above place : List Name} {node : Node}
    (hnode : d.node? place = some node) (habove : above <+: place) (hne : above ≠ place) : d.isDirectory above = true := by
  induction place using List.reverseRecOn generalizing node with
  | nil => exact absurd (List.prefix_nil.1 habove) hne
  | append_singleton place name ih =>
    have hparent : d.isDirectory place = true := h.isDirectory_parent hnode
    rcases List.prefix_concat_iff.1 habove with heq | hprefix
    · exact absurd (heq.trans (by simp)) hne
    · by_cases heq : above = place
      · rw [heq]
        exact hparent
      · exact ih (isDirectory_iff.1 hparent) hprefix heq

theorem WellFormed.isDirectory_dropLast {d : Disk} (h : d.WellFormed) {place : List Name} {node : Node}
    (hnode : d.node? place = some node) : d.isDirectory place.dropLast = true := by
  rcases List.eq_nil_or_concat place with rfl | ⟨parent, name, rfl⟩
  · rfl
  · rw [List.concat_eq_append] at hnode ⊢
    rw [List.dropLast_concat]
    exact h.isDirectory_parent hnode

theorem WellFormed.isProper {d : Disk} (h : d.WellFormed) {place : List Name} {node : Node}
    (hnode : d.node? place = some node) : ∀ name ∈ place, name.isProper = true := by
  intro name hname
  have hstands := h.stands _ (h.mem_nodes_iff.2 ⟨List.ne_nil_of_mem hname, hnode⟩)
  exact List.all_eq_true.1 hstands.2.2 name hname

theorem node?_put (d : Disk) {place : List Name} (hplace : place ≠ []) (node : Node) (other : List Name) :
    (d.put place node).node? other = if other = place then some node else d.node? other := by
  by_cases hother : other = []
  · subst hother
    rw [if_neg (Ne.symm hplace)]
    rfl
  · rw [node?_of_ne_nil _ hother, node?_of_ne_nil _ hother, put, List.lookup_append, lookup_filter_ne, lookup_cons_ite]
    split_ifs <;> simp

theorem wellFormed_put {d : Disk} (h : d.WellFormed) {place : List Name} {name : Name}
    (hdir : d.isDirectory place = true) (hname : name.isProper = true) (hplain : d.isDirectory (place ++ [name]) = false)
    (node : Node) : (d.put (place ++ [name]) node).WellFormed := by
  have hkeeps : ∀ other, d.isDirectory other = true → (d.put (place ++ [name]) node).isDirectory other = true := by
    intro other hother
    have hne : other ≠ place ++ [name] := by
      rintro rfl
      rw [hplain] at hother
      cases hother
    rw [isDirectory_iff, node?_put d (by simp), if_neg hne]
    exact isDirectory_iff.1 hother
  refine ⟨?_, fun e he => ?_⟩
  · rw [put, List.map_append, List.map_singleton]
    refine List.Nodup.append (h.nodup.sublist (List.filter_sublist.map _)) (List.nodup_singleton _) ?_
    intro other hother hplace
    obtain ⟨e, he, rfl⟩ := List.mem_map.1 hother
    have hne : e.1 ≠ place ++ [name] := by simpa using (List.mem_filter.1 he).2
    exact hne (List.mem_singleton.1 hplace)
  · rcases List.mem_append.1 he with he | he
    · obtain ⟨hne, hparent, hproper⟩ := h.stands e (List.mem_filter.1 he).1
      exact ⟨hne, hkeeps _ hparent, hproper⟩
    · rw [List.mem_singleton.1 he, List.dropLast_concat, List.all_append]
      have hproper : place.all Name.isProper = true := List.all_eq_true.2 (h.isProper (isDirectory_iff.1 hdir))
      exact ⟨by simp, hkeeps _ hdir, by simp [hproper, hname]⟩

/-! ## Following paths -/

/-- a path leads from a place to another, passing at most a number of links; the last of it may be missing -/
inductive Leads (d : Disk) (follow : Bool) : Nat → List Name → List Name → List Name → Prop where
  | arrive (links : Nat) (place : List Name) : Leads d follow links place [] place
  | stay {links : Nat} {place rest found : List Name} {piece : Name} (hdir : d.isDirectory place = true)
    (hstays : Stays piece) (h : Leads d follow links place rest found) : Leads d follow links place (piece :: rest) found
  | up {links : Nat} {place rest found : List Name} (hdir : d.isDirectory place = true)
    (h : Leads d follow links place.dropLast rest found) : Leads d follow links place (Name.up :: rest) found
  | enter {links : Nat} {place rest found : List Name} {piece : Name} {node : Node} (hdir : d.isDirectory place = true)
    (hname : piece.isProper = true) (hnode : d.node? (place ++ [piece]) = some node) (hplain : node.isLink = false)
    (h : Leads d follow links (place ++ [piece]) rest found) : Leads d follow links place (piece :: rest) found
  | vacant {links : Nat} {place : List Name} {piece : Name} (hdir : d.isDirectory place = true)
    (hname : piece.isProper = true) (hnode : d.node? (place ++ [piece]) = none) :
    Leads d follow links place [piece] (place ++ [piece])
  /-- a link at the end that is not followed -/
  | stop {links : Nat} {place : List Name} {piece : Name} {target : List UInt8} (hdir : d.isDirectory place = true)
    (hname : piece.isProper = true) (hnode : d.node? (place ++ [piece]) = some (.link target)) (hfollow : follow = false) :
    Leads d follow links place [piece] (place ++ [piece])
  | pass {links : Nat} {place rest found : List Name} {piece : Name} {target : List UInt8}
    (hdir : d.isDirectory place = true) (hname : piece.isProper = true)
    (hnode : d.node? (place ++ [piece]) = some (.link target)) (hpass : rest ≠ [] ∨ follow = true)
    (h : Leads d follow links (linkStart place target).1 ((linkStart place target).2 ++ rest) found) :
    Leads d follow (links + 1) place (piece :: rest) found

theorem stays_or_up_or_isProper (piece : Name) : Stays piece ∨ piece = Name.up ∨ piece.isProper = true := by
  by_cases hstays : Stays piece
  · exact Or.inl hstays
  · by_cases hup : piece = Name.up
    · exact Or.inr (Or.inl hup)
    · rw [Stays, not_or] at hstays
      exact Or.inr (Or.inr (by simp [Name.isProper, hstays, hup]))

/-- Following a path by its first piece. -/
theorem follow?_cons (d : Disk) (follow : Bool) (links : Nat) (place : List Name) (piece : Name) (rest : List Name) :
    d.follow? follow links place (piece :: rest) =
      if !d.isDirectory place then none
      else if piece = [] || piece = Name.here then d.follow? follow links place rest
      else if piece = Name.up then d.follow? follow links place.dropLast rest
      else
        match d.node? (place ++ [piece]) with
        | none => if rest.isEmpty then some (place ++ [piece]) else none
        | some (.link target) =>
          if rest.isEmpty && !follow then some (place ++ [piece])
          else
            match links with
            | 0 => none
            | links + 1 => d.follow? follow links (linkStart place target).1 ((linkStart place target).2 ++ rest)
        | some _ => d.follow? follow links (place ++ [piece]) rest := by
  conv_lhs => unfold follow? advance
  by_cases hdir : (!d.isDirectory place) = true
  · rw [if_pos hdir, if_pos hdir]
  by_cases hstays : (decide (piece = []) || decide (piece = Name.here)) = true
  · rw [if_neg hdir, if_neg hdir, if_pos hstays, if_pos hstays]
    conv_rhs => unfold follow?
  by_cases hup : piece = Name.up
  · rw [if_neg hdir, if_neg hdir, if_neg hstays, if_neg hstays, if_pos hup, if_pos hup]
    conv_rhs => unfold follow?
  rw [if_neg hdir, if_neg hdir, if_neg hstays, if_neg hstays, if_neg hup, if_neg hup]
  cases d.node? (place ++ [piece]) with
  | none => cases rest <;> rfl
  | some node =>
    cases node with
    | link target => cases rest <;> cases follow <;> rfl
    | file | directory => conv_rhs => unfold follow?

theorem follow?_of_isProper {d : Disk} {place : List Name} (hdir : d.isDirectory place = true) {piece : Name}
    (hname : piece.isProper = true) (follow : Bool) (links : Nat) (rest : List Name) :
    d.follow? follow links place (piece :: rest) =
      match d.node? (place ++ [piece]) with
      | none => if rest.isEmpty then some (place ++ [piece]) else none
      | some (.link target) =>
        if rest.isEmpty && !follow then some (place ++ [piece])
        else
          match links with
          | 0 => none
          | links + 1 => d.follow? follow links (linkStart place target).1 ((linkStart place target).2 ++ rest)
      | some _ => d.follow? follow links (place ++ [piece]) rest := by
  simp only [Name.isProper, ne_eq, Bool.and_eq_true, decide_eq_true_eq] at hname
  rw [follow?_cons, if_neg (by simp [hdir]), if_neg (by simp [hname]), if_neg hname.2]

theorem Leads.follow?_eq {d : Disk} {follow : Bool} {links : Nat} {place pieces found : List Name}
    (h : Leads d follow links place pieces found) : d.follow? follow links place pieces = some found := by
  induction h with
  | arrive => unfold follow? advance; rfl
  | stay hdir hstays _ ih =>
    rw [follow?_cons, if_neg (by simp [hdir]), if_pos (by simpa [Stays] using hstays)]
    exact ih
  | up hdir _ ih =>
    rw [follow?_cons, if_neg (by simp [hdir]), if_neg (by decide), if_pos rfl]
    exact ih
  | @enter _ _ _ _ _ node hdir hname hnode hplain _ ih =>
    rw [follow?_of_isProper hdir hname, hnode]
    cases node with
    | link => cases hplain
    | file | directory => exact ih
  | vacant hdir hname hnode =>
    rw [follow?_of_isProper hdir hname, hnode]
    rfl
  | stop hdir hname hnode hfollow =>
    rw [follow?_of_isProper hdir hname, hnode, hfollow]
    rfl
  | @pass _ _ rest _ _ _ hdir hname hnode hpass _ ih =>
    have hgoes : ¬ (rest.isEmpty && !follow) = true := by
      rcases hpass with hrest | rfl
      · simp [hrest]
      · simp
    rw [follow?_of_isProper hdir hname, hnode]
    simp only [hgoes]
    exact ih

theorem leads_of_follow?_eq {d : Disk} {follow : Bool} {links : Nat} {place pieces found : List Name}
    (h : d.follow? follow links place pieces = some found) : Leads d follow links place pieces found := by
  induction links using Nat.strong_induction_on generalizing place pieces with
  | _ links ihlinks =>
  induction pieces generalizing place with
  | nil =>
    have hfound : d.follow? follow links place [] = some place := (Leads.arrive links place).follow?_eq
    rw [Option.some.inj (h.symm.trans hfound)]
    exact .arrive links place
  | cons piece rest ih =>
    have hdir : d.isDirectory place = true := by
      by_contra hdir
      rw [follow?_cons, if_pos (by simpa using hdir)] at h
      cases h
    rcases stays_or_up_or_isProper piece with hstays | rfl | hname
    · rw [follow?_cons, if_neg (by simp [hdir]), if_pos (by simpa [Stays] using hstays)] at h
      exact .stay hdir hstays (ih h)
    · rw [follow?_cons, if_neg (by simp [hdir]), if_neg (by decide), if_pos rfl] at h
      exact .up hdir (ih h)
    · rw [follow?_of_isProper hdir hname] at h
      cases hnode : d.node? (place ++ [piece]) with
      | none =>
        rw [hnode] at h
        cases rest with
        | nil =>
          obtain rfl : place ++ [piece] = found := Option.some.inj h
          exact .vacant hdir hname hnode
        | cons => cases h
      | some node =>
        rw [hnode] at h
        cases node with
        | file | directory => exact .enter hdir hname hnode rfl (ih h)
        | link target =>
          by_cases hstop : (rest.isEmpty && !follow) = true
          · simp only [hstop, if_true, Option.some.injEq] at h
            simp only [Bool.and_eq_true, List.isEmpty_iff, Bool.not_eq_true'] at hstop
            rw [hstop.1, ← h]
            exact .stop hdir hname hnode hstop.2
          · simp only [hstop] at h
            cases links with
            | zero => cases h
            | succ links =>
              refine .pass hdir hname hnode ?_ (ihlinks links (Nat.lt_succ_self links) h)
              simpa [Decidable.or_iff_not_not_and_not] using hstop

/-- **Where a path leads is what following it finds.** -/
theorem follow?_eq_some_iff {d : Disk} {follow : Bool} {links : Nat} {place pieces found : List Name} :
    d.follow? follow links place pieces = some found ↔ Leads d follow links place pieces found :=
  ⟨leads_of_follow?_eq, Leads.follow?_eq⟩

namespace Leads

variable {d d' : Disk} {follow : Bool} {links : Nat} {place pieces found : List Name}

theorem unique (h : Leads d follow links place pieces found) {other : List Name}
    (hother : Leads d follow links place pieces other) : found = other :=
  Option.some.inj (h.follow?_eq.symm.trans hother.follow?_eq)

theorem isDirectory_of_ne_nil (h : Leads d follow links place pieces found) (hne : pieces ≠ []) :
    d.isDirectory place = true := by
  cases h with
  | arrive => exact absurd rfl hne
  | stay hdir | up hdir | enter hdir | vacant hdir | stop hdir | pass hdir => exact hdir

/-- A path can be made longer by one that passes no links. -/
theorem append {start names : List Name} (h : Leads d true links place pieces start)
    (hnames : ∀ links, Leads d follow links start names found) (hne : names ≠ []) :
    Leads d follow links place (pieces ++ names) found := by
  induction h with
  | arrive links => exact hnames links
  | stay hdir hstays _ ih => exact .stay hdir hstays (ih hnames)
  | up hdir _ ih => exact .up hdir (ih hnames)
  | enter hdir hname hnode hplain _ ih => exact .enter hdir hname hnode hplain (ih hnames)
  | vacant hdir hname hnode =>
    have hstart := isDirectory_iff.1 ((hnames 0).isDirectory_of_ne_nil hne)
    rw [hnode] at hstart
    cases hstart
  | stop _ _ _ hfollow => cases hfollow
  | pass hdir hname hnode _ _ ih =>
    rw [List.cons_append]
    refine .pass hdir hname hnode (Or.inl (by simp [hne])) ?_
    rw [← List.append_assoc]
    exact ih hnames

/-- What a path starts with leads to a directory. -/
theorem of_append {names : List Name} (h : Leads d follow links place (pieces ++ names) found) (hne : names ≠ []) :
    ∃ start, Leads d true links place pieces start ∧ d.isDirectory start = true := by
  generalize hall : pieces ++ names = all at h
  induction h generalizing pieces with
  | arrive => exact absurd (List.append_eq_nil_iff.1 hall).2 hne
  | @stay links place rest _ piece hdir hstays h ih =>
    rcases List.append_eq_cons_iff.1 hall with ⟨rfl, _⟩ | ⟨pieces', rfl, hrest⟩
    · exact ⟨place, .arrive links place, hdir⟩
    · obtain ⟨start, hstart, hdir'⟩ := ih hrest.symm
      exact ⟨start, .stay hdir hstays hstart, hdir'⟩
  | @up links place _ _ hdir _ ih =>
    rcases List.append_eq_cons_iff.1 hall with ⟨rfl, _⟩ | ⟨pieces', rfl, hrest⟩
    · exact ⟨place, .arrive links place, hdir⟩
    · obtain ⟨start, hstart, hdir'⟩ := ih hrest.symm
      exact ⟨start, .up hdir hstart, hdir'⟩
  | @enter links place _ _ _ _ hdir hname hnode hplain _ ih =>
    rcases List.append_eq_cons_iff.1 hall with ⟨rfl, _⟩ | ⟨pieces', rfl, hrest⟩
    · exact ⟨place, .arrive links place, hdir⟩
    · obtain ⟨start, hstart, hdir'⟩ := ih hrest.symm
      exact ⟨start, .enter hdir hname hnode hplain hstart, hdir'⟩
  | @vacant links place _ hdir | @stop links place _ _ hdir =>
    -- only one piece is left, and it belongs to the names
    rcases List.append_eq_cons_iff.1 hall with ⟨rfl, _⟩ | ⟨pieces', rfl, hrest⟩
    · exact ⟨place, .arrive links place, hdir⟩
    · exact absurd (List.append_eq_nil_iff.1 hrest.symm).2 hne
  | @pass links place rest _ _ target hdir hname hnode _ _ ih =>
    rcases List.append_eq_cons_iff.1 hall with ⟨rfl, _⟩ | ⟨pieces', rfl, rfl⟩
    · exact ⟨place, .arrive _ place, hdir⟩
    · obtain ⟨start, hstart, hdir'⟩ := ih (List.append_assoc _ _ _)
      exact ⟨start, .pass hdir hname hnode (Or.inr rfl) hstart, hdir'⟩

/-- A path leads to the same place on a disk that keeps directories and links and has no new link at the end. -/
theorem mono (h : Leads d follow links place pieces found)
    (hkeeps : ∀ x node, node.isFile = false → d.node? x = some node → d'.node? x = some node)
    (hend : ∀ target, d'.node? found = some (.link target) → d.node? found = some (.link target)) :
    Leads d' follow links place pieces found := by
  have hdirs : ∀ x, d.isDirectory x = true → d'.isDirectory x = true := fun x hx =>
    isDirectory_iff.2 (hkeeps x .directory rfl (isDirectory_iff.1 hx))
  have hlast : ∀ {links : Nat} {dir : List Name} {name : Name}, d.isDirectory dir = true → name.isProper = true →
      (∀ target, d'.node? (dir ++ [name]) ≠ some (.link target)) →
      Leads d' follow links dir [name] (dir ++ [name]) := by
    intro links dir name hdir hname hplain
    cases hnode : d'.node? (dir ++ [name]) with
    | none => exact .vacant (hdirs dir hdir) hname hnode
    | some node =>
      cases node with
      | link target => exact absurd hnode (hplain target)
      | file | directory => exact .enter (hdirs dir hdir) hname hnode rfl (.arrive _ _)
  induction h with
  | arrive links place => exact .arrive links place
  | stay hdir hstays _ ih => exact .stay (hdirs _ hdir) hstays (ih hend)
  | up hdir _ ih => exact .up (hdirs _ hdir) (ih hend)
  | @enter _ place _ _ piece node hdir hname hnode hplain h ih =>
    cases node with
    | link => cases hplain
    | directory => exact .enter (hdirs _ hdir) hname (hkeeps _ _ rfl hnode) rfl (ih hend)
    | file =>
      -- nothing can follow behind a file
      cases h with
      | arrive =>
        refine hlast hdir hname fun target htarget => ?_
        have hlink := hend target htarget
        rw [hnode] at hlink
        cases hlink
      | stay hfile | up hfile | enter hfile | vacant hfile | stop hfile | pass hfile =>
        rw [isDirectory_eq_false hnode (by simp)] at hfile
        cases hfile
  | vacant hdir hname hnode =>
    refine hlast hdir hname fun target htarget => ?_
    have hlink := hend target htarget
    rw [hnode] at hlink
    cases hlink
  | stop hdir hname hnode hfollow => exact .stop (hdirs _ hdir) hname (hkeeps _ _ rfl hnode) hfollow
  | pass hdir hname hnode hpass _ ih => exact .pass (hdirs _ hdir) hname (hkeeps _ _ rfl hnode) hpass (ih hend)

end Leads

theorem isDirectory_linkStart {d : Disk} {place : List Name} (h : d.isDirectory place = true) (target : List UInt8) :
    d.isDirectory (linkStart place target).1 = true := by
  cases target with
  | nil => exact h
  | cons b rest =>
    rw [linkStart]
    split_ifs
    · rfl
    · exact h

/-- Names below a place lead to what stands there. -/
theorem leads_names {d : Disk} (hd : d.WellFormed) (follow : Bool) (links : Nat) {start names : List Name} {node : Node}
    (hnode : d.node? (start ++ names) = some node) (hplain : node.isLink = false) :
    Leads d follow links start names (start ++ names) := by
  induction names generalizing start with
  | nil =>
    rw [List.append_nil]
    exact .arrive links start
  | cons name names ih =>
    have hstart : d.isDirectory start = true := hd.isDirectory_above hnode (List.prefix_append _ _) (by simp)
    have hname : name.isProper = true := hd.isProper hnode name (by simp)
    rw [List.append_cons] at hnode ⊢
    by_cases hlast : names = []
    · subst hlast
      rw [List.append_nil] at hnode
      exact .enter hstart hname hnode hplain (ih (by rwa [List.append_nil]))
    · have hdir : d.isDirectory (start ++ [name]) = true :=
        hd.isDirectory_above hnode (List.prefix_append _ _) (by simpa using hlast)
      exact .enter hstart hname (isDirectory_iff.1 hdir) rfl (ih hnode)

namespace Leads

variable {d d' : Disk} {follow : Bool} {links : Nat} {place pieces found : List Name}

/-- Where a path leads there is a directory for it. -/
theorem exists_parent (h : Leads d follow links place pieces found) (hd : d.WellFormed)
    (hplace : (d.node? place).isSome = true) (hne : found ≠ []) :
    ∃ dir name, found = dir ++ [name] ∧ d.isDirectory dir = true ∧ name.isProper = true := by
  induction h with
  | arrive links place =>
    obtain ⟨node, hnode⟩ := Option.isSome_iff_exists.1 hplace
    obtain ⟨dir, name, rfl⟩ := (List.eq_nil_or_concat place).resolve_left hne
    rw [List.concat_eq_append] at hnode ⊢
    exact ⟨dir, name, rfl, hd.isDirectory_parent hnode, hd.isProper hnode name (by simp)⟩
  | stay _ _ _ ih => exact ih hplace hne
  | up hdir _ ih =>
    have hparent := hd.isDirectory_dropLast (isDirectory_iff.1 hdir)
    exact ih (by rw [isDirectory_iff.1 hparent]; rfl) hne
  | enter _ _ hnode _ _ ih => exact ih (by rw [hnode]; rfl) hne
  | vacant hdir hname | stop hdir hname => exact ⟨_, _, rfl, hdir, hname⟩
  | @pass _ _ _ _ _ target hdir _ _ _ _ ih =>
    have hstart := isDirectory_linkStart hdir target
    exact ih (by rw [isDirectory_iff.1 hstart]; rfl) hne

/-- Through all links a path leads to no link. -/
theorem isLink_eq_false (h : Leads d true links place pieces found) (hd : d.WellFormed)
    (hplace : ∀ node, d.node? place = some node → node.isLink = false) {node : Node} (hnode : d.node? found = some node) :
    node.isLink = false := by
  induction h with
  | arrive => exact hplace node hnode
  | stay _ _ _ ih => exact ih hplace hnode
  | up hdir _ ih =>
    refine ih (fun other hother => ?_) hnode
    rw [isDirectory_iff.1 (hd.isDirectory_dropLast (isDirectory_iff.1 hdir))] at hother
    rw [← Option.some.inj hother]
    rfl
  | enter _ _ hentered hplain _ ih =>
    refine ih (fun other hother => ?_) hnode
    rw [hentered] at hother
    rw [← Option.some.inj hother]
    exact hplain
  | vacant _ _ hvacant =>
    rw [hvacant] at hnode
    cases hnode
  | stop _ _ _ hfollow => cases hfollow
  | @pass _ _ _ _ _ target hdir _ _ _ _ ih =>
    refine ih (fun other hother => ?_) hnode
    rw [isDirectory_iff.1 (isDirectory_linkStart hdir target)] at hother
    rw [← Option.some.inj hother]
    rfl

/-- Not followed at its end, a path leads to the same place or to a link. -/
theorem unfollowed (h : Leads d true links place pieces found) :
    ∃ last, Leads d false links place pieces last ∧ (last = found ∨ ∃ target, d.node? last = some (.link target)) := by
  induction h with
  | arrive links place => exact ⟨place, .arrive links place, Or.inl rfl⟩
  | stay hdir hstays _ ih =>
    obtain ⟨last, hlast, hend⟩ := ih
    exact ⟨last, .stay hdir hstays hlast, hend⟩
  | up hdir _ ih =>
    obtain ⟨last, hlast, hend⟩ := ih
    exact ⟨last, .up hdir hlast, hend⟩
  | enter hdir hname hnode hplain _ ih =>
    obtain ⟨last, hlast, hend⟩ := ih
    exact ⟨last, .enter hdir hname hnode hplain hlast, hend⟩
  | vacant hdir hname hnode => exact ⟨_, .vacant hdir hname hnode, Or.inl rfl⟩
  | stop _ _ _ hfollow => cases hfollow
  | @pass _ _ rest _ _ target hdir hname hnode _ _ ih =>
    by_cases hrest : rest = []
    · subst hrest
      exact ⟨_, .stop hdir hname hnode rfl, Or.inr ⟨target, hnode⟩⟩
    · obtain ⟨last, hlast, hend⟩ := ih
      exact ⟨last, .pass hdir hname hnode (Or.inl hrest) hlast, hend⟩

/-- A path that ends at no link leads to the same place when links are followed. -/
theorem followed (h : Leads d false links place pieces found)
    (hplain : ∀ target, d.node? found ≠ some (.link target)) : Leads d true links place pieces found := by
  induction h with
  | arrive links place => exact .arrive links place
  | stay hdir hstays _ ih => exact .stay hdir hstays (ih hplain)
  | up hdir _ ih => exact .up hdir (ih hplain)
  | enter hdir hname hnode hentered _ ih => exact .enter hdir hname hnode hentered (ih hplain)
  | vacant hdir hname hnode => exact .vacant hdir hname hnode
  | stop _ _ hnode => exact absurd hnode (hplain _)
  | pass hdir hname hnode _ _ ih => exact .pass hdir hname hnode (Or.inr rfl) (ih hplain)

end Leads

end Disk
end StyleIndex
