/-
What the operations of a registry do to the symbols of a file and to the order of the files.

`symbols?` is the view: each operation has one equation for it (`symbols?_remove`, `symbols?_update`, `symbols?_load`,
`symbols?_reset`), and an operation on one file leaves all others alone. For the order, `MoreRecent` says that some files
were updated after all others; then what they define comes first in the merged list (`MoreRecent.idxOf_items_lt`).
-/
import Mathlib.Tactic
import StyleIndex.Registry

namespace StyleIndex

section Lookup

variable {κ β : Type} [BEq κ] [LawfulBEq κ] [DecidableEq κ]

theorem lookup_cons_ite (key other : κ) (value : β) (entries : List (κ × β)) :
    ((key, value) :: entries).lookup other = if other = key then some value else entries.lookup other := by
  by_cases hother : other = key
  · simp [hother]
  · have hbeq : (other == key) = false := by simpa using hother
    simp [List.lookup_cons, hbeq, hother]

theorem lookup_filter_ne (entries : List (κ × β)) (removed other : κ) :
    (entries.filter fun e => e.1 ≠ removed).lookup other = if other = removed then none else entries.lookup other := by
  induction entries with
  | nil => simp
  | cons e entries ih =>
    obtain ⟨key, value⟩ := e
    by_cases hkey : key = removed
    · rw [List.filter_cons_of_neg (by simpa using hkey), ih, lookup_cons_ite]
      split_ifs with hremoved hother
      · rfl
      · exact absurd (hother.trans hkey) hremoved
      · rfl
    · rw [List.filter_cons_of_pos (by simpa using hkey), lookup_cons_ite, lookup_cons_ite, ih]
      split_ifs with hother hremoved
      · exact absurd (hother.symm.trans hremoved) hkey
      · rfl
      · rfl
      · rfl

/-- Where each key stands once, a key has the value it stands with. -/
theorem lookup_eq_some_iff_mem {entries : List (κ × β)} (h : (entries.map Prod.fst).Nodup) (key : κ) (value : β) :
    entries.lookup key = some value ↔ (key, value) ∈ entries := by
  induction entries with
  | nil => simp
  | cons e entries ih =>
    obtain ⟨first, other⟩ := e
    rw [List.map_cons, List.nodup_cons] at h
    rw [lookup_cons_ite]
    by_cases hkey : key = first
    · subst hkey
      have hnot : (key, value) ∉ entries := fun hmem => h.1 (List.mem_map.2 ⟨_, hmem, rfl⟩)
      simp [hnot, eq_comm]
    · simp [hkey, ih h.2]

end Lookup

namespace Registry

/-! ## Symbols of a file -/

@[simp] theorem kind_remove (r : Registry) (file : FileId) : (r.remove file).kind = r.kind := rfl

@[simp] theorem kind_update (r : Registry) (file : FileId) (text : String) : (r.update file text).kind = r.kind := rfl

@[simp] theorem kind_reset (r : Registry) : r.reset.kind = r.kind := rfl

@[simp] theorem kind_load (r : Registry) (file : FileId) (content : Option String) :
    (r.load file content).kind = r.kind := by
  cases content <;> rfl

@[simp] theorem symbols?_reset (r : Registry) (file : FileId) : r.reset.symbols? file = none := rfl

theorem symbols?_remove (r : Registry) (file other : FileId) :
    (r.remove file).symbols? other = if other = file then none else r.symbols? other :=
  lookup_filter_ne r.entries file other

theorem symbols?_update (r : Registry) (file : FileId) (text : String) (other : FileId) :
    (r.update file text).symbols? other = if other = file then some (symbolsOf r.kind text) else r.symbols? other := by
  have h : (r.update file text).symbols? other =
      ((r.remove file).symbols? other).or (if other = file then some (symbolsOf r.kind text) else none) := by
    rw [symbols?, update, List.lookup_append, lookup_cons_ite]
    rfl
  rw [h, symbols?_remove]
  split_ifs <;> simp

theorem symbols?_load (r : Registry) (file : FileId) (content : Option String) (other : FileId) :
    (r.load file content).symbols? other =
      if other = file then (content.map (symbolsOf r.kind)).or (r.symbols? other) else r.symbols? other := by
  cases content with
  | none => simp [load]
  | some text => simp [load, symbols?_update]

/-! ## Recency -/

/-- the files of the registry, least recently updated first -/
def files (r : Registry) : List FileId :=
  r.entries.map Prod.fst

theorem files_remove (r : Registry) (file : FileId) : (r.remove file).files = r.files.filter fun f => f ≠ file := by
  rw [files, files, remove, List.filter_map]
  rfl

theorem files_update (r : Registry) (file : FileId) (text : String) :
    (r.update file text).files = (r.files.filter fun f => f ≠ file) ++ [file] := by
  rw [← files_remove, files, update, List.map_append]
  rfl

theorem mem_files_iff (r : Registry) (file : FileId) : file ∈ r.files ↔ r.contains file = true := by
  rw [contains, symbols?, List.lookup_isSome_iff, files, List.mem_map]
  constructor
  · rintro ⟨e, he, rfl⟩
    exact ⟨e, he, beq_self_eq_true _⟩
  · rintro ⟨e, he, hkey⟩
    exact ⟨e, he, (eq_of_beq hkey).symm⟩

/-- the entries `newer` were updated after the entries `older` -/
structure MoreRecent (r : Registry) (older newer : List (FileId × List String)) : Prop where
  entries : r.entries = older ++ newer
  disjoint : ∀ e ∈ older, ∀ e' ∈ newer, e.1 ≠ e'.1

theorem MoreRecent.start (r : Registry) : MoreRecent r r.entries [] :=
  ⟨(List.append_nil _).symm, by simp⟩

/-- An updated file leaves its old place and joins the more recent ones. -/
theorem MoreRecent.update {r : Registry} {older newer : List (FileId × List String)} (h : MoreRecent r older newer)
    (file : FileId) (text : String) :
    MoreRecent (r.update file text) (older.filter fun e => e.1 ≠ file)
      ((newer.filter fun e => e.1 ≠ file) ++ [(file, symbolsOf r.kind text)]) where
  entries := by
    rw [Registry.update, remove, h.entries, List.filter_append, List.append_assoc]
  disjoint e he e' he' := by
    obtain ⟨he, hne⟩ := List.mem_filter.1 he
    rcases List.mem_append.1 he' with he' | he'
    · exact h.disjoint e he e' (List.mem_filter.1 he').1
    · rw [List.mem_singleton.1 he']
      simpa using hne

theorem idxOf_append_lt {α : Type} [DecidableEq α] {front back : List α} {a b : α} (ha : a ∈ front) (hb : b ∉ front) :
    (front ++ back).idxOf a < (front ++ back).idxOf b := by
  rw [List.idxOf_append_of_mem ha, List.idxOf_append_of_notMem hb]
  have := List.idxOf_lt_length_of_mem ha
  omega

/-- More recent files come behind the others. -/
theorem MoreRecent.idxOf_files_lt {r : Registry} {older newer : List (FileId × List String)}
    (h : MoreRecent r older newer) {file other : FileId} (hfile : file ∈ newer.map Prod.fst)
    (hother : other ∈ older.map Prod.fst) : r.files.idxOf other < r.files.idxOf file := by
  rw [files, h.entries, List.map_append]
  refine idxOf_append_lt hother fun hmem => ?_
  obtain ⟨e, he, rfl⟩ := List.mem_map.1 hmem
  obtain ⟨e', he', heq⟩ := List.mem_map.1 hfile
  exact h.disjoint e he e' he' heq.symm

/-- What more recent files define stands before what only other files define. -/
theorem MoreRecent.idxOf_items_lt {r : Registry} {older newer : List (FileId × List String)}
    (h : MoreRecent r older newer) {a b : String} (ha : ∃ e ∈ newer, a ∈ e.2) (hb : ∀ e ∈ newer, b ∉ e.2) :
    r.items.idxOf a < r.items.idxOf b := by
  have hitems : r.items = (newer.reverse.flatMap Prod.snd).eraseDups ++
      ((older.reverse.flatMap Prod.snd).removeAll (newer.reverse.flatMap Prod.snd)).eraseDups := by
    rw [items, h.entries, List.reverse_append, List.flatMap_append, List.eraseDups_append]
  rw [hitems]
  apply idxOf_append_lt
  · rw [List.mem_eraseDups, List.mem_flatMap]
    obtain ⟨e, he, hae⟩ := ha
    exact ⟨e, List.mem_reverse.2 he, hae⟩
  · rw [List.mem_eraseDups, List.mem_flatMap]
    rintro ⟨e, he, hbe⟩
    exact hb e (List.mem_reverse.1 he) hbe

end Registry
end StyleIndex
