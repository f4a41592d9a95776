/-
The merged list of a registry, symbol by symbol.

A symbol has a place (`place`): the rank of the most recently updated file that has it, and its index among the symbols of
that file. The merged list stands in the lexicographic order of these places. It is made by joining the symbols of all
files, most recent file first, and keeping each symbol where it is met first; joining goes by places
(`idxOf_flatten_lt_iff`), and keeping the first of each symbol moves no symbol past another (`idxOf_eraseDups_lt_iff`).

`merged_in_order_of_places` says this of every registry that operations can lead to.
-/
import Mathlib.Data.Prod.Lex
import Mathlib.Tactic
import StyleIndex.Proofs.Entries
import StyleIndex.Proofs.History

namespace StyleIndex

/-! ## First occurrences -/

section FirstOccurrence

variable {α : Type} [DecidableEq α]

theorem idxOf_eraseDups_lt {l : List α} {a b : α} (h : l.idxOf a < l.idxOf b) :
    l.eraseDups.idxOf a < l.eraseDups.idxOf b := by
  have hmem : a ∈ l := List.idxOf_lt_length_iff.1 (Nat.lt_of_lt_of_le h List.idxOf_le_length)
  -- the beginning of the list that ends with the first `a` has no `b`
  have ha : a ∈ l.take (l.idxOf a + 1) := (List.mem_take_iff_idxOf_lt hmem).2 (Nat.lt_succ_self _)
  have hb : b ∉ l.take (l.idxOf a + 1) := fun hb => by
    have := (List.mem_take_iff_idxOf_lt (List.mem_of_mem_take hb)).1 hb
    omega
  rw [← List.take_append_drop (l.idxOf a + 1) l, List.eraseDups_append]
  exact Registry.idxOf_append_lt (List.mem_eraseDups.2 ha) (mt List.mem_eraseDups.1 hb)

/-- Keeping the first of each element moves no element past another. -/
theorem idxOf_eraseDups_lt_iff (l : List α) (a b : α) :
    l.eraseDups.idxOf a < l.eraseDups.idxOf b ↔ l.idxOf a < l.idxOf b := by
  refine ⟨fun h => ?_, idxOf_eraseDups_lt⟩
  rcases Nat.lt_trichotomy (l.idxOf a) (l.idxOf b) with hlt | heq | hgt
  · exact hlt
  · have hmem : a ∈ l := by
      rw [← List.mem_eraseDups]
      exact List.idxOf_lt_length_iff.1 (Nat.lt_of_lt_of_le h List.idxOf_le_length)
    rw [(List.idxOf_inj hmem).1 heq] at h
    exact absurd h (Nat.lt_irrefl _)
  · exact absurd h (Nat.lt_asymm (idxOf_eraseDups_lt hgt))

/-- the first list that has an element, and the index of the element in that list -/
def placeIn (lists : List (List α)) (a : α) : Nat × Nat :=
  (lists.findIdx fun l => a ∈ l, (lists.find? fun l => a ∈ l).elim 0 fun l => l.idxOf a)

theorem placeIn_of_mem {l : List α} {a : α} (h : a ∈ l) (lists : List (List α)) :
    placeIn (l :: lists) a = (0, l.idxOf a) := by
  simp [placeIn, List.findIdx_cons, h]

theorem placeIn_of_notMem {l : List α} {a : α} (h : a ∉ l) (lists : List (List α)) :
    placeIn (l :: lists) a = ((placeIn lists a).1 + 1, (placeIn lists a).2) := by
  simp [placeIn, List.findIdx_cons, h]

/-- Joined lists stand in the order of the places in them. -/
theorem idxOf_flatten_lt_iff (lists : List (List α)) (a b : α) :
    lists.flatten.idxOf a < lists.flatten.idxOf b ↔ toLex (placeIn lists a) < toLex (placeIn lists b) := by
  induction lists with
  | nil => simp [placeIn]
  | cons l lists ih =>
    rw [Prod.Lex.toLex_lt_toLex] at ih ⊢
    rw [List.flatten_cons]
    by_cases ha : a ∈ l
    · have hlt := List.idxOf_lt_length_of_mem ha
      by_cases hb : b ∈ l
      · rw [List.idxOf_append_of_mem ha, List.idxOf_append_of_mem hb, placeIn_of_mem ha, placeIn_of_mem hb]
        simp
      · rw [List.idxOf_append_of_mem ha, List.idxOf_append_of_notMem hb, placeIn_of_mem ha, placeIn_of_notMem hb]
        simp only
        omega
    · by_cases hb : b ∈ l
      · have hlt := List.idxOf_lt_length_of_mem hb
        rw [List.idxOf_append_of_notMem ha, List.idxOf_append_of_mem hb, placeIn_of_notMem ha, placeIn_of_mem hb]
        simp only
        omega
      · rw [List.idxOf_append_of_notMem ha, List.idxOf_append_of_notMem hb, placeIn_of_notMem ha, placeIn_of_notMem hb]
        simp only
        omega

end FirstOccurrence

namespace Registry

/-- the files with their symbols, most recently updated first -/
def recent (r : Registry) : List (FileId × List String) :=
  r.entries.reverse

/-- where a symbol is defined most recently: the rank of the most recently updated file that has it, counted from zero,
and its index among the symbols of that file -/
def place (r : Registry) (symbol : String) : Nat × Nat :=
  placeIn (r.recent.map Prod.snd) symbol

/-- **Order of the merged list.** A symbol stands before another exactly if it has the smaller place. -/
theorem idxOf_items_lt_iff (r : Registry) (s t : String) :
    r.items.idxOf s < r.items.idxOf t ↔ toLex (r.place s) < toLex (r.place t) := by
  rw [items, idxOf_eraseDups_lt_iff, List.flatMap_def]
  exact idxOf_flatten_lt_iff _ s t

theorem nodup_files_run (kind : Kind) (ops : List Operation) : (run kind ops).files.Nodup :=
  (inOrder_run kind ops).pairwise.imp UpdatedBefore.ne

theorem mem_recent_run_iff {kind : Kind} {ops : List Operation} {file : FileId} {symbols : List String} :
    (file, symbols) ∈ (run kind ops).recent ↔ (run kind ops).symbols? file = some symbols := by
  rw [recent, List.mem_reverse, symbols?]
  exact (lookup_eq_some_iff_mem (nodup_files_run kind ops) file symbols).symm

theorem mem_items_iff (r : Registry) (symbol : String) : symbol ∈ r.items ↔ ∃ e ∈ r.recent, symbol ∈ e.2 := by
  rw [items, List.mem_eraseDups, List.mem_flatMap, recent]

/-- **The merged list is in order of places.** After any operations on a registry that started empty,
- the merged list has each symbol once, and has exactly the symbols of the files that have an entry;
- the files in `recent` are those with an entry, the one that was updated last first;
- a symbol stands before another one exactly if it is defined in a more recent file, by the most recent definition of
  each, or in the same file further in front. -/
theorem merged_in_order_of_places (kind : Kind) (ops : List Operation) :
    let r := run kind ops
    r.items.Nodup ∧
      (∀ symbol, symbol ∈ r.items ↔ ∃ file symbols, r.symbols? file = some symbols ∧ symbol ∈ symbols) ∧
      (∀ file symbols, (file, symbols) ∈ r.recent ↔ r.symbols? file = some symbols) ∧
      r.recent.Pairwise (fun newer older => UpdatedBefore ops older.1 newer.1) ∧
      ∀ s t, r.items.idxOf s < r.items.idxOf t ↔ toLex (r.place s) < toLex (r.place t) := by
  intro r
  refine ⟨nodup_items r, fun symbol => ?_, fun file symbols => mem_recent_run_iff, ?_, idxOf_items_lt_iff r⟩
  · rw [mem_items_iff, Prod.exists]
    simp only [r, mem_recent_run_iff]
  · rw [recent, List.pairwise_reverse]
    exact List.pairwise_map.1 (inOrder_run kind ops).pairwise

/-- A symbol of two files stands where the file that was updated again has it. -/
example :
    let r := run .className [.update "a.css" ".x .y", .update "b.css" ".z .y", .update "a.css" ".y .x"]
    r.items = ["y", "x", "z"] ∧ r.place "y" = (0, 0) ∧ r.place "x" = (0, 1) ∧ r.place "z" = (1, 0) := by
  decide

end Registry
end StyleIndex
