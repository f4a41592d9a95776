/-
Histories of a registry. Whatever was done to a registry that started empty, what it holds can be read off the list of
operations, without running them.

A file has symbols if the last operation with an effect on it was an update that succeeded, and they are the symbols of
the text of that update alone (`symbols?_run`). The files stand in the order of their last successful updates, each once
(`inOrder_run`). A failed read has no effect at all (`run_failed_load`).

`run_determined_by_history` puts this together.
-/
import Mathlib.Tactic
import StyleIndex.Proofs.Registry

namespace StyleIndex.Registry

/-! ## Operations -/

/-- what can be done to a registry -/
inductive Operation where
  | update (file : FileId) (text : String)
  /-- an update with what was read from disk; there is no content if the file is missing or no text -/
  | load (file : FileId) (content : Option String)
  | remove (file : FileId)
  | reset
deriving DecidableEq, Repr

namespace Operation

/-- the text of a successful update of the file -/
def text? : Operation → FileId → Option String
  | .update file text, other => if other = file then some text else none
  | .load file content, other => if other = file then content else none
  | .remove _, _ => none
  | .reset, _ => none

/-- a successful update of the file, its removal, or a reset -/
def isEffective (op : Operation) (file : FileId) : Bool :=
  (op.text? file).isSome || op = .remove file || op = .reset

end Operation

def apply (r : Registry) : Operation → Registry
  | .update file text => r.update file text
  | .load file content => r.load file content
  | .remove file => r.remove file
  | .reset => r.reset

/-- an empty registry after some operations -/
def run (kind : Kind) (ops : List Operation) : Registry :=
  ops.foldl apply (empty kind)

/-- the last operation with an effect on a file -/
def lastEffective? (file : FileId) (ops : List Operation) : Option Operation :=
  ops.reverse.find? fun op => op.isEffective file

/-- the operation at index `i` is the last successful update of a file -/
structure LastUpdate (ops : List Operation) (file : FileId) (i : Nat) : Prop where
  updates : ∃ op text, ops[i]? = some op ∧ op.text? file = some text
  last : ∀ j op, i < j → ops[j]? = some op → op.text? file = none

theorem run_append (kind : Kind) (ops more : List Operation) : run kind (ops ++ more) = more.foldl apply (run kind ops) :=
  List.foldl_append

theorem run_snoc (kind : Kind) (ops : List Operation) (op : Operation) : run kind (ops ++ [op]) = (run kind ops).apply op :=
  run_append kind ops [op]

@[simp] theorem kind_apply (r : Registry) (op : Operation) : (r.apply op).kind = r.kind := by
  cases op <;> simp [apply]

@[simp] theorem kind_run (kind : Kind) (ops : List Operation) : (run kind ops).kind = kind := by
  induction ops using List.reverseRecOn with
  | nil => rfl
  | append_singleton ops op ih => rw [run_snoc, kind_apply, ih]

/-! ## Symbols -/

/-- An operation with an effect on a file decides on its symbols, and any other leaves them alone. -/
theorem symbols?_apply (r : Registry) (op : Operation) (file : FileId) :
    (r.apply op).symbols? file =
      if op.isEffective file then (op.text? file).map (symbolsOf r.kind) else r.symbols? file := by
  cases op with
  | update updated text =>
    rw [apply, symbols?_update]
    by_cases hfile : file = updated
    · simp [Operation.isEffective, Operation.text?, hfile]
    · simp [Operation.isEffective, Operation.text?, hfile]
  | load loaded content =>
    rw [apply, symbols?_load]
    by_cases hfile : file = loaded
    · cases content <;> simp [Operation.isEffective, Operation.text?, hfile]
    · simp [Operation.isEffective, Operation.text?, hfile]
  | remove removed =>
    rw [apply, symbols?_remove]
    by_cases hfile : file = removed
    · simp [Operation.isEffective, Operation.text?, hfile]
    · simp [Operation.isEffective, Operation.text?, hfile, Ne.symm hfile]
  | reset => simp [apply, Operation.isEffective, Operation.text?]

/-- Registries that agree on every file's symbols still do after the same operations, whatever the order of their files. -/
theorem symbols?_foldl_apply_congr {r r' : Registry} (hkind : r'.kind = r.kind)
    (hsymbols : ∀ file, r'.symbols? file = r.symbols? file) (ops : List Operation) (file : FileId) :
    (ops.foldl apply r').symbols? file = (ops.foldl apply r).symbols? file := by
  induction ops generalizing r r' with
  | nil => exact hsymbols file
  | cons op ops ih =>
    refine ih (by rw [kind_apply, kind_apply, hkind]) fun other => ?_
    rw [symbols?_apply, symbols?_apply, hkind, hsymbols]

theorem lastEffective?_snoc (file : FileId) (ops : List Operation) (op : Operation) :
    lastEffective? file (ops ++ [op]) = if op.isEffective file then some op else lastEffective? file ops := by
  rw [lastEffective?, List.reverse_append, List.reverse_singleton, List.singleton_append, List.find?_cons]
  cases op.isEffective file <;> rfl

/-- The last operation with an effect on a file decides on its symbols. -/
theorem symbols?_run (kind : Kind) (ops : List Operation) (file : FileId) :
    (run kind ops).symbols? file =
      ((lastEffective? file ops).bind fun op => op.text? file).map (symbolsOf kind) := by
  induction ops using List.reverseRecOn with
  | nil => rfl
  | append_singleton ops op ih =>
    rw [run_snoc, symbols?_apply, kind_run, lastEffective?_snoc]
    split_ifs with heffective
    · rfl
    · exact ih

/-- Operations without an effect on a file do not count for its symbols. -/
theorem symbols?_run_filter (kind : Kind) (ops : List Operation) (file : FileId) :
    (run kind (ops.filter fun op => op.isEffective file)).symbols? file = (run kind ops).symbols? file := by
  have hlast : lastEffective? file (ops.filter fun op => op.isEffective file) = lastEffective? file ops := by
    rw [lastEffective?, ← List.filter_reverse, List.find?_filter]
    simp [lastEffective?]
  rw [symbols?_run, symbols?_run, hlast]

theorem run_failed_load (kind : Kind) (file : FileId) (before after : List Operation) :
    run kind (before ++ .load file none :: after) = run kind (before ++ after) := by
  rw [run_append, run_append]
  rfl

/-! ## Order -/

theorem LastUpdate.lt_length {ops : List Operation} {file : FileId} {i : Nat} (h : LastUpdate ops file i) :
    i < ops.length := by
  obtain ⟨op, _, hop, _⟩ := h.updates
  exact (List.getElem?_eq_some_iff.1 hop).1

theorem LastUpdate.snoc {ops : List Operation} {file : FileId} {i : Nat} (h : LastUpdate ops file i) {op : Operation}
    (hop : op.text? file = none) : LastUpdate (ops ++ [op]) file i where
  updates := by
    obtain ⟨update, text, hupdate, htext⟩ := h.updates
    exact ⟨update, text, by rw [List.getElem?_append_left h.lt_length, hupdate], htext⟩
  last j later hj hlater := by
    rcases Nat.lt_or_ge j ops.length with hlt | hge
    · rw [List.getElem?_append_left hlt] at hlater
      exact h.last j later hj hlater
    · rw [List.getElem?_append_right hge] at hlater
      rw [List.mem_singleton.1 (List.mem_of_getElem? hlater), hop]

theorem lastUpdate_snoc_self {op : Operation} {file : FileId} {text : String} (hop : op.text? file = some text)
    (ops : List Operation) : LastUpdate (ops ++ [op]) file ops.length where
  updates := ⟨op, text, by simp, hop⟩
  last j later hj hlater := by
    have hlt := (List.getElem?_eq_some_iff.1 hlater).1
    rw [List.length_append, List.length_singleton] at hlt
    omega

/-- the first file was updated for the last time before the second one was -/
def UpdatedBefore (ops : List Operation) (file other : FileId) : Prop :=
  ∃ i j, LastUpdate ops file i ∧ LastUpdate ops other j ∧ i < j

theorem UpdatedBefore.ne {ops : List Operation} {file other : FileId} (h : UpdatedBefore ops file other) :
    file ≠ other := by
  rintro rfl
  obtain ⟨i, j, hi, hj, hlt⟩ := h
  obtain ⟨op, text, hop, htext⟩ := hj.updates
  rw [hi.last j op hlt hop] at htext
  cases htext

theorem UpdatedBefore.snoc {ops : List Operation} {file other : FileId} (h : UpdatedBefore ops file other)
    {op : Operation} (hfile : op.text? file = none) (hother : op.text? other = none) :
    UpdatedBefore (ops ++ [op]) file other := by
  obtain ⟨i, j, hi, hj, hlt⟩ := h
  exact ⟨i, j, hi.snoc hfile, hj.snoc hother, hlt⟩

/-- the files of a registry are those a history has updated, in the order of their last updates -/
structure InOrder (ops : List Operation) (r : Registry) : Prop where
  updated : ∀ file ∈ r.files, ∃ i, LastUpdate ops file i
  pairwise : r.files.Pairwise (UpdatedBefore ops)

/-- An operation that updates nothing may take files away, but moves none. -/
theorem InOrder.snoc_of_sublist {ops : List Operation} {r r' : Registry} (h : InOrder ops r) {op : Operation}
    (hop : ∀ file, op.text? file = none) (hfiles : r'.files.Sublist r.files) : InOrder (ops ++ [op]) r' where
  updated file hfile := by
    obtain ⟨i, hi⟩ := h.updated file (hfiles.subset hfile)
    exact ⟨i, hi.snoc (hop file)⟩
  pairwise := (h.pairwise.sublist hfiles).imp fun hbefore => hbefore.snoc (hop _) (hop _)

/-- An updated file goes to the end. -/
theorem InOrder.snoc_update {ops : List Operation} {r : Registry} (h : InOrder ops r) {op : Operation} {file : FileId}
    {text : String} (hop : op.text? file = some text) (hothers : ∀ other, other ≠ file → op.text? other = none) :
    InOrder (ops ++ [op]) (r.update file text) where
  updated other hother := by
    rw [files_update, List.mem_append, List.mem_singleton] at hother
    rcases hother with hother | rfl
    · obtain ⟨hother, hne⟩ := List.mem_filter.1 hother
      obtain ⟨i, hi⟩ := h.updated other hother
      exact ⟨i, hi.snoc (hothers other (of_decide_eq_true hne))⟩
    · exact ⟨ops.length, lastUpdate_snoc_self hop ops⟩
  pairwise := by
    rw [files_update, List.pairwise_append]
    refine ⟨?_, List.pairwise_singleton _ _, fun other hother last hlast => ?_⟩
    · refine (h.pairwise.filter _).imp_of_mem fun hfirst hsecond hbefore => ?_
      exact hbefore.snoc (hothers _ (of_decide_eq_true (List.mem_filter.1 hfirst).2))
        (hothers _ (of_decide_eq_true (List.mem_filter.1 hsecond).2))
    · obtain rfl := List.mem_singleton.1 hlast
      obtain ⟨hother, hne⟩ := List.mem_filter.1 hother
      obtain ⟨i, hi⟩ := h.updated other hother
      exact ⟨i, ops.length, hi.snoc (hothers other (of_decide_eq_true hne)), lastUpdate_snoc_self hop ops, hi.lt_length⟩

theorem inOrder_apply {ops : List Operation} {r : Registry} (h : InOrder ops r) (op : Operation) :
    InOrder (ops ++ [op]) (r.apply op) := by
  cases op with
  | update file text =>
    have hop : (Operation.update file text).text? file = some text := by simp [Operation.text?]
    exact h.snoc_update hop (fun other hne => by simp [Operation.text?, hne])
  | load file content =>
    cases content with
    | none => exact h.snoc_of_sublist (fun other => by simp [Operation.text?]) (List.Sublist.refl _)
    | some text =>
      have hop : (Operation.load file (some text)).text? file = some text := by simp [Operation.text?]
      exact h.snoc_update hop (fun other hne => by simp [Operation.text?, hne])
  | remove file =>
    refine h.snoc_of_sublist (fun _ => rfl) ?_
    rw [apply, files_remove]
    exact List.filter_sublist
  | reset => exact h.snoc_of_sublist (fun _ => rfl) (List.nil_sublist _)

theorem inOrder_run (kind : Kind) (ops : List Operation) : InOrder ops (run kind ops) := by
  induction ops using List.reverseRecOn with
  | nil => exact ⟨by simp [run, empty, files], List.Pairwise.nil⟩
  | append_singleton ops op ih =>
    rw [run_snoc]
    exact inOrder_apply ih op

/-- **A registry is determined by its history.**
- A file has symbols exactly if the last operation with an effect on it was a successful update, and then it has the
  symbols of the text of that update alone.
- The files that have symbols stand in the order of their last successful updates, oldest first, each once.
- A failed read, at any point, leaves the whole registry as it is.
- Removing a file keeps the order of the others.
- Operations on other files do not count for the symbols of a file. -/
theorem run_determined_by_history (kind : Kind) (ops : List Operation) :
    (∀ file, (run kind ops).symbols? file =
      ((lastEffective? file ops).bind fun op => op.text? file).map fun text => (kind.extract text).eraseDups) ∧
    (∀ file, file ∈ (run kind ops).files ↔ ((run kind ops).symbols? file).isSome = true) ∧
    (run kind ops).files.Pairwise (UpdatedBefore ops) ∧ (run kind ops).files.Nodup ∧
    (∀ file before after, run kind (before ++ .load file none :: after) = run kind (before ++ after)) ∧
    (∀ file, (run kind (ops ++ [.remove file])).files = (run kind ops).files.filter fun f => f ≠ file) ∧
    ∀ file, (run kind (ops.filter fun op => op.isEffective file)).symbols? file = (run kind ops).symbols? file := by
  have hpairwise := (inOrder_run kind ops).pairwise
  refine ⟨symbols?_run kind ops, mem_files_iff _, hpairwise, hpairwise.imp UpdatedBefore.ne, run_failed_load kind,
    fun file => ?_, symbols?_run_filter kind ops⟩
  rw [run_snoc]
  exact files_remove _ file

end StyleIndex.Registry
