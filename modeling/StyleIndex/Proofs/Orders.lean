/-
The orders of a rescan.

A rescan loads the files that it finds in one order and the open documents in another, and both are given from outside: two
rescans of the same workspace may have different ones. What a file has afterwards does not depend on them
(`symbols?_outcome_relist`), and with the same orders everything is the same (`outcome_relist_of_sameOrders`).

How recent a document is does depend on them: of two documents that count, the one that is listed later is the more recent
one (`idxOf_files_rescan_lt_of_listing`), whichever was edited last.
-/
import Mathlib.Tactic
import StyleIndex.Proofs.Rescan

namespace StyleIndex

/-! ## Listings -/

theorem listed_trans {α : Type} (name : α → String) (a b c : α) (hab : decide (name a ≤ name b) = true)
    (hbc : decide (name b ≤ name c) = true) : decide (name a ≤ name c) = true :=
  decide_eq_true (String.le_trans (of_decide_eq_true hab) (of_decide_eq_true hbc))

theorem listed_total {α : Type} (name : α → String) (a b : α) :
    (decide (name a ≤ name b) || decide (name b ≤ name a)) = true := by
  simpa using String.le_total (name a) (name b)

theorem pairwise_listed {α : Type} (name : α → String) (l : List α) :
    (l.mergeSort fun a b => decide (name a ≤ name b)).Pairwise fun a b => name a ≤ name b :=
  (List.pairwise_mergeSort (listed_trans name) (listed_total name) l).imp of_decide_eq_true

/-- two listings put all files in the same order -/
def SameOrder (listing listing' : FileId → String) : Prop :=
  ∀ a b, listing' a ≤ listing' b ↔ listing a ≤ listing b

/-- rescans in two environments take files and open documents in the same orders -/
structure Env.SameOrders (env env' : Env) : Prop where
  files : SameOrder env.listing env'.listing
  documents : SameOrder env.openListing env'.openListing

theorem Scan.inOrder_congr {listing listing' : FileId → String} (h : SameOrder listing listing') (loads : List Load) :
    inOrder listing' loads = inOrder listing loads := by
  have hle : (fun a b : Load => decide (listing' a.file ≤ listing' b.file)) =
      fun a b => decide (listing a.file ≤ listing b.file) := by
    funext a b
    exact decide_eq_decide.2 (h a.file b.file)
  rw [inOrder, inOrder, hle]

namespace Session

variable {s : Session} {env env' : Env}

theorem buffersInOrder_congr (h : SameOrder env.openListing env'.openListing) (s : Session) :
    s.buffersInOrder env' = s.buffersInOrder env := by
  have hle : (fun a b : FileId × Buffer => decide (env'.openListing a.1 ≤ env'.openListing b.1)) =
      fun a b => decide (env.openListing a.1 ≤ env.openListing b.1) := by
    funext a b
    exact decide_eq_decide.2 (h a.1 b.1)
  rw [buffersInOrder, buffersInOrder, hle]

/-! ## Other orders -/

/-- The orders of a rescan do not count for what a file has. -/
theorem symbols?_rescan_relist (h : s.WellFormed) (env : Env) (listing openListing : FileId → String) (kind : Kind)
    (file : FileId) :
    ((s.rescan { env with listing, openListing }).index.registry kind).symbols? file =
      ((s.rescan env).index.registry kind).symbols? file := by
  refine Option.ext fun symbols => ?_
  rw [symbols?_rescan_iff h, symbols?_rescan_iff h]

/-- With the same orders a rescan is the same. -/
theorem rescan_relist_of_sameOrders {listing openListing : FileId → String}
    (h : env.SameOrders { env with listing, openListing }) (s : Session) :
    s.rescan { env with listing, openListing } = s.rescan env := by
  have hscanned : s.scanned { env with listing, openListing } = s.scanned env := by
    simp only [scanned, Scan.run, Scan.inOrder_congr h.files]
  rw [rescan, rescan, buffersInOrder_congr h.documents, hscanned]

/-- No other message reads the orders. -/
theorem outcome_relist_of_not_rescans (s : Session) (env : Env) (listing openListing : FileId → String)
    {request : Request} (h : request.rescans = false) :
    s.outcome { env with listing, openListing } request = s.outcome env request := by
  cases request with
  | initialized | configure => cases h
  | introduce | shutdown | didOpen | didChange | didClose | didChangeFiles | completion => rfl

theorem settings_outcome_relist (s : Session) (env : Env) (listing openListing : FileId → String) (request : Request) :
    (s.outcome { env with listing, openListing } request).settings = (s.outcome env request).settings := by
  cases request with
  | initialized => rfl
  | configure settings => rw [outcome_configure, outcome_configure]; rfl
  | introduce | shutdown | didOpen | didChange | didClose | didChangeFiles | completion =>
    rw [outcome_relist_of_not_rescans s env listing openListing rfl]

/-- **Orders do not count for symbols.** Whatever the orders of its rescan, a message leaves every file with the same. -/
theorem symbols?_outcome_relist (h : s.WellFormed) (env : Env) (listing openListing : FileId → String)
    (request : Request) (kind : Kind) (file : FileId) :
    ((s.outcome { env with listing, openListing } request).index.registry kind).symbols? file =
      ((s.outcome env request).index.registry kind).symbols? file := by
  cases request with
  | initialized => exact symbols?_rescan_relist h env listing openListing kind file
  | configure settings =>
    have hform : ({ s with clientSettings := some settings }.reload env).WellFormed := ⟨h.typed, h.nodup⟩
    rw [outcome_configure, outcome_configure]
    exact symbols?_rescan_relist hform env listing openListing kind file
  | introduce | shutdown | didOpen | didChange | didClose | didChangeFiles | completion =>
    rw [outcome_relist_of_not_rescans s env listing openListing rfl]

/-- **The same orders lead to the same session.** -/
theorem outcome_relist_of_sameOrders {listing openListing : FileId → String} {request : Request}
    (h : request.rescans = true → env.SameOrders { env with listing, openListing }) (s : Session) :
    s.outcome { env with listing, openListing } request = s.outcome env request := by
  cases request with
  | initialized => exact rescan_relist_of_sameOrders (h rfl) s
  | configure settings =>
    rw [outcome_configure, outcome_configure]
    exact rescan_relist_of_sameOrders (h rfl) _
  | introduce | shutdown | didOpen | didChange | didClose | didChangeFiles | completion =>
    exact outcome_relist_of_not_rescans s env listing openListing rfl

/-! ## Recency of documents -/

/-- **The order of the open documents becomes their recency.** Of two documents that count, a rescan makes the one that is
listed later the more recent one. -/
theorem idxOf_files_rescan_lt_of_listing (h : s.WellFormed) (env : Env) {kind : Kind} {file other : FileId}
    {buffer buffer' : Buffer} (hfile : Reapplied s.buffers s.settings kind file buffer)
    (hother : Reapplied s.buffers s.settings kind other buffer')
    (hlisted : env.openListing other < env.openListing file) :
    ((s.rescan env).index.registry kind).files.idxOf other < ((s.rescan env).index.registry kind).files.idxOf file := by
  have hmem : (file, buffer) ∈ s.buffersInOrder env :=
    mem_buffersInOrder_iff.2 ((lookup_eq_some_iff_mem h.nodup _ _).1 hfile.1)
  obtain ⟨front, back, hsplit⟩ := List.append_of_mem hmem
  -- nothing from the document on is listed before it, so the other document is loaded before
  have hback : ∀ b ∈ (file, buffer) :: back, b.1 ≠ other := by
    have hsorted := pairwise_listed (fun b : FileId × Buffer => env.openListing b.1) s.buffers
    rw [← buffersInOrder, hsplit] at hsorted
    have hfirst := (List.pairwise_cons.1 (List.pairwise_append.1 hsorted).2.1).1
    rintro b hb rfl
    rcases List.mem_cons.1 hb with rfl | hb
    · exact String.lt_irrefl _ hlisted
    · exact String.not_lt.2 (hfirst b hb) hlisted
  obtain ⟨older, newer, hrecent, hfiles, hnewer⟩ := moreRecent_rescan_of_split h hsplit kind
  refine hrecent.idxOf_files_lt (hfiles (file, buffer) (by simp) hfile.2) ?_
  have hentry : other ∈ ((s.rescan env).index.registry kind).files := by
    rw [Registry.mem_files_iff, Registry.contains, (symbols?_rescan_iff h env kind other _).2 (.document hother)]
    rfl
  rw [Registry.files, hrecent.entries, List.map_append, List.mem_append] at hentry
  refine hentry.resolve_right fun hmem => ?_
  obtain ⟨e, he, rfl⟩ := List.mem_map.1 hmem
  obtain ⟨b, hb, heq, _⟩ := hnewer e he
  exact hback b hb heq

end Session
end StyleIndex
