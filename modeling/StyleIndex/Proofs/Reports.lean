/-
Runs in which nothing is said but that files on disk have changed.

Such a run may change the disk and report changes, in one message or in several (`Event.isReport`). Each of its events does
to a session what a message with its changes does (`step_report`), and nothing of the session moves but the index
(`IndexOnly`, `run_reports`).

An open document sees of all this only whether its file was reported as deleted (`symbols?_run_reports`).
-/
import Mathlib.Tactic
import StyleIndex.Proofs.OpenDocuments

namespace StyleIndex

namespace Event

/-- nothing is said but that files on disk have changed -/
def isReport : Event → Bool
  | .message (.didChangeFiles _) => true
  | .message _ => false
  | .write _ _ => true
  | .delete _ => true
  | .writeUserFile _ => true
  | .relist _ _ => true

/-- the changes on disk that an event reports -/
def changes : Event → List (Url × Change)
  | .message (.didChangeFiles changes) => changes
  | _ => []

end Event

namespace World

/-- between the worlds nothing has changed in the session but the index, and messages are heard as before -/
structure IndexOnly (w w' : World) : Prop where
  session : w'.session = { w.session with index := w'.session.index }
  refusal : w'.refusal? false = w.refusal? false

theorem IndexOnly.refl (w : World) : IndexOnly w w :=
  ⟨rfl, rfl⟩

theorem IndexOnly.trans {w w' w'' : World} (h : IndexOnly w w') (h' : IndexOnly w' w'') : IndexOnly w w'' where
  session := by rw [h'.session, h.session]
  refusal := h'.refusal.trans h.refusal

theorem IndexOnly.buffers {w w' : World} (h : IndexOnly w w') : w'.session.buffers = w.session.buffers := by
  rw [h.session]

theorem IndexOnly.settings {w w' : World} (h : IndexOnly w w') : w'.session.settings = w.session.settings := by
  rw [h.session]

/-- **One report**, or a change outside that is not told of: the session hears of the changes of the event. -/
theorem step_report {w : World} (hheard : w.refusal? false = none) {e : Event} (he : e.isReport = true) :
    (w.step e).1.session = w.session.outcome w.env (.didChangeFiles e.changes) ∧
      (w.step e).1.refusal? false = w.refusal? false := by
  cases e with
  | message request =>
    cases request with
    | didChangeFiles changes =>
      rw [step_message hheard]
      exact ⟨rfl, rfl⟩
    | introduce | initialized | shutdown | didOpen | didChange | didClose | configure | completion => cases he
  | write | delete | writeUserFile | relist => exact ⟨rfl, rfl⟩

theorem indexOnly_step {w : World} (hheard : w.refusal? false = none) {e : Event} (he : e.isReport = true) :
    IndexOnly w (w.step e).1 := by
  obtain ⟨hsession, hrefusal⟩ := step_report hheard he
  refine ⟨?_, hrefusal⟩
  rw [hsession]
  rfl

/-- **Any number of reports.** -/
theorem run_reports {w : World} (hheard : w.refusal? false = none) {events : List Event}
    (hevents : ∀ e ∈ events, e.isReport = true) : IndexOnly w (w.run events) := by
  induction events using List.reverseRecOn with
  | nil => exact IndexOnly.refl w
  | append_singleton events e ih =>
    have h := ih fun e' he' => hevents e' (List.mem_append_left _ he')
    rw [run_snoc]
    exact h.trans (indexOnly_step (h.refusal.trans hheard) (hevents e (by simp)))

/-- **What an open document sees of reports**: its symbols go if its file is reported as deleted, and stay otherwise. -/
theorem symbols?_run_reports {w : World} (hform : w.session.WellFormed) (hheard : w.refusal? false = none) {file : FileId}
    (hopen : w.session.isOpen file = true) {events : List Event} (hevents : ∀ e ∈ events, e.isReport = true) (kind : Kind) :
    ((w.run events).session.index.registry kind).symbols? file =
      if ∃ c ∈ events.flatMap Event.changes, Deletes file c then none
      else (w.session.index.registry kind).symbols? file := by
  induction events using List.reverseRecOn with
  | nil => rfl
  | append_singleton events e ih =>
    have hbefore : ∀ e' ∈ events, e'.isReport = true := fun e' he' => hevents e' (List.mem_append_left _ he')
    have hsame := run_reports hheard hbefore
    have hopen' : (w.run events).session.isOpen file = true := by
      rw [Session.isOpen, hsame.buffers]
      exact hopen
    have hlast : (∃ c ∈ (events ++ [e]).flatMap Event.changes, Deletes file c) ↔
        (∃ c ∈ e.changes, Deletes file c) ∨ ∃ c ∈ events.flatMap Event.changes, Deletes file c := by
      simp only [List.flatMap_append, List.flatMap_singleton, List.mem_append, or_and_right, exists_or, or_comm]
    rw [run_snoc, (step_report (hsame.refusal.trans hheard) (hevents e (by simp))).1,
      Session.symbols?_didChangeFiles (run_wellFormed hform events).typed _ _ _ hopen', ih hbefore]
    simp only [hlast, ite_or]

end World
end StyleIndex
