/-
Open documents are authoritative, over whole runs.

After any run, an open document that a registry takes has the symbols of its text there, or nothing at all, and nothing only
if its file was reported as deleted since the document last counted (`Forgotten`). The run may hear the messages in any
order, with any changes of the disk between them; only an introduction must not come behind an opened document, since it
changes the settings without a rescan. With a client the phases of the connection see to that (`Kept.starting`).

`documentsCount_outcome` is the law for one message and `kept_step` for one event; `open_documents_count` is the law for
runs.
-/
import Mathlib.Tactic
import StyleIndex.Proofs.Rescan

namespace StyleIndex

/-! ## Messages heard -/

/-- a message that opens a document -/
def Request.opens : Request → Bool
  | .didOpen _ _ _ => true
  | _ => false

/-- no introduction comes behind an opened document -/
def IntroducedFirst (trace : List Request) : Prop :=
  trace.Pairwise fun earlier later => earlier.opens = true → later.isIntroduction = false

/-- a message after which the document of a file counts again -/
def Renews (file : FileId) : Request → Prop
  | .didOpen url _ _ => url.text = file
  | .didChange url texts => url.text = file ∧ texts ≠ []
  | request => request.rescans = true

/-- a change on disk that deletes a file -/
def Deletes (file : FileId) (change : Url × Change) : Prop :=
  change.1.text = file ∧ change.2 = .deleted

instance (file : FileId) (change : Url × Change) : Decidable (Deletes file change) :=
  inferInstanceAs (Decidable (_ ∧ _))

/-- the file was reported as deleted, and its document did not count again since -/
def Forgotten (file : FileId) (trace : List Request) : Prop :=
  ∃ before changes after, trace = before ++ .didChangeFiles changes :: after ∧
    (∃ change ∈ changes, Deletes file change) ∧ ∀ request ∈ after, ¬ Renews file request

theorem Forgotten.snoc {file : FileId} {trace : List Request} (h : Forgotten file trace) {request : Request}
    (hrequest : ¬ Renews file request) : Forgotten file (trace ++ [request]) := by
  obtain ⟨before, changes, after, rfl, hdeleted, hafter⟩ := h
  refine ⟨before, changes, after ++ [request], by simp, hdeleted, fun r hr => ?_⟩
  rcases List.mem_append.1 hr with hr | hr
  · exact hafter r hr
  · rw [List.mem_singleton.1 hr]
    exact hrequest

theorem forgotten_of_deletes {file : FileId} (trace : List Request) {changes : List (Url × Change)}
    (h : ∃ change ∈ changes, Deletes file change) : Forgotten file (trace ++ [.didChangeFiles changes]) :=
  ⟨trace, changes, [], rfl, h, by simp⟩

namespace Session

/-! ## Buffers -/

theorem lookup_setBuffer (s : Session) (file : FileId) (buffer : Buffer) (other : FileId) :
    (s.setBuffer file buffer).buffers.lookup other = if other = file then some buffer else s.buffers.lookup other := by
  rw [setBuffer, List.lookup_append, lookup_filter_ne, lookup_cons_ite]
  split_ifs <;> simp

theorem lookup_setText (buffers : List (FileId × Buffer)) (file : FileId) (text : String) (other : FileId) :
    (buffers.map fun b => if b.1 = file then (b.1, { b.2 with text }) else b).lookup other =
      if other = file then (buffers.lookup other).map fun b => { b with text } else buffers.lookup other := by
  induction buffers with
  | nil => simp
  | cons b buffers ih =>
    obtain ⟨key, buffer⟩ := b
    by_cases hkey : key = file
    · rw [List.map_cons, if_pos hkey, lookup_cons_ite, lookup_cons_ite, ih]
      split_ifs with hother hfile
      · rfl
      · exact absurd (hother.trans hkey) hfile
      · rfl
      · rfl
    · rw [List.map_cons, if_neg hkey, lookup_cons_ite, lookup_cons_ite, ih]
      split_ifs with hother hfile
      · exact absurd (hother.symm.trans hfile) hkey
      · rfl
      · rfl
      · rfl

/-! ## Changes behind an open document -/

theorem symbols?_foldl_applyChange {ix : Index} (h : ix.Typed) (d : Disk) (settings : Settings)
    {changes : List (Url × Change)} (kind : Kind) {file : FileId}
    (hchanges : ∀ c ∈ changes, c.1.text = file → Deletes file c) :
    ((changes.foldl (fun ix c => ix.applyChange d settings c.1 c.2) ix).registry kind).symbols? file =
      if ∃ c ∈ changes, Deletes file c then none else (ix.registry kind).symbols? file := by
  -- from the end: a change of the file itself deletes it, whatever came before
  induction changes using List.reverseRecOn with
  | nil => rfl
  | append_singleton changes c ih =>
    rw [List.foldl_append, List.foldl_cons, List.foldl_nil]
    by_cases hfile : c.1.text = file
    · have hdeletes := hchanges c (by simp) hfile
      rw [if_pos ⟨c, by simp, hdeletes⟩, hdeletes.2, Index.applyChange, Index.symbols?_remove, if_pos hfile.symm]
    · have hlast : (∃ c' ∈ changes ++ [c], Deletes file c') ↔ ∃ c' ∈ changes, Deletes file c' := by
        simp [Deletes, hfile]
      rw [symbols?_applyChange_of_ne (typed_foldl_applyChange h d settings changes) _ _ _ _ _ (Ne.symm hfile),
        ih fun c' hc' => hchanges c' (List.mem_append_left _ hc')]
      simp only [hlast]

/-- Of the changes on disk, an open document sees the ones that delete its file, and no others. -/
theorem symbols?_didChangeFiles {s : Session} (h : s.index.Typed) (env : Env) (changes : List (Url × Change)) (kind : Kind)
    {file : FileId} (hopen : s.isOpen file = true) :
    ((s.outcome env (.didChangeFiles changes)).index.registry kind).symbols? file =
      if ∃ c ∈ changes, Deletes file c then none else (s.index.registry kind).symbols? file := by
  have hheeded : ∀ c ∈ changes.filter s.heeds, c.1.text = file → Deletes file c := by
    rintro c hc rfl
    have hheeds := (List.mem_filter.1 hc).2
    rw [heeds, hopen, Bool.not_true, Bool.or_false, decide_eq_true_eq] at hheeds
    exact ⟨rfl, hheeds⟩
  have hdeletes : (∃ c ∈ changes.filter s.heeds, Deletes file c) ↔ ∃ c ∈ changes, Deletes file c := by
    refine exists_congr fun c => and_congr_left fun hc => ?_
    simp [List.mem_filter, heeds, hc.2]
  simp only [outcome, handle, didChangeFiles]
  rw [symbols?_foldl_applyChange h env.disk s.settings kind hheeded]
  simp only [hdeletes]

theorem buffers_outcome_eq_nil {s : Session} (h : s.buffers = []) (env : Env) {request : Request}
    (hopens : request.opens = false) : (s.outcome env request).buffers = [] := by
  cases request with
  | introduce intro => rw [(outcome_introduce s env intro).2, h]
  | configure settings =>
    rw [outcome_configure]
    simp only [rescan, reload, h]
  | didOpen => cases hopens
  | didChange url texts =>
    cases htexts : texts.getLast? with
    | none => rw [outcome_didChange_of_none s env url htexts, h]
    | some text => rw [(outcome_didChange s env url htexts).2.1, h, List.map_nil]
  | didClose url => simp only [outcome, handle, didClose, h, List.filter_nil]
  | initialized | shutdown | didChangeFiles | completion => exact h

/-! ## One message -/

/-- the document of a file counts with its text, or the file was forgotten behind it -/
def Counts (ix : Index) (trace : List Request) (kind : Kind) (file : FileId) (buffer : Buffer) : Prop :=
  (ix.registry kind).symbols? file = some (Registry.symbolsOf kind buffer.text) ∨
    (ix.registry kind).symbols? file = none ∧ Forgotten file trace

/-- A message that is none of a file's business changes nothing about how its document counts. -/
theorem Counts.snoc {ix ix' : Index} {trace : List Request} {kind : Kind} {file : FileId} {buffer : Buffer}
    (h : Counts ix trace kind file buffer) {request : Request}
    (hsame : (ix'.registry kind).symbols? file = (ix.registry kind).symbols? file) (hrequest : ¬ Renews file request) :
    Counts ix' (trace ++ [request]) kind file buffer := by
  rw [Counts, hsame]
  exact h.imp_right fun ⟨hnone, hforgotten⟩ => ⟨hnone, hforgotten.snoc hrequest⟩

/-- every open document that is taken counts -/
def DocumentsCount (s : Session) (trace : List Request) : Prop :=
  ∀ kind file buffer, Reapplied s.buffers s.settings kind file buffer → Counts s.index trace kind file buffer

theorem documentsCount_rescans {s : Session} (hform : s.WellFormed) (env : Env) (trace : List Request) {request : Request}
    (hrescans : request.rescans = true) : DocumentsCount (s.outcome env request) trace := by
  obtain ⟨configured, hform, _, _, houtcome⟩ := outcome_eq_rescan hform env hrescans
  rw [houtcome]
  intro kind file buffer hfile
  exact Or.inl ((symbols?_rescan_iff hform env kind file _).2 (.document hfile))

/-- A text that is put in counts for its own document, and all others count as before. -/
theorem counts_sync {ix : Index} (htyped : ix.Typed) {settings : Settings} {trace : List Request} {kind : Kind}
    {file own : FileId} {buffer : Buffer} (htakes : settings.takes kind file = true) {text : String} {request : Request}
    (hown : file = own → buffer.text = text)
    (hother : file ≠ own → Counts ix trace kind file buffer ∧ ¬ Renews file request) :
    Counts (sync settings ix own text) (trace ++ [request]) kind file buffer := by
  have hsync := symbols?_sync htyped settings own text kind file
  by_cases hfile : file = own
  · subst hfile
    rw [if_pos ⟨rfl, htakes⟩] at hsync
    exact Or.inl (hown rfl ▸ hsync)
  · rw [if_neg fun hboth => hfile hboth.1] at hsync
    obtain ⟨hcounts, hrequest⟩ := hother hfile
    exact hcounts.snoc hsync hrequest

theorem documentsCount_didOpen {s : Session} (hform : s.WellFormed) {trace : List Request} (h : DocumentsCount s trace)
    (env : Env) (url : Url) (language text : String) :
    DocumentsCount (s.outcome env (.didOpen url language text)) (trace ++ [.didOpen url language text]) := by
  obtain ⟨hindex, hbuffers, hsettings⟩ := outcome_didOpen s env url language text
  rintro kind file buffer ⟨hopen, htakes⟩
  rw [hbuffers, lookup_setBuffer] at hopen
  rw [hsettings] at htakes
  rw [hindex]
  refine counts_sync hform.typed htakes (fun hfile => ?_) fun hfile => ?_
  · rw [if_pos hfile, Option.some.injEq] at hopen
    rw [← hopen]
  · rw [if_neg hfile] at hopen
    exact ⟨h kind file buffer ⟨hopen, htakes⟩, fun hrenews => hfile hrenews.symm⟩

theorem documentsCount_didChange {s : Session} (hform : s.WellFormed) {trace : List Request} (h : DocumentsCount s trace)
    (env : Env) (url : Url) (texts : List String) :
    DocumentsCount (s.outcome env (.didChange url texts)) (trace ++ [.didChange url texts]) := by
  cases htexts : texts.getLast? with
  | none =>
    rw [outcome_didChange_of_none s env url htexts]
    intro kind file buffer hfile
    exact (h kind file buffer hfile).snoc rfl fun hrenews => hrenews.2 (List.getLast?_eq_none_iff.1 htexts)
  | some text =>
    obtain ⟨hindex, hbuffers, hsettings⟩ := outcome_didChange s env url htexts
    rintro kind file buffer ⟨hopen, htakes⟩
    rw [hbuffers, lookup_setText] at hopen
    rw [hsettings] at htakes
    rw [hindex]
    refine counts_sync hform.typed htakes (fun hfile => ?_) fun hfile => ?_
    · rw [if_pos hfile] at hopen
      obtain ⟨old, _, rfl⟩ := Option.map_eq_some_iff.1 hopen
      rfl
    · rw [if_neg hfile] at hopen
      exact ⟨h kind file buffer ⟨hopen, htakes⟩, fun hrenews => hfile hrenews.1.symm⟩

theorem documentsCount_didClose {s : Session} (hform : s.WellFormed) {trace : List Request} (h : DocumentsCount s trace)
    (env : Env) (url : Url) : DocumentsCount (s.outcome env (.didClose url)) (trace ++ [.didClose url]) := by
  simp only [outcome, handle, didClose]
  rintro kind file buffer ⟨hopen, htakes⟩
  rw [lookup_filter_ne] at hopen
  split_ifs at hopen with hfile
  have hsame := symbols?_applyChange_of_ne hform.typed env.disk s.settings url (closingChange env url) kind hfile
  exact (h kind file buffer ⟨hopen, htakes⟩).snoc hsame fun hrenews => Bool.false_ne_true hrenews

theorem documentsCount_didChangeFiles {s : Session} (hform : s.WellFormed) {trace : List Request}
    (h : DocumentsCount s trace) (env : Env) (changes : List (Url × Change)) :
    DocumentsCount (s.outcome env (.didChangeFiles changes)) (trace ++ [.didChangeFiles changes]) := by
  intro kind file buffer (hfile : Reapplied s.buffers s.settings kind file buffer)
  have hopen : s.isOpen file = true := by
    rw [isOpen, hfile.1]
    rfl
  have hsymbols := symbols?_didChangeFiles hform.typed env changes kind hopen
  split_ifs at hsymbols with hdeleted
  · exact Or.inr ⟨hsymbols, forgotten_of_deletes trace hdeleted⟩
  · exact (h kind file buffer hfile).snoc hsymbols fun hrenews => Bool.false_ne_true hrenews

/-- **One message.** Documents go on counting, unless an introduction changes the settings under them. -/
theorem documentsCount_outcome {s : Session} (hform : s.WellFormed) {trace : List Request} (h : DocumentsCount s trace)
    (env : Env) {request : Request} (hintroduction : request.isIntroduction = true → s.buffers = []) :
    DocumentsCount (s.outcome env request) (trace ++ [request]) := by
  cases request with
  | introduce intro =>
    rintro kind file buffer ⟨hopen, _⟩
    rw [(outcome_introduce s env intro).2, hintroduction rfl] at hopen
    cases hopen
  | initialized => exact documentsCount_rescans hform env _ rfl
  | configure settings => exact documentsCount_rescans hform env _ rfl
  | didOpen url language text => exact documentsCount_didOpen hform h env url language text
  | didChange url texts => exact documentsCount_didChange hform h env url texts
  | didClose url => exact documentsCount_didClose hform h env url
  | didChangeFiles changes => exact documentsCount_didChangeFiles hform h env changes
  | shutdown | completion =>
    intro kind file buffer hfile
    exact (h kind file buffer hfile).snoc rfl fun hrenews => Bool.false_ne_true hrenews

end Session

/-! ## Phases -/

theorem Phase.refusal?_eq_none_iff {phase : Phase} {isIntroduction : Bool} :
    phase.refusal? isIntroduction = none ↔ phase = if isIntroduction then .starting else .running := by
  cases phase <;> cases isIntroduction <;> simp [Phase.refusal?]

/-- A message that is heard in its phase does not leave the connection at its start. -/
theorem Phase.after_ne_starting {phase : Phase} {request : Request}
    (h : phase = if request.isIntroduction then .starting else .running) : phase.after request ≠ .starting := by
  subst h
  cases request <;> simp [Phase.after, Request.isIntroduction]

namespace World

/-! ## Runs -/

/-- what holds of a world in which some messages have been heard -/
structure Kept (w : World) (trace : List Request) : Prop where
  wellFormed : w.session.WellFormed
  /-- documents are opened by messages -/
  closed : (∀ request ∈ trace, request.opens = false) → w.session.buffers = []
  /-- a client is not heard before its introduction -/
  starting : w.env.client ≠ none → w.phase = .starting → trace = []
  counts : w.session.DocumentsCount trace

theorem kept_start (env : Env) (root : Option FilePath) : Kept (start env root) [] where
  wellFormed := start_wellFormed env root
  closed _ := rfl
  starting _ _ := rfl
  counts := by
    rintro kind file buffer ⟨hopen, _⟩
    cases hopen

theorem phase_of_heard {w : World} {request : Request} (hclient : w.env.client ≠ none)
    (hheard : w.refusal? request.isIntroduction = none) :
    w.phase = if request.isIntroduction then .starting else .running := by
  rw [refusal?, if_neg (by simpa using hclient)] at hheard
  exact Phase.refusal?_eq_none_iff.1 hheard

theorem Kept.buffers_eq_nil {w : World} {trace : List Request} (h : Kept w trace) {request : Request}
    (hheard : w.refusal? request.isIntroduction = none) (hintroduction : request.isIntroduction = true)
    (htrace : w.env.client = none → ∀ earlier ∈ trace, earlier.opens = false) : w.session.buffers = [] := by
  refine h.closed fun earlier hearlier => ?_
  by_cases hclient : w.env.client = none
  · exact htrace hclient earlier hearlier
  · have hphase := phase_of_heard hclient hheard
    rw [if_pos hintroduction] at hphase
    rw [h.starting hclient hphase] at hearlier
    cases hearlier

/-- **One event.** What is kept is kept, with what was heard added. -/
theorem kept_step {w : World} {trace : List Request} (h : Kept w trace) (e : Event)
    (hintroduced : w.env.client = none → IntroducedFirst (trace ++ w.heardAt e)) :
    Kept (w.step e).1 (trace ++ w.heardAt e) := by
  rcases w.step_cases e with ⟨hheard, hsession, hphase, hclient⟩ | ⟨request, hheard, _, htrace, hstep⟩
  · rw [hheard, List.append_nil]
    refine ⟨?_, ?_, ?_, ?_⟩
    · rw [hsession]
      exact h.wellFormed
    · rw [hsession]
      exact h.closed
    · rw [hclient, hphase]
      exact h.starting
    · rw [hsession]
      exact h.counts
  · rw [htrace] at hintroduced ⊢
    rw [hstep]
    -- an introduction changes the settings and leaves the index alone, which is harmless while nothing is open
    have hintroduction : request.isIntroduction = true → w.session.buffers = [] := by
      intro hintro
      refine h.buffers_eq_nil hheard hintro fun hclient earlier hearlier => ?_
      have hlater := (List.pairwise_append.1 (hintroduced hclient)).2.2 earlier hearlier request (by simp)
      rw [← Bool.not_eq_true]
      intro hopens
      rw [hlater hopens] at hintro
      cases hintro
    refine ⟨Session.outcome_wellFormed h.wellFormed w.env request, fun hclosed => ?_, fun hclient hphase => ?_,
      Session.documentsCount_outcome h.wellFormed h.counts w.env hintroduction⟩
    · refine Session.buffers_outcome_eq_nil ?_ w.env (hclosed request (by simp))
      exact h.closed fun earlier hearlier => hclosed earlier (List.mem_append_left _ hearlier)
    · exact absurd hphase (Phase.after_ne_starting (phase_of_heard hclient hheard))

theorem step_client (w : World) (e : Event) : (w.step e).1.env.client = w.env.client := by
  rcases w.step_cases e with ⟨_, _, _, hclient⟩ | ⟨request, _, _, _, hstep⟩
  · exact hclient
  · rw [hstep]

theorem run_client (w : World) (events : List Event) : (w.run events).env.client = w.env.client := by
  induction events using List.reverseRecOn with
  | nil => rfl
  | append_singleton events e ih => rw [run_snoc, step_client, ih]

theorem kept_run (env : Env) (root : Option FilePath) (events : List Event)
    (hintroduced : env.client = none → IntroducedFirst ((start env root).heard events)) :
    Kept ((start env root).run events) ((start env root).heard events) := by
  induction events using List.reverseRecOn with
  | nil => exact kept_start env root
  | append_singleton events e ih =>
    rw [heard_snoc] at hintroduced ⊢
    rw [run_snoc]
    refine kept_step (ih fun hclient => ?_) e fun hclient => ?_
    · exact (List.pairwise_append.1 (hintroduced hclient)).1
    · rw [run_client] at hclient
      exact hintroduced hclient

/-- **Open documents are authoritative.** After any run that starts a session, an open document that the settings take has
the symbols of its text or none, and none only if its file was reported as deleted since the document was last opened,
changed or loaded by a rescan. Without a client nothing refuses a late introduction, so there the run must not have one. -/
theorem open_documents_count (env : Env) (root : Option FilePath) (events : List Event)
    (hintroduced : env.client = none → IntroducedFirst ((start env root).heard events)) (s : Session)
    (hs : ((start env root).run events).session = s) (kind : Kind) (file : FileId) (buffer : Buffer)
    (hopen : s.buffers.lookup file = some buffer) (htakes : s.settings.takes kind file = true) :
    ((s.index.registry kind).symbols? file = none ∨
      (s.index.registry kind).symbols? file = some (Registry.symbolsOf kind buffer.text)) ∧
    ((s.index.registry kind).symbols? file = none → Forgotten file ((start env root).heard events)) := by
  subst hs
  rcases (kept_run env root events hintroduced).counts kind file buffer ⟨hopen, htakes⟩ with hsome | ⟨hnone, hforgotten⟩
  · refine ⟨Or.inr hsome, fun hnone => ?_⟩
    rw [hsome] at hnone
    cases hnone
  · exact ⟨Or.inl hnone, fun _ => hforgotten⟩

/-- The exception is met: a file that is reported as deleted behind its open document has nothing. -/
theorem open_document_forgotten :
    let url : Url := ⟨Url.fileScheme, some .here, "/w/a.css".toList, none, none⟩
    let w := start ⟨.empty, none, id, none, id⟩ none
    let events : List Event := [.message (.didOpen url "css" ".new"), .message (.didChangeFiles [(url, .deleted)])]
    ((w.run events).session.index.registry .className).symbols? url.text = none ∧ Forgotten url.text (w.heard events) := by
  intro url w events
  have hopen : (w.run events).session.buffers.lookup url.text = some ⟨"css", ".new"⟩ := by decide +kernel
  have hnone : ((w.run events).session.index.registry .className).symbols? url.text = none := by decide +kernel
  have hintroduced : IntroducedFirst (w.heard events) := List.pairwise_pair.2 fun _ => rfl
  refine ⟨hnone, (open_documents_count _ _ events (fun _ => hintroduced) _ rfl .className _ _ hopen ?_).2 hnone⟩
  decide +kernel

end World
end StyleIndex
