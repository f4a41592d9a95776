/-
When an open document is forgotten.

An open document that the settings take has its symbols in the index exactly as long as its file is not `Forgotten`: no
message has reported the file as deleted since the document was last opened, changed or loaded by a rescan
(`open_document_counts_iff`). One half is that open documents are authoritative. For the other half, a document whose file
is forgotten has nothing in any registry (`absent_run`), since whatever would bring it back renews it.

So a file that is replaced on disk, which an editor reports as deleted and created, takes the symbols of its open document
away: the deletion counts, and the creation does not, because the file is open. `replaced_document_counts_iff` is the law
for reports of changes, `replaced_document_forgotten` the run in which this happens.
-/
import Mathlib.Tactic
import StyleIndex.Proofs.Entries
import StyleIndex.Proofs.Reports

namespace StyleIndex

/-- A file is forgotten behind a message if the message deletes it, or it was forgotten before and is not renewed. -/
theorem forgotten_snoc_iff {file : FileId} {trace : List Request} {request : Request} :
    Forgotten file (trace ++ [request]) ↔
      (∃ changes, request = .didChangeFiles changes ∧ ∃ c ∈ changes, Deletes file c) ∨
        ¬ Renews file request ∧ Forgotten file trace := by
  constructor
  · rintro ⟨before, changes, after, htrace, hdeleted, hafter⟩
    rcases List.eq_nil_or_concat after with rfl | ⟨after, last, rfl⟩
    · obtain ⟨_, hlast⟩ := List.append_inj' htrace rfl
      exact Or.inl ⟨changes, List.singleton_inj.1 hlast, hdeleted⟩
    · rw [List.concat_eq_append, ← List.cons_append, ← List.append_assoc] at htrace
      obtain ⟨rfl, hlast⟩ := List.append_inj' htrace rfl
      obtain rfl := List.singleton_inj.1 hlast
      rw [List.concat_eq_append] at hafter
      exact Or.inr ⟨hafter _ (by simp), before, changes, after, rfl, hdeleted, fun r hr => hafter r (by simp [hr])⟩
  · rintro (⟨changes, rfl, hdeleted⟩ | ⟨hrequest, hforgotten⟩)
    · exact forgotten_of_deletes trace hdeleted
    · exact hforgotten.snoc hrequest

namespace Session

/-- what is forgotten of the open documents is in no registry -/
def Absent (s : Session) (trace : List Request) : Prop :=
  ∀ kind file, s.isOpen file = true → Forgotten file trace → (s.index.registry kind).symbols? file = none

/-- A message that leaves a document open without renewing it has found it open, and brings no symbols back. -/
theorem open_of_not_renews {s : Session} (h : s.index.Typed) (env : Env) {request : Request} {file : FileId}
    (hrequest : ¬ Renews file request) (hopen : (s.outcome env request).isOpen file = true) :
    s.isOpen file = true ∧ ∀ kind, (s.index.registry kind).symbols? file = none →
      ((s.outcome env request).index.registry kind).symbols? file = none := by
  -- a message that names other files only leaves the symbols of this one alone
  have hother : request.rescans = false → file ∉ request.named → ∀ kind, (s.index.registry kind).symbols? file = none →
      ((s.outcome env request).index.registry kind).symbols? file = none := by
    intro hrescans hnamed kind hnone
    rw [symbols?_outcome_of_notMem h env hrescans hnamed, hnone]
  cases request with
  | initialized | configure => exact absurd rfl hrequest
  | introduce intro =>
    rw [isOpen, (outcome_introduce s env intro).2] at hopen
    exact ⟨hopen, hother rfl (by simp [Request.named])⟩
  | shutdown | completion => exact ⟨hopen, fun _ hnone => hnone⟩
  | didOpen url language text =>
    have hne : file ≠ url.text := Ne.symm hrequest
    rw [isOpen, (outcome_didOpen s env url language text).2.1, lookup_setBuffer, if_neg hne] at hopen
    exact ⟨hopen, hother rfl (by simpa [Request.named] using hne)⟩
  | didChange url texts =>
    cases htexts : texts.getLast? with
    | none =>
      rw [outcome_didChange_of_none s env url htexts] at hopen ⊢
      exact ⟨hopen, fun _ hnone => hnone⟩
    | some text =>
      have hsome : texts ≠ [] := by
        rintro rfl
        cases htexts
      have hne : file ≠ url.text := fun hfile => hrequest ⟨hfile.symm, hsome⟩
      rw [isOpen, (outcome_didChange s env url htexts).2.1, lookup_setText, if_neg hne] at hopen
      exact ⟨hopen, hother rfl (by simpa [Request.named] using hne)⟩
  | didClose url =>
    have hbuffers : (s.outcome env (.didClose url)).buffers = s.buffers.filter fun b => b.1 ≠ url.text := rfl
    rw [isOpen, hbuffers, lookup_filter_ne] at hopen
    split_ifs at hopen with hne
    · cases hopen
    · exact ⟨hopen, hother rfl (by simpa [Request.named] using hne)⟩
  | didChangeFiles changes =>
    have hopen : s.isOpen file = true := hopen
    refine ⟨hopen, fun kind hnone => ?_⟩
    rw [symbols?_didChangeFiles h env changes kind hopen, hnone, ite_self]

/-- **One message.** What is absent stays absent, and a deletion makes it so. -/
theorem absent_outcome {s : Session} (h : s.index.Typed) {trace : List Request} (habsent : s.Absent trace) (env : Env)
    (request : Request) : (s.outcome env request).Absent (trace ++ [request]) := by
  intro kind file hopen hforgotten
  rcases forgotten_snoc_iff.1 hforgotten with ⟨changes, rfl, hdeleted⟩ | ⟨hrequest, hforgotten⟩
  · have hopen : s.isOpen file = true := hopen
    rw [symbols?_didChangeFiles h env changes kind hopen, if_pos hdeleted]
  · obtain ⟨hopen, hkeeps⟩ := open_of_not_renews h env hrequest hopen
    exact hkeeps kind (habsent kind file hopen hforgotten)

end Session

namespace World

/-- **Any run.** -/
theorem absent_run (env : Env) (root : Option FilePath) (events : List Event) :
    ((start env root).run events).session.Absent ((start env root).heard events) := by
  induction events using List.reverseRecOn with
  | nil =>
    intro kind file hopen
    cases hopen
  | append_singleton events e ih =>
    have htyped := (run_wellFormed (start_wellFormed env root) events).typed
    rw [heard_snoc, run_snoc]
    rcases ((start env root).run events).step_cases e with ⟨hheard, hsession, _⟩ | ⟨request, _, _, hheard, hstep⟩
    · rw [hheard, hsession, List.append_nil]
      exact ih
    · rw [hheard, hstep]
      exact Session.absent_outcome htyped ih _ request

/-- **When an open document counts.** After any run that starts a session, an open document that the settings take has the
symbols of its text exactly if its file is not forgotten. Without a client the run must not have a late introduction. -/
theorem open_document_counts_iff (env : Env) (root : Option FilePath) (events : List Event)
    (hintroduced : env.client = none → IntroducedFirst ((start env root).heard events)) {kind : Kind} {file : FileId}
    {buffer : Buffer} (hopen : ((start env root).run events).session.buffers.lookup file = some buffer)
    (htakes : ((start env root).run events).session.settings.takes kind file = true) :
    (((start env root).run events).session.index.registry kind).symbols? file =
        some (Registry.symbolsOf kind buffer.text) ↔
      ¬ Forgotten file ((start env root).heard events) := by
  constructor
  · intro hsome hforgotten
    have hisOpen : ((start env root).run events).session.isOpen file = true := by
      rw [Session.isOpen, hopen]
      rfl
    rw [absent_run env root events kind file hisOpen hforgotten] at hsome
    cases hsome
  · intro hforgotten
    exact ((kept_run env root events hintroduced).counts kind file buffer ⟨hopen, htakes⟩).resolve_right
      fun hnone => hforgotten hnone.2

/-- **A replaced file.** Let a document be open after some run that starts a session, and let the settings take it. Behind
reports of changes on disk, in whatever messages and with whatever changes of the disk between them, it has the symbols of
its text exactly if its file was not forgotten before and none of the reports deletes it. What is reported of the file after
a deletion makes no difference, and neither does what comes last. -/
theorem replaced_document_counts_iff (env : Env) (root : Option FilePath) (events : List Event)
    (hintroduced : env.client = none → IntroducedFirst ((start env root).heard events)) {w : World}
    (hw : (start env root).run events = w) (hheard : w.refusal? false = none) (kind : Kind) (file : FileId)
    (buffer : Buffer) (hopen : w.session.buffers.lookup file = some buffer)
    (htakes : w.session.settings.takes kind file = true) (reports : List Event)
    (hreports : ∀ e ∈ reports, e.isReport = true) :
    ((w.run reports).session.index.registry kind).symbols? file = some (Registry.symbolsOf kind buffer.text) ↔
      ¬ Forgotten file ((start env root).heard events) ∧ ∀ c ∈ reports.flatMap Event.changes, ¬ Deletes file c := by
  subst hw
  have hisOpen : ((start env root).run events).session.isOpen file = true := by
    rw [Session.isOpen, hopen]
    rfl
  rw [symbols?_run_reports (run_wellFormed (start_wellFormed env root) events) hheard hisOpen hreports,
    ← open_document_counts_iff env root events hintroduced hopen htakes]
  split_ifs with hdeleted
  · obtain ⟨c, hc, hdeletes⟩ := hdeleted
    exact ⟨False.elim, fun h => absurd hdeletes (h.2 c hc)⟩
  · exact ⟨fun hsome => ⟨hsome, fun c hc hdeletes => hdeleted ⟨c, hc, hdeletes⟩⟩, fun h => h.1⟩

/-- A sheet is open with text that is not saved, while another program writes its file and the editor reports so twice. -/
theorem touched_document_counts :
    let url : Url := ⟨Url.fileScheme, some .here, "/w/a.css".toList, none, none⟩
    let path : FilePath := ⟨[Name.ofString "w", Name.ofString "a.css"]⟩
    let w := (start ⟨.empty, none, id, none, id⟩ none).run [.message (.didOpen url "css" ".draft")]
    let reports : List Event :=
      [.write path (.file (Utf8.ofString ".saved")), .message (.didChangeFiles [(url, .touched), (url, .touched)])]
    ((w.run reports).session.index.registry .className).symbols? url.text = some ["draft"] := by
  intro url path w reports
  have hopen : w.session.buffers.lookup url.text = some ⟨"css", ".draft"⟩ := by decide +kernel
  have htakes : w.session.settings.takes .className url.text = true := by decide +kernel
  have hcounts : (w.session.index.registry .className).symbols? url.text = some ["draft"] := by decide +kernel
  have hintroduced : IntroducedFirst
      ((start ⟨.empty, none, id, none, id⟩ none).heard [.message (.didOpen url "css" ".draft")]) :=
    List.pairwise_singleton _ _
  have hremembered := (open_document_counts_iff _ _ _ (fun _ => hintroduced) hopen htakes).1 hcounts
  exact (replaced_document_counts_iff _ _ _ (fun _ => hintroduced) rfl rfl .className url.text _ hopen htakes
    reports (by decide)).2 ⟨hremembered, by decide +kernel⟩

/-- **A replaced file loses its open document.** The sheet is still open and still taken, its file is there, and the last
that was reported of it is that it was created. -/
theorem replaced_document_forgotten :
    let url : Url := ⟨Url.fileScheme, some .here, "/w/a.css".toList, none, none⟩
    let root : FilePath := ⟨[Name.ofString "w"]⟩
    let disk : Disk := ⟨[([Name.ofString "w"], .directory),
      ([Name.ofString "w", Name.ofString "a.css"], .file (Utf8.ofString ".saved"))]⟩
    let w := (start ⟨disk, none, id, none, id⟩ (some root)).run
      [.message .initialized, .message (.didOpen url "css" ".draft"),
        .message (.didChangeFiles [(url, .deleted), (url, .touched)])]
    w.session.buffers.lookup url.text = some ⟨"css", ".draft"⟩ ∧ w.session.settings.takes .className url.text = true ∧
      (w.session.index.registry .className).symbols? url.text = none := by
  decide +kernel

end World
end StyleIndex
