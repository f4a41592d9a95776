/-
Which files a registry holds, over whole runs.

There are three readings of the extension of a file: a scan reads it off the path, a change on disk off the path of the URL,
and an edit off the identity. Where the settings list plain extensions and the URLs have no query and no fragment, a file
that one of them admits is admitted by its identity (`takes_of_mem_loads`). So no message puts a file into a registry that
the settings behind the message do not want there (`admitted_outcome`), and since new settings come with a rescan, no run
does (`admitted_run`). An introduction changes the settings without a rescan, so it must find the registries empty.

A source that is turned off admits nothing, whatever the extensions and the URLs (`files_outcome_of_disabled`).

`registry_files_wanted` puts this together.
-/
import Mathlib.Tactic
import StyleIndex.Proofs.Entries
import StyleIndex.Proofs.Extension
import StyleIndex.Proofs.OpenDocuments
import StyleIndex.Proofs.Operations

namespace StyleIndex

/-! ## Extensions of identities -/

theorem takeWhile_append_of_length_lt {α : Type} {p : α → Bool} {front : List α}
    (h : (front.takeWhile p).length < front.length) (back : List α) : (front ++ back).takeWhile p = front.takeWhile p := by
  rw [List.takeWhile_append, if_neg (by omega)]

theorem exists_takeWhile_append_eq {α : Type} (p : α → Bool) (front back : List α) :
    ∃ more, (front ++ back).takeWhile p = front.takeWhile p ++ more := by
  rw [List.takeWhile_append]
  split_ifs with hlength
  · have hfront : front.takeWhile p = front := (List.takeWhile_prefix p).eq_of_length hlength
    exact ⟨back.takeWhile p, by rw [hfront]⟩
  · exact ⟨[], by simp⟩

/-- What stands before a text with an extension makes no difference to the extension. -/
theorem extensionOf?_append {text extension : String} (h : extensionOf? text = some extension) (before : String) :
    extensionOf? (before ++ text) = some extension := by
  obtain ⟨more, hname⟩ := exists_takeWhile_append_eq (· ≠ '/') text.toList.reverse before.toList.reverse
  simp only [extensionOf?, List.reverse_reverse, List.length_reverse] at h ⊢
  rw [String.toList_append, List.reverse_append, hname]
  split_ifs at h with hdot
  have hshort := of_decide_eq_true (Bool.and_eq_true_iff.1 hdot).1
  rw [takeWhile_append_of_length_lt hshort, if_pos, h]
  rw [Bool.and_eq_true, decide_eq_true_eq, List.length_append]
  exact ⟨by omega, (Bool.and_eq_true_iff.1 hdot).2⟩

/-- nothing stands behind the path of the URL -/
def Url.IsBare (u : Url) : Prop :=
  u.query = none ∧ u.fragment = none

theorem Url.IsBare.extensionOf?_text {u : Url} (h : u.IsBare) {extension : String}
    (hpath : extensionOf? u.pathText = some extension) : extensionOf? u.text = some extension := by
  have htext : u.text = String.ofList (u.scheme ++ ':' :: u.beforePath) ++ u.pathText := by
    rw [text, pathText, h.1, h.2, ← String.ofList_append]
    simp
  rw [htext]
  exact extensionOf?_append hpath _

/-! ## Plain settings -/

/-- the source lists extensions of ASCII letters and digits only -/
def Source.IsPlain (source : Source) : Prop :=
  ∀ extension ∈ source.extensions, extension ≠ "" ∧ extension.toList.all Char.isAlphanum = true

instance (source : Source) : Decidable source.IsPlain :=
  inferInstanceAs (Decidable (∀ _ ∈ _, _))

def Settings.IsPlain (settings : Settings) : Prop :=
  settings.classNames.IsPlain ∧ settings.mixins.IsPlain

instance (settings : Settings) : Decidable settings.IsPlain :=
  inferInstanceAs (Decidable (_ ∧ _))

theorem Settings.IsPlain.source {settings : Settings} (h : settings.IsPlain) (kind : Kind) :
    (settings.source kind).IsPlain := by
  cases kind
  · exact h.1
  · exact h.2

theorem isAlphanum_toLower (c : Char) : c.toLower.isAlphanum = c.isAlphanum := by
  by_cases hascii : c.toNat < 0x80
  · exact Url.forall_ascii (P := fun c => c.toLower.isAlphanum = c.isAlphanum) (by decide +kernel) c hascii
  · have hupper : ¬ ('A'.val ≤ c.val ∧ c.val ≤ 'Z'.val) := by
      rintro ⟨_, hle⟩
      exact hascii (Nat.lt_of_le_of_lt (UInt32.le_iff_toNat_le.1 hle) (by decide))
    have hself : c.toLower = c := dif_neg hupper
    rw [hself]

/-- A plain source wants plain extensions only. -/
theorem Source.IsPlain.of_handlesExtension {source : Source} (h : source.IsPlain) {extension : String}
    (hwanted : source.handlesExtension extension = true) :
    extension ≠ "" ∧ ∀ c ∈ extension.toList, c.isAlphanum = true := by
  obtain ⟨listed, hlisted, hsame⟩ := List.any_eq_true.1 (Bool.and_eq_true_iff.1 hwanted).2
  obtain ⟨hne, halnum⟩ := h listed hlisted
  have hlower : listed.toList.map Char.toLower = extension.toList.map Char.toLower :=
    String.ofList_inj.1 (of_decide_eq_true hsame)
  rw [List.all_eq_true] at halnum
  refine ⟨?_, fun c hc => ?_⟩
  · rintro rfl
    exact hne (String.toList_inj.1 (List.map_eq_nil_iff.1 hlower))
  · have hmem : c.toLower ∈ listed.toList.map Char.toLower := by
      rw [hlower]
      exact List.mem_map_of_mem hc
    obtain ⟨other, hother, heq⟩ := List.mem_map.1 hmem
    rw [← isAlphanum_toLower, ← heq, isAlphanum_toLower]
    exact halnum other hother

/-- A file that a scan admits is admitted by its identity. -/
theorem Settings.IsPlain.takes_id {settings : Settings} (h : settings.IsPlain) {kind : Kind} {path : FilePath}
    {extension : String} (hextension : path.extension? = some extension)
    (hwanted : (settings.source kind).handlesExtension extension = true) : settings.takes kind path.id = true := by
  obtain ⟨hne, halnum⟩ := (h.source kind).of_handlesExtension hwanted
  have hsymbols : ∀ c ∈ extension.toList, isSymbolChar c = true := fun c hc => by simp [isSymbolChar, halnum c hc]
  have hbare : path.url.IsBare := ⟨rfl, rfl⟩
  have hid : extensionOf? path.id = some (Text.asciiLower extension) :=
    hbare.extensionOf?_text (FilePath.extensionOf?_url ⟨hextension, hne, List.all_eq_true.2 hsymbols⟩)
  rw [takes, hid, Option.any_some, Source.handlesExtension_asciiLower _ hsymbols]
  exact hwanted

/-! ## Operations -/

namespace Registry

theorem mem_files_apply {r : Registry} {op : Operation} {file : FileId} (h : file ∈ (r.apply op).files) :
    file ∈ r.files ∨ (op.text? file).isSome = true := by
  rw [mem_files_iff, contains, symbols?_apply] at h
  split_ifs at h
  · rw [Option.isSome_map] at h
    exact Or.inr h
  · rw [mem_files_iff, contains]
    exact Or.inl h

/-- Behind operations a registry holds files that it held before and files that they updated. -/
theorem mem_files_foldl_apply {r : Registry} {ops : List Operation} {file : FileId}
    (h : file ∈ (ops.foldl apply r).files) : file ∈ r.files ∨ ∃ op ∈ ops, (op.text? file).isSome = true := by
  induction ops generalizing r with
  | nil => exact Or.inl h
  | cons op ops ih =>
    rcases ih h with hfile | ⟨later, hlater, htext⟩
    · rcases mem_files_apply hfile with hfile | htext
      · exact Or.inl hfile
      · exact Or.inr ⟨op, by simp, htext⟩
    · exact Or.inr ⟨later, by simp [hlater], htext⟩

end Registry

/-- the operations update files only by loads that the registry of a kind wants -/
def UpdateBy (settings : Settings) (kind : Kind) (loads : List Load) (ops : List Registry.Operation) : Prop :=
  ∀ op ∈ ops, ∀ file, (op.text? file).isSome = true → ∃ l ∈ loads, l.isWanted settings kind = true ∧ l.file = file

theorem UpdateBy.cons_reset {settings : Settings} {kind : Kind} {loads : List Load} {ops : List Registry.Operation}
    (h : UpdateBy settings kind loads ops) : UpdateBy settings kind loads (.reset :: ops) := by
  intro op hop file htext
  rcases List.mem_cons.1 hop with rfl | hop
  · cases htext
  · exact h op hop file htext

theorem UpdateBy.append {settings : Settings} {kind : Kind} {loads loads' : List Load} {ops ops' : List Registry.Operation}
    (h : UpdateBy settings kind loads ops) (h' : UpdateBy settings kind loads' ops') :
    UpdateBy settings kind (loads ++ loads') (ops ++ ops') := by
  intro op hop file htext
  rcases List.mem_append.1 hop with hop | hop
  · obtain ⟨l, hl, hwanted⟩ := h op hop file htext
    exact ⟨l, List.mem_append_left _ hl, hwanted⟩
  · obtain ⟨l, hl, hwanted⟩ := h' op hop file htext
    exact ⟨l, List.mem_append_right _ hl, hwanted⟩

theorem Scan.updateBy_operations (settings : Settings) (kind : Kind) (loads : List Load) :
    UpdateBy settings kind loads (operations settings kind loads) := by
  intro op hop file htext
  obtain ⟨l, hl, rfl⟩ := List.mem_map.1 hop
  obtain ⟨hl, hwanted⟩ := List.mem_filter.1 hl
  refine ⟨l, hl, hwanted, ?_⟩
  by_contra hne
  simp [Registry.Operation.text?, Ne.symm hne] at htext

theorem Change.updateBy_operations (change : Change) (d : Disk) (settings : Settings) (kind : Kind) (url : Url) :
    UpdateBy settings kind (url.load? d).toList (change.operations d settings kind url) := by
  cases change with
  | deleted =>
    intro op hop file htext
    rw [List.mem_singleton.1 hop] at htext
    cases htext
  | touched => exact Scan.updateBy_operations settings kind _

/-! ## Messages -/

/-- the documents and files that a message names by URL -/
def Request.urls : Request → List Url
  | .didOpen url _ _ => [url]
  | .didChange url _ => [url]
  | .didClose url => [url]
  | .didChangeFiles changes => changes.map Prod.fst
  | _ => []

theorem Request.configures_eq_false {request : Request} (hrescans : request.rescans = false)
    (hintroduction : request.isIntroduction = false) : request.configures = false := by
  cases request with
  | introduce => cases hintroduction
  | configure => cases hrescans
  | initialized | shutdown | didOpen | didChange | didClose | didChangeFiles | completion => rfl

/-- a message that acts on documents or registries -/
def Request.acts : Request → Bool
  | .introduce _ => false
  | .shutdown => false
  | .completion _ _ => false
  | _ => true

/-- no introduction comes behind a message that acts on documents or registries -/
def IntroducedBeforeUse (trace : List Request) : Prop :=
  trace.Pairwise fun earlier later => earlier.acts = true → later.isIntroduction = false

namespace Session

theorem updateBy_operations (s : Session) (env : Env) (kind : Kind) (request : Request) :
    UpdateBy (s.outcome env request).settings kind (s.loads env request) (s.operations env kind request) := by
  cases request with
  | introduce | shutdown | completion =>
    intro op hop
    cases hop
  | initialized =>
    exact ((Scan.updateBy_operations s.settings kind _).append (Scan.updateBy_operations s.settings kind _)).cons_reset
  | configure settings =>
    rw [outcome_configure]
    exact ((Scan.updateBy_operations _ kind _).append (Scan.updateBy_operations _ kind _)).cons_reset
  | didOpen url language text => exact Scan.updateBy_operations s.settings kind _
  | didChange url texts =>
    rw [settings_outcome rfl]
    exact Scan.updateBy_operations s.settings kind _
  | didClose url => exact Change.updateBy_operations _ env.disk s.settings kind url
  | didChangeFiles changes =>
    intro op hop file htext
    obtain ⟨c, hc, hop⟩ := List.mem_flatMap.1 hop
    obtain ⟨l, hl, hwanted⟩ := Change.updateBy_operations c.2 env.disk s.settings kind c.1 op hop file htext
    exact ⟨l, List.mem_filterMap.2 ⟨c, (List.mem_filter.1 hc).1, Option.mem_toList.1 hl⟩, hwanted⟩

/-- **Where the files of a registry come from.** Behind a message a registry holds files that it held before, unless the
message rescans, and files of loads of the message that the settings behind it want. -/
theorem mem_files_outcome {s : Session} {env : Env} {request : Request} {kind : Kind} {file : FileId}
    (h : file ∈ ((s.outcome env request).index.registry kind).files) :
    (request.rescans = false ∧ file ∈ (s.index.registry kind).files) ∨
      ∃ l ∈ s.loads env request, l.isWanted (s.outcome env request).settings kind = true ∧ l.file = file := by
  rw [registry_outcome] at h
  have hupdates := updateBy_operations s env kind request
  cases hrescans : request.rescans with
  | false =>
    rcases Registry.mem_files_foldl_apply h with hfile | ⟨op, hop, htext⟩
    · exact Or.inl ⟨rfl, hfile⟩
    · exact Or.inr (hupdates op hop file htext)
  | true =>
    have hreset : ∃ ops, s.operations env kind request = .reset :: ops := by
      cases request with
      | initialized | configure => exact ⟨_, rfl⟩
      | introduce | shutdown | didOpen | didChange | didClose | didChangeFiles | completion => cases hrescans
    obtain ⟨ops, hops⟩ := hreset
    rw [hops, List.foldl_cons] at h
    rcases Registry.mem_files_foldl_apply h with hfile | ⟨op, hop, htext⟩
    · cases hfile
    · exact Or.inr (hupdates op (by simp [hops, hop]) file htext)

theorem takes_of_bufferLoad? {file : FileId} {text : String} {l : Load} (h : bufferLoad? file text = some l)
    {settings : Settings} {kind : Kind} (hwanted : l.isWanted settings kind = true) :
    settings.takes kind l.file = true := by
  obtain ⟨extension, hextension, rfl⟩ := Option.map_eq_some_iff.1 h
  rw [Settings.takes, hextension]
  exact hwanted

theorem takes_of_load? {url : Url} (hbare : url.IsBare) {d : Disk} {l : Load} (h : url.load? d = some l)
    {settings : Settings} {kind : Kind} (hwanted : l.isWanted settings kind = true) :
    settings.takes kind l.file = true := by
  obtain ⟨extension, hextension, h⟩ := Option.bind_eq_some_iff.1 h
  obtain ⟨path, _, rfl⟩ := Option.map_eq_some_iff.1 h
  rw [Settings.takes, hbare.extensionOf?_text hextension]
  exact hwanted

theorem takes_of_mem_rescan {s : Session} {env : Env} (hplain : s.settings.IsPlain) {l : Load}
    (hl : l ∈ s.diskLoads env ++ s.bufferLoads env) {kind : Kind} (hwanted : l.isWanted s.settings kind = true) :
    s.settings.takes kind l.file = true := by
  rcases List.mem_append.1 hl with hl | hl
  · obtain ⟨root, _, hl⟩ := mem_diskLoads_iff.1 hl
    obtain ⟨_, path, _, extension, hextension, rfl⟩ := Scan.mem_styleFiles_iff.1 hl
    exact hplain.takes_id hextension hwanted
  · obtain ⟨b, _, hl⟩ := List.mem_filterMap.1 hl
    exact takes_of_bufferLoad? hl hwanted

/-- **The readings of an extension agree.** What a message loads for a kind is wanted there by its identity. -/
theorem takes_of_mem_loads {s : Session} {env : Env} {request : Request}
    (hplain : (s.outcome env request).settings.IsPlain) (hbare : ∀ url ∈ request.urls, url.IsBare) {l : Load}
    (hl : l ∈ s.loads env request) {kind : Kind} (hwanted : l.isWanted (s.outcome env request).settings kind = true) :
    (s.outcome env request).settings.takes kind l.file = true := by
  cases request with
  | introduce | shutdown | completion => cases hl
  | initialized => exact takes_of_mem_rescan hplain hl hwanted
  | configure settings =>
    rw [outcome_configure] at hplain hwanted ⊢
    exact takes_of_mem_rescan hplain hl hwanted
  | didOpen url language text => exact takes_of_bufferLoad? (Option.mem_toList.1 hl) hwanted
  | didChange url texts =>
    obtain ⟨text, _, hl⟩ := List.mem_filterMap.1 hl
    exact takes_of_bufferLoad? hl hwanted
  | didClose url => exact takes_of_load? (hbare url (by simp [Request.urls])) (Option.mem_toList.1 hl) hwanted
  | didChangeFiles changes =>
    obtain ⟨c, hc, hl⟩ := List.mem_filterMap.1 hl
    exact takes_of_load? (hbare c.1 (List.mem_map_of_mem hc)) hl hwanted

/-- each registry holds only files that the settings want there -/
def Admitted (s : Session) : Prop :=
  ∀ kind, ∀ file ∈ (s.index.registry kind).files, s.settings.takes kind file = true

/-- **One message** keeps to files that the settings want, if an introduction finds the registries empty. -/
theorem admitted_outcome {s : Session} (h : s.Admitted) {env : Env} {request : Request}
    (hempty : request.isIntroduction = true → ∀ kind, (s.index.registry kind).files = [])
    (hplain : (s.outcome env request).settings.IsPlain) (hbare : ∀ url ∈ request.urls, url.IsBare) :
    (s.outcome env request).Admitted := by
  intro kind file hfile
  rcases mem_files_outcome hfile with ⟨hrescans, hfile⟩ | ⟨l, hl, hwanted, rfl⟩
  · cases hintroduction : request.isIntroduction with
    | true =>
      rw [hempty hintroduction kind] at hfile
      cases hfile
    | false =>
      rw [settings_outcome (Request.configures_eq_false hrescans hintroduction)]
      exact h kind file hfile
  · exact takes_of_mem_loads hplain hbare hl hwanted

theorem files_outcome_of_not_acts {s : Session} {env : Env} {request : Request} (h : request.acts = false) (kind : Kind) :
    ((s.outcome env request).index.registry kind).files = (s.index.registry kind).files := by
  cases request with
  | introduce intro => rw [(outcome_introduce s env intro).1]
  | shutdown | completion => rfl
  | initialized | didOpen | didChange | didClose | didChangeFiles | configure => cases h

/-- **A source that is turned off admits nothing**, whatever a message names. -/
theorem files_outcome_of_disabled {s : Session} {env : Env} {request : Request} {kind : Kind}
    (hoff : ((s.outcome env request).settings.source kind).enabled = false) (hfiles : (s.index.registry kind).files = []) :
    ((s.outcome env request).index.registry kind).files = [] := by
  refine List.eq_nil_iff_forall_not_mem.2 fun file hfile => ?_
  rcases mem_files_outcome hfile with ⟨_, hfile⟩ | ⟨l, _, hwanted, _⟩
  · rw [hfiles] at hfile
    cases hfile
  · rw [Load.isWanted, Source.handlesExtension, hoff] at hwanted
    cases hwanted

end Session

/-- an event that resolves the settings if it is heard -/
def Event.configures : Event → Bool
  | .message request => request.configures
  | _ => false

namespace World

/-! ## Runs -/

theorem files_start (env : Env) (root : Option FilePath) (kind : Kind) :
    ((start env root).session.index.registry kind).files = [] := by
  cases kind <;> rfl

/-- Nothing is in a registry before a message acts on it. -/
theorem files_eq_nil_of_unused {env : Env} {root : Option FilePath} {events : List Event}
    (h : ∀ request ∈ (start env root).heard events, request.acts = false) (kind : Kind) :
    (((start env root).run events).session.index.registry kind).files = [] := by
  induction events using List.reverseRecOn with
  | nil => exact files_start env root kind
  | append_singleton events e ih =>
    rw [heard_snoc] at h
    have hfiles := ih fun request hrequest => h request (List.mem_append_left _ hrequest)
    rw [run_snoc]
    rcases ((start env root).run events).step_cases e with ⟨_, hsession, _⟩ | ⟨request, _, _, hheard, hstep⟩
    · rw [hsession]
      exact hfiles
    · rw [hstep, Session.files_outcome_of_not_acts (h request (by simp [hheard])), hfiles]

/-- An introduction that is heard finds the registries empty: with a client it is the first message that is heard. -/
theorem files_eq_nil_of_introduction {env : Env} {root : Option FilePath} {events : List Event} {request : Request}
    (hheard : ((start env root).run events).refusal? request.isIntroduction = none)
    (hintroduction : request.isIntroduction = true)
    (hintroduced : env.client = none → IntroducedBeforeUse ((start env root).heard events ++ [request])) (kind : Kind) :
    (((start env root).run events).session.index.registry kind).files = [] := by
  refine files_eq_nil_of_unused (fun earlier hearlier => ?_) kind
  by_cases hclient : env.client = none
  · have hlater := (List.pairwise_append.1 (hintroduced hclient)).2.2 earlier hearlier request (by simp)
    rw [← Bool.not_eq_true]
    intro hacts
    rw [hlater hacts] at hintroduction
    cases hintroduction
  · have hclient' : ((start env root).run events).env.client ≠ none := by
      rw [run_client]
      exact hclient
    have hphase := phase_of_heard hclient' hheard
    rw [if_pos hintroduction] at hphase
    have hkept := kept_run env root events fun hnone => absurd hnone hclient
    rw [hkept.starting hclient' hphase] at hearlier
    cases hearlier

/-- **Every run** keeps to files that the settings want. -/
theorem admitted_run {env : Env} {root : Option FilePath} {events : List Event}
    (hintroduced : env.client = none → IntroducedBeforeUse ((start env root).heard events))
    (hplain : ∀ before, before <+: events → ((start env root).run before).session.settings.IsPlain)
    (hbare : ∀ request ∈ (start env root).heard events, ∀ url ∈ request.urls, url.IsBare) :
    ((start env root).run events).session.Admitted := by
  induction events using List.reverseRecOn with
  | nil =>
    intro kind file hfile
    rw [run, List.foldl_nil, files_start] at hfile
    cases hfile
  | append_singleton events e ih =>
    rw [heard_snoc] at hintroduced hbare
    have hadmitted := ih (fun hclient => (List.pairwise_append.1 (hintroduced hclient)).1)
      (fun before hbefore => hplain before (hbefore.trans (List.prefix_append _ _)))
      (fun request hrequest => hbare request (List.mem_append_left _ hrequest))
    have hplain := hplain (events ++ [e]) (List.prefix_refl _)
    rw [run_snoc] at hplain ⊢
    rcases ((start env root).run events).step_cases e with ⟨_, hsession, _⟩ | ⟨request, hrefusal, _, hheard, hstep⟩
    · rw [hsession]
      exact hadmitted
    · rw [hheard] at hintroduced hbare
      rw [hstep] at hplain ⊢
      exact Session.admitted_outcome hadmitted
        (fun hintroduction => files_eq_nil_of_introduction hrefusal hintroduction hintroduced) hplain
        (hbare request (by simp))

/-- **A registry whose source is turned off stays empty** through any events, until one of them turns the source on. -/
theorem run_disabled {w : World} {kind : Kind} (hoff : (w.session.settings.source kind).enabled = false)
    (hfiles : (w.session.index.registry kind).files = []) {more : List Event}
    (hconfigured : ∀ before e, before ++ [e] <+: more → e.configures = true →
      ((w.run (before ++ [e])).session.settings.source kind).enabled = false) :
    ((w.run more).session.settings.source kind).enabled = false ∧
      ((w.run more).session.index.registry kind).files = [] := by
  induction more using List.reverseRecOn with
  | nil => exact ⟨hoff, hfiles⟩
  | append_singleton more e ih =>
    obtain ⟨hoff, hfiles⟩ := ih fun before e' hbefore => hconfigured before e' (hbefore.trans (List.prefix_append _ _))
    have hlast := hconfigured more e (List.prefix_refl _)
    rw [run_snoc] at hlast ⊢
    rcases (w.run more).step_cases e with ⟨_, hsession, _⟩ | ⟨request, _, rfl, _, hstep⟩
    · rw [hsession]
      exact ⟨hoff, hfiles⟩
    · rw [hstep] at hlast ⊢
      have hoff : (((w.run more).session.outcome (w.run more).env request).settings.source kind).enabled = false := by
        cases hconfigures : request.configures with
        | true => exact hlast hconfigures
        | false =>
          rw [Session.settings_outcome hconfigures]
          exact hoff
      exact ⟨hoff, Session.files_outcome_of_disabled hoff hfiles⟩

end World

/-- **A registry holds only files that its settings want.** After any run that starts a session, every file of a registry
has an extension that the source of the registry wants, by the settings then in force, and the registry of a source that is
turned off is empty. It stays empty through whatever comes next, until a change of settings turns the source on. The run may
change the settings, the documents and the disk in any order; without a client it must not have an introduction behind a
message that acts on documents or registries. -/
theorem registry_files_wanted (env : Env) (root : Option FilePath) (events : List Event) {w : World}
    (hw : (World.start env root).run events = w)
    (hintroduced : env.client = none → IntroducedBeforeUse ((World.start env root).heard events))
    (hplain : ∀ before, before <+: events → ((World.start env root).run before).session.settings.IsPlain)
    (hbare : ∀ request ∈ (World.start env root).heard events, ∀ url ∈ request.urls, url.IsBare) (kind : Kind) :
    (∀ file ∈ (w.session.index.registry kind).files, ∃ extension, extensionOf? file = some extension ∧
      (w.session.settings.source kind).handlesExtension extension = true) ∧
    ((w.session.settings.source kind).enabled = false → (w.session.index.registry kind).entries = [] ∧
      ∀ more, (∀ before e, before ++ [e] <+: more → e.configures = true →
          ((w.run (before ++ [e])).session.settings.source kind).enabled = false) →
        ((w.run more).session.index.registry kind).entries = []) := by
  subst hw
  have hadmitted := World.admitted_run hintroduced hplain hbare kind
  refine ⟨fun file hfile => (Option.any_eq_true _ _).1 (hadmitted file hfile), fun hoff => ?_⟩
  have hfiles : (((World.start env root).run events).session.index.registry kind).files = [] := by
    refine List.eq_nil_iff_forall_not_mem.2 fun file hfile => ?_
    obtain ⟨extension, _, hwanted⟩ := (Option.any_eq_true _ _).1 (hadmitted file hfile)
    rw [Source.handlesExtension, hoff] at hwanted
    cases hwanted
  exact ⟨List.map_eq_nil_iff.1 hfiles, fun more hmore => List.map_eq_nil_iff.1 (World.run_disabled hoff hfiles hmore).2⟩

/-- Mixins are turned off while a document with one is open: it goes, and neither an edit nor a close brings one back. -/
theorem mixins_turned_off :
    let url (path : String) : Url := ⟨Url.fileScheme, some .here, path.toList, none, none⟩
    let opened : List Event :=
      [.message (.introduce ⟨[url "/w"], none, none, false⟩), .message (.didOpen (url "/w/a.SCSS") "scss" ".kept"),
        .message (.didOpen (url "/w/b.pcss") "pcss" "@define-mixin gone")]
    let off : Json := .obj [("mixins", .obj [("enabled", .bool false)])]
    let events := opened ++ [.message (.configure off)]
    let more : List Event :=
      [.message (.didChange (url "/w/b.pcss") ["@define-mixin new"]), .message (.didClose (url "/w/b.pcss"))]
    let start := World.start ⟨.empty, none, id, none, id⟩ none
    let w := start.run events
    ((start.run opened).session.index.registry .mixin).files = ["file:///w/b.pcss"] ∧
      (∀ file ∈ (w.session.index.registry .className).files, ∃ extension, extensionOf? file = some extension ∧
        (w.session.settings.source .className).handlesExtension extension = true) ∧
      (w.session.settings.source .mixin).enabled = false ∧ (w.session.index.registry .mixin).entries = [] ∧
      ((w.run more).session.index.registry .mixin).entries = [] := by
  intro url opened off events more start w
  have hintroduced : IntroducedBeforeUse (start.heard events) := by
    unfold IntroducedBeforeUse
    decide +kernel
  have hplain : ∀ before ∈ events.inits, (start.run before).session.settings.IsPlain := by decide +kernel
  have hbare : ∀ request ∈ start.heard events, ∀ url ∈ request.urls, url.query = none ∧ url.fragment = none := by
    decide +kernel
  have hwanted := registry_files_wanted ⟨.empty, none, id, none, id⟩ none events rfl (fun _ => hintroduced)
    (fun before hbefore => hplain before ((List.mem_inits _ _).2 hbefore)) hbare
  have hoff : (w.session.settings.source .mixin).enabled = false := by decide +kernel
  obtain ⟨hentries, hstays⟩ := (hwanted .mixin).2 hoff
  refine ⟨by decide +kernel, (hwanted .className).1, hoff, hentries, hstays more fun before e hbefore hconfigures => ?_⟩
  have hmore : ∀ e ∈ more, e.configures = false := by decide +kernel
  rw [hmore e (hbefore.subset (by simp))] at hconfigures
  cases hconfigures

end StyleIndex
