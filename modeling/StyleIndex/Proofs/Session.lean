/-
Sessions step by step.

`outcome` is what a message makes of a session once it is done with, the client having answered whatever it was asked in
between; `step_message` says that this is the step of a world for a message that gets through, and `step_refused` that any
other message changes nothing. `heard` lists the messages that got through during a run.

What every message keeps, every run keeps (`run_keeps`). A session is `WellFormed` if each registry holds its own kind of
symbols and each document is open once, and this is kept (`run_wellFormed`), as is the form of the disk
(`run_disk_wellFormed`). What a document's text, a change on disk and a rescan do to the index is said in terms of loads
(`sync_eq_loadAll`, `applyChange_touched`, `rescan_index`), so that the laws of loads carry over.
-/
import Mathlib.Tactic
import StyleIndex.Proofs.DiskChange
import StyleIndex.Proofs.Index
import StyleIndex.Session.World

namespace StyleIndex

/-- the registry of a kind takes documents with this identity, by the extension that it ends with -/
def Settings.takes (settings : Settings) (kind : Kind) (file : FileId) : Bool :=
  (extensionOf? file).any (settings.source kind).handlesExtension

namespace Session

/-! ## Documents as loads -/

theorem bufferLoad?_text? {file : FileId} {text : String} {l : Load} (h : bufferLoad? file text = some l)
    (settings : Settings) (kind : Kind) (other : FileId) :
    l.text? settings kind other = if other = file ∧ settings.takes kind file = true then some text else none := by
  obtain ⟨ext, hext, rfl⟩ := Option.map_eq_some_iff.1 h
  simp only [Load.text?, Load.isWanted, Settings.takes, hext, Option.any_some, Bool.and_eq_true, decide_eq_true_eq,
    @eq_comm _ other]

theorem takes_eq_false_of_bufferLoad? {file : FileId} {text : String} (h : bufferLoad? file text = none)
    (settings : Settings) (kind : Kind) : settings.takes kind file = false := by
  rw [bufferLoad?, Option.map_eq_none_iff] at h
  rw [Settings.takes, h]
  rfl

/-- A document gives a text to its own file, where the settings take it. -/
theorem bufferLoad?_gives_iff {settings : Settings} {kind : Kind} {file other : FileId} {text content : String} :
    (∃ l, bufferLoad? file text = some l ∧ l.Gives settings kind other content) ↔
      file = other ∧ settings.takes kind file = true ∧ text = content := by
  cases hload : bufferLoad? file text with
  | none => simp [takes_eq_false_of_bufferLoad? hload]
  | some l =>
    have hgives : l.Gives settings kind other content ↔ (other = file ∧ settings.takes kind file = true) ∧ text = content := by
      rw [← Load.text?_eq_some_iff, bufferLoad?_text? hload, Option.ite_none_right_eq_some, Option.some.injEq]
    simp only [Option.some.injEq, exists_eq_left', hgives, and_assoc, @eq_comm _ other]

theorem sync_eq_loadAll (settings : Settings) (ix : Index) (file : FileId) (text : String) :
    sync settings ix file text = Scan.loadAll settings (bufferLoad? file text).toList ix := by
  rw [sync]
  cases bufferLoad? file text <;> rfl

theorem typed_sync {ix : Index} (h : ix.Typed) (settings : Settings) (file : FileId) (text : String) :
    (sync settings ix file text).Typed := by
  rw [sync_eq_loadAll]
  exact Scan.typed_loadAll h settings _

/-- A document's text counts for its own file and where the settings take it. -/
theorem symbols?_sync {ix : Index} (h : ix.Typed) (settings : Settings) (file : FileId) (text : String) (kind : Kind)
    (other : FileId) :
    ((sync settings ix file text).registry kind).symbols? other =
      if other = file ∧ settings.takes kind file = true then some (Registry.symbolsOf kind text)
      else (ix.registry kind).symbols? other := by
  rw [sync_eq_loadAll, Scan.symbols?_loadAll h]
  cases hload : bufferLoad? file text with
  | none =>
    rw [takes_eq_false_of_bufferLoad? hload]
    simp [Scan.lastText?]
  | some l =>
    rw [Option.toList_some, Scan.lastText?_singleton, bufferLoad?_text? hload]
    split_ifs <;> rfl

/-! ## Changes on disk -/

theorem applyChange_touched (ix : Index) (d : Disk) (settings : Settings) (url : Url) :
    ix.applyChange d settings url .touched = Scan.loadAll settings (url.load? d).toList ix := by
  rw [Index.applyChange]
  cases url.load? d <;> rfl

theorem typed_applyChange {ix : Index} (h : ix.Typed) (d : Disk) (settings : Settings) (url : Url) (change : Change) :
    (ix.applyChange d settings url change).Typed := by
  cases change with
  | touched =>
    rw [applyChange_touched]
    exact Scan.typed_loadAll h settings _
  | deleted => exact h.remove url.text

theorem typed_foldl_applyChange {ix : Index} (h : ix.Typed) (d : Disk) (settings : Settings)
    (changes : List (Url × Change)) : (changes.foldl (fun ix c => ix.applyChange d settings c.1 c.2) ix).Typed := by
  induction changes using List.reverseRecOn with
  | nil => exact h
  | append_singleton changes c ih =>
    rw [List.foldl_append]
    exact typed_applyChange ih d settings c.1 c.2

/-- A change on disk is a change of one file. -/
theorem symbols?_applyChange_of_ne {ix : Index} (h : ix.Typed) (d : Disk) (settings : Settings) (url : Url)
    (change : Change) (kind : Kind) {file : FileId} (hfile : file ≠ url.text) :
    ((ix.applyChange d settings url change).registry kind).symbols? file = (ix.registry kind).symbols? file := by
  cases change with
  | deleted => rw [Index.applyChange, Index.symbols?_remove, if_neg hfile]
  | touched =>
    rw [applyChange_touched, Scan.symbols?_loadAll h]
    have hnone : Scan.lastText? settings kind file (url.load? d).toList = none := by
      rw [Option.eq_none_iff_forall_ne_some]
      intro text htext
      obtain ⟨l, hl, hgives⟩ := Scan.exists_gives_of_lastText? htext
      rw [Option.mem_toList] at hl
      obtain ⟨ext, _, hl⟩ := Option.bind_eq_some_iff.1 hl
      obtain ⟨path, _, rfl⟩ := Option.map_eq_some_iff.1 hl
      exact hfile hgives.1.symm
    rw [hnone]
    rfl

/-! ## Rescans -/

/-- the files of the workspace on disk as loads, in the order in which they are loaded -/
def diskLoads (s : Session) (env : Env) : List Load :=
  s.root.elim [] fun root => Scan.inOrder env.listing (Scan.styleFiles env.disk s.settings root)

/-- the open documents as loads, in the order in which they are loaded -/
def bufferLoads (s : Session) (env : Env) : List Load :=
  (s.buffersInOrder env).filterMap fun b => bufferLoad? b.1 b.2.text

theorem scanned_eq_loadAll (s : Session) (env : Env) :
    s.scanned env = Scan.loadAll s.settings (s.diskLoads env) s.index.reset := by
  rw [scanned, diskLoads]
  cases s.root <;> rfl

theorem foldl_sync_eq_loadAll (settings : Settings) (buffers : List (FileId × Buffer)) (ix : Index) :
    buffers.foldl (fun ix b => sync settings ix b.1 b.2.text) ix =
      Scan.loadAll settings (buffers.filterMap fun b => bufferLoad? b.1 b.2.text) ix := by
  induction buffers generalizing ix with
  | nil => rfl
  | cons b buffers ih =>
    rw [List.foldl_cons, ih, List.filterMap_cons, sync]
    cases bufferLoad? b.1 b.2.text <;> rfl

/-- A rescan forgets all files and loads the disk and then the open documents. -/
theorem rescan_index (s : Session) (env : Env) :
    (s.rescan env).index =
      Scan.loadAll s.settings (s.bufferLoads env) (Scan.loadAll s.settings (s.diskLoads env) s.index.reset) := by
  rw [← scanned_eq_loadAll]
  exact foldl_sync_eq_loadAll s.settings (s.buffersInOrder env) (s.scanned env)

/-! ## Outcomes -/

/-- the session once a message is done with; a change of settings ends with a rescan -/
def outcome (s : Session) (env : Env) : Request → Session
  | .configure settings => ({ s with clientSettings := some settings }.reload env).rescan env
  | request => (s.handle env request).1

/-- each registry holds its own kind of symbols, and each document is open once -/
structure WellFormed (s : Session) : Prop where
  typed : s.index.Typed
  nodup : (s.buffers.map Prod.fst).Nodup

theorem wellFormed_rescan {s : Session} (h : s.WellFormed) (env : Env) : (s.rescan env).WellFormed where
  typed := by
    rw [rescan_index]
    exact Scan.typed_loadAll (Scan.typed_loadAll h.typed.reset s.settings _) s.settings _
  nodup := h.nodup

theorem nodup_setBuffer {s : Session} (h : (s.buffers.map Prod.fst).Nodup) (file : FileId) (buffer : Buffer) :
    ((s.setBuffer file buffer).buffers.map Prod.fst).Nodup := by
  rw [setBuffer, List.map_append, List.map_singleton]
  refine List.Nodup.append (h.sublist (List.filter_sublist.map _)) (List.nodup_singleton file) ?_
  intro other hother hfile
  obtain ⟨b, hb, rfl⟩ := List.mem_map.1 hother
  have hne : b.1 ≠ file := by simpa using (List.mem_filter.1 hb).2
  exact hne (List.mem_singleton.1 hfile)

theorem map_fst_setText (buffers : List (FileId × Buffer)) (file : FileId) (text : String) :
    (buffers.map fun b => if b.1 = file then (b.1, { b.2 with text }) else b).map Prod.fst = buffers.map Prod.fst := by
  rw [List.map_map]
  refine List.map_congr_left fun b _ => ?_
  simp only [Function.comp_apply]
  split_ifs <;> rfl

theorem outcome_eq_handle (s : Session) (env : Env) {request : Request} (h : ∀ settings, request ≠ .configure settings) :
    s.outcome env request = (s.handle env request).1 := by
  unfold outcome
  split
  · exact absurd rfl (h _)
  · rfl

theorem outcome_introduce (s : Session) (env : Env) (intro : Introduction) :
    (s.outcome env (.introduce intro)).index = s.index ∧ (s.outcome env (.introduce intro)).buffers = s.buffers := by
  simp only [outcome, handle, introduce, reload, and_self]

theorem outcome_didOpen (s : Session) (env : Env) (url : Url) (language text : String) :
    (s.outcome env (.didOpen url language text)).index = sync s.settings s.index url.text text ∧
      (s.outcome env (.didOpen url language text)).buffers = (s.setBuffer url.text ⟨language, text⟩).buffers ∧
      (s.outcome env (.didOpen url language text)).settings = s.settings := by
  simp only [outcome, handle, didOpen, setBuffer, and_self]

theorem outcome_didChange_of_none (s : Session) (env : Env) (url : Url) {texts : List String}
    (h : texts.getLast? = none) : s.outcome env (.didChange url texts) = s := by
  simp only [outcome, handle, didChange, h]

theorem outcome_didChange (s : Session) (env : Env) (url : Url) {texts : List String} {text : String}
    (h : texts.getLast? = some text) :
    (s.outcome env (.didChange url texts)).index = sync s.settings s.index url.text text ∧
      (s.outcome env (.didChange url texts)).buffers =
        (s.buffers.map fun b => if b.1 = url.text then (b.1, { b.2 with text }) else b) ∧
      (s.outcome env (.didChange url texts)).settings = s.settings := by
  simp only [outcome, handle, didChange, h, and_self]

theorem outcome_configure (s : Session) (env : Env) (settings : Json) :
    s.outcome env (.configure settings) = ({ s with clientSettings := some settings }.reload env).rescan env := by
  rw [outcome]

/-- No message breaks the form of a session. -/
theorem outcome_wellFormed {s : Session} (h : s.WellFormed) (env : Env) (request : Request) :
    (s.outcome env request).WellFormed := by
  cases request with
  | introduce intro =>
    obtain ⟨hindex, hbuffers⟩ := outcome_introduce s env intro
    exact ⟨hindex ▸ h.typed, hbuffers ▸ h.nodup⟩
  | initialized => exact wellFormed_rescan h env
  | shutdown => exact h
  | didOpen url language text =>
    obtain ⟨hindex, hbuffers, _⟩ := outcome_didOpen s env url language text
    refine ⟨?_, ?_⟩
    · rw [hindex]
      exact typed_sync h.typed s.settings url.text text
    · rw [hbuffers]
      exact nodup_setBuffer h.nodup url.text ⟨language, text⟩
  | didChange url texts =>
    cases htexts : texts.getLast? with
    | none =>
      rw [outcome_didChange_of_none s env url htexts]
      exact h
    | some text =>
      obtain ⟨hindex, hbuffers, _⟩ := outcome_didChange s env url htexts
      refine ⟨?_, ?_⟩
      · rw [hindex]
        exact typed_sync h.typed s.settings url.text text
      · rw [hbuffers, map_fst_setText]
        exact h.nodup
  | didClose url =>
    exact ⟨typed_applyChange h.typed env.disk s.settings url _, h.nodup.sublist (List.filter_sublist.map _)⟩
  | didChangeFiles changes =>
    refine ⟨?_, h.nodup⟩
    simp only [outcome, handle, didChangeFiles]
    exact typed_foldl_applyChange h.typed env.disk s.settings (changes.filter s.heeds)
  | configure settings =>
    rw [outcome_configure]
    refine wellFormed_rescan ⟨?_, ?_⟩ env
    · simpa only [reload] using h.typed
    · simpa only [reload] using h.nodup
  | completion url pos => exact h

end Session

namespace World

/-! ## Steps -/

theorem settle_of_pending_eq_none {n : Nat} {w : World} {reply : Reply} (h : reply.pending = none) :
    (settle n (w, reply)).1 = w := by
  cases n with
  | zero => rfl
  | succ n => rw [settle, h]

/-- The announcement of a scan changes no state. -/
theorem settle_announcement {n files : Nat} {w : World} {reply : Reply} (h : reply.pending = some (.announcement files)) :
    (settle (n + 1) (w, reply)).1 = w := by
  rw [settle, h]
  exact settle_of_pending_eq_none rfl

theorem settle_handle {w : World} {request : Request} (hrequest : ∀ settings, request ≠ .configure settings) (n : Nat)
    (h : (w.session.handle w.env request).2.pending = none) :
    (settle n (w.handle request)).1 =
      { w with session := w.session.outcome w.env request, phase := w.phase.after request } := by
  rw [Session.outcome_eq_handle _ _ hrequest]
  exact settle_of_pending_eq_none h

theorem settle_refresh (env : Env) (s : Session) (phase : Phase) (n : Nat) {reply : Reply}
    (h : reply.pending = (s.refresh env).2.pending) :
    (settle (n + 1) (⟨env, s.rescan env, phase⟩, reply)).1 = ⟨env, s.rescan env, phase⟩ := by
  simp only [Session.refresh, Session.afterScan] at h
  split at h
  · exact settle_announcement h
  · exact settle_of_pending_eq_none h

theorem settle_rescan (env : Env) (s : Session) (phase : Phase) (n : Nat) {reply : Reply}
    (h : reply.pending = some .rescan) :
    (settle (n + 2) (⟨env, s, phase⟩, reply)).1 = ⟨env, s.rescan env, phase⟩ := by
  rw [settle, h]
  exact settle_refresh env s phase n rfl

theorem step_refused {w : World} {request : Request} {failure : Failure}
    (h : w.refusal? request.isIntroduction = some failure) : (w.step (.message request)).1 = w := by
  rw [step, receive, h]
  apply settle_of_pending_eq_none
  split_ifs <;> rfl

/-- **A message that gets through.** The step leads to the outcome of the message, with nothing left to do. -/
theorem step_message {w : World} {request : Request} (h : w.refusal? request.isIntroduction = none) :
    (w.step (.message request)).1 =
      { w with session := w.session.outcome w.env request, phase := w.phase.after request } := by
  rw [step, receive, h]
  cases request with
  | initialized => exact settle_refresh w.env w.session w.phase 1 rfl
  | configure settings =>
    rw [Session.outcome_configure]
    simp only [handle, Session.handle, Session.configure]
    generalize ({ w.session with clientSettings := some settings } : Session).reload w.env = configured
    split_ifs
    · exact settle_rescan w.env configured w.phase 0 rfl
    · exact settle_refresh w.env configured w.phase 1 rfl
  | _ => exact settle_handle (by simp) _ rfl

/-! ## Runs -/

/-- the message of an event, if it gets through -/
def heardAt (w : World) : Event → List Request
  | .message request => if (w.refusal? request.isIntroduction).isNone then [request] else []
  | _ => []

/-- the messages that get through during a run, in order -/
def heard : World → List Event → List Request
  | _, [] => []
  | w, e :: events => w.heardAt e ++ heard (w.step e).1 events

theorem run_snoc (w : World) (events : List Event) (e : Event) : w.run (events ++ [e]) = ((w.run events).step e).1 := by
  simp [run]

theorem heard_snoc (w : World) (events : List Event) (e : Event) :
    w.heard (events ++ [e]) = w.heard events ++ (w.run events).heardAt e := by
  induction events generalizing w with
  | nil => simp [heard, run]
  | cons first events ih =>
    rw [List.cons_append, heard, ih, heard, List.append_assoc]
    rfl

/-- What a step can do: something changes outside or a message is refused, and the session stays as it is; or a message
gets through and has its outcome. -/
theorem step_cases (w : World) (e : Event) :
    (w.heardAt e = [] ∧ (w.step e).1.session = w.session ∧ (w.step e).1.phase = w.phase ∧
      (w.step e).1.env.client = w.env.client) ∨
    ∃ request, w.refusal? request.isIntroduction = none ∧ e = .message request ∧ w.heardAt e = [request] ∧
      (w.step e).1 = { w with session := w.session.outcome w.env request, phase := w.phase.after request } := by
  cases e with
  | message request =>
    cases hrefusal : w.refusal? request.isIntroduction with
    | none => exact Or.inr ⟨request, hrefusal, rfl, by simp [heardAt, hrefusal], step_message hrefusal⟩
    | some failure =>
      refine Or.inl ⟨by simp [heardAt, hrefusal], ?_⟩
      rw [step_refused hrefusal]
      exact ⟨rfl, rfl, rfl⟩
  | write | delete | writeUserFile | relist => exact Or.inl ⟨rfl, rfl, rfl, rfl⟩

/-- a world in which nothing has been said yet -/
def start (env : Env) (root : Option FilePath) : World :=
  ⟨env, { Session.initial with root }, .starting⟩

theorem start_wellFormed (env : Env) (root : Option FilePath) : (start env root).session.WellFormed :=
  ⟨Index.typed_empty, List.nodup_nil⟩

theorem step_disk_wellFormed {w : World} (h : w.env.disk.WellFormed) (e : Event) :
    (w.step e).1.env.disk.WellFormed := by
  cases e with
  | message request =>
    cases hrefusal : w.refusal? request.isIntroduction with
    | none =>
      rw [step_message hrefusal]
      exact h
    | some failure =>
      rw [step_refused hrefusal]
      exact h
  | write path node => exact Disk.wellFormed_write h path node
  | delete path => exact Disk.wellFormed_delete h path
  | writeUserFile | relist => exact h

/-- **Every run keeps the disk well formed**, whatever is written, linked or deleted. -/
theorem run_disk_wellFormed {w : World} (h : w.env.disk.WellFormed) (events : List Event) :
    (w.run events).env.disk.WellFormed := by
  induction events using List.reverseRecOn with
  | nil => exact h
  | append_singleton events e ih =>
    rw [run_snoc]
    exact step_disk_wellFormed ih e

theorem step_keeps {P : Session → Prop} (hmessage : ∀ s env request, P s → P (s.outcome env request)) {w : World}
    (h : P w.session) (e : Event) : P (w.step e).1.session := by
  rcases w.step_cases e with ⟨_, hsession, _⟩ | ⟨request, _, _, _, hstep⟩
  · rw [hsession]
    exact h
  · rw [hstep]
    exact hmessage w.session w.env request h

/-- **What every message keeps, every run keeps.** -/
theorem run_keeps {P : Session → Prop} (hmessage : ∀ s env request, P s → P (s.outcome env request)) {w : World}
    (h : P w.session) (events : List Event) : P (w.run events).session := by
  induction events using List.reverseRecOn with
  | nil => exact h
  | append_singleton events e ih =>
    rw [run_snoc]
    exact step_keeps hmessage ih e

/-- **Every run keeps the form of a session.** -/
theorem run_wellFormed {w : World} (h : w.session.WellFormed) (events : List Event) :
    (w.run events).session.WellFormed :=
  run_keeps (P := Session.WellFormed) (fun _ env request hs => Session.outcome_wellFormed hs env request) h events

end World
end StyleIndex
