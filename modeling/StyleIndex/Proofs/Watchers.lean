/-
What the editor watches, over whole runs.

`Editor` is an editor that honours every call for a registration or against one, as far as it can be told from the calls
that it gets: it reads them from their JSON, holds what is registered, and notes whether an id was ever registered while it
was held. The calls that concern watchers are few: `notices_step` lists them for one event. A server that is introduced to
an editor with dynamic registration registers behind its first scan, and a change of settings withdraws the watcher before
another one is registered. So behind every event the editor holds the watcher of the settings in force (`hearAll_sent`). A
server that is introduced without dynamic registration sends no such call (`filter_sent`).

`watchers_follow_settings` puts this together.
-/
import Mathlib.Tactic
import StyleIndex.Proofs.OpenDocuments
import StyleIndex.Proofs.Operations
import StyleIndex.Protocol

namespace StyleIndex

/-! ## Editors -/

/-- a registration that an editor holds -/
structure Registration where
  id : String
  method : String
  /-- the globs of its watchers -/
  globs : List String
deriving DecidableEq, Repr

namespace Registration

/-- the globs that a registration asks to be watched -/
def globsOf (registration : Json) : List String :=
  let watchers := ((registration.get? "registerOptions").bind (·.get? "watchers")).bind Json.items?
  (watchers.getD []).filterMap fun watcher => (watcher.get? "globPattern").bind Json.str?

def ofJson? (registration : Json) : Option Registration := do
  let id ← (registration.get? "id").bind Json.str?
  let method ← (registration.get? "method").bind Json.str?
  return ⟨id, method, globsOf registration⟩

/-- the registrations that parameters list under a key -/
def list (key : String) (params : Json) : List Registration :=
  (((params.get? key).bind Json.items?).getD []).filterMap ofJson?

end Registration

/-- an editor that honours what a server registers -/
structure Editor where
  held : List Registration
  /-- an id was registered while it was held -/
  clashed : Bool
deriving DecidableEq, Repr

namespace Editor

def registerMethod : String := "client/registerCapability"

def unregisterMethod : String := "client/unregisterCapability"

/-- an editor of which nothing was asked yet -/
def fresh : Editor := ⟨[], false⟩

/-- the editor holds a registration under an id -/
def holds (editor : Editor) (id : String) : Bool :=
  editor.held.any fun r => r.id = id

def hear (editor : Editor) (call : Protocol.Call) : Editor :=
  if call.method = registerMethod then
    let new := Registration.list "registrations" call.params
    { held := editor.held ++ new, clashed := editor.clashed || new.any fun r => editor.holds r.id }
  else if call.method = unregisterMethod then
    let gone := (Registration.list "unregisterations" call.params).map Registration.id
    { editor with held := editor.held.filter fun r => !gone.contains r.id }
  else editor

/-- the globs that the editor watches under an id -/
def watches (editor : Editor) (id : String) : List String :=
  (editor.held.filter fun r => r.id = id && r.method = Protocol.watchedFilesMethod).flatMap Registration.globs

/-- the editor behind notices of a server -/
def hearAll (editor : Editor) (notices : List Notice) : Editor :=
  (notices.map Protocol.notice).foldl hear editor

/-- an editor that holds the watcher of a server for a glob, or nothing -/
def watching (glob : Option String) : Editor :=
  ⟨glob.toList.map fun glob => ⟨Protocol.watcherId, Protocol.watchedFilesMethod, [glob]⟩, false⟩

theorem watches_watching (glob : Option String) : (watching glob).watches Protocol.watcherId = glob.toList := by
  cases glob <;> simp [watching, watches]

theorem hear_unregister (glob : Option String) : (watching glob).hear (Protocol.notice .unregister) = watching none := by
  cases glob <;> rfl

/-- An editor that watches nothing can be asked to watch something. -/
theorem hearAll_register (glob : Option String) :
    (watching none).hearAll (glob.toList.map .register) = watching glob := by
  cases glob <;> rfl

theorem hearAll_append (editor : Editor) (notices more : List Notice) :
    editor.hearAll (notices ++ more) = (editor.hearAll notices).hearAll more := by
  rw [hearAll, List.map_append, List.foldl_append]
  rfl

end Editor

/-- a notice that registers or withdraws a watcher -/
def Notice.concernsWatcher : Notice → Bool
  | .log _ => false
  | _ => true

/-- Only notices that concern watchers count for what the editor holds. -/
theorem Editor.hearAll_filter (editor : Editor) (notices : List Notice) :
    editor.hearAll (notices.filter Notice.concernsWatcher) = editor.hearAll notices := by
  induction notices generalizing editor with
  | nil => rfl
  | cons notice notices ih =>
    cases notice with
    | log text =>
      rw [List.filter_cons_of_neg (by simp [Notice.concernsWatcher]), ih]
      rfl
    | register | unregister =>
      rw [List.filter_cons_of_pos rfl]
      exact ih _

/-- A notice that concerns no watcher is no call for a registration or against one. -/
theorem Notice.method_ne {notice : Notice} (h : notice.concernsWatcher = false) :
    (Protocol.notice notice).method ≠ Editor.registerMethod ∧
      (Protocol.notice notice).method ≠ Editor.unregisterMethod := by
  cases notice with
  | log text =>
    have hlog : (Protocol.notice (.log text)).method = "window/logMessage" := rfl
    rw [hlog]
    decide
  | register | unregister => cases h

/-! ## Messages -/

/-- the notices about watchers that a message leads to -/
def Session.watcherNotices (s : Session) (env : Env) : Request → List Notice
  | .initialized => (s.watched? env).toList.map .register
  | .configure settings =>
    let configured := { s with clientSettings := some settings }.reload env
    if configured.asksClient env then .unregister :: (configured.watched? env).toList.map .register else []
  | _ => []

namespace Session

theorem canWatch_outcome {s : Session} {env : Env} {request : Request} (h : request.isIntroduction = false) :
    (s.outcome env request).canWatch = s.canWatch := by
  cases request with
  | introduce => cases h
  | didChange url texts =>
    simp only [outcome, handle, didChange]
    split <;> rfl
  | configure settings =>
    rw [outcome_configure]
    rfl
  | initialized | shutdown | didOpen | didClose | didChangeFiles | completion => rfl

theorem watcherNotices_of_not_canWatch {s : Session} {env : Env} (h : s.canWatch = false) (request : Request) :
    s.watcherNotices env request = [] := by
  have hasks : s.asksClient env = false := by rw [asksClient, h, Bool.and_false]
  cases request with
  | initialized =>
    rw [watcherNotices, watched?, hasks]
    rfl
  | configure settings =>
    have hasks : ({ s with clientSettings := some settings }.reload env).asksClient env = false := hasks
    rw [watcherNotices, hasks]
    rfl
  | introduce | shutdown | didOpen | didChange | didClose | didChangeFiles | completion => rfl

/-- A change of settings withdraws the watcher of the old ones and registers that of the new ones. -/
theorem hearAll_configure {s : Session} {env : Env} (h : s.asksClient env = true) (glob : Option String) (settings : Json) :
    (Editor.watching glob).hearAll (s.watcherNotices env (.configure settings)) =
      Editor.watching (s.outcome env (.configure settings)).settings.watchGlob := by
  have hasks : ({ s with clientSettings := some settings }.reload env).asksClient env = true := h
  rw [watcherNotices, if_pos hasks, watched?, if_pos hasks, outcome_configure, Editor.hearAll, List.map_cons,
    List.foldl_cons, Editor.hear_unregister]
  exact Editor.hearAll_register _

end Session

namespace World

theorem notices_settle_of_pending_eq_none {n : Nat} {w : World} {reply : Reply} (h : reply.pending = none) :
    (settle n (w, reply)).2.notices = reply.notices := by
  cases n with
  | zero => rfl
  | succ n => rw [settle, h]

theorem filter_send_log (env : Env) (text : String) :
    (Session.send env [.log text]).filter Notice.concernsWatcher = [] := by
  rw [Session.send]
  split_ifs <;> rfl

/-- A scan ends with the registration of the watcher, if there is one to register. -/
theorem notices_settle_refresh (env : Env) (s : Session) (phase : Phase) (n : Nat) {reply : Reply} (before : List Notice)
    (hnotices : reply.notices = before ++ (s.refresh env).2.notices)
    (hpending : reply.pending = (s.refresh env).2.pending) :
    (settle (n + 1) (⟨env, s.rescan env, phase⟩, reply)).2.notices.filter Notice.concernsWatcher =
      before.filter Notice.concernsWatcher ++ (s.watched? env).toList.map .register := by
  have hwatched : (s.rescan env).watched? env = s.watched? env := rfl
  simp only [Session.refresh, Session.afterScan, hwatched] at hnotices hpending
  cases hglob : s.watched? env with
  | none =>
    simp only [hglob] at hnotices hpending
    rw [notices_settle_of_pending_eq_none hpending, hnotices, List.filter_append, Session.announcement,
      filter_send_log]
    rfl
  | some glob =>
    simp only [hglob] at hnotices hpending
    rw [settle, hpending]
    simp only [resume, Session.resume]
    rw [notices_settle_of_pending_eq_none rfl, hnotices, List.filter_append, List.filter_append, Session.announcement,
      filter_send_log, List.append_nil]
    rfl

/-- **The calls of one event** that concern watchers. -/
theorem notices_step (w : World) (e : Event) :
    (w.step e).2.notices.filter Notice.concernsWatcher =
      (w.heardAt e).flatMap (w.session.watcherNotices w.env) := by
  cases e with
  | write | delete | writeUserFile | relist => rfl
  | message request =>
    cases hrefusal : w.refusal? request.isIntroduction with
    | some failure =>
      have hreply : (w.receive request).2.notices = [] ∧ (w.receive request).2.pending = none := by
        rw [receive, hrefusal]
        split_ifs <;> exact ⟨rfl, rfl⟩
      have hheard : w.heardAt (.message request) = [] := by simp [heardAt, hrefusal]
      rw [step, hheard, notices_settle_of_pending_eq_none hreply.2, hreply.1]
      rfl
    | none =>
      have hheard : w.heardAt (.message request) = [request] := by simp [heardAt, hrefusal]
      rw [step, receive, hrefusal, hheard, List.flatMap_singleton]
      cases request with
      | initialized => exact notices_settle_refresh w.env w.session w.phase 1 [] (List.nil_append _).symm rfl
      | configure settings =>
        simp only [handle, Session.handle, Session.configure, Session.watcherNotices]
        generalize ({ w.session with clientSettings := some settings } : Session).reload w.env = configured
        split_ifs with hasks
        · exact notices_settle_refresh w.env configured w.phase 0 [.unregister] rfl rfl
        · refine Eq.trans (notices_settle_refresh w.env configured w.phase 1 [] ?_ ?_) ?_
          · exact (List.nil_append _).symm
          · rfl
          · rw [Session.watched?, if_neg hasks]
            rfl
      | didOpen | didClose => exact filter_send_log w.env _
      | introduce | shutdown | didChange | didChangeFiles | completion => rfl

/-! ## Runs -/

/-- what a server tells its client during a run -/
def sent : World → List Event → List Notice
  | _, [] => []
  | w, e :: events => (w.step e).2.notices ++ sent (w.step e).1 events

/-- the same as calls to the editor -/
def calls (w : World) (events : List Event) : List Protocol.Call :=
  (w.sent events).map Protocol.notice

/-- a client has introduced itself, and lets the server register watchers or not -/
structure Introduced (w : World) (canWatch : Bool) : Prop where
  client : w.env.client ≠ none
  phase : w.phase ≠ .starting
  canWatch : w.session.canWatch = canWatch

theorem Introduced.asksClient {w : World} {canWatch : Bool} (h : w.Introduced canWatch) :
    w.session.asksClient w.env = canWatch := by
  rw [Session.asksClient, h.canWatch, Option.isSome_iff_ne_none.2 h.client, Bool.true_and]

theorem Introduced.isIntroduction_eq_false {w : World} {canWatch : Bool} (h : w.Introduced canWatch) {request : Request}
    (hheard : w.refusal? request.isIntroduction = none) : request.isIntroduction = false := by
  have hphase := phase_of_heard h.client hheard
  cases hintroduction : request.isIntroduction with
  | false => rfl
  | true =>
    rw [hintroduction] at hphase
    exact absurd hphase h.phase

theorem step_introduce {w : World} (hclient : w.env.client ≠ none) (hphase : w.phase = .starting) (intro : Introduction) :
    (w.step (.message (.introduce intro))).1 =
      { w with session := w.session.outcome w.env (.introduce intro), phase := .running } := by
  refine step_message ?_
  rw [refusal?, hphase, if_neg (by simpa using hclient)]
  rfl

theorem filter_notices_introduce (w : World) (intro : Introduction) :
    (w.step (.message (.introduce intro))).2.notices.filter Notice.concernsWatcher = [] := by
  rw [notices_step, heardAt]
  split_ifs <;> rfl

theorem Introduced.step {w : World} {canWatch : Bool} (h : w.Introduced canWatch) (e : Event) :
    (w.step e).1.Introduced canWatch := by
  rcases w.step_cases e with ⟨_, hsession, hphase, hclient⟩ | ⟨request, hheard, _, _, hstep⟩
  · exact ⟨hclient ▸ h.client, hphase ▸ h.phase, hsession ▸ h.canWatch⟩
  · rw [hstep]
    refine ⟨h.client, Phase.after_ne_starting (phase_of_heard h.client hheard), ?_⟩
    rw [Session.canWatch_outcome (h.isIntroduction_eq_false hheard)]
    exact h.canWatch

/-- **A server without dynamic registration** sends no notice about watchers. -/
theorem filter_sent {w : World} (h : w.Introduced false) (events : List Event) :
    (w.sent events).filter Notice.concernsWatcher = [] := by
  induction events generalizing w with
  | nil => rfl
  | cons e events ih =>
    rw [sent, List.filter_append, ih (h.step e), List.append_nil, notices_step, List.flatMap_eq_nil_iff]
    intro request hrequest
    exact Session.watcherNotices_of_not_canWatch h.canWatch request

/-- **One event.** An editor that watches what the settings ask for watches what they ask for behind the event. -/
theorem Introduced.hearAll_step {w : World} (h : w.Introduced true) {e : Event} (he : e ≠ .message .initialized) :
    (Editor.watching w.session.settings.watchGlob).hearAll (w.step e).2.notices =
      Editor.watching (w.step e).1.session.settings.watchGlob := by
  rw [← Editor.hearAll_filter, notices_step]
  rcases w.step_cases e with ⟨hheard, hsession, _⟩ | ⟨request, hrefusal, rfl, hheard, hstep⟩
  · rw [hheard, hsession]
    rfl
  · rw [hheard, hstep, List.flatMap_singleton]
    have hintroduction := h.isIntroduction_eq_false hrefusal
    cases request with
    | introduce => cases hintroduction
    | initialized => exact absurd rfl he
    | configure settings =>
      exact Session.hearAll_configure h.asksClient _ settings
    | shutdown | didOpen | didChange | didClose | didChangeFiles | completion =>
      rw [Session.settings_outcome rfl]
      rfl

/-- **Every run** keeps the editor at what the settings ask for. -/
theorem Introduced.hearAll_sent {w : World} (h : w.Introduced true) {events : List Event}
    (hevents : ∀ e ∈ events, e ≠ .message .initialized) :
    (Editor.watching w.session.settings.watchGlob).hearAll (w.sent events) =
      Editor.watching (w.run events).session.settings.watchGlob := by
  induction events generalizing w with
  | nil => rfl
  | cons e events ih =>
    rw [sent, Editor.hearAll_append, h.hearAll_step (hevents e (by simp))]
    exact ih (h.step e) fun later hlater => hevents later (by simp [hlater])

/-- The first scan ends with the registration of the watcher that the settings ask for. -/
theorem Introduced.hearAll_initialized {w : World} (h : w.Introduced true) (hphase : w.phase = .running) :
    Editor.fresh.hearAll (w.step (.message .initialized)).2.notices =
      Editor.watching (w.step (.message .initialized)).1.session.settings.watchGlob := by
  have hheard : w.refusal? Request.initialized.isIntroduction = none := by
    rw [refusal?, hphase, if_neg (by simpa using h.client)]
    rfl
  have hheardAt : w.heardAt (.message .initialized) = [.initialized] := by simp [heardAt, hheard]
  have hsettings : (w.session.outcome w.env .initialized).settings = w.session.settings := Session.settings_outcome rfl
  rw [← Editor.hearAll_filter, notices_step, hheardAt, List.flatMap_singleton, step_message hheard, hsettings,
    Session.watcherNotices, Session.watched?, if_pos h.asksClient]
  exact Editor.hearAll_register _

/-- The whole of a session, from its introduction. -/
theorem hearAll_sent_introduce {w : World} (hclient : w.env.client ≠ none) (hphase : w.phase = .starting)
    {intro : Introduction} (hwatch : intro.canWatch = true) {more : List Event}
    (hmore : ∀ e ∈ more, e ≠ .message .initialized) :
    Editor.fresh.hearAll (w.sent (.message (.introduce intro) :: .message .initialized :: more)) =
      Editor.watching
        (w.run (.message (.introduce intro) :: .message .initialized :: more)).session.settings.watchGlob := by
  have hstep := step_introduce hclient hphase intro
  have hintroduced : (w.step (.message (.introduce intro))).1.Introduced true := by
    rw [hstep]
    exact ⟨hclient, by simp, hwatch⟩
  have hfresh : Editor.fresh.hearAll (w.step (.message (.introduce intro))).2.notices = .fresh := by
    rw [← Editor.hearAll_filter, filter_notices_introduce]
    rfl
  rw [sent, sent, Editor.hearAll_append, hfresh, Editor.hearAll_append, hintroduced.hearAll_initialized (by rw [hstep])]
  exact (hintroduced.step _).hearAll_sent hmore

end World

/-- **The editor watches exactly what the settings ask for.** An editor with dynamic registration that honours every call
watches, after its introduction, one initialization and whatever comes then, the glob of the settings in force under the id
of the server, and nothing if there is no glob; and it was never asked to register an id that it held. An editor without
dynamic registration gets no call for a registration or against one at all. -/
theorem watchers_follow_settings (env : Env) (root : Option FilePath) (hclient : env.client.isSome = true)
    (intro : Introduction) (more : List Event) :
    (intro.canWatch = true → (∀ e ∈ more, e ≠ .message .initialized) →
      let events : List Event := .message (.introduce intro) :: .message .initialized :: more
      let editor := ((World.start env root).calls events).foldl Editor.hear .fresh
      editor.watches Protocol.watcherId = ((World.start env root).run events).session.settings.watchGlob.toList ∧
        editor.clashed = false) ∧
    (intro.canWatch = false → ∀ call ∈ (World.start env root).calls (.message (.introduce intro) :: more),
      call.method ≠ Editor.registerMethod ∧ call.method ≠ Editor.unregisterMethod) := by
  have hstart : (World.start env root).env.client ≠ none := Option.isSome_iff_ne_none.1 hclient
  refine ⟨fun hwatch hmore => ?_, fun hwatch call hcall => ?_⟩
  · intro events editor
    have heditor : editor = .watching ((World.start env root).run events).session.settings.watchGlob :=
      World.hearAll_sent_introduce hstart rfl hwatch hmore
    rw [heditor]
    exact ⟨Editor.watches_watching _, rfl⟩
  · have hstep := World.step_introduce hstart rfl intro
    have hintroduced : ((World.start env root).step (.message (.introduce intro))).1.Introduced false := by
      rw [hstep]
      exact ⟨hstart, by simp, hwatch⟩
    obtain ⟨notice, hnotice, rfl⟩ := List.mem_map.1 hcall
    refine Notice.method_ne (Bool.eq_false_iff.2 (List.filter_eq_nil_iff.1 ?_ notice hnotice))
    rw [World.sent, List.filter_append, World.filter_notices_introduce, World.filter_sent hintroduced, List.append_nil]

/-- The settings turn both sources off, so that nothing is watched, and then one of them on again. -/
theorem watchers_off_and_on :
    let source (on : Bool) : Json := .obj [("enabled", .bool on), ("extensions", .arr [.str "css"])]
    let settings (on : Bool) : Json := .obj [("classNames", source on), ("mixins", source false)]
    let start := World.start ⟨.empty, none, id, some ⟨false⟩, id⟩ none
    let introduction (canWatch : Bool) : Introduction := ⟨[], none, none, canWatch⟩
    let events (canWatch : Bool) : List Event :=
      [.message (.introduce (introduction canWatch)), .message .initialized, .message (.configure (settings false)),
        .message (.configure (settings true))]
    let editor (n : Nat) := (start.calls ((events true).take n)).foldl Editor.hear .fresh
    (editor 3).watches Protocol.watcherId = [] ∧ (editor 4).watches Protocol.watcherId = ["**/*.css"] ∧
      (editor 4).clashed = false ∧ (∀ call ∈ start.calls (events false), call.method ≠ Editor.registerMethod) := by
  intro source settings start introduction events editor
  have hwatch := watchers_follow_settings ⟨.empty, none, id, some ⟨false⟩, id⟩ none rfl
  have hoff := (hwatch (introduction true) [.message (.configure (settings false))]).1 rfl (by simp)
  have hon := (hwatch (introduction true) [.message (.configure (settings false)), .message (.configure (settings true))]).1
    rfl (by simp)
  have hnone := (hwatch (introduction false) (events false).tail).2 rfl
  refine ⟨hoff.1.trans (by decide +kernel), hon.1.trans (by decide +kernel), hon.2, fun call hcall => (hnone call hcall).1⟩

end StyleIndex
