/-
A connection whose editor answers at once runs as a world does.

A connection handles other messages while it waits for the editor to answer a request, and `World.step` lets the client
answer before anything else happens. The two come together where the editor answers what it is asked before it sends its next
message: `Connection.turn` is such an exchange, or a change outside between two of them. `Mirrors` ties a connection to a
world in the middle of a step, with what is left to do as the one piece of work that waits. A message begins such a step
(`Quiet.receive`), and each answer of the editor goes on with it (`Mirrors.answer`).

A message leads to two requests at most, as the number of requests that may follow falls with each answer
(`Session.more_resume_lt`). So a turn ends with nothing waiting, and with the world that its events lead to (`Quiet.turn`).
Over a run, `play_eq_run` takes the laws of `World.run` to such a connection.
-/
import Mathlib.Tactic
import StyleIndex.Connection
import StyleIndex.Proofs.Session

namespace StyleIndex

/-! ## Reading calls -/

namespace Params

theorem isIntroduction_didOpen? {params : Json} {request : Request} (h : didOpen? params = some request) :
    request.isIntroduction = false := by
  simp only [didOpen?] at h
  split at h
  · split at h
    · simp only [bind, pure, Option.bind_eq_some_iff] at h
      obtain ⟨_, _, _, _, _, _, _, _, h⟩ := h
      obtain rfl := Option.some.inj h
      rfl
    · cases h
  · cases h

theorem isIntroduction_didChange? {params : Json} {request : Request} (h : didChange? params = some request) :
    request.isIntroduction = false := by
  simp only [didChange?] at h
  split at h
  · split at h
    · simp only [bind, pure, Option.bind_eq_some_iff] at h
      obtain ⟨_, _, _, _, _, _, h⟩ := h
      obtain rfl := Option.some.inj h
      rfl
    · cases h
  · cases h

theorem isIntroduction_didClose? {params : Json} {request : Request} (h : didClose? params = some request) :
    request.isIntroduction = false := by
  simp only [didClose?] at h
  split at h
  · obtain ⟨_, _, rfl⟩ := Option.map_eq_some_iff.1 h
    rfl
  · cases h

theorem isIntroduction_didChangeFiles? {params : Json} {request : Request} (h : didChangeFiles? params = some request) :
    request.isIntroduction = false := by
  simp only [didChangeFiles?] at h
  split at h
  · obtain ⟨_, _, rfl⟩ := Option.map_eq_some_iff.1 h
    rfl
  · cases h

theorem isIntroduction_configure? {params : Json} {request : Request} (h : configure? params = some request) :
    request.isIntroduction = false := by
  simp only [configure?] at h
  split at h
  · obtain rfl := Option.some.inj h
    rfl
  · cases h

theorem isIntroduction_completion? {params : Json} {request : Request} (h : completion? params = some request) :
    request.isIntroduction = false := by
  cases params with
  | obj entries =>
    simp only [completion?, bind, pure, Option.bind_eq_some_iff] at h
    obtain ⟨_, _, _, _, _, _, _, _, _, _, h⟩ := h
    obtain rfl := Option.some.inj h
    rfl
  | _ => cases h

end Params

namespace Method

/-- A call is read as an introduction exactly if its method starts a connection. -/
theorem isIntroduction_of_reader? {method : String} {reader : Json → Option Request} (hreader : reader? method = some reader)
    {params : Json} {request : Request} (h : reader params = some request) :
    request.isIntroduction = decide (method = start) := by
  unfold reader? at hreader
  by_cases hstart : method = start
  · rw [if_pos hstart] at hreader
    obtain rfl := Option.some.inj hreader
    obtain ⟨intro, _, rfl⟩ := Option.map_eq_some_iff.1 h
    rw [hstart]
    rfl
  · rw [if_neg hstart] at hreader
    rw [decide_eq_false hstart]
    split_ifs at hreader <;> obtain rfl := Option.some.inj hreader
    · obtain ⟨_, _, rfl⟩ := Option.map_eq_some_iff.1 h
      rfl
    · exact Params.isIntroduction_didOpen? h
    · exact Params.isIntroduction_didChange? h
    · exact Params.isIntroduction_didClose? h
    · exact Params.isIntroduction_didChangeFiles? h
    · exact Params.isIntroduction_configure? h
    · exact Params.isIntroduction_completion? h

/-- A call that is read has parameters that its method's reader takes, or it is one to stop. -/
theorem read_eq_ok {method : String} {params : Option Json} {request : Request} (h : read method params = .ok request) :
    method = stop ∧ request = .shutdown ∨
      method ≠ stop ∧ ∃ reader value, reader? method = some reader ∧ params = some value ∧ reader value = some request := by
  unfold read at h
  split_ifs at h with hstop
  · cases params with
    | none => exact Or.inl ⟨hstop, (Except.ok.inj h).symm⟩
    | some value => cases h
  · refine Or.inr ⟨hstop, ?_⟩
    cases params with
    | none => cases h
    | some value =>
      cases hreader : reader? method with
      | none => simp [hreader] at h
      | some reader =>
        simp only [hreader] at h
        cases hrequest : reader value with
        | none => simp [hrequest] at h
        | some found =>
          rw [hrequest] at h
          exact ⟨reader, value, rfl, rfl, hrequest.trans (congrArg some (Except.ok.inj h))⟩

theorem isIntroduction_of_read {method : String} {params : Option Json} {request : Request}
    (h : read method params = .ok request) : request.isIntroduction = decide (method = start) := by
  rcases read_eq_ok h with ⟨rfl, rfl⟩ | ⟨_, reader, value, hreader, _, hrequest⟩
  · rfl
  · exact isIntroduction_of_reader? hreader hrequest

/-- A method that may be called in every phase is never read. -/
theorem isAlwaysAllowed_of_read {method : String} {params : Option Json} {request : Request}
    (h : read method params = .ok request) : isAlwaysAllowed method = false := by
  rcases read_eq_ok h with ⟨rfl, rfl⟩ | ⟨_, reader, value, hreader, _, _⟩
  · decide
  · rw [isAlwaysAllowed, Bool.or_eq_false_iff, decide_eq_false_iff_not, decide_eq_false_iff_not]
    constructor
    · rintro rfl
      simp [reader?, exit, start, Protocol.watchedFilesMethod] at hreader
    · rintro rfl
      simp [reader?, cancel, start, Protocol.watchedFilesMethod] at hreader

end Method

/-! ## Chains of requests -/

/-- how many requests to the client may follow the one that waits for its answer -/
def Pending.more : Pending → Nat
  | .rescan => 1
  | .announcement _ => 0

namespace Session

/-- A scan leads to one request at most. -/
theorem more_afterScan_lt (s : Session) (env : Env) (files : Nat) : ∀ p ∈ (s.afterScan env files).pending, p.more < 1 := by
  intro p hp
  simp only [afterScan] at hp
  split at hp
  · obtain rfl := Option.some.inj hp
    exact Nat.lt_succ_self 0
  · cases hp

/-- Each answer brings the end of the chain nearer. -/
theorem more_resume_lt (s : Session) (env : Env) (refused : Bool) (pending : Pending) :
    ∀ p ∈ (s.resume env refused pending).2.pending, p.more < pending.more := by
  cases pending with
  | rescan => exact more_afterScan_lt _ env _
  | announcement files =>
    intro p hp
    cases hp

theorem more_handle_lt (s : Session) (env : Env) (request : Request) :
    ∀ p ∈ (s.handle env request).2.pending, p.more < World.maxRequests := by
  cases request with
  | initialized => exact fun p hp => Nat.lt_succ_of_lt (more_afterScan_lt _ env _ p hp)
  | configure settings =>
    intro p hp
    simp only [handle, configure] at hp
    split at hp
    · obtain rfl := Option.some.inj hp
      exact Nat.lt_succ_self 1
    · exact Nat.lt_succ_of_lt (more_afterScan_lt _ env _ p hp)
  | introduce | shutdown | didOpen | didChange | didClose | didChangeFiles | completion =>
    intro p hp
    cases hp

end Session

namespace World

theorem more_receive_lt (w : World) (request : Request) : ∀ p ∈ (w.receive request).2.pending, p.more < maxRequests := by
  rw [receive]
  split
  · intro p hp
    split_ifs at hp <;> cases hp
  · exact Session.more_handle_lt w.session w.env request

/-- A chain that is no longer than the number of answers comes to its end. -/
theorem pending_settle {n : Nat} {w : World} {reply : Reply} (h : ∀ p ∈ reply.pending, p.more < n) :
    (settle n (w, reply)).2.pending = none := by
  induction n generalizing w reply with
  | zero =>
    rw [settle, Option.eq_none_iff_forall_not_mem]
    exact fun p hp => Nat.not_lt_zero _ (h p hp)
  | succ n ih =>
    rw [settle]
    cases hpending : reply.pending with
    | none => exact hpending
    | some pending =>
      have hnext := Session.more_resume_lt w.session w.env (w.env.client = some ⟨true⟩) pending
      exact ih fun p hp => Nat.lt_of_lt_of_le (hnext p hp) (Nat.le_of_lt_succ (h pending hpending))

/-- **Nothing is left to do behind a step**: the client is asked `maxRequests` times at most. -/
theorem pending_step (w : World) (e : Event) : (w.step e).2.pending = none := by
  cases e with
  | message request => exact pending_settle (more_receive_lt w request)
  | write | delete | writeUserFile | relist => rfl

end World

namespace Connection

/-! ## Exchanges -/

/-- the answer of an editor to the request with an id -/
def answerTo (id : Json) (accepted : Bool) : Json :=
  .obj ([("jsonrpc", .str Message.version), ("id", id)] ++
    if accepted then [("result", .null)] else [("error", .obj [("code", .int 0), ("message", .str "")])])

/-- the editor of this connection accepts what it is asked -/
def accepts (c : Connection) : Bool :=
  c.world.env.client ≠ some ⟨true⟩

/-- the editor answers what waits for it, one request after the other, up to a number of times -/
def answerAll : Nat → Connection → Connection
  | 0, c => c
  | n + 1, c =>
    match c.waiting with
    | [] => c
    | (id, _) :: _ => answerAll n (c.receive (answerTo (.int id) c.accepts)).1

/-- what happens to a connection whose editor answers at once -/
inductive Turn where
  /-- a message arrives, and the editor answers what the server asks it for -/
  | message (message : Json)
  /-- something changes outside -/
  | change (e : Event) (outside : ∀ request, e ≠ .message request)

/-- one turn -/
def turn (c : Connection) : Turn → Connection
  | .message message => answerAll World.maxRequests (c.receive message).1
  | .change e _ => { c with world := (c.world.step e).1 }

/-- the connection after a number of turns -/
def play (c : Connection) (turns : List Turn) : Connection :=
  turns.foldl turn c

/-- the message for the session that a call is -/
def Outcome.request? : Outcome → Option Request
  | .accepted request => some request
  | _ => none

/-- the message for the session that comes of a call, if one does. A call to stop counts as soon as the phase admits it,
however badly it is made. -/
def called? (c : Connection) (method : String) (params : Option Json) (hasId : Bool) : Option Request :=
  if method = Method.stop && (c.gate? method).isNone then some .shutdown else (c.outcome method params hasId).request?

/-- the message for the session that comes of a message of the editor -/
def request? (c : Connection) (message : Json) : Option Request :=
  match Message.ofJson? message with
  | some (.call method params id) => c.called? method params id.isSome
  | _ => none

/-- the events that a turn comes to -/
def eventsOf (c : Connection) : Turn → List Event
  | .message message => (c.request? message).toList.map .message
  | .change e _ => [e]

/-- the events that turns come to, one after another -/
def events : Connection → List Turn → List Event
  | _, [] => []
  | c, t :: turns => c.eventsOf t ++ events (c.turn t) turns

/-- a message of the editor that does not end the connection -/
def Continues : Turn → Prop
  | .message message => ∃ m, Message.ofJson? message = some m ∧ ∀ params id, m ≠ .call Method.exit params id
  | .change _ _ => True

/-- ids from this one on are no integers of 64 bits, and no editor can answer under them -/
def idLimit : Nat := 0x8000000000000000

/-- nothing waits, neither for the editor nor for its turn, and the connection goes on -/
structure Quiet (c : Connection) : Prop where
  waiting : c.waiting = []
  queue : c.queue = []
  exited : c.exited = false
  ended : c.ended = false

/-- a connection with its world in the middle of a step: what is left to do is the one piece of work that waits, and the
requests that may follow get ids up to a limit -/
structure Mirrors (limit : Nat) (c : Connection) (w : World) (pending : Option Pending) : Prop where
  world : c.world = w
  waiting : c.waiting = (pending.map fun p => (c.nextId - 1, p)).toList
  ids : c.nextId + pending.elim 0 Pending.more ≤ limit
  queue : c.queue = []
  exited : c.exited = false
  ended : c.ended = false

theorem Mirrors.quiet {limit : Nat} {c : Connection} {w : World} (h : Mirrors limit c w none) : c.Quiet :=
  ⟨h.waiting, h.queue, h.exited, h.ended⟩

theorem start_quiet (w : World) : (start w).Quiet :=
  ⟨rfl, rfl, rfl, rfl⟩

variable {c : Connection} {limit : Nat}

/-! ## Answers -/

theorem isId_ofNat {id : Nat} (hid : id < idLimit) : Message.isId (.int id) = true := by
  simp only [idLimit] at hid
  simp only [Message.isId, Message.isInt64, Bool.and_eq_true, decide_eq_true_eq]
  omega

/-- An answer reads as what it is. -/
theorem ofJson?_answerTo {id : Json} (hid : Message.isId id = true) (accepted : Bool) :
    Message.ofJson? (answerTo id accepted) = some (.answer id accepted) := by
  have herror : Message.isError (.obj [("code", .int 0), ("message", .str "")]) = true := by decide
  have hanswer : Message.answer? (answerTo id accepted) = some (.answer id accepted) := by
    cases accepted <;>
      simp [answerTo, Message.answer?, Json.get?, List.lookup_cons, Message.isVersion, Json.str?, Option.filter, hid, herror]
  rw [Message.ofJson?, hanswer, Option.some_or]

theorem receive_answer (hexited : c.exited = false) (hended : c.ended = false) {message id : Json} {accepted : Bool}
    (hreads : Message.ofJson? message = some (.answer id accepted)) :
    c.receive message = { c with warnings := [] }.resume id accepted := by
  rw [receive, hreads]
  exact if_neg (by simp [hended, hexited])

theorem resume_of_answered {id : Json} {n : Nat} {pending : Pending} (h : c.answered? id = some (n, pending))
    (accepted : Bool) :
    (c.resume id accepted).1 =
      (({ c with
          world := (c.world.resume (!accepted) pending).1
          waiting := c.waiting.filter fun w => w.1 ≠ n }.carryOut
            (c.world.resume (!accepted) pending).2).1.workOn []).1 := by
  rw [resume, h]

/-- A reply that is sent leaves waiting what it has pending. -/
theorem Quiet.carryOut (h : c.Quiet) {reply : Reply} (hids : c.nextId ≤ limit)
    (hmore : ∀ p ∈ reply.pending, c.nextId + p.more < limit) : Mirrors limit (c.carryOut reply).1 c.world reply.pending := by
  rw [Connection.carryOut]
  cases hpending : reply.pending with
  | none => exact ⟨rfl, h.waiting, hids, h.queue, h.exited, h.ended⟩
  | some pending =>
    refine ⟨rfl, by simp [h.waiting], ?_, h.queue, h.exited, h.ended⟩
    have hlast := hmore pending hpending
    simp only [Option.elim_some]
    omega

theorem Mirrors.workOn_nil {w : World} {pending : Option Pending} (h : Mirrors limit c w pending) :
    Mirrors limit (c.workOn []).1 w pending := by
  cases c
  obtain rfl := h.queue
  exact h

theorem not_accepts (c : Connection) : (!c.accepts) = decide (c.world.env.client = some ⟨true⟩) := by
  simp [accepts]

/-- **An answer of the editor** lets the world go on with what is left to do. -/
theorem Mirrors.answer (hlimit : limit ≤ idLimit) {w : World} {pending : Pending} (h : Mirrors limit c w (some pending)) :
    Mirrors limit (c.receive (answerTo (.int (c.nextId - 1 : Nat)) c.accepts)).1
      (w.resume (w.env.client = some ⟨true⟩) pending).1 (w.resume (w.env.client = some ⟨true⟩) pending).2.pending := by
  obtain ⟨rfl, hwaiting, hids, hqueue, hexited, hended⟩ := h
  rw [Option.elim_some] at hids
  have hid : c.nextId - 1 < idLimit := by
    have hpositive : 0 < idLimit := Nat.lt_of_sub_eq_succ rfl
    omega
  have hanswered : answered? { c with warnings := [] } (.int (c.nextId - 1 : Nat)) = some (c.nextId - 1, pending) := by
    simp [answered?, Json.nat?, hwaiting]
  have hnone : (c.waiting.filter fun w => w.1 ≠ c.nextId - 1) = [] := by simp [hwaiting]
  rw [receive_answer hexited hended (ofJson?_answerTo (isId_ofNat hid) _), resume_of_answered hanswered, not_accepts]
  generalize decide (c.world.env.client = some ⟨true⟩) = refused
  apply Mirrors.workOn_nil
  apply Quiet.carryOut
  · exact ⟨hnone, hqueue, hexited, hended⟩
  · exact (Nat.le_add_right _ _).trans hids
  · intro p hp
    have hnext := Session.more_resume_lt c.world.session c.world.env refused pending p hp
    simp only
    omega

/-- **The editor answers all it is asked**, and the world settles. -/
theorem Mirrors.answerAll (hlimit : limit ≤ idLimit) {n : Nat} {w : World} {reply : Reply}
    (h : Mirrors limit c w reply.pending) :
    Mirrors limit (answerAll n c) (World.settle n (w, reply)).1 (World.settle n (w, reply)).2.pending := by
  induction n generalizing c w reply with
  | zero => exact h
  | succ n ih =>
    rw [Connection.answerAll, World.settle]
    cases hpending : reply.pending with
    | none =>
      rw [hpending] at h
      have hwaiting : c.waiting = [] := h.waiting
      simp only [hwaiting, hpending]
      exact h
    | some pending =>
      rw [hpending] at h
      have hwaiting : c.waiting = [(c.nextId - 1, pending)] := h.waiting
      simp only [hwaiting]
      exact ih (h.answer hlimit)

/-! ## Calls -/

theorem outcome_eq_accepted {method : String} {params : Option Json} {hasId : Bool} {request : Request}
    (h : c.outcome method params hasId = .accepted request) :
    c.gate? method = none ∧ Method.read method params = .ok request := by
  unfold outcome at h
  cases hstyle : Method.style? method with
  | none =>
    simp only [hstyle] at h
    split_ifs at h
  | some style =>
    cases hgate : c.gate? method with
    | some failure => simp [hstyle, hgate] at h
    | none =>
      refine ⟨rfl, ?_⟩
      cases hread : Method.read method params with
      | error error => cases style <;> simp only [hstyle, hgate, hread] at h <;> split_ifs at h
      | ok found =>
        cases style <;> simp only [hstyle, hgate, hread] at h <;> split_ifs at h <;>
          exact congrArg Except.ok (Outcome.accepted.inj h)

/-- What a call is accepted as gets through to the session. -/
theorem receive_of_accepted {method : String} {params : Option Json} {hasId : Bool} {request : Request}
    (h : c.outcome method params hasId = .accepted request) : c.world.receive request = c.world.handle request := by
  obtain ⟨hgate, hread⟩ := outcome_eq_accepted h
  rw [gate?, Method.isAlwaysAllowed_of_read hread, ← Method.isIntroduction_of_read hread] at hgate
  rw [World.receive, show c.world.refusal? request.isIntroduction = none from hgate]

theorem receive_shutdown (h : c.gate? Method.stop = none) :
    c.world.receive .shutdown = ({ c.world with phase := .stopped }, {}) := by
  rw [World.receive, show c.world.refusal? Request.shutdown.isIntroduction = none from h]
  rfl

theorem receive_call (hexited : c.exited = false) (hended : c.ended = false) {message : Json} {method : String}
    {params id : Option Json} (hreads : Message.ofJson? message = some (.call method params id)) :
    c.receive message =
      ({ c with warnings := [] }.noteCall method).workOn (task? (c.outcome method params id.isSome) id).toList := by
  rw [receive, hreads]
  exact if_neg (by simp [hended, hexited])

theorem noteCall_of_stops (h : c.gate? Method.stop = none) :
    c.noteCall Method.stop = { c with world := { c.world with phase := .stopped } } := by
  rw [noteCall, if_neg (by decide), h]
  rfl

theorem Quiet.workOn_singleton (h : c.Quiet) (task : Task) : (c.workOn [task]).1 = (c.perform task).1 := by
  cases c
  obtain rfl := h.waiting
  obtain rfl := h.queue
  rfl

/-- The work of one call is done at once while nothing waits. -/
theorem Quiet.workOn (h : c.Quiet) (hids : c.nextId + World.maxRequests ≤ limit) (outcome : Outcome) (id : Option Json) :
    Mirrors limit (c.workOn (task? outcome id).toList).1
      (outcome.request?.elim c.world fun request => (c.world.handle request).1)
      (outcome.request?.bind fun request => (c.world.handle request).2.pending) := by
  have hnothing : Mirrors limit c c.world none :=
    ⟨rfl, h.waiting, (Nat.le_add_right _ _).trans hids, h.queue, h.exited, h.ended⟩
  cases outcome with
  | ignored => exact hnothing.workOn_nil
  | refused error =>
    cases id with
    | none => exact hnothing.workOn_nil
    | some id =>
      rw [show (task? (.refused error) (some id)).toList = [.answer (failure id error)] from rfl, h.workOn_singleton]
      exact hnothing
  | accepted request =>
    rw [show (task? (.accepted request) id).toList = [.handle request id] from rfl, h.workOn_singleton]
    apply Quiet.carryOut
    · exact ⟨h.waiting, h.queue, h.exited, h.ended⟩
    · exact (Nat.le_add_right _ _).trans hids
    · intro p hp
      exact Nat.lt_of_lt_of_le (Nat.add_lt_add_left (Session.more_handle_lt _ _ request p hp) _) hids

/-- **A call** does to the world what the message does that comes of it. -/
theorem Quiet.call (h : c.Quiet) (hids : c.nextId + World.maxRequests ≤ limit) {method : String}
    (hexit : method ≠ Method.exit) (params id : Option Json) :
    Mirrors limit ((c.noteCall method).workOn (task? (c.outcome method params id.isSome) id).toList).1
      ((c.called? method params id.isSome).elim c.world fun request => (c.world.receive request).1)
      ((c.called? method params id.isSome).bind fun request => (c.world.receive request).2.pending) := by
  rw [called?]
  split_ifs with hstop
  · obtain ⟨rfl, hgate⟩ : method = Method.stop ∧ c.gate? method = none := by simpa using hstop
    -- the session is stopped by now, and so it is behind the work of the call
    have hstopped : Quiet { c with world := { c.world with phase := .stopped } } :=
      ⟨h.waiting, h.queue, h.exited, h.ended⟩
    have hwork := hstopped.workOn hids (c.outcome Method.stop params id.isSome) id
    rw [noteCall_of_stops hgate, Option.elim_some, Option.bind_some, receive_shutdown hgate]
    cases houtcome : c.outcome Method.stop params id.isSome with
    | ignored | refused =>
      rw [houtcome] at hwork
      exact hwork
    | accepted request =>
      rw [houtcome] at hwork
      obtain ⟨-, rfl⟩ := (Method.read_eq_ok (outcome_eq_accepted houtcome).2).resolve_right fun h => h.1 rfl
      exact hwork
  · have hwork := h.workOn hids (c.outcome method params id.isSome) id
    rw [noteCall, if_neg hexit, if_neg hstop]
    cases houtcome : c.outcome method params id.isSome with
    | ignored | refused =>
      rw [houtcome] at hwork
      exact hwork
    | accepted request =>
      rw [houtcome] at hwork
      rw [Outcome.request?, Option.elim_some, Option.bind_some, receive_of_accepted houtcome]
      exact hwork

/-- **A message of the editor** does to the world what comes of it for the session. -/
theorem Quiet.receive (h : c.Quiet) (hids : c.nextId + World.maxRequests ≤ limit) {message : Json}
    (hcontinues : Continues (.message message)) :
    Mirrors limit (c.receive message).1 ((c.request? message).elim c.world fun request => (c.world.receive request).1)
      ((c.request? message).bind fun request => (c.world.receive request).2.pending) := by
  have hheard : Quiet { c with warnings := [] } := ⟨h.waiting, h.queue, h.exited, h.ended⟩
  obtain ⟨m, hreads, hexit⟩ := hcontinues
  cases m with
  | answer id accepted =>
    have hanswered : answered? { c with warnings := [] } id = none := by simp [answered?, h.waiting]
    rw [receive_answer h.exited h.ended hreads, resume, hanswered, request?, hreads]
    exact ⟨rfl, h.waiting, (Nat.le_add_right _ _).trans hids, h.queue, h.exited, h.ended⟩
  | call method params id =>
    rw [receive_call h.exited h.ended hreads, request?, hreads]
    exact hheard.call hids (fun heq => hexit params id (by rw [heq])) params id

/-! ## Turns -/

/-- **One turn** of a connection is what its events do to its world, and it leaves nothing waiting. -/
theorem Quiet.turn (h : c.Quiet) (hids : c.nextId + World.maxRequests ≤ limit) (hlimit : limit ≤ idLimit) {t : Turn}
    (hcontinues : Continues t) : Mirrors limit (c.turn t) (c.world.run (c.eventsOf t)) none := by
  cases t with
  | change e outside => exact ⟨rfl, h.waiting, (Nat.le_add_right _ _).trans hids, h.queue, h.exited, h.ended⟩
  | message message =>
    have hreceived := h.receive hids hcontinues
    rw [Connection.turn, eventsOf]
    cases hrequest : c.request? message with
    | none =>
      rw [hrequest] at hreceived
      have hanswered : Mirrors limit (answerAll World.maxRequests (c.receive message).1)
          (World.settle World.maxRequests (c.world, {})).1 (World.settle World.maxRequests (c.world, {})).2.pending :=
        Mirrors.answerAll hlimit hreceived
      exact hanswered
    | some request =>
      rw [hrequest, Option.elim_some, Option.bind_some] at hreceived
      have hanswered : Mirrors limit (answerAll World.maxRequests (c.receive message).1)
          (c.world.step (.message request)).1 (c.world.step (.message request)).2.pending :=
        Mirrors.answerAll hlimit hreceived
      rw [World.pending_step] at hanswered
      exact hanswered

/-- **A connection whose editor answers at once runs as a world does.** Let nothing wait, and let messages arrive that do not
end the connection, and things change outside, in any order. If the editor answers every request of the server before it
goes on, and the ids for the requests last, then nothing waits in the end, and the world of the connection is the one that
the messages and the changes lead to. -/
theorem play_eq_run (h : c.Quiet) {turns : List Turn} (hcontinues : ∀ t ∈ turns, Continues t)
    (hids : c.nextId + World.maxRequests * turns.length ≤ idLimit) :
    (c.play turns).Quiet ∧ (c.play turns).world = c.world.run (c.events turns) := by
  induction turns generalizing c with
  | nil => exact ⟨h, rfl⟩
  | cons t turns ih =>
    rw [List.length_cons, Nat.mul_succ] at hids
    have hturn := h.turn (Nat.le_refl _) (by omega) (hcontinues t List.mem_cons_self)
    have hnext := hturn.ids
    rw [Option.elim_none, Nat.add_zero] at hnext
    obtain ⟨hquiet, hworld⟩ := ih hturn.quiet (fun t' ht' => hcontinues t' (List.mem_cons_of_mem _ ht')) (by omega)
    refine ⟨hquiet, ?_⟩
    rw [play, List.foldl_cons, ← play, hworld, hturn.world, events, World.run, World.run, World.run, List.foldl_append]

/-- From the start of a server on, such a connection runs as its world does. -/
theorem play_start_eq_run (w : World) {turns : List Turn} (hcontinues : ∀ t ∈ turns, Continues t)
    (hids : World.maxRequests * turns.length ≤ idLimit) :
    ((start w).play turns).world = w.run ((start w).events turns) := by
  refine (play_eq_run (start_quiet w) hcontinues ?_).2
  rwa [show (start w).nextId = 0 from rfl, Nat.zero_add]

/-- An editor that lets the server watch files is asked once more before the scan is announced. -/
example :
    let call (method : String) (params : Json) (id : List (String × Json)) : Json :=
      .obj ([("jsonrpc", .str Message.version), ("method", .str method), ("params", params)] ++ id)
    let watches : Json := .obj [("workspace", .obj [("didChangeWatchedFiles", .obj [("dynamicRegistration", .bool true)])])]
    let introduction : Json := call Method.start (.obj [("capabilities", watches)]) [("id", .int 1)]
    let initialized : Json := call "initialized" (.obj []) []
    let c := start ⟨⟨.empty, none, id, some ⟨false⟩, id⟩, .initial, .starting⟩
    ((c.turn (.message introduction)).receive initialized).1.waiting = [(0, .announcement 0)] ∧
      (c.play [.message introduction, .message initialized]).waiting = [] ∧
      (c.play [.message introduction, .message initialized]).nextId = 1 := by
  decide +kernel

end Connection
end StyleIndex
