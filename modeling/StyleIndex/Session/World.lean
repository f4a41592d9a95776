/-
Sessions in a changing world. A `World` is a session with its environment and the phase of the connection; an `Event` is a
message of the editor or a change outside; `World.run` plays events one after another. The orders in which files and open
documents are listed may change like anything else outside, so that every rescan of a run can have orders of its own.

With a client the connection has phases. Before it is initialized and after it is shut down, requests fail, other messages
are dropped, and a second initialization is refused. Without a client there are no phases.

In `World.step` the client answers at once what the session asks it, so that a message is done before the next one comes.
-/
import StyleIndex.Session

namespace StyleIndex

/-- how far a connection has come -/
inductive Phase where
  | starting
  | running
  | stopped
deriving DecidableEq, Repr

/-- why a message does not get through in a phase; a connection starts with an introduction and has no second one -/
def Phase.refusal? (isIntroduction : Bool) : Phase → Option Failure
  | .starting => if isIntroduction then none else some .notInitialized
  | .running => if isIntroduction then some .invalidRequest else none
  | .stopped => some .invalidRequest

/-- the phase behind a message that gets through -/
def Phase.after (phase : Phase) : Request → Phase
  | .introduce _ => .running
  | .shutdown => .stopped
  | _ => phase

structure World where
  env : Env
  session : Session
  phase : Phase

/-- what can happen -/
inductive Event where
  | message (request : Request)
  | write (path : FilePath) (node : Node)
  | delete (path : FilePath)
  | writeUserFile (text : String)
  /-- from now on a rescan loads the files it finds, and the open documents, in these orders -/
  | relist (listing openListing : FileId → String)

/-- a message that waits for an answer -/
def Request.expectsAnswer : Request → Bool
  | .introduce _ => true
  | .shutdown => true
  | .completion _ _ => true
  | _ => false

/-- a message that starts a connection -/
def Request.isIntroduction : Request → Bool
  | .introduce _ => true
  | _ => false

namespace World

/-- why a message does not get through -/
def refusal? (w : World) (isIntroduction : Bool) : Option Failure :=
  if w.env.client.isNone then none else w.phase.refusal? isIntroduction

/-- passes a message to the session -/
def handle (w : World) (request : Request) : World × Reply :=
  let (session, reply) := w.session.handle w.env request
  ({ w with session, phase := w.phase.after request }, reply)

/-- what a message does in the phase the connection is in -/
def receive (w : World) (request : Request) : World × Reply :=
  match w.refusal? request.isIntroduction with
  | some failure => (w, if request.expectsAnswer then { answer := .failed failure } else {})
  | none => w.handle request

/-- the client has answered a request of the session -/
def resume (w : World) (refused : Bool) (pending : Pending) : World × Reply :=
  let (session, reply) := w.session.resume w.env refused pending
  ({ w with session }, reply)

/-- the longest chain of requests to the client that one message leads to -/
def maxRequests : Nat := 2

/-- lets the client answer what a reply waits for, up to a number of times -/
def settle : Nat → World × Reply → World × Reply
  | 0, (w, reply) => (w, reply)
  | n + 1, (w, reply) =>
    match reply.pending with
    | none => (w, reply)
    | some pending =>
      let (w, next) := w.resume (w.env.client = some ⟨true⟩) pending
      settle n
        (w,
          { next with
            answer := reply.answer
            warnings := reply.warnings ++ next.warnings
            notices := reply.notices ++ next.notices })

/-- one event -/
def step (w : World) : Event → World × Reply
  | .message request => settle maxRequests (w.receive request)
  | .write path node => ({ w with env := { w.env with disk := w.env.disk.write path node } }, {})
  | .delete path => ({ w with env := { w.env with disk := w.env.disk.delete path } }, {})
  | .writeUserFile text => ({ w with env := { w.env with userFile := some text } }, {})
  | .relist listing openListing => ({ w with env := { w.env with listing, openListing } }, {})

/-- the world after a number of events -/
def run (w : World) (events : List Event) : World :=
  events.foldl (fun w e => (w.step e).1) w

end World
end StyleIndex
