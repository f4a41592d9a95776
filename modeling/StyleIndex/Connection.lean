/-
A connection: the messages that pass between an editor and the server, in both directions.

A message with a method and an id is a request and gets one answer; without an id it gets none. When the server itself asks
the editor something, the rest of that piece of work waits until the editor has answered, and other messages are handled
meanwhile. Only `maxWaiting` pieces of work may wait at a time: further ones stand in a queue.

A message that is no message at all ends the connection, and so does anything that follows the call to exit.
-/
import StyleIndex.Connection.Message
import StyleIndex.Protocol.Method
import StyleIndex.Session.Lookup
import StyleIndex.Session.World

namespace StyleIndex

/-- a piece of work that a message has led to -/
inductive Task where
  /-- an answer that is known already -/
  | answer (answer : Json)
  /-- a message for the session, with the id of the answer if one is expected -/
  | handle (request : Request) (id : Option Json)

structure Connection where
  world : World
  /-- the id of the next request to the editor -/
  nextId : Nat
  /-- work that waits for the editor's answer to a request -/
  waiting : List (Nat × Pending)
  /-- work that has not begun -/
  queue : List Task
  /-- the editor told the server to exit -/
  exited : Bool
  /-- nothing is read any more -/
  ended : Bool
  /-- what the last message led to complain about -/
  warnings : List Warning

namespace Connection

/-- how many pieces of work may wait for the editor at a time -/
def maxWaiting : Nat := 4

/-- a server that has just started -/
def start (world : World) : Connection :=
  { world, nextId := 0, waiting := [], queue := [], exited := false, ended := false, warnings := [] }

/-! ## Sending -/

/-- the envelope of an answer -/
def response (id : Json) : Except Json Json → Json
  | .ok result => .obj [("jsonrpc", .str Message.version), ("result", result), ("id", id)]
  | .error error => .obj [("jsonrpc", .str Message.version), ("error", error), ("id", id)]

/-- the answer to a call that fails -/
def failure (id : Json) (error : Protocol.CallError) : Json :=
  response id (.error error.toJson)

/-- the envelope of a notice, with an id if it waits for an answer -/
def envelope (call : Protocol.Call) (id : Nat) : Json :=
  .obj
    ([("jsonrpc", Json.str Message.version), ("method", .str call.method), ("params", call.params)] ++
      if call.isRequest then [("id", Json.int id)] else [])

/-- sends the notices of a reply and remembers what waits for the editor -/
def carryOut (c : Connection) (reply : Reply) : Connection × List Json :=
  let c := { c with warnings := c.warnings ++ reply.warnings }
  let sent := reply.notices.map fun notice => envelope (Protocol.notice notice) c.nextId
  match reply.pending with
  | some pending => ({ c with nextId := c.nextId + 1, waiting := c.waiting ++ [(c.nextId, pending)] }, sent)
  | none => (c, sent)

/-- does a piece of work, up to its first request to the editor -/
def perform (c : Connection) : Task → Connection × List Json
  | .answer answer => (c, [answer])
  | .handle request id =>
    let (world, reply) := c.world.handle request
    let (c, sent) := { c with world }.carryOut reply
    (c, sent ++ id.toList.map (response · (Protocol.answer reply.answer)))

/-- does the work that there is room for, and queues the rest -/
def work (c : Connection) : List Task → Connection × List Json
  | [] => (c, [])
  | task :: tasks =>
    if c.waiting.length < maxWaiting then
      let (c, first) := c.perform task
      let (c, sent) := c.work tasks
      (c, first ++ sent)
    else ({ c with queue := task :: tasks }, [])

/-- does the work of the queue, with more behind it -/
def workOn (c : Connection) (more : List Task) : Connection × List Json :=
  { c with queue := [] }.work (c.queue ++ more)

/-! ## Receiving -/

/-- what a call leads to -/
inductive Outcome where
  | ignored
  | refused (error : Protocol.CallError)
  | accepted (request : Request)

/-- the phase of the connection does not admit a method -/
def gate? (c : Connection) (method : String) : Option Failure :=
  if Method.isAlwaysAllowed method then none else c.world.refusal? (method = Method.start)

/-- what becomes of a call. The phase is looked at first, then whether the method is called in its style, and the
parameters last. -/
def outcome (c : Connection) (method : String) (params : Option Json) (hasId : Bool) : Outcome :=
  match Method.style? method, c.gate? method with
  | none, _ => if Method.isOptional method then .ignored else .refused (.unknownMethod method)
  | some _, some failure => .refused (.failed failure)
  | some .request, none =>
    if hasId then
      match Method.read method params with
      | .ok request => .accepted request
      | .error error => .refused error
    else .ignored
  | some .notification, none =>
    if hasId then .refused (.failed .invalidRequest)
    else
      match Method.read method params with
      | .ok request => .accepted request
      | .error _ => .ignored

/-- the work that a call leads to; a call that fails is answered only if it has an id -/
def task? (outcome : Outcome) (id : Option Json) : Option Task :=
  match outcome with
  | .ignored => none
  | .refused error => id.map fun id => .answer (failure id error)
  | .accepted request => some (.handle request id)

/-- the phase and the end of the connection change as soon as a call arrives, however badly it is made -/
def noteCall (c : Connection) (method : String) : Connection :=
  if method = Method.exit then { c with exited := true }
  else if method = Method.stop && (c.gate? method).isNone then
    { c with world := { c.world with phase := .stopped } }
  else c

/-- the request that an answer of the editor answers -/
def answered? (c : Connection) (id : Json) : Option (Nat × Pending) :=
  id.nat?.bind fun n => c.waiting.find? fun w => w.1 = n

/-- the editor answered a request -/
def resume (c : Connection) (id : Json) (accepted : Bool) : Connection × List Json :=
  match c.answered? id with
  | none => (c, [])
  | some (n, pending) =>
    let (world, reply) := c.world.resume (!accepted) pending
    let (c, sent) := { c with world, waiting := c.waiting.filter fun w => w.1 ≠ n }.carryOut reply
    let (c, more) := c.workOn []
    (c, sent ++ more)

/-- ends the connection with an error that answers no request -/
def reject (c : Connection) (error : Protocol.CallError) : Connection × List Json :=
  if c.ended then (c, []) else ({ c with ended := true }, [failure .null error])

/-- what the server sends when a message arrives -/
def receive (c : Connection) (message : Json) : Connection × List Json :=
  let c := { c with warnings := [] }
  match Message.ofJson? message with
  | none => c.reject (.failed .invalidRequest)
  | some message =>
    if c.ended || c.exited then ({ c with ended := true }, [])
    else
      match message with
      | .answer id accepted => c.resume id accepted
      | .call method params id =>
        let task := task? (c.outcome method params id.isSome) id
        (c.noteCall method).workOn task.toList

/-- a message as it is sent: its length in bytes, a blank line, and the text -/
def frame (message : Json) : String :=
  let body := message.render
  "Content-Length: " ++ toString body.utf8ByteSize ++ "\r\n\r\n" ++ body

/-! ## The disk -/

/-- the messages for the session that may be handled when a message arrives -/
def expected (c : Connection) (message : Json) : List Request :=
  let queued := c.queue.filterMap fun
    | .handle request _ => some request
    | .answer _ => none
  match Message.ofJson? message with
  | some (.call method params id) =>
    match c.outcome method params id.isSome with
    | .accepted request => queued ++ [request]
    | _ => queued
  | _ => queued

/-- the part of the disk that is looked at when a message arrives -/
def lookup (c : Connection) (message : Json) : Lookup :=
  let resumed : Lookup :=
    match Message.ofJson? message with
    | some (.answer id _) => (c.answered? id).elim Lookup.nothing fun w => c.world.session.pendingLookup w.2
    | _ => .nothing
  ((c.expected message).map c.world.session.lookup).foldl Lookup.join resumed

end Connection
end StyleIndex
