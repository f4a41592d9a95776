/-
The envelope of messages. What an editor sends is a call of a method or the answer to a request of the server, and it says
so by its fields only. Something that has the fields of an answer is an answer, even if it names a method too.
-/
import StyleIndex.Json

namespace StyleIndex

/-- a message of the editor -/
inductive Message where
  /-- a call of a method; a call with an id is a request -/
  | call (method : String) (params : Option Json) (id : Option Json)
  /-- the answer to a request of the server; it is accepted if it carries no error and nothing unexpected -/
  | answer (id : Json) (accepted : Bool)

namespace Message

/-- the version of the envelope -/
def version : String := "2.0"

/-- an integer of 64 bits with a sign -/
def isInt64 : Json → Bool
  | .int n => -0x8000000000000000 ≤ n && n < 0x8000000000000000
  | _ => false

/-- a value that can name a request -/
def isId : Json → Bool
  | .null => true
  | .str _ => true
  | j => isInt64 j

def isVersion (j : Json) : Bool :=
  j.str? = some version

/-- an error object, which has no other fields than these, or the array of its fields -/
def isError : Json → Bool
  | .obj fields =>
    (fields.all fun f => ["code", "message", "data"].contains f.1) &&
      (fields.lookup "code").elim false isInt64 && ((fields.lookup "message").bind Json.str?).isSome
  | .arr [code, message, _] => isInt64 code && message.str?.isSome
  | _ => false

def answer? (j : Json) : Option Message :=
  if (j.get? "jsonrpc").elim false isVersion then
    match (j.get? "id").filter isId, j.get? "result", j.get? "error" with
    | some id, some .null, _ => some (.answer id true)
    | some id, some _, _ => some (.answer id false)
    | some id, none, some error => if isError error then some (.answer id false) else none
    | _, _, _ => none
  else none

/-- a call with fields that may be missing; a call that names no method calls the empty one -/
def callOf? (version method params id : Option Json) : Option Message :=
  if version.elim false isVersion && id.elim true isId then
    (method.elim (some "") Json.str?).map fun method => .call method params id
  else none

/-- a call is an object, or an array of its first fields in order -/
def call? : Json → Option Message
  | .obj fields =>
    callOf? (fields.lookup "jsonrpc") (fields.lookup "method") (fields.lookup "params") (fields.lookup "id")
  | .arr items => if items.length ≤ 4 then callOf? items[0]? items[1]? items[2]? items[3]? else none
  | _ => none

/-- the message that a value writes -/
def ofJson? (j : Json) : Option Message :=
  (answer? j).or (call? j)

end Message
end StyleIndex
