/-
The editor protocol in JSON: how a server's answers and notices are written. Keys of objects are written in alphabetical
order, and fields that are absent are left out.
-/
import StyleIndex.Json
import StyleIndex.Session.World

namespace StyleIndex.Protocol

/-! ## Writing -/

def position (p : Position) : Json :=
  .obj [("character", .int p.column), ("line", .int p.line)]

def range (r : Range) : Json :=
  .obj [("end", position r.stop), ("start", position r.start)]

def item (i : Item) : Json :=
  let detail := ("detail", Json.str i.kind.detail)
  let kind := ("kind", Json.int i.kind.icon)
  let label := ("label", Json.str i.label)
  let sortText := ("sortText", Json.str i.sortText)
  match i.edit with
  | .insert text => .obj [detail, ("insertText", .str text), kind, label, sortText]
  | .replace r text =>
    .obj
      [detail, ("filterText", .str i.label), kind, label, sortText,
        ("textEdit", .obj [("newText", .str text), ("range", range r)])]

def items (is : Option (List Item)) : Json :=
  is.elim .null fun is => .arr (is.map item)

/-- what a server tells an editor when it starts -/
def capabilities : Json :=
  .obj
    [("capabilities",
        .obj
          [("completionProvider",
              .obj
                [("resolveProvider", .bool false),
                  ("triggerCharacters", .arr [.str "\"", .str "'", .str " "])]),
            ("textDocumentSync", .int 1)]),
      ("serverInfo", .obj [("name", .str Session.serverName), ("version", .str Session.serverVersion)])]

/-- why a call is answered with an error -/
inductive CallError where
  /-- the session refuses it -/
  | failed (failure : Failure)
  /-- the protocol has no such method -/
  | unknownMethod (method : String)
  /-- the protocol has the method, and this server does nothing for it -/
  | unsupportedMethod
  | missingParams
  | unexpectedParams (params : Json)
  | malformedParams
  /-- what arrived is no JSON -/
  | notJson

namespace CallError

def code : CallError → Int
  | .failed .notInitialized => -32002
  | .failed .invalidRequest => -32600
  | .unknownMethod _ => -32601
  | .unsupportedMethod => -32601
  | .missingParams => -32602
  | .unexpectedParams _ => -32602
  | .malformedParams => -32602
  | .notJson => -32700

def text : CallError → String
  | .failed .notInitialized => "Server not initialized"
  | .failed .invalidRequest => "Invalid request"
  | .unknownMethod _ => "Method not found"
  | .unsupportedMethod => "Method not found"
  | .missingParams => "Missing params field"
  | .unexpectedParams params => "Unexpected params: " ++ params.sorted.render
  | .malformedParams => "Invalid params"
  | .notJson => "Parse error"

/-- the error object -/
def toJson (e : CallError) : Json :=
  let data : List (String × Json) :=
    match e with
    | .unknownMethod method => [("data", .str method)]
    | _ => []
  .obj (("code", .int e.code) :: ("message", .str e.text) :: data)

end CallError

/-- the result of an answered request, or its error -/
def answer : Answer → Except Json Json
  | .nothing => .ok .null
  | .capabilities => .ok capabilities
  | .items is => .ok (items is)
  | .failed failure => .error (CallError.failed failure).toJson

/-- the name of the server's watcher -/
def watcherId : String := "classy-style-watcher"

def watchedFilesMethod : String := "workspace/didChangeWatchedFiles"

/-- a message that is no answer: its method, its parameters, and whether it waits for an answer itself -/
structure Call where
  method : String
  params : Json
  isRequest : Bool

def notice : Notice → Call
  | .log text => ⟨"window/logMessage", .obj [("message", .str text), ("type", .int 3)], false⟩
  | .register glob =>
    ⟨"client/registerCapability",
      .obj
        [("registrations",
          .arr
            [.obj
              [("id", .str watcherId), ("method", .str watchedFilesMethod),
                ("registerOptions", .obj [("watchers", .arr [.obj [("globPattern", .str glob)]])])]])],
      true⟩
  | .unregister =>
    ⟨"client/unregisterCapability",
      .obj [("unregisterations", .arr [.obj [("id", .str watcherId), ("method", .str watchedFilesMethod)]])],
      true⟩

end StyleIndex.Protocol
