/-
The methods of the editor protocol. The protocol fixes for each method whether it is a request, which gets an answer, or a
notification, which gets none. The session handles a few of them; the others are known and nothing is done for them.
-/
import StyleIndex.Protocol
import StyleIndex.Protocol.Params

namespace StyleIndex.Method

/-- the way a method is called -/
inductive Style where
  | request
  | notification
deriving DecidableEq, Repr

def start : String := "initialize"

def stop : String := "shutdown"

def exit : String := "exit"

def cancel : String := "$/cancelRequest"

def requests : List String :=
  [start, stop, "textDocument/willSaveWaitUntil", "textDocument/declaration", "textDocument/definition",
    "textDocument/typeDefinition", "textDocument/implementation", "textDocument/references",
    "textDocument/prepareCallHierarchy", "callHierarchy/incomingCalls", "callHierarchy/outgoingCalls",
    "textDocument/prepareTypeHierarchy", "typeHierarchy/supertypes", "typeHierarchy/subtypes",
    "textDocument/documentHighlight", "textDocument/documentLink", "documentLink/resolve", "textDocument/hover",
    "textDocument/codeLens", "codeLens/resolve", "textDocument/foldingRange", "textDocument/selectionRange",
    "textDocument/documentSymbol", "textDocument/semanticTokens/full", "textDocument/semanticTokens/full/delta",
    "textDocument/semanticTokens/range", "textDocument/inlineValue", "textDocument/inlayHint", "inlayHint/resolve",
    "textDocument/moniker", "textDocument/completion", "completionItem/resolve", "textDocument/diagnostic",
    "workspace/diagnostic", "textDocument/signatureHelp", "textDocument/codeAction", "codeAction/resolve",
    "textDocument/documentColor", "textDocument/colorPresentation", "textDocument/formatting",
    "textDocument/rangeFormatting", "textDocument/onTypeFormatting", "textDocument/rename",
    "textDocument/prepareRename", "textDocument/linkedEditingRange", "workspace/symbol", "workspaceSymbol/resolve",
    "workspace/willCreateFiles", "workspace/willRenameFiles", "workspace/willDeleteFiles", "workspace/executeCommand"]

def notifications : List String :=
  ["initialized", exit, cancel, "textDocument/didOpen", "textDocument/didChange", "textDocument/willSave",
    "textDocument/didSave", "textDocument/didClose", "workspace/didChangeConfiguration",
    "workspace/didChangeWorkspaceFolders", "workspace/didCreateFiles", "workspace/didRenameFiles",
    "workspace/didDeleteFiles", Protocol.watchedFilesMethod]

def style? (method : String) : Option Style :=
  if requests.contains method then some .request
  else if notifications.contains method then some .notification
  else none

/-- methods that may be called in every phase of a connection -/
def isAlwaysAllowed (method : String) : Bool :=
  method = exit || method = cancel

/-- unknown methods with this mark may be ignored -/
def isOptional (method : String) : Bool :=
  "$/".toList.isPrefixOf method.toList

/-- how the parameters of a method that the session handles are read -/
def reader? (method : String) : Option (Json → Option Request) :=
  if method = start then some fun params => (Params.introduction? params).map .introduce
  else if method = "initialized" then some fun params => (Params.fields? [] params).map fun _ => .initialized
  else if method = "textDocument/didOpen" then some Params.didOpen?
  else if method = "textDocument/didChange" then some Params.didChange?
  else if method = "textDocument/didClose" then some Params.didClose?
  else if method = Protocol.watchedFilesMethod then some Params.didChangeFiles?
  else if method = "workspace/didChangeConfiguration" then some Params.configure?
  else if method = "textDocument/completion" then some Params.completion?
  else none

/-- the message for the session that a call of a known method is -/
def read (method : String) (params : Option Json) : Except Protocol.CallError Request :=
  if method = stop then
    match params with
    | none => .ok .shutdown
    | some params => .error (.unexpectedParams params)
  else
    match params, reader? method with
    | none, _ => .error .missingParams
    | some _, none => .error .unsupportedMethod
    | some params, some reader =>
      match reader params with
      | some request => .ok request
      | none => .error .malformedParams

end StyleIndex.Method
