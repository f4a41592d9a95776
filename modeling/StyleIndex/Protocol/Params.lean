/-
The parameters of the messages that a session handles. A record is an object with its fields by name, in which unknown keys
do not matter, or an array of all its fields in order. One field of a wrong type makes the whole message malformed.
-/
import StyleIndex.Json
import StyleIndex.Session

namespace StyleIndex.Params

/-! ## Fields -/

/-- the fields of a record in order -/
def fields? (names : List String) : Json → Option (List (Option Json))
  | .obj entries => some (names.map fun name => entries.lookup name)
  | .arr items => if items.length = names.length then some (items.map some) else none
  | _ => none

/-- a field that may be missing or null -/
def optional {α : Type} (decode : Json → Option α) : Option Json → Option (Option α)
  | none => some none
  | some .null => some none
  | some value => (decode value).map some

def list? {α : Type} (decode : Json → Option α) (j : Json) : Option (List α) :=
  j.items?.bind (·.mapM decode)

/-- an integer between two bounds, the upper one left out -/
def intBetween? (low high : Int) : Json → Option Int
  | .int n => if low ≤ n && n < high then some n else none
  | _ => none

/-- an integer of 32 bits with a sign -/
def int32? : Json → Option Int :=
  intBetween? (-0x80000000) 0x80000000

/-- a line or a column: a number of 32 bits -/
def word32? (j : Json) : Option Nat :=
  (intBetween? 0 0x100000000 j).map Int.toNat

def url? (j : Json) : Option Url :=
  j.str?.bind Url.parse?

def position? (j : Json) : Option Position :=
  match fields? ["line", "character"] j with
  | some [some line, some column] => do return ⟨← word32? line, ← word32? column⟩
  | _ => none

def range? (j : Json) : Option Range :=
  match fields? ["start", "end"] j with
  | some [some start, some stop] => do return ⟨← position? start, ← position? stop⟩
  | _ => none

/-- a record with a name and maybe a version -/
def isProduct (j : Json) : Bool :=
  match fields? ["name", "version"] j with
  | some [some name, version] => name.str?.isSome && (optional Json.str? version).isSome
  | _ => false

/-- the document of a record that names nothing else -/
def document? (j : Json) : Option Url :=
  match fields? ["uri"] j with
  | some [some uri] => url? uri
  | _ => none

/-! ## Messages -/

def didOpen? (params : Json) : Option Request :=
  match fields? ["textDocument"] params with
  | some [some document] =>
    match fields? ["uri", "languageId", "version", "text"] document with
    | some [some uri, some language, some version, some text] => do
      let _ ← int32? version
      return .didOpen (← url? uri) (← language.str?) (← text.str?)
    | _ => none
  | _ => none

/-- the new text of a change; a range is read and does not count -/
def changedText? (j : Json) : Option String :=
  match fields? ["range", "rangeLength", "text"] j with
  | some [range, length, some text] => do
    let _ ← optional range? range
    let _ ← optional word32? length
    text.str?
  | _ => none

def didChange? (params : Json) : Option Request :=
  match fields? ["textDocument", "contentChanges"] params with
  | some [some document, some changes] =>
    match fields? ["uri", "version"] document with
    | some [some uri, some version] => do
      let _ ← int32? version
      return .didChange (← url? uri) (← list? changedText? changes)
    | _ => none
  | _ => none

def didClose? (params : Json) : Option Request :=
  match fields? ["textDocument"] params with
  | some [some document] => (document? document).map .didClose
  | _ => none

def fileChange? (j : Json) : Option (Url × Change) :=
  match fields? ["uri", "type"] j with
  | some [some uri, some code] => do return (← url? uri, .ofCode (← int32? code))
  | _ => none

def didChangeFiles? (params : Json) : Option Request :=
  match fields? ["changes"] params with
  | some [some changes] => (list? fileChange? changes).map .didChangeFiles
  | _ => none

def configure? (params : Json) : Option Request :=
  match fields? ["settings"] params with
  | some [some settings] => some (.configure settings)
  | _ => none

/-- the mark under which an editor follows the progress of a request -/
def token? (j : Json) : Option Json :=
  match j with
  | .str _ => some j
  | _ => (int32? j).map fun _ => j

/-- what made an editor ask for completions -/
def isTrigger (j : Json) : Bool :=
  match fields? ["triggerKind", "triggerCharacter"] j with
  | some [some kind, character] => (int32? kind).isSome && (optional Json.str? character).isSome
  | _ => false

/-- asking for completions; these parameters are an object and no array -/
def completion? : Json → Option Request
  | .obj entries => do
    let url ← (entries.lookup "textDocument").bind document?
    let position ← (entries.lookup "position").bind position?
    let _ ← optional token? (entries.lookup "workDoneToken")
    let _ ← optional token? (entries.lookup "partialResultToken")
    let _ ← optional (fun j => if isTrigger j then some j else none) (entries.lookup "context")
    return .completion url position
  | _ => none

def folder? (j : Json) : Option Url :=
  match fields? ["uri", "name"] j with
  | some [some uri, some name] => do
    let _ ← name.str?
    url? uri
  | _ => none

/-- whether an editor that has these capabilities lets a server register watchers -/
def canWatch? : Json → Option Bool
  | .obj capabilities =>
    match optional (fun j => j.fieldList?) (capabilities.lookup "workspace") with
    | none => none
    | some none => some false
    | some (some workspace) =>
      match optional (fields? ["dynamicRegistration", "relativePatternSupport"])
          (workspace.lookup "didChangeWatchedFiles") with
      | some (some [dynamic, relative]) => do
        let _ ← optional Json.bool? relative
        return (← optional Json.bool? dynamic).getD false
      | some none => some false
      | _ => none
  | _ => none

def traceNames : List String := ["off", "messages", "verbose"]

def introduction? (params : Json) : Option Introduction :=
  match fields? ["processId", "rootPath", "rootUri", "initializationOptions", "capabilities", "trace",
      "workspaceFolders", "clientInfo", "locale"] params with
  | some [process, rootPath, rootUri, options, some capabilities, trace, folders, client, language] => do
    let _ ← optional word32? process
    let _ ← optional Json.str? rootPath
    let _ ← optional (fun j => j.str?.filter traceNames.contains) trace
    let _ ← optional (fun j => if isProduct j then some j else none) client
    let _ ← optional Json.str? language
    return {
      folders := (← optional (list? folder?) folders).getD []
      rootUrl := ← optional url? rootUri
      options := ← optional some options
      canWatch := ← canWatch? capabilities }
  | _ => none

end StyleIndex.Params
