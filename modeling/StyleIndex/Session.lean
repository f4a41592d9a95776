/-
A session with an editor: the state a server keeps and what each message does to it.

The state holds the workspace root, the open buffers, the settings in force with the layer that the client sent, and the
index. The world outside is `Env`: the disk, the user's settings file, and the client if there is one. A handler is a
function from the world and the state to the new state and a `Reply`.

An open buffer counts more than the file on disk. A rescan therefore first loads the disk and then every open buffer again,
and a change on disk does not touch a file that is open. When a buffer closes, the file on disk counts again. Neither the
files nor the buffers have an order of their own: the two orders of a rescan are given by the listings of the world outside.

A message may lead the server to ask its client something. What is left to do then is `Pending`: it goes on with `resume`
when the client has answered, on the state of that moment, and other messages may come in between.
-/
import StyleIndex.Completion
import StyleIndex.Index
import StyleIndex.Settings.Layers

namespace StyleIndex

/-- an open document -/
structure Buffer where
  language : String
  text : String
deriving DecidableEq, Repr

/-- the editor's side of a connection -/
structure Client where
  /-- it answers every request with an error -/
  refuses : Bool
deriving DecidableEq, Repr

/-- the world a session runs in -/
structure Env where
  disk : Disk
  /-- the text of the user's settings file, if there is one to read -/
  userFile : Option String
  /-- the names by which files are listed: a scan loads the files it finds in their order -/
  listing : FileId → String
  client : Option Client
  /-- the names by which open documents are listed: a rescan loads them in their order -/
  openListing : FileId → String := listing

structure Session where
  root : Option FilePath
  /-- open documents, each once -/
  buffers : List (FileId × Buffer)
  settings : Settings
  /-- the settings the client sent last -/
  clientSettings : Option Json
  /-- the client lets the server register file watchers -/
  canWatch : Bool
  index : Index

/-- what a server tells its client unasked -/
inductive Notice where
  | log (text : String)
  | register (glob : String)
  | unregister
deriving DecidableEq, Repr

/-- what is left to do of a message once the client has answered a request -/
inductive Pending where
  /-- the watcher was withdrawn; the workspace is still to be scanned -/
  | rescan
  /-- the watcher was registered; what the scan found is still to be told -/
  | announcement (files : Nat)
deriving DecidableEq, Repr

/-- why a request fails -/
inductive Failure where
  /-- it came before the session was initialized -/
  | notInitialized
  /-- it came when it makes no sense any more -/
  | invalidRequest
deriving DecidableEq, Repr

/-- the answer to a message -/
inductive Answer where
  | nothing
  | capabilities
  | items (items : Option (List Item))
  | failed (failure : Failure)
deriving DecidableEq, Repr

/-- all that a message leads to, the new state apart; the last notice of a reply with something pending is a request -/
structure Reply where
  answer : Answer := .nothing
  warnings : List Warning := []
  notices : List Notice := []
  pending : Option Pending := none
deriving DecidableEq, Repr

/-- what an editor tells a server when it starts -/
structure Introduction where
  folders : List Url
  rootUrl : Option Url
  options : Option Json
  canWatch : Bool

/-- the messages of an editor -/
inductive Request where
  | introduce (intro : Introduction)
  | initialized
  | shutdown
  | didOpen (url : Url) (language text : String)
  | didChange (url : Url) (texts : List String)
  | didClose (url : Url)
  | didChangeFiles (changes : List (Url × Change))
  | configure (settings : Json)
  | completion (url : Url) (pos : Position)

namespace Session

/-- the name a server gives itself -/
def serverName : String := "Classy"

/-- the version a server reports -/
def serverVersion : String := "0.3.0"

/-- the settings file of a workspace -/
def settingsFile : Name := Name.ofString ".classy.toml"

def initial : Session :=
  { root := none, buffers := [], settings := .initial, clientSettings := none, canWatch := false, index := .empty }

/-! ## Settings -/

/-- the settings layers of a session, lowest first; the user's file counts only for a session with a client -/
def layers (s : Session) (env : Env) : List Layer :=
  Settings.sessionLayers (env.client.bind fun _ => env.userFile)
    (s.root.bind fun root => env.disk.readText? (root.join [settingsFile])) s.clientSettings

/-- resolves the settings again -/
def reload (s : Session) (env : Env) : Session :=
  { s with settings := Settings.resolve (s.layers env) }

/-- what resolving the settings complains about -/
def reloadWarnings (s : Session) (env : Env) : List Warning :=
  (s.layers env).flatMap Layer.warnings

/-! ## Buffers -/

/-- a document's text as a load -/
def bufferLoad? (file : FileId) (text : String) : Option Load :=
  (extensionOf? file).map fun extension => ⟨file, extension, some text⟩

/-- puts a document's text into the registries that take it -/
def sync (settings : Settings) (ix : Index) (file : FileId) (text : String) : Index :=
  (bufferLoad? file text).elim ix fun l => l.into settings ix

def isOpen (s : Session) (file : FileId) : Bool :=
  (s.buffers.lookup file).isSome

/-- opens a document, or puts it in the place of the one that is open -/
def setBuffer (s : Session) (file : FileId) (buffer : Buffer) : Session :=
  { s with buffers := s.buffers.filter (fun b => b.1 ≠ file) ++ [(file, buffer)] }

/-- open documents in the order of their listing -/
def buffersInOrder (s : Session) (env : Env) : List (FileId × Buffer) :=
  s.buffers.mergeSort fun a b => decide (env.openListing a.1 ≤ env.openListing b.1)

/-! ## Scans -/

/-- the index of the workspace on disk -/
def scanned (s : Session) (env : Env) : Index :=
  s.root.elim s.index.reset fun root => Scan.run env.listing env.disk s.settings root s.index.reset

/-- rebuilds the index from the disk and puts the open buffers on top -/
def rescan (s : Session) (env : Env) : Session :=
  { s with
    index := (s.buffersInOrder env).foldl (fun ix b => sync s.settings ix b.1 b.2.text) (s.scanned env) }

def scanWarnings (s : Session) (env : Env) : List Warning :=
  s.root.elim [] fun root => Scan.warnings env.disk s.settings root

/-- the number of files a scan loads -/
def scannedFiles (s : Session) (env : Env) : Nat :=
  s.root.elim 0 fun root => (Scan.summary env.disk s.settings root).files

/-! ## Notices -/

/-- what is sent reaches a client only if there is one -/
def send (env : Env) (notices : List Notice) : List Notice :=
  if env.client.isSome then notices else []

/-- the client lets this server ask for watchers -/
def asksClient (s : Session) (env : Env) : Bool :=
  env.client.isSome && s.canWatch

/-- what the client is to watch -/
def watched? (s : Session) (env : Env) : Option String :=
  if s.asksClient env then s.settings.watchGlob else none

/-- tells what a scan of a number of files has led to -/
def announcement (s : Session) (files : Nat) : Notice :=
  .log (serverName ++ " indexed " ++ toString files ++ " style file(s): " ++
    toString s.index.classNames.items.length ++ " class name(s), " ++ toString s.index.mixins.items.length ++
    " mixin(s)")

/-- what follows a scan: the watcher is registered if the client takes one, and the scan is announced -/
def afterScan (s : Session) (env : Env) (files : Nat) : Reply :=
  match s.watched? env with
  | some glob => { notices := [.register glob], pending := some (.announcement files) }
  | none => { notices := send env [s.announcement files] }

/-- scans the workspace again and tells of it -/
def refresh (s : Session) (env : Env) : Session × Reply :=
  let scanned := s.rescan env
  (scanned, { scanned.afterScan env (s.scannedFiles env) with warnings := s.scanWarnings env })

/-- goes on when the client has answered; a registration that it refused is complained about -/
def resume (s : Session) (env : Env) (refused : Bool) : Pending → Session × Reply
  | .rescan => s.refresh env
  | .announcement files =>
    (s, { warnings := if refused then [.watcherRefused] else [], notices := send env [s.announcement files] })

/-! ## Completion -/

/-- where the cursor is, by the language of the document: mixins first, then class names -/
def context? (settings : Settings) (source : LineSource) (language : String) (pos : Position) :
    Option (Kind × ContextMatch) :=
  let mixin := if settings.mixins.handlesLanguage language then detectMixin source pos else none
  match mixin with
  | some found => some (.mixin, found)
  | none =>
    if settings.classNames.handlesLanguage language then
      (detect source pos settings.context).map fun found => (.className, found)
    else none

/-- how a document is read: with word ranges if completions replace the typed word -/
def sourceOf (settings : Settings) (text : String) : LineSource :=
  if settings.replaceTyped then (Document.ofText text.toList).source else plainSource text.toList

/-- the completions at a position of an open document -/
def completions (s : Session) (file : FileId) (pos : Position) : Option (List Item) :=
  (s.buffers.lookup file).bind fun buffer =>
    (context? s.settings (sourceOf s.settings buffer.text) buffer.language pos).bind fun (kind, found) =>
      Completion.assemble (some found) (s.index.registry kind).items kind

/-! ## Handlers -/

/-- the workspace root an editor names: the first folder, or else the older root field -/
def rootOf? (intro : Introduction) : Option FilePath :=
  (intro.folders.head?.bind Url.filePath?).or (intro.rootUrl.bind Url.filePath?)

def introduce (s : Session) (env : Env) (intro : Introduction) : Session × Reply :=
  let s :=
    { s with
      root := (rootOf? intro).or s.root
      clientSettings := intro.options
      canWatch := intro.canWatch }
  (s.reload env, { answer := .capabilities, warnings := s.reloadWarnings env })

def didOpen (s : Session) (env : Env) (url : Url) (language text : String) : Session × Reply :=
  let s := { s with index := sync s.settings s.index url.text text }
  (s.setBuffer url.text ⟨language, text⟩, { notices := send env [.log ("Opened file: " ++ url.text)] })

/-- the last of the new texts counts; a document that is not open is indexed all the same -/
def didChange (s : Session) (url : Url) (texts : List String) : Session :=
  match texts.getLast? with
  | none => s
  | some text =>
    { s with
      index := sync s.settings s.index url.text text
      buffers := s.buffers.map fun b => if b.1 = url.text then (b.1, { b.2 with text }) else b }

/-- what closing a document means for its file: it is read again if there is one, and forgotten otherwise -/
def closingChange (env : Env) (url : Url) : Change :=
  if url.filePath?.elim false env.disk.pathExists then .touched else .deleted

def didClose (s : Session) (env : Env) (url : Url) : Session × Reply :=
  let change := closingChange env url
  ({ s with
      buffers := s.buffers.filter fun b => b.1 ≠ url.text
      index := s.index.applyChange env.disk s.settings url change },
    { warnings := change.warnings env.disk s.settings url
      notices := send env [.log ("Closed file: " ++ url.text)] })

/-- a change on disk counts if it deletes the file or the file is not open -/
def heeds (s : Session) (change : Url × Change) : Bool :=
  change.2 = .deleted || !s.isOpen change.1.text

def didChangeFiles (s : Session) (env : Env) (changes : List (Url × Change)) : Session × Reply :=
  let heeded := changes.filter s.heeds
  ({ s with index := heeded.foldl (fun ix c => ix.applyChange env.disk s.settings c.1 c.2) s.index },
    { warnings := heeded.flatMap fun c => c.2.warnings env.disk s.settings c.1 })

/-- new settings count at once; the watcher of the old ones is withdrawn before the workspace is scanned again -/
def configure (s : Session) (env : Env) (settings : Json) : Session × Reply :=
  let s := { s with clientSettings := some settings }
  let warnings := s.reloadWarnings env
  let s := s.reload env
  if s.asksClient env then (s, { warnings, notices := [.unregister], pending := some .rescan })
  else
    let (s, reply) := s.refresh env
    (s, { reply with warnings := warnings ++ reply.warnings })

/-- what a message does -/
def handle (s : Session) (env : Env) : Request → Session × Reply
  | .introduce intro => s.introduce env intro
  | .initialized => s.refresh env
  | .shutdown => (s, {})
  | .didOpen url language text => s.didOpen env url language text
  | .didChange url texts => (s.didChange url texts, {})
  | .didClose url => s.didClose env url
  | .didChangeFiles changes => s.didChangeFiles env changes
  | .configure settings => s.configure env settings
  | .completion url pos => (s, { answer := .items (s.completions url.text pos) })

end Session
end StyleIndex
