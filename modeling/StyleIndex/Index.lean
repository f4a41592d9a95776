/-
The index: one registry per kind of symbol, and how files get into them.

Whatever the reason, a file enters the index as a `Load`: its identity, its extension and what could be read of it. The
extension decides which registries take it, by the settings in force. A scan of the workspace, a change on disk and an edit
in an open buffer differ only in how they come to their loads.
-/
import StyleIndex.Disk.Walk
import StyleIndex.FileUrl
import StyleIndex.Settings
import StyleIndex.Warning

namespace StyleIndex

structure Index where
  classNames : Registry
  mixins : Registry
deriving DecidableEq, Repr

namespace Index

def empty : Index := ⟨.empty .className, .empty .mixin⟩

def registry (ix : Index) : Kind → Registry
  | .className => ix.classNames
  | .mixin => ix.mixins

/-- changes both registries -/
def map (f : Kind → Registry → Registry) (ix : Index) : Index :=
  ⟨f .className ix.classNames, f .mixin ix.mixins⟩

/-- forgets a file -/
def remove (ix : Index) (file : FileId) : Index :=
  ix.map fun _ r => r.remove file

/-- forgets every file -/
def reset (ix : Index) : Index :=
  ix.map fun _ r => r.reset

end Index

/-- a file on its way into the index -/
structure Load where
  file : FileId
  extension : String
  /-- the text, unless it could not be read -/
  content : Option String
deriving DecidableEq, Repr

namespace Load

/-- the registry of a kind takes the file -/
def isWanted (l : Load) (settings : Settings) (kind : Kind) : Bool :=
  (settings.source kind).handlesExtension l.extension

/-- some registry takes the file -/
def isStyle (l : Load) (settings : Settings) : Bool :=
  l.isWanted settings .className || l.isWanted settings .mixin

/-- loads the file into the registries that take it -/
def into (l : Load) (settings : Settings) (ix : Index) : Index :=
  ix.map fun kind r => if l.isWanted settings kind then r.load l.file l.content else r

/-- one warning per registry that could not read the file -/
def warnings (l : Load) (settings : Settings) : List Warning :=
  if l.content.isSome then []
  else ([.className, .mixin] : List Kind).filterMap fun kind =>
    if l.isWanted settings kind then some .unreadableFile else none

end Load

/-! ## Scans -/

/-- what a scan did -/
structure ScanSummary where
  /-- files that were loaded -/
  files : Nat
  /-- files that some registry takes and that could not be read -/
  failures : Nat
deriving DecidableEq, Repr

namespace Scan

/-- the rules of the exclude patterns that are well formed -/
def writtenRules (settings : Settings) : List IgnoreRule :=
  settings.exclude.filterMap IgnoreRule.ofExclude?

/-- the rules that count for a walk -/
def excludeRules (settings : Settings) : List IgnoreRule :=
  if IgnoreRule.areUsable (writtenRules settings) then writtenRules settings else []

/-- a walked file as a load, if it has an extension -/
def load? (d : Disk) (path : FilePath) : Option Load :=
  path.extension?.map fun extension => ⟨path.id, extension, d.readText? path⟩

/-- the style files that the walk from a directory sees -/
def styleFiles (d : Disk) (settings : Settings) (root : FilePath) : List Load :=
  ((d.walk (excludeRules settings) root).found.filterMap (load? d)).filter fun l => l.isStyle settings

/-- loads sorted by the names under which their files are listed -/
def inOrder (listing : FileId → String) (loads : List Load) : List Load :=
  loads.mergeSort fun a b => decide (listing a.file ≤ listing b.file)

/-- loads files one after another -/
def loadAll (settings : Settings) (loads : List Load) (ix : Index) : Index :=
  loads.foldl (fun ix l => l.into settings ix) ix

/-- loads every style file of the workspace -/
def run (listing : FileId → String) (d : Disk) (settings : Settings) (root : FilePath) (ix : Index) : Index :=
  loadAll settings (inOrder listing (styleFiles d settings root)) ix

def summary (d : Disk) (settings : Settings) (root : FilePath) : ScanSummary :=
  { files := (styleFiles d settings root).countP fun l => l.content.isSome
    failures := (styleFiles d settings root).countP fun l => l.content.isNone }

/-- what a scan complains about: bad exclude patterns, places it cannot enter, files it cannot read -/
def warnings (d : Disk) (settings : Settings) (root : FilePath) : List Warning :=
  (settings.exclude.filter fun pattern => (IgnoreRule.ofExclude? pattern).isNone).map (fun _ => .badGlob) ++
    (if IgnoreRule.areUsable (writtenRules settings) then [] else [.unusableGlobs]) ++
    List.replicate (d.walk (excludeRules settings) root).problems .unreadableEntry ++
    (styleFiles d settings root).flatMap fun l => l.warnings settings

end Scan

/-! ## Changes on disk -/

/-- what happened to a file -/
inductive Change where
  | touched
  | deleted
deriving DecidableEq, Repr

/-- a change as the editor protocol numbers it -/
def Change.ofCode (code : Int) : Change :=
  if code = 3 then .deleted else .touched

/-- the load of a file that changed; a URL without an extension or without a file gives none -/
def Url.load? (d : Disk) (url : Url) : Option Load :=
  (extensionOf? url.pathText).bind fun extension =>
    url.filePath?.map fun path => ⟨url.text, extension, d.readText? path⟩

namespace Index

/-- follows a change on disk: a deleted file goes, any other is read again -/
def applyChange (ix : Index) (d : Disk) (settings : Settings) (url : Url) : Change → Index
  | .deleted => ix.remove url.text
  | .touched => (url.load? d).elim ix fun l => l.into settings ix

end Index

/-- what following a change complains about -/
def Change.warnings (d : Disk) (settings : Settings) (url : Url) : Change → List Warning
  | .deleted => []
  | .touched => (url.load? d).elim [] fun l => l.warnings settings

end StyleIndex
