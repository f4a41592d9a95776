/-
What of the disk a message makes a session look at. A server that runs on a real disk needs to read only this much before
it handles the message.
-/
import StyleIndex.Session

namespace StyleIndex

/-- parts of a disk: single files, and directories that are walked -/
structure Lookup where
  files : List FilePath
  trees : List FilePath
  /-- the settings may change before the directories are walked -/
  freshSettings : Bool

namespace Lookup

def nothing : Lookup := ⟨[], [], false⟩

def join (a b : Lookup) : Lookup :=
  ⟨a.files ++ b.files, a.trees ++ b.trees, a.freshSettings || b.freshSettings⟩

end Lookup

namespace Session

/-- the settings file below a root -/
def settingsPath (root : Option FilePath) : List FilePath :=
  root.toList.map fun root => root.join [settingsFile]

/-- what handling a message reads -/
def lookup (s : Session) : Request → Lookup
  | .introduce intro => ⟨settingsPath ((rootOf? intro).or s.root), [], true⟩
  | .initialized => ⟨[], s.root.toList, false⟩
  | .configure _ => ⟨settingsPath s.root, s.root.toList, true⟩
  | .didClose url => ⟨url.filePath?.toList, [], false⟩
  | .didChangeFiles changes => ⟨changes.filterMap fun c => c.1.filePath?, [], false⟩
  | _ => .nothing

/-- what goes on when the client has answered reads -/
def pendingLookup (s : Session) : Pending → Lookup
  | .rescan => ⟨[], s.root.toList, false⟩
  | .announcement _ => .nothing

end Session
end StyleIndex
