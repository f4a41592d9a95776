/-
Files and their URLs. `FilePath.url` names a file, and `Url.filePath?` goes back. A URL means a file if it has a path that
starts with a slash and no host but the local one.
-/
import StyleIndex.FilePath
import StyleIndex.Url

namespace StyleIndex

namespace Url

/-- a path whose last piece ends like a drive letter is taken for a directory -/
def closeDrive (pieces : List Name) : List Name :=
  match pieces.getLast?.map List.reverse with
  | some (mark :: letter :: _) =>
    if (mark = 0x3A || mark = 0x7C) && (Char.ofNat letter.toNat).isAlpha then pieces ++ [[]] else pieces
  | _ => pieces

/-- the file that a URL means -/
def filePath? (u : Url) : Option FilePath :=
  match u.authority.elim true (·.host.isLocal), u.path with
  | true, '/' :: rest =>
    let bytes := (rest.splitOn '/').flatMap fun segment => Name.slash :: percentDecode segment
    (FilePath.ofBytes? bytes).map fun path => ⟨closeDrive path.pieces⟩
  | _, _ => none

end Url

/-- the URL of a file -/
def FilePath.url (p : FilePath) : Url :=
  let path := Url.joinSegments (p.components.map (Url.encodeBytes Url.keepsInName))
  { scheme := Url.fileScheme
    authority := some .here
    path := if path.isEmpty then ['/'] else path
    query := none
    fragment := none }

/-- the identity of a file -/
def FilePath.id (p : FilePath) : FileId :=
  p.url.text

end StyleIndex
