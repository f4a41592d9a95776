/-
The program: a completion server that talks to an editor over standard input and output.

This module only reads and writes. Before a message is handled, the part of the disk that the message looks at is read into
a `Disk`; everything that is decided is decided by `Connection.receive` on that value.
-/
import StyleIndex.CommandLine
import StyleIndex.Connection
import StyleIndex.Json.Reader

namespace StyleIndex.Main

/-! ## Reading the disk -/

/-- a place as the operating system writes it -/
def placeText (place : List Name) : String :=
  "/" ++ "/".intercalate (place.map fun name => (Utf8.string? name).getD "")

/-- the entry at a place -/
def entryAt (place : List Name) : IO.FS.DirEntry :=
  ⟨placeText place.dropLast, ((place.getLast?.bind Utf8.string?).getD "")⟩

/-- bytes that are no text stand for a file that may not be read -/
def unreadable : List UInt8 := [0xFF]

/-- a link target that no link can have stands for a link that leads nowhere -/
def nowhere : List UInt8 := [Name.slash, 0]

/-- what stands at a place -/
def readNode (place : List Name) : IO (Option Node) := do
  let path := (entryAt place).path
  try
    match (← path.symlinkMetadata).type with
    | .dir => return some .directory
    | .file =>
      let content ← try (do return (← IO.FS.readBinFile path).toList) catch _ => pure unreadable
      return some (.file content)
    | .symlink =>
      let target ← try (do return Utf8.ofString (← IO.FS.realPath path).toString) catch _ => pure nowhere
      return some (.link target)
    | .other => return none
  catch _ => return none

/-- reads what stands on the way of a path -/
partial def readPath (d : Disk) (place : List Name) : List Name → IO Disk
  | [] => return d
  | piece :: rest => do
    if piece = [] || piece = Name.here then readPath d place rest
    else if piece = Name.up then readPath d place.dropLast rest
    else
      let here := place ++ [piece]
      match ← readNode here with
      | none => return d
      | some node =>
        let d := d.put here node
        match node with
        | .directory => readPath d here rest
        | .link target =>
          let (base, pieces) := Disk.linkStart place target
          readPath d base (pieces ++ rest)
        | .file _ => return d

/-- reads the files that hold rules for a directory; the file that names a shared directory says where to look next -/
def readRules (d : Disk) (place : List Name) : IO Disk := do
  let d ← Walk.ruleFiles.foldlM (fun d names => readPath d place (names.map Name.ofString)) d
  let d ← (Repository.lookups d place).foldlM (fun d path => readPath d [] path.pieces) d
  (Repository.lookups d place).foldlM (fun d path => readPath d [] path.pieces) d

/-- reads a directory with all that the walk from `start` enters -/
partial def readTree (excludes : List IgnoreRule) (d : Disk) (start names : List Name) : IO Disk := do
  let place := start ++ names
  let mut d ← readRules d place
  let entries ← try (do return (← (entryAt (place ++ [Name.here])).path.readDir).toList) catch _ => pure []
  for entry in entries do
    let name := Name.ofString entry.fileName
    d ← readPath d place [name]
    if d.isDirectory (place ++ [name]) && !Walk.isSkipped d excludes start (names ++ [name]) then
      d ← readTree excludes d start (names ++ [name])
  return d

/-- reads the parts of the disk that a message looks at -/
def readLookup (excludes : List IgnoreRule) (lookup : Lookup) : IO Disk := do
  let mut d ← (lookup.files ++ lookup.trees).foldlM (fun d path => readPath d [] path.pieces) Disk.empty
  for root in lookup.trees do
    match d.locate? root with
    | none => pure ()
    | some place =>
      for directory in Walk.upward place do
        d ← readRules d directory
      if d.isDirectory place then d ← readTree excludes d place []
  return d

/-- the text of the user's settings file -/
def readUserFile : IO (Option String) := do
  let base ←
    match ← IO.getEnv "XDG_CONFIG_HOME" with
    | some directory => pure (some directory)
    | none => pure ((← IO.getEnv "HOME").map (· ++ "/.config"))
  match base with
  | none => return none
  | some directory =>
    try
      let bytes ← IO.FS.readBinFile (directory ++ "/classy/config.toml")
      return Utf8.string? bytes.toList
    catch _ => return none

/-! ## Messages -/

/-- the length that a header line gives -/
def contentLength? (line : String) : Option Nat :=
  let header := "content-length:".toList
  let text := line.toList
  if header.isPrefixOf (text.map Char.toLower) then
    let digits := ((text.drop header.length).dropWhile (· = ' ')).takeWhile Char.isDigit
    if digits.isEmpty then none else some (Json.decimal digits)
  else none

/-- reads header lines up to the blank one; none at the end of the input -/
partial def readHeader (input : IO.FS.Stream) (length : Option Nat) : IO (Option Nat) := do
  let line ← input.getLine
  if line.isEmpty then return none
  else if line.toList.all Text.isBlank then
    match length with
    | some n => return some n
    | none => readHeader input none
  else readHeader input ((contentLength? line).or length)

/-- reads a number of bytes, or fewer at the end of the input -/
partial def readBody (input : IO.FS.Stream) (count : Nat) (read : ByteArray) : IO ByteArray := do
  if count = 0 then return read
  let chunk ← input.read (USize.ofNat count)
  if chunk.isEmpty then return read else readBody input (count - chunk.size) (read ++ chunk)

/-- refreshes the world that a message will see -/
def refresh (c : Connection) (message : Json) : IO Connection := do
  let lookup := c.lookup message
  let excludes := if lookup.freshSettings then [] else Scan.excludeRules c.world.session.settings
  let disk ← readLookup excludes lookup
  let userFile ← readUserFile
  return { c with world := { c.world with env := { c.world.env with disk, userFile } } }

/-- answers messages until the editor ends the session or closes the input -/
partial def serve (input output : IO.FS.Stream) (c : Connection) : IO Unit := do
  match ← readHeader input none with
  | none => return
  | some length =>
    let body ← readBody input length ByteArray.empty
    let (c, sent) ←
      match (Utf8.string? body.toList).bind Json.parse? with
      | none => pure (c.reject .notJson)
      | some message => (fun (c : Connection) => c.receive message) <$> refresh c message
    for warning in c.warnings do
      IO.eprintln ("WARN " ++ warning.message)
    for answer in sent do
      output.putStr (Connection.frame answer)
    output.flush
    if c.ended || c.exited then return else serve input output c

/-- the world of a server before the first message -/
def firstWorld : World :=
  { env := { disk := .empty, userFile := none, listing := id, client := some ⟨false⟩ }
    session := .initial
    phase := .starting }

end StyleIndex.Main

open StyleIndex in
def main (args : List String) : IO UInt32 := do
  let action := CommandLine.action args
  if action = .serve then Main.serve (← IO.getStdin) (← IO.getStdout) (.start Main.firstWorld)
  else
    IO.print action.output
    if action = .wrong then IO.eprintln "error: wrong arguments, see --help"
  return UInt32.ofNat action.exitCode
