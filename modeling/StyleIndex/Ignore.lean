/-
Ignore rules: the lines of ignore files and exclude patterns.

A line is a glob with marks around it. A leading `!` brings back what earlier lines ignore, a slash at the end restricts the
line to directories, and a slash anywhere else ties it to the directory of its file; without one the line applies at any
depth below. Of the lines that match a path the last one decides.
-/
import StyleIndex.Glob.Reader
import StyleIndex.Text.Blank

namespace StyleIndex

structure IgnoreRule where
  glob : Glob
  /-- brings back what the glob matches -/
  restores : Bool
  /-- applies to directories only -/
  directoriesOnly : Bool

/-- what rules say of a path -/
inductive Verdict where
  | ignored
  | restored
deriving DecidableEq, Repr

namespace IgnoreRule

/-- blanks at the end of a line do not count, unless the last one is escaped -/
def trimLine (line : List Char) : List Char :=
  if ['\\', ' '].isSuffixOf line then line else Text.dropTrailing Text.isBlank line

/-- a glob that applies at any depth, unless it is tied to one place -/
def anchor (tied : Bool) (glob : List Char) : List Char :=
  let anywhere := "**/".toList
  if tied || glob.contains '/' || glob = "**".toList || anywhere.isPrefixOf glob then glob else anywhere ++ glob

/-- everything below a directory, which does not include the directory itself -/
def below (glob : List Char) : List Char :=
  if "/**".toList.isSuffixOf glob then glob ++ "/*".toList else glob

/-- the marks of a line: whether it restores, whether it is tied to one place, and the glob between them -/
def leadingMarks (line : List Char) : Bool × Bool × List Char :=
  match line with
  | '\\' :: '!' :: rest => (false, false, '!' :: rest)
  | '\\' :: '#' :: rest => (false, false, '#' :: rest)
  | '!' :: '/' :: rest => (true, true, rest)
  | '!' :: rest => (true, false, rest)
  | '/' :: rest => (false, true, rest)
  | rest => (false, false, rest)

/-- the mark at the end of a line: whether it is for directories only, and the glob before it -/
def trailingMark (line : List Char) : Bool × List Char :=
  match line.reverse with
  | '/' :: '\\' :: rest => (true, rest.reverse)
  | '/' :: rest => (true, rest.reverse)
  | _ => (false, line)

/-- what a line says -/
inductive Line where
  /-- nothing: the line is blank or a comment -/
  | blank
  /-- its glob is malformed -/
  | malformed
  | rule (rule : IgnoreRule)

/-- reads a line; `lenient` is for ignore files, which may leave a bracket open -/
def ofLine (lenient : Bool) (line : List Char) : Line :=
  if line.head? = some '#' then .blank
  else
    let line := trimLine line
    if line.isEmpty then .blank
    else
      let (restores, tied, rest) := leadingMarks line
      let (directoriesOnly, glob) := trailingMark rest
      match Glob.parse? lenient (below (anchor tied glob)) with
      | some glob => .rule { glob, restores, directoriesOnly }
      | none => .malformed

/-- the rule applies to a path relative to its directory -/
def applies (rule : IgnoreRule) (path : List UInt8) (isDirectory : Bool) : Bool :=
  (!rule.directoriesOnly || isDirectory) && rule.glob.matchesBytes path

/-- what rules say of a path; the last rule that applies decides -/
def verdict? (rules : List IgnoreRule) (path : List UInt8) (isDirectory : Bool) : Option Verdict :=
  (rules.reverse.find? fun rule => rule.applies path isDirectory).map fun rule =>
    if rule.restores then .restored else .ignored

/-- the rule of an exclude pattern, which is read as written behind a `!`; none if its glob is malformed -/
def ofExclude? (pattern : String) : Option IgnoreRule :=
  match ofLine false ('!' :: pattern.toList) with
  | .rule rule => some rule
  | _ => none

/-- the rules can be used together: none of their globs nests too deep -/
def areUsable (rules : List IgnoreRule) : Bool :=
  rules.all fun rule => rule.glob.isUsable

end IgnoreRule

/-- the rules of an ignore file, and whether one of its lines is malformed or its rules cannot be used -/
structure IgnoreFile where
  rules : List IgnoreRule
  malformed : Bool

namespace IgnoreFile

def empty : IgnoreFile := ⟨[], false⟩

/-- the lines of a file without their line ends -/
def byteLines (content : List UInt8) : List (List UInt8) :=
  let pieces := content.splitOn 0x0A
  let lines := if pieces.getLast? = some [] then pieces.dropLast else pieces
  lines.map fun line => if line.getLast? = some 0x0D then line.dropLast else line

/-- the lines of a file up to the first that is not UTF-8, without byte order marks at the start -/
def textLines (content : List UInt8) : List (List Char) :=
  let decoded := ((byteLines content).map Utf8.decode?).takeWhile Option.isSome |>.filterMap id
  match decoded with
  | [] => []
  | line :: lines => line.dropWhile (· = '\uFEFF') :: lines

def ofBytes (content : List UInt8) : IgnoreFile :=
  let lines := (textLines content).map (IgnoreRule.ofLine true)
  let rules := lines.filterMap fun
    | .rule rule => some rule
    | _ => none
  let malformed := lines.any fun
    | .malformed => true
    | _ => false
  if IgnoreRule.areUsable rules then ⟨rules, malformed⟩ else ⟨[], true⟩

end IgnoreFile
end StyleIndex
