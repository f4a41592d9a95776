/-
The walk of a workspace: which files below a directory a scan sees.

A file is walked if neither it nor a directory on the way to it is skipped. Something is skipped if an exclude pattern
matches it, or an ignore file on the way says so, or it is hidden and no ignore file brings it back. Links are not walked,
except one that the walk starts from. The ignore files of the directories above the start count too.

`.ignore` files come first, the nearest one deciding, then `.gitignore` files and a repository's own exclude file. The last
two count only inside a repository, and only up to its root.

Two things that a walk may meet are left out. A user may have a git ignore file for all repositories, which would be asked
behind the exclude file; here there is none. And everything on a `Disk` can be read, so a walk leaves nothing out for want of
permission, and `problems` counts no such entry.
-/
import StyleIndex.Disk.Repository
import StyleIndex.Ignore

namespace StyleIndex

/-- what the ignore files of one directory say -/
structure DirectoryRules where
  ignore : IgnoreFile
  gitIgnore : IgnoreFile
  gitExclude : IgnoreFile
  /-- the directory is the root of a repository -/
  isRepository : Bool
  /-- something is wrong with the files that hold the rules -/
  malformed : Bool

namespace Walk

/-- the paths, from a directory, of what can hold rules for it or mark it as a repository -/
def ruleFiles : List (List String) :=
  [[".ignore"], [".gitignore"], [".git"], [".jj"]]

def ignoreFile (d : Disk) (path : FilePath) : IgnoreFile :=
  (d.readBytes? path).elim .empty IgnoreFile.ofBytes

def directoryRules (d : Disk) (place : List Name) : DirectoryRules :=
  let ignore := ignoreFile d (.inside place [".ignore"])
  let gitIgnore := ignoreFile d (.inside place [".gitignore"])
  let gitExclude := (Repository.excludeFile? d place).elim .empty (ignoreFile d)
  { ignore, gitIgnore, gitExclude
    isRepository := Repository.isRoot d place
    malformed :=
      ignore.malformed || gitIgnore.malformed || gitExclude.malformed || Repository.store d place = .unreadable }

/-- a place and all directories above it, nearest first -/
def upward (place : List Name) : List (List Name) :=
  (initialParts place).reverse

/-- names as one path -/
def joined (names : List Name) : List UInt8 :=
  (names.intersperse [Name.slash]).flatten

/-- the verdicts of the directories above something, nearest first; `select` picks the file that is asked -/
def verdicts (d : Disk) (select : DirectoryRules → IgnoreFile) (place : List Name) (isDirectory : Bool)
    (directories : List (List Name)) : Option Verdict :=
  directories.findSome? fun directory =>
    IgnoreRule.verdict? (select (directoryRules d directory)).rules (joined (place.drop directory.length)) isDirectory

/-- the directories from the nearest up to and including the first root of a repository -/
def repositoryPart (d : Disk) : List (List Name) → List (List Name)
  | [] => []
  | directory :: rest =>
    if (directoryRules d directory).isRepository then [directory] else directory :: repositoryPart d rest

/-- what the ignore files say of a place -/
def ignoreVerdict? (d : Disk) (place : List Name) (isDirectory : Bool) : Option Verdict :=
  let above := upward place.dropLast
  let git :=
    if above.any fun directory => (directoryRules d directory).isRepository then repositoryPart d above else []
  (verdicts d (·.ignore) place isDirectory above).or
    ((verdicts d (·.gitIgnore) place isDirectory git).or (verdicts d (·.gitExclude) place isDirectory git))

/-- an exclude pattern matches something; `names` is its path from the start of the walk -/
def isExcluded (excludes : List IgnoreRule) (names : List Name) (isDirectory : Bool) : Bool :=
  excludes.any fun rule => rule.applies (joined names) isDirectory

/-- the walk does not enter or see what stands at `start ++ names` -/
def isSkipped (d : Disk) (excludes : List IgnoreRule) (start names : List Name) : Bool :=
  let place := start ++ names
  let isDirectory := d.isDirectory place
  isExcluded excludes names isDirectory ||
    (match ignoreVerdict? d place isDirectory with
     | some .ignored => true
     | some .restored => false
     | none => (names.getLast?.getD []).isHidden)

/-- the walk reaches what stands at `start ++ names` -/
def reaches (d : Disk) (excludes : List IgnoreRule) (start names : List Name) : Bool :=
  ((initialParts names).drop 1).all fun onTheWay => !isSkipped d excludes start onTheWay

/-- the path of a node from a directory that it is in -/
def relative? (start place : List Name) : Option (List Name) :=
  if start.isPrefixOf place && start.length < place.length then some (place.drop start.length) else none

/-- the files below a directory that the walk sees, by their paths from there -/
def files (d : Disk) (excludes : List IgnoreRule) (start : List Name) : List (List Name) :=
  (d.nodes.filter fun e => e.2.isFile).filterMap fun e =>
    (relative? start e.1).filter (reaches d excludes start)

/-- something is wrong with the rules above the start -/
def isMalformedAbove (d : Disk) (start : List Name) : Bool :=
  !start.isEmpty && (upward start.dropLast).any fun directory => (directoryRules d directory).malformed

end Walk

/-- the outcome of a walk: the paths of the files seen, and how often the walk met something it could not use -/
structure Walk where
  found : List FilePath
  problems : Nat

/-- walks from a path, which may lead to a directory or a file, or nowhere. The rules do not count for a file. -/
def Disk.walk (d : Disk) (excludes : List IgnoreRule) (start : FilePath) : Walk :=
  match d.locate? start with
  | none => ⟨[], 1⟩
  | some place =>
    if d.isDirectory place then
      { found := (Walk.files d excludes place).map start.join
        problems := if Walk.isMalformedAbove d place then 1 else 0 }
    else ⟨[start], 0⟩

end StyleIndex
