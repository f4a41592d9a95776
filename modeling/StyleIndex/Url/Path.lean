/-
Paths of URLs: the segments between slashes, with dot segments taken out.

Two dots go up one segment. They do not go up past a segment that is a drive letter, whatever the scheme, so that a path
keeps its drive. A drive letter at the very start of a file path is written with a colon.
-/
import StyleIndex.Url.Percent

namespace StyleIndex.Url

/-- a segment with its escaped dots written out, to recognise dot segments -/
def plainDots : List Char → List Char
  | '%' :: '2' :: e :: rest => if e = 'e' || e = 'E' then '.' :: plainDots rest else '%' :: '2' :: plainDots (e :: rest)
  | c :: rest => c :: plainDots rest
  | [] => []

def isDriveLetter : List Char → Bool
  | [c, mark] => c.isAlpha && (mark = ':' || mark = '|')
  | _ => false

/-- one segment up; `done` holds the segments kept, last first -/
def goUp : List (List Char) → List (List Char)
  | [] => []
  | last :: done => if isDriveLetter last then last :: done else done

/-- a drive letter with its colon -/
def closeDriveLetter (segment : List Char) : List Char :=
  segment.take 1 ++ [':']

/-- the segment starts a file path and names a drive -/
def startsDrive (isFile : Bool) (done : List (List Char)) (segment : List Char) : Bool :=
  isFile && done.isEmpty && isDriveLetter segment

/-- removes dot segments; `done` holds the segments kept, last first. A dot segment at the end leaves an empty one. -/
def normalizeSegments (isFile : Bool) : List (List Char) → List (List Char) → List (List Char)
  | done, [] => done.reverse
  | done, segment :: rest =>
    if plainDots segment = ['.', '.'] then
      normalizeSegments isFile (if rest.isEmpty then [] :: goUp done else goUp done) rest
    else if plainDots segment = ['.'] then
      normalizeSegments isFile (if rest.isEmpty then [] :: done else done) rest
    else
      let kept := if startsDrive isFile done segment then closeDriveLetter segment else segment
      normalizeSegments isFile (kept :: done) rest

/-- segments as a path -/
def joinSegments (segments : List (List Char)) : List Char :=
  segments.flatMap fun segment => '/' :: segment

/-- backslashes count as slashes in well-known schemes -/
def isSlash (isSpecial : Bool) (c : Char) : Bool :=
  c = '/' || (isSpecial && c = '\\')

/-- the segments of a text -/
def segments (isSpecial : Bool) (text : List Char) : List (List Char) :=
  ((text.map fun c => if isSlash isSpecial c then '/' else c).splitOn '/').map (encodeText keepsInPath)

/-- the path that segments make -/
def pathOf (segments : List (List Char)) : List Char :=
  joinSegments (normalizeSegments false [] segments)

/-- the path of a file URL that segments make; slashes that double the first one go -/
def filePathOf (segments : List (List Char)) : List Char :=
  '/' :: (joinSegments (normalizeSegments true [] segments)).dropWhile (· = '/')

/-- the path of a file URL starts with a drive letter -/
def namesDrive (segments : List (List Char)) : Bool :=
  (normalizeSegments true [] segments).head?.elim false isDriveLetter

end StyleIndex.Url
