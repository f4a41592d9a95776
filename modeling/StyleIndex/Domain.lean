/-
Domain names. `Domain.toAscii?` gives the one ASCII form of a name: characters are mapped to the ones they stand for, the
result is composed, and a label with other than ASCII characters is written in Punycode behind `xn--`. A label that comes
in Punycode is kept if it could have been written this way.
-/
import StyleIndex.Domain.Table
import StyleIndex.Text.Composed
import StyleIndex.Text.Punycode

namespace StyleIndex.Domain

open Text

/-! ## Characters -/

/-- the ASCII characters that a name in a URL may not have, control characters and blanks apart -/
def forbidden : List Char :=
  ['%', '#', '/', ':', '<', '>', '?', '@', '[', '\\', ']', '^', '|']

def isForbidden (c : Char) : Bool :=
  c.toNat ≤ 0x20 || c.toNat = 0x7F || forbidden.contains c

/-- the image of a character in a stretch of mapped ones -/
def Mapping.image? (m : Mapping) (c : Char) : Option (List Char) :=
  let offset := c.toNat - m.first
  if m.first ≤ c.toNat && c.toNat ≤ m.last && (m.step ≤ 1 || offset % m.step = 0) then
    some (m.target.map fun t => Char.ofNat (if m.step = 0 then t else t + offset))
  else none

/-- what a character of a name stands for; none if no name may have it -/
def mapChar? (c : Char) : Option (List Char) :=
  if c.toNat < 0x80 then some [c.toLower]
  else if ignored.contains c then some []
  else if disallowed.contains c then none
  else some ((mappings.findSome? (·.image? c)).getD [c])

/-- a name with every character mapped, in composed form -/
def prepare? (name : List Char) : Option (List Char) :=
  if name.all Punycode.isAscii then some (name.map Char.toLower)
  else (name.mapM mapChar?).map fun images => composed images.flatten

/-! ## Joiners

Two invisible characters control how letters join. They may stand behind a mark that kills a vowel, and the one that keeps
letters apart also between two letters that would join. -/

def nonJoiner : Char := '\u200C'

def joiner : Char := '\u200D'

/-- the class of the marks that kill a vowel -/
def viramaClass : Nat := 9

/-- the nearest character that is no mark is in a set -/
def nearestIn (set : CodeRanges) (text : List Char) : Bool :=
  (text.find? fun c => !nonspacing.contains c).elim false set.contains

/-- every joiner of a label is in its place; `past` holds what stands before, last first -/
def joinersInPlace (past : List Char) : List Char → Bool
  | [] => true
  | c :: rest =>
    (if c = nonJoiner || c = joiner then
      past.head?.elim false (fun last => combiningClass last = viramaClass) ||
        (c = nonJoiner && nearestIn joinsNext past && nearestIn joinsPrevious rest)
     else true) && joinersInPlace (c :: past) rest

/-! ## Direction -/

/-- how a character is written -/
inductive Direction where
  | left
  | right
  | digit
  | arabicDigit
  | neutral
  | mark
deriving DecidableEq, Repr

def directionOf (c : Char) : Direction :=
  if rightToLeft.contains c then .right
  else if arabicDigits.contains c then .arabicDigit
  else if digits.contains c then .digit
  else if neutral.contains c then .neutral
  else if nonspacing.contains c then .mark
  else .left

/-- a label that makes the order of a whole name matter -/
def isRightward (label : List Char) : Bool :=
  label.any fun c => directionOf c = .right || directionOf c = .arabicDigit

/-- a label reads the same in either direction of its surroundings: it starts with a letter of its direction, has none of
the other, and ends with a letter or a digit; digits of both kinds do not go together -/
def isOrdered (label : List Char) : Bool :=
  let directions := label.map directionOf
  let last := directions.reverse.find? (· ≠ .mark)
  match directions.head? with
  | none => true
  | some .right =>
    !directions.contains .left && !(directions.contains .digit && directions.contains .arabicDigit) &&
      (last = some .right || last = some .digit || last = some .arabicDigit)
  | some .left =>
    !directions.contains .right && !directions.contains .arabicDigit && (last = some .left || last = some .digit)
  | some _ => false

/-! ## Labels -/

/-- what starts a label in Punycode -/
def codedStart : List Char := "xn--".toList

/-- the label that is meant; one in Punycode must hold a character that is not ASCII, and be mapped and composed -/
def decodeLabel? (label : List Char) : Option (List Char) :=
  if codedStart.isPrefixOf label then
    (Punycode.decode? (label.drop codedStart.length)).filter fun decoded =>
      !decoded.all Punycode.isAscii && prepare? decoded = some decoded
  else some label

/-- a label in ASCII; one that came in Punycode stays as it is -/
def encodeLabel (label decoded : List Char) : List Char :=
  if decoded.all Punycode.isAscii || codedStart.isPrefixOf label then label
  else codedStart ++ Punycode.encode decoded

/-- a label that a name may have -/
def isLabel (label : List Char) : Bool :=
  !label.any isForbidden && joinersInPlace [] label &&
    label.head?.elim true fun c => !nonspacing.contains c && !spacing.contains c

/-- the ASCII form of a name -/
def toAscii? (name : List Char) : Option (List Char) := do
  let labels := (← prepare? name).splitOn '.'
  let decoded ← labels.mapM decodeLabel?
  if decoded.all isLabel && (!decoded.any isRightward || decoded.all isOrdered) then
    return ((labels.zipWith encodeLabel decoded).intersperse ['.']).flatten
  else none

end StyleIndex.Domain
