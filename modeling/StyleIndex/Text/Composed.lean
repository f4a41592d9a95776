/-
The composed form of a text. A letter with marks can be written in several ways; the composed form takes every character
apart, puts marks in the order of their classes, and joins again what can be joined. Two texts that mean the same have one
composed form.
-/
import StyleIndex.Text.ComposeTable

namespace StyleIndex.Text

/-- the class of a character that attaches to the one before it, and zero for any other -/
def combiningClass (c : Char) : Nat :=
  ((combiningClasses.find? fun row => row.1.1 ≤ c.toNat && c.toNat ≤ row.1.2).map (·.2)).getD 0

/-! ## Syllables

A Korean syllable is a leading consonant, a vowel and maybe a trailing consonant, and its code point is computed from
theirs. -/

def syllableBase : Nat := 0xAC00

def leadBase : Nat := 0x1100

def vowelBase : Nat := 0x1161

/-- one before the first trailing consonant -/
def trailBase : Nat := 0x11A7

def leadCount : Nat := 19

def vowelCount : Nat := 21

/-- the number of trailing consonants, and one more for none -/
def trailCount : Nat := 28

/-- the letters of a syllable -/
def takeSyllableApart? (c : Char) : Option (List Char) :=
  let n := c.toNat - syllableBase
  if syllableBase ≤ c.toNat && n < leadCount * vowelCount * trailCount then
    let lead := Char.ofNat (leadBase + n / (vowelCount * trailCount))
    let vowel := Char.ofNat (vowelBase + n / trailCount % vowelCount)
    some (lead :: vowel :: if n % trailCount = 0 then [] else [Char.ofNat (trailBase + n % trailCount)])
  else none

/-- the syllable of a consonant and a vowel, or of a syllable without and a trailing consonant -/
def joinSyllable? (a b : Char) : Option Char :=
  let lead := a.toNat - leadBase
  let vowel := b.toNat - vowelBase
  let syllable := a.toNat - syllableBase
  let trail := b.toNat - trailBase
  if leadBase ≤ a.toNat && lead < leadCount && vowelBase ≤ b.toNat && vowel < vowelCount then
    some (Char.ofNat (syllableBase + (lead * vowelCount + vowel) * trailCount))
  else if syllableBase ≤ a.toNat && syllable < leadCount * vowelCount * trailCount && syllable % trailCount = 0 &&
      trailBase < b.toNat && trail < trailCount then
    some (Char.ofNat (a.toNat + trail))
  else none

/-! ## Characters with marks -/

/-- takes a character apart, going into its first part up to a depth -/
def takeApart : Nat → Char → List Char
  | 0, c => [c]
  | depth + 1, c =>
    match takeSyllableApart? c with
    | some letters => letters
    | none =>
      match compositions.find? fun row => row.1 = c.toNat with
      | some (_, first, mark) => takeApart depth (Char.ofNat first) ++ takeApart depth (Char.ofNat mark)
      | none => [c]

/-- no character is made of more marks -/
def maxMarks : Nat := 4

/-- puts a mark before the marks of higher classes at the end; `done` holds what stands before it, last first -/
def placeMark (c : Char) : List Char → List Char
  | [] => [c]
  | last :: done =>
    if combiningClass c < combiningClass last && combiningClass c ≠ 0 then last :: placeMark c done
    else c :: last :: done

/-- marks in the order of their classes -/
def orderMarks (text : List Char) : List Char :=
  (text.foldl (fun done c => placeMark c done) []).reverse

/-- the character of a character and a mark -/
def join? (a b : Char) : Option Char :=
  (joinSyllable? a b).or
    ((compositions.find? fun row => row.2.1 = a.toNat && row.2.2 = b.toNat).map fun row => Char.ofNat row.1)

/-- joins characters with the marks behind them; `marks` holds those that could not be joined to `start`, last first, and
a mark joins `start` unless one of an equal or higher class stands between them -/
def joinMarks (start : Char) (marks : List Char) : List Char → List Char
  | [] => start :: marks.reverse
  | c :: rest =>
    let isFree := marks.head?.elim true fun last => combiningClass last < combiningClass c
    match if isFree then join? start c else none with
    | some joined => joinMarks joined marks rest
    | none =>
      if combiningClass c = 0 then start :: marks.reverse ++ joinMarks c [] rest
      else joinMarks start (c :: marks) rest

/-- the composed form of a text -/
def composed (text : List Char) : List Char :=
  let apart := orderMarks (text.flatMap (takeApart maxMarks))
  let marks := apart.takeWhile fun c => combiningClass c ≠ 0
  match apart.drop marks.length with
  | [] => marks
  | start :: rest => marks ++ joinMarks start [] rest

end StyleIndex.Text
