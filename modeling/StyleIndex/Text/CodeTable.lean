/-
Tables of code points that are kept as text. The items of a table stand between blanks and line ends; code points are
written in hexadecimal, and a range as its first and its last code point with a hyphen between them.
-/
import StyleIndex.Text.Hex

namespace StyleIndex.Text

/-- the items of a table -/
def tableItems (text : String) : List String :=
  ((text.splitOn "\n").flatMap (·.splitOn " ")).filter (· ≠ "")

/-- what stands before and behind the first mark of an item; all of it counts as both where there is no mark -/
def cutItem (mark : Char) (item : String) : String × String :=
  let before := item.toList.takeWhile (· ≠ mark)
  match item.toList.drop before.length with
  | [] => (item, item)
  | _ :: after => (String.ofList before, String.ofList after)

def hexItem (item : String) : Nat :=
  (hexNumber? item.toList).getD 0

def isHexDigit (c : Char) : Bool :=
  (hexValue? c).isSome

/-- a range, or a single code point as the range of itself -/
def rangeItem (item : String) : Nat × Nat :=
  let (first, last) := cutItem '-' item
  (hexItem first, hexItem last)

/-- a set of code points -/
structure CodeRanges where
  ranges : List (Nat × Nat)

namespace CodeRanges

def ofText (text : String) : CodeRanges :=
  ⟨(tableItems text).map rangeItem⟩

def contains (set : CodeRanges) (c : Char) : Bool :=
  set.ranges.any fun r => r.1 ≤ c.toNat && c.toNat ≤ r.2

end CodeRanges
end StyleIndex.Text
