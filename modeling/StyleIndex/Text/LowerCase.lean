/-
Lower-casing of a text by the Unicode rules. A character has one lower-case image, apart from two: the dotted capital I
becomes a small i and a combining dot, and a capital sigma becomes the final form at the end of a word. `asciiLower` is the
plain form that knows ASCII letters only.
-/
import StyleIndex.Text.CaseTable

namespace StyleIndex.Text

def inRanges (ranges : List (Nat × Nat)) (c : Char) : Bool :=
  ranges.any fun r => r.1 ≤ c.toNat && c.toNat ≤ r.2

def isCased (c : Char) : Bool := inRanges casedRanges c

def isCaseIgnorable (c : Char) : Bool := inRanges ignorableRanges c

/-- the simple lower-case image of a character -/
def lowerChar (c : Char) : Char :=
  if c.toNat < 0x80 then c.toLower
  else
    match lowerRuns.find? fun (first, last, step, _) =>
        first ≤ c.toNat && c.toNat ≤ last && (c.toNat - first) % step == 0 with
    | some (first, _, _, target) => Char.ofNat (target + (c.toNat - first))
    | none => c

/-- the nearest character that is not looked through has case -/
def nextIsCased (text : List Char) : Bool :=
  match text.dropWhile isCaseIgnorable with
  | [] => false
  | c :: _ => isCased c

/-- lower-cases a text; `past` is what stands before it, nearest character first -/
def lowerFrom (past : List Char) : List Char → List Char
  | [] => []
  | c :: cs =>
    let image :=
      if c = 'Σ' then [if nextIsCased past && !nextIsCased cs then 'ς' else 'σ']
      else if c = 'İ' then ['i', '\u0307']
      else [lowerChar c]
    image ++ lowerFrom (c :: past) cs

/-- the lower-case form of a text -/
def lowerCase (text : List Char) : List Char :=
  lowerFrom [] text

/-- a text with its ASCII letters in lower case -/
def asciiLower (s : String) : String :=
  String.ofList (s.toList.map Char.toLower)

end StyleIndex.Text
