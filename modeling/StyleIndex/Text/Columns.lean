/-
Columns of a line. An editor counts a column in UTF-16 code units, a file is stored in UTF-8 bytes, and the text
itself is a list of characters. `before` and `after` cut a line at a column, `byteOfColumn` and `columnOfByte?` convert
between the two counts.

A column past the end of the line means the end. A column between the two units of one character means the place behind
that character.
-/
namespace StyleIndex.Columns

/-- UTF-16 code units of one character -/
def units (c : Char) : Nat :=
  if c.val < 0x10000 then 1 else 2

/-- UTF-16 code units of a text -/
def width : List Char → Nat
  | [] => 0
  | c :: cs => units c + width cs

/-- UTF-8 bytes of a text -/
def byteCount : List Char → Nat
  | [] => 0
  | c :: cs => c.utf8Size + byteCount cs

/-- the part of a line before a column -/
def before : Nat → List Char → List Char
  | 0, _ => []
  | _ + 1, [] => []
  | n + 1, c :: cs => c :: before (n + 1 - units c) cs

/-- the part of a line from a column on -/
def after : Nat → List Char → List Char
  | 0, cs => cs
  | _ + 1, [] => []
  | n + 1, c :: cs => after (n + 1 - units c) cs

/-- the byte offset of a column -/
def byteOfColumn (line : List Char) (column : Nat) : Nat :=
  byteCount (before column line)

/-- the column of a byte offset; there is none past the end of the line or inside a character -/
def columnOfByte? : List Char → Nat → Option Nat
  | _, 0 => some 0
  | [], _ + 1 => none
  | c :: cs, n + 1 =>
    if c.utf8Size ≤ n + 1 then (columnOfByte? cs (n + 1 - c.utf8Size)).map (units c + ·) else none

/-- Cutting a line at a column loses nothing. -/
theorem before_append_after (n : Nat) (line : List Char) : before n line ++ after n line = line := by
  induction line generalizing n with
  | nil => cases n <;> rfl
  | cons c cs ih =>
    cases n with
    | zero => rfl
    | succ n => simp [before, after, ih]

end StyleIndex.Columns
