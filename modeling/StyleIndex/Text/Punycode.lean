/-
Punycode: a text as letters, digits and hyphens. The ASCII characters come first; the others follow as a list of insertions,
each written as a number of variable length. A number says how far the next insertion is from the last one, counted over all
positions of all code points in increasing order.
-/
namespace StyleIndex.Text.Punycode

/-- the number of digits -/
def base : Nat := 36

def digitChar (d : Nat) : Char :=
  if d < 26 then Char.ofNat (0x61 + d) else Char.ofNat (0x30 + d - 26)

def digitValue? (c : Char) : Option Nat :=
  if 'a' ≤ c && c ≤ 'z' then some (c.toNat - 0x61)
  else if 'A' ≤ c && c ≤ 'Z' then some (c.toNat - 0x41)
  else if c.isDigit then some (c.toNat - 0x30 + 26)
  else none

/-- the value from which on a digit at position `k` is not the last one -/
def threshold (k bias : Nat) : Nat :=
  if k ≤ bias then 1 else if bias + 26 ≤ k then 26 else k - bias

theorem threshold_pos (k bias : Nat) : 1 ≤ threshold k bias := by
  unfold threshold
  split
  · omega
  · split <;> omega

/-- how often a distance can be cut down, and what is left of it -/
def shrink (delta k : Nat) : Nat × Nat :=
  if 455 < delta then shrink (delta / 35) (k + base) else (delta, k)
termination_by delta
decreasing_by exact Nat.div_lt_self (by omega) (by omega)

/-- the bias behind an insertion at a distance, when the text has `count` characters -/
def adapt (delta count : Nat) (first : Bool) : Nat :=
  let scaled := if first then delta / 700 else delta / 2
  let (rest, k) := shrink (scaled + scaled / count) 0
  k + base * rest / (rest + 38)

/-! ## Writing -/

/-- a number, lowest digit first -/
def writeNumber (bias k n : Nat) : List Char :=
  let t := threshold k bias
  if n < t then [digitChar n]
  else digitChar (t + (n - t) % (base - t)) :: writeNumber bias (k + base) ((n - t) / (base - t))
termination_by n
decreasing_by
  have positive := threshold_pos k bias
  have quotient := Nat.div_le_self (n - threshold k bias) (base - threshold k bias)
  omega

/-- the insertions written so far -/
structure Writer where
  out : List Char
  delta : Nat
  bias : Nat
  /-- how many characters have been written -/
  count : Nat

/-- passes one character of the text while the code point `next` is being inserted -/
def Writer.pass (isFirst : Nat → Bool) (next : Nat) (w : Writer) (c : Char) : Writer :=
  if c.toNat < next then { w with delta := w.delta + 1 }
  else if c.toNat = next then
    { out := w.out ++ writeNumber w.bias base w.delta
      delta := 0
      bias := adapt w.delta (w.count + 1) (isFirst w.count)
      count := w.count + 1 }
  else w

/-- inserts code points, given in increasing order; `reached` is the first that was not passed yet -/
def Writer.insertAll (isFirst : Nat → Bool) (text : List Char) : List Nat → Nat → Writer → Writer
  | [], _, w => w
  | next :: rest, reached, w =>
    let w := { w with delta := w.delta + (next - reached) * (w.count + 1) }
    let w := text.foldl (Writer.pass isFirst next) w
    insertAll isFirst text rest (next + 1) { w with delta := w.delta + 1 }

def isAscii (c : Char) : Bool :=
  c.toNat < 0x80

def encode (text : List Char) : List Char :=
  let basic := text.filter isAscii
  let others := ((text.filter fun c => !isAscii c).map Char.toNat).eraseDups.mergeSort fun a b => decide (a ≤ b)
  let start : Writer := { out := [], delta := 0, bias := 72, count := basic.length }
  let insertions := (Writer.insertAll (· = basic.length) text others 0x80 start).out
  basic ++ (if basic.isEmpty then [] else ['-']) ++ insertions

/-! ## Reading -/

/-- a number at the start of a text, added to `n`; `weight` is the worth of the next digit -/
def readNumber (bias : Nat) : List Char → Nat → Nat → Nat → Option (Nat × List Char)
  | [], _, _, _ => none
  | c :: rest, k, weight, n =>
    match digitValue? c with
    | none => none
    | some d =>
      if d < threshold k bias then some (n + d * weight, rest)
      else readNumber bias rest (k + base) (weight * (base - threshold k bias)) (n + d * weight)

theorem length_readNumber (bias : Nat) (text : List Char) (k weight n : Nat) (r : Nat × List Char)
    (h : readNumber bias text k weight n = some r) : r.2.length < text.length := by
  induction text generalizing k weight n with
  | nil => simp [readNumber] at h
  | cons c rest ih =>
    rw [readNumber] at h
    split at h
    · simp at h
    · split at h
      · cases h
        simp
      · have := ih _ _ _ h
        simp only [List.length_cons]
        omega

/-- carries out insertions; `code` and `place` tell where the last one was -/
def readInsertions (bias code place : Nat) (out : List Char) : List Char → Option (List Char)
  | [] => some out
  | c :: rest =>
    match _h : readNumber bias (c :: rest) base 1 place with
    | none => none
    | some (n, left) =>
      let count := out.length + 1
      let code := code + n / count
      if code < 0xD800 || (0xDFFF < code && code < 0x110000) then
        readInsertions (adapt (n - place) count (place = 0)) code (n % count + 1)
          (out.insertIdx (n % count) (Char.ofNat code)) left
      else none
termination_by text => text.length
decreasing_by
  have := length_readNumber bias (c :: rest) base 1 place (n, left) _h
  simpa using this

/-- the text that is written; the last hyphen ends its ASCII characters, unless nothing stands before it -/
def decode? (text : List Char) : Option (List Char) :=
  let tail := (text.reverse.takeWhile (· ≠ '-')).reverse
  let basic := (text.take (text.length - tail.length)).dropLast
  if basic.isEmpty then readInsertions 72 0x80 0 [] text
  else if basic.all isAscii then readInsertions 72 0x80 0 basic tail
  else none

end StyleIndex.Text.Punycode
