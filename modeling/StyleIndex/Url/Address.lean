/-
Numeric addresses of hosts: how they may be written in a URL, and the one form in which they are printed.

An address of four bytes is written with up to four numbers, decimal, octal or hexadecimal; the last number fills all bytes
that are left. An address of eight pieces has two colons for one stretch of zeros and may end with four decimal bytes.
-/
import StyleIndex.Text.Hex

namespace StyleIndex.Url

/-! ## Four bytes -/

/-- the value of digits in a base up to sixteen -/
def number? (base : Nat) (digits : List Char) : Option Nat :=
  digits.foldlM (fun n c => ((Text.hexValue? c).filter (· < base)).map (n * base + ·)) 0

/-- a number with a mark for its base; no digits behind a mark mean zero -/
def addressNumber? : List Char → Option Nat
  | [] => none
  | '0' :: 'x' :: digits => number? 16 digits
  | '0' :: 'X' :: digits => number? 16 digits
  | '0' :: digits => number? 8 digits
  | digits => number? 10 digits

/-- the parts between the dots of a name; one dot at the end does not count -/
def dottedParts (name : List Char) : List (List Char) :=
  let parts := name.splitOn '.'
  if 1 < parts.length && parts.getLast? = some [] then parts.dropLast else parts

/-- a name that can only be meant as an address, since its last part is a number -/
def endsInNumber (name : List Char) : Bool :=
  match (dottedParts name).getLast? with
  | some part => (!part.isEmpty && part.all Char.isDigit) || (addressNumber? part).isSome
  | none => false

/-- the address that bytes and a last number give; the last number fills the bytes that are left -/
def joinNumbers? : Nat → List Nat → Option Nat
  | 0, _ => none
  | _, [] => none
  | room, [last] => if last < Nat.pow 256 room then some last else none
  | room + 1, n :: rest =>
    if n < 256 then (joinNumbers? room rest).map (n * Nat.pow 256 room + ·) else none

/-- the address of four bytes that a name writes -/
def ipv4? (name : List Char) : Option Nat :=
  ((dottedParts name).mapM addressNumber?).bind (joinNumbers? 4)

def ipv4Text (address : Nat) : List Char :=
  let byte (shift : Nat) : List Char := Nat.toDigits 10 (address / Nat.pow 256 shift % 256)
  byte 3 ++ '.' :: byte 2 ++ '.' :: byte 1 ++ '.' :: byte 0

/-! ## Eight pieces -/

/-- a decimal byte without needless zeros -/
def decimalByte? (digits : List Char) : Option Nat :=
  match digits with
  | [] => none
  | '0' :: _ :: _ => none
  | digits => (number? 10 digits).filter (· < 256)

/-- the two pieces that four decimal bytes make -/
def bytePieces? (text : List Char) : Option (List Nat) :=
  match (text.splitOn '.').mapM decimalByte? with
  | some [a, b, c, d] => some [a * 256 + b, c * 256 + d]
  | _ => none

/-- a piece: one to four hexadecimal digits -/
def piece? (digits : List Char) : Option Nat :=
  if digits.isEmpty || 4 < digits.length then none else Text.hexNumber? digits

/-- pieces with colons between them; `bytes` tells that four decimal bytes may stand at the end -/
def pieces? (bytes : Bool) (text : List Char) : Option (List Nat) :=
  if text.isEmpty then some []
  else
    let parts := text.splitOn ':'
    match bytes, (parts.getLast?.filter (·.contains '.')).bind bytePieces? with
    | true, some last => (parts.dropLast.mapM piece?).map (· ++ last)
    | _, _ => parts.mapM piece?

/-- cuts a text at its first two colons -/
def cutAtGap : List Char → Option (List Char × List Char)
  | ':' :: ':' :: rest => some ([], rest)
  | c :: rest => (cutAtGap rest).map fun (before, after) => (c :: before, after)
  | [] => none

/-- how many pieces an address has -/
def pieceCount : Nat := 8

/-- the address of eight pieces that a text writes; two colons stand for one zero or more -/
def ipv6? (text : List Char) : Option (List Nat) :=
  match cutAtGap text with
  | none => (pieces? true text).filter fun pieces => pieces.length = pieceCount
  | some (before, after) => do
    let left ← pieces? false before
    let right ← pieces? true after
    if left.length + right.length < pieceCount then
      return left ++ List.replicate (pieceCount - left.length - right.length) 0 ++ right
    else none

/-- the length of the run of zeros at the start -/
def leadingZeros (pieces : List Nat) : Nat :=
  (pieces.takeWhile (· = 0)).length

/-- where the longest run of zeros starts and how long it is; the first of two equal ones counts -/
def longestZeros : List Nat → Nat × Nat
  | [] => (0, 0)
  | n :: rest =>
    let here := leadingZeros (n :: rest)
    let (start, length) := longestZeros rest
    if length ≤ here then (0, here) else (start + 1, length)

/-- pieces in hexadecimal with colons between them -/
def piecesText (pieces : List Nat) : List Char :=
  ((pieces.map (Nat.toDigits 16)).intersperse [':']).flatten

/-- an address of eight pieces, in which the longest run of two or more zeros is written as two colons -/
def ipv6Text (pieces : List Nat) : List Char :=
  let (start, length) := longestZeros pieces
  if length < 2 then piecesText pieces
  else piecesText (pieces.take start) ++ ':' :: ':' :: piecesText (pieces.drop (start + length))

end StyleIndex.Url
