/-
UTF-8. `encode` writes a text as bytes, and `decode?` reads bytes back: it refuses overlong forms, surrogates, values past
the last code point and cut characters.
-/
namespace StyleIndex.Utf8

/-- the byte with a value below 256 -/
def byte (n : Nat) : UInt8 := UInt8.ofNat n

/-- the bytes of one character -/
def encodeChar (c : Char) : List UInt8 :=
  let n := c.toNat
  if n < 0x80 then [byte n]
  else if n < 0x800 then [byte (0xC0 + n / 0x40), byte (0x80 + n % 0x40)]
  else if n < 0x10000 then [byte (0xE0 + n / 0x1000), byte (0x80 + n / 0x40 % 0x40), byte (0x80 + n % 0x40)]
  else
    [byte (0xF0 + n / 0x40000), byte (0x80 + n / 0x1000 % 0x40), byte (0x80 + n / 0x40 % 0x40),
      byte (0x80 + n % 0x40)]

/-- the bytes of a text -/
def encode (text : List Char) : List UInt8 :=
  text.flatMap encodeChar

/-- a byte that continues a character -/
def isTail (b : UInt8) : Bool :=
  0x80 ≤ b && b ≤ 0xBF

/-- the six bits of a continuing byte -/
def tailBits (b : UInt8) : Nat :=
  b.toNat % 0x40

/-- the text that bytes write, if they are UTF-8 -/
def decode? : List UInt8 → Option (List Char)
  | [] => some []
  | a :: rest =>
    if a < 0x80 then (decode? rest).map (Char.ofNat a.toNat :: ·)
    else
      match rest with
      | [] => none
      | b :: rest =>
        if 0xC2 ≤ a && a ≤ 0xDF && isTail b then
          (decode? rest).map (Char.ofNat (a.toNat % 0x20 * 0x40 + tailBits b) :: ·)
        else
          match rest with
          | [] => none
          | c :: rest =>
            let n := a.toNat % 0x10 * 0x1000 + tailBits b * 0x40 + tailBits c
            if 0xE0 ≤ a && a ≤ 0xEF && isTail b && isTail c then
              if 0x800 ≤ n && (n < 0xD800 || 0xE000 ≤ n) then (decode? rest).map (Char.ofNat n :: ·) else none
            else
              match rest with
              | [] => none
              | d :: rest =>
                let n := a.toNat % 8 * 0x40000 + tailBits b * 0x1000 + tailBits c * 0x40 + tailBits d
                if 0xF0 ≤ a && a ≤ 0xF4 && isTail b && isTail c && isTail d && 0x10000 ≤ n && n < 0x110000 then
                  (decode? rest).map (Char.ofNat n :: ·)
                else none

/-- the text that bytes write, as a string -/
def string? (bytes : List UInt8) : Option String :=
  (decode? bytes).map String.ofList

/-- the bytes of a string -/
def ofString (s : String) : List UInt8 :=
  encode s.toList

end StyleIndex.Utf8
