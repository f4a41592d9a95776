/-
Percent encoding of URLs. Each part of a URL keeps its own set of ASCII characters; all other bytes of its text are written
as escapes. Escapes that stand in a text already are kept.
-/
import StyleIndex.Text.Hex
import StyleIndex.Text.Utf8

namespace StyleIndex.Url

/-- a number below sixteen as an upper-case hexadecimal digit -/
def upperHex (n : Nat) : Char :=
  (Nat.digitChar n).toUpper

/-- a byte as an escape -/
def escape (b : UInt8) : List Char :=
  ['%', upperHex (b.toNat / 16), upperHex (b.toNat % 16)]

/-- a printable ASCII character that is not in the list -/
def keeps (escaped : List Char) (b : UInt8) : Bool :=
  0x20 ≤ b && b ≤ 0x7E && !escaped.contains (Char.ofNat b.toNat)

/-- writes bytes, escaping all but those that are kept -/
def encodeBytes (keep : UInt8 → Bool) (bytes : List UInt8) : List Char :=
  bytes.flatMap fun b => if keep b then [Char.ofNat b.toNat] else escape b

def encodeText (keep : UInt8 → Bool) (text : List Char) : List Char :=
  encodeBytes keep (Utf8.encode text)

/-- what a parsed path escapes -/
def escapedInPath : List Char :=
  [' ', '"', '<', '>', '\x60', '#', '?', '\x7b', '\x7d']

/-- the characters that a parsed path keeps -/
def keepsInPath : UInt8 → Bool :=
  keeps escapedInPath

/-- the characters that a file name keeps -/
def keepsInName : UInt8 → Bool :=
  keeps (escapedInPath ++ ['/', '%', '\\'])

/-- the characters that a user name or a password keeps -/
def keepsInUserInfo : UInt8 → Bool :=
  keeps (escapedInPath ++ ['/', ':', ';', '=', '@', '[', '\\', ']', '^', '|'])

def keepsInQuery : UInt8 → Bool :=
  keeps [' ', '"', '#', '<', '>']

def keepsInSpecialQuery : UInt8 → Bool :=
  keeps [' ', '"', '#', '<', '>', '\'']

def keepsInFragment : UInt8 → Bool :=
  keeps [' ', '"', '<', '>', '\x60']

/-- the characters that an opaque path or host keeps -/
def keepsOpaque : UInt8 → Bool :=
  keeps []

/-- the bytes that a text with escapes means; a percent sign that starts no escape means itself -/
def percentDecode : List Char → List UInt8
  | [] => []
  | '%' :: a :: b :: rest =>
    match Text.hexValue? a, Text.hexValue? b with
    | some high, some low => UInt8.ofNat (high * 16 + low) :: percentDecode rest
    | _, _ => Utf8.encodeChar '%' ++ percentDecode (a :: b :: rest)
  | c :: rest => Utf8.encodeChar c ++ percentDecode rest

end StyleIndex.Url
