/-
Reading JSON text. `Json.parse?` accepts the JSON grammar and nothing after the value but blanks. Of two equal keys of an
object the later one counts.

The reader works on characters and carries fuel, one unit per nested call. Each call uses up a character, so a text needs
no more fuel than it has characters.
-/
import StyleIndex.Json
import StyleIndex.Text.Hex

namespace StyleIndex.Json

def isJsonBlank (c : Char) : Bool :=
  c = ' ' || c = '\t' || c = '\n' || c = '\r'

def skipBlanks (text : List Char) : List Char :=
  text.dropWhile isJsonBlank

/-- the character of a pair of surrogates -/
def joinSurrogates (high low : Nat) : Char :=
  Char.ofNat (0x10000 + (high - 0xD800) * 0x400 + (low - 0xDC00))

/-- the characters that stand behind a backslash for themselves or for a control character -/
def shortEscape? (c : Char) : Option Char :=
  if c = '"' || c = '\\' || c = '/' then some c
  else if c = 'b' then some (Char.ofNat 8)
  else if c = 'f' then some (Char.ofNat 12)
  else if c = 'n' then some '\n'
  else if c = 'r' then some '\r'
  else if c = 't' then some '\t'
  else none

/-- the rest of a string behind its opening quote; a surrogate is read only as half of a pair -/
def readString : List Char → Option (List Char × List Char)
  | '"' :: rest => some ([], rest)
  | '\\' :: 'u' :: a :: b :: c :: d :: rest =>
    match Text.hexNumber? [a, b, c, d], rest with
    | some code, rest =>
      if code < 0xD800 || 0xE000 ≤ code then
        (readString rest).map fun (tail, rest) => (Char.ofNat code :: tail, rest)
      else
        match rest with
        | '\\' :: 'u' :: e :: f :: g :: h :: rest =>
          match Text.hexNumber? [e, f, g, h] with
          | some low =>
            if code < 0xDC00 && 0xDC00 ≤ low && low < 0xE000 then
              (readString rest).map fun (tail, rest) => (joinSurrogates code low :: tail, rest)
            else none
          | none => none
        | _ => none
    | none, _ => none
  | '\\' :: c :: rest =>
    match shortEscape? c with
    | some c => (readString rest).map fun (tail, rest) => (c :: tail, rest)
    | none => none
  | c :: rest =>
    if c.toNat < 0x20 then none else (readString rest).map fun (tail, rest) => (c :: tail, rest)
  | [] => none

/-- the characters of numbers -/
def isNumberChar (c : Char) : Bool :=
  c.isDigit || c = '-' || c = '+' || c = '.' || c = 'e' || c = 'E'

def decimal (digits : List Char) : Nat :=
  digits.foldl (fun n c => n * 10 + (c.toNat - '0'.toNat)) 0

/-- a digit run without needless leading zeros -/
def isWholePart (digits : List Char) : Bool :=
  !digits.isEmpty && (digits.length = 1 || digits.head? ≠ some '0')

/-- the part of a number behind its whole part: an optional fraction and an optional exponent -/
def isNumberTail (tail : List Char) : Bool :=
  let exponentOk : List Char → Bool
    | [] => true
    | e :: rest =>
      (e = 'e' || e = 'E') &&
        (let digits := match rest with
          | '+' :: digits => digits
          | '-' :: digits => digits
          | digits => digits
         !digits.isEmpty && digits.all Char.isDigit)
  match tail with
  | '.' :: rest => !(rest.takeWhile Char.isDigit).isEmpty && exponentOk (rest.dropWhile Char.isDigit)
  | tail => exponentOk tail

/-- the number that a run of number characters writes; minus zero is no integer -/
def number? (run : List Char) : Option Json :=
  let negative := run.head? = some '-'
  let body := if negative then run.drop 1 else run
  let whole := body.takeWhile Char.isDigit
  let tail := body.dropWhile Char.isDigit
  if isWholePart whole && isNumberTail tail then
    if tail.isEmpty && !(negative && decimal whole = 0) then
      some (.int (if negative then -(decimal whole : Int) else decimal whole))
    else some (.real (String.ofList run))
  else none

/-- sets a key, keeping its place if it has one -/
def setField (fields : List (String × Json)) (key : String) (value : Json) : List (String × Json) :=
  if fields.any (·.1 = key) then fields.map fun f => if f.1 = key then (key, value) else f
  else fields ++ [(key, value)]

/-- a word at the start of a text -/
def readWord (word : String) (value : Json) (text : List Char) : Option (Json × List Char) :=
  if word.toList.isPrefixOf text then some (value, text.drop word.length) else none

mutual

def readValue : Nat → List Char → Option (Json × List Char)
  | 0, _ => none
  | fuel + 1, text =>
    match skipBlanks text with
    | '\x7b' :: rest =>
      match skipBlanks rest with
      | '\x7d' :: rest => some (.obj [], rest)
      | rest => readFields fuel [] rest
    | '[' :: rest =>
      match skipBlanks rest with
      | ']' :: rest => some (.arr [], rest)
      | rest => readItems fuel [] rest
    | '"' :: rest => (readString rest).map fun (s, rest) => (.str (String.ofList s), rest)
    | 't' :: rest => readWord "rue" (.bool true) rest
    | 'f' :: rest => readWord "alse" (.bool false) rest
    | 'n' :: rest => readWord "ull" .null rest
    | rest => (number? (rest.takeWhile isNumberChar)).map fun n => (n, rest.dropWhile isNumberChar)

/-- the items of an array behind its bracket; `seen` holds those read, last first -/
def readItems : Nat → List Json → List Char → Option (Json × List Char)
  | 0, _, _ => none
  | fuel + 1, seen, text => do
    let (item, rest) ← readValue fuel text
    match skipBlanks rest with
    | ',' :: rest => readItems fuel (item :: seen) rest
    | ']' :: rest => return (.arr (item :: seen).reverse, rest)
    | _ => none

/-- the fields of an object behind its brace -/
def readFields : Nat → List (String × Json) → List Char → Option (Json × List Char)
  | 0, _, _ => none
  | fuel + 1, seen, text =>
    match skipBlanks text with
    | '"' :: rest => do
      let (key, rest) ← readString rest
      match skipBlanks rest with
      | ':' :: rest => do
        let (value, rest) ← readValue fuel rest
        let seen := setField seen (String.ofList key) value
        match skipBlanks rest with
        | ',' :: rest => readFields fuel seen rest
        | '\x7d' :: rest => return (.obj seen, rest)
        | _ => none
      | _ => none
    | _ => none

end

/-- the value that a text writes -/
def parse? (text : String) : Option Json :=
  match readValue (text.length + 1) text.toList with
  | some (value, rest) => if (skipBlanks rest).isEmpty then some value else none
  | none => none

end StyleIndex.Json
