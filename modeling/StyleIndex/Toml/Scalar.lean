/-
Booleans, numbers, dates and times of TOML 1.1. A scalar is read as one run of characters and then classified as a whole.

Dates and times are checked and not kept: a settings file may hold them only where nobody looks. In the value tree a date
or time is a table with the single key `dateKey`. Numbers that fit no machine type are malformed.
-/
import StyleIndex.Json.Reader
import StyleIndex.Text.Hex

namespace StyleIndex.Toml

/-- the characters of booleans, numbers, dates and times -/
def isScalarChar (c : Char) : Bool :=
  c.isAlphanum || c = '_' || c = '+' || c = '-' || c = '.' || c = ':'

/-- digits in which an underscore stands only between two digits; the result is the digits alone -/
def groupedDigits? (isDigit : Char → Bool) (run : List Char) : Option (List Char) :=
  let groups := run.splitOn '_'
  if groups.all fun g => !g.isEmpty && g.all isDigit then some groups.flatten else none

/-- the sign of a number and what it stands before -/
def splitSign : List Char → Bool × List Char
  | '-' :: rest => (true, rest)
  | '+' :: rest => (false, rest)
  | rest => (false, rest)

/-! ## Numbers -/

/-- the integers that can be represented: those of a 128-bit word, with or without a sign -/
def inIntegerRange (n : Int) : Bool :=
  decide (-0x80000000000000000000000000000000 ≤ n) && decide (n < 0x100000000000000000000000000000000)

/-- the value of digits in a base up to sixteen -/
def digitsValue (base : Nat) (digits : List Char) : Nat :=
  digits.foldl (fun n c => n * base + (Text.hexValue? c).getD 0) 0

/-- digits without needless leading zeros -/
def decimalDigits? (run : List Char) : Option (List Char) :=
  (groupedDigits? Char.isDigit run).filter Json.isWholePart

def isDigitBelow (base : Nat) (c : Char) : Bool :=
  match Text.hexValue? c with
  | some d => d < base
  | none => false

def integer? (run : List Char) : Option Int :=
  let value :=
    match run with
    | '0' :: 'x' :: digits => (groupedDigits? (isDigitBelow 16) digits).map fun ds => (digitsValue 16 ds : Int)
    | '0' :: 'o' :: digits => (groupedDigits? (isDigitBelow 8) digits).map fun ds => (digitsValue 8 ds : Int)
    | '0' :: 'b' :: digits => (groupedDigits? (isDigitBelow 2) digits).map fun ds => (digitsValue 2 ds : Int)
    | run =>
      let (negative, body) := splitSign run
      (decimalDigits? body).map fun ds => if negative then -(digitsValue 10 ds : Int) else digitsValue 10 ds
  value.filter inIntegerRange

/-- the smallest number that is too large to round to a finite double: half a step above the largest one -/
def doubleLimit : Nat := Nat.pow 2 1024 - Nat.pow 2 970

/-- the number `mantissa * 10 ^ exponent` rounds to a finite double -/
def isFiniteDouble (mantissa : Nat) (exponent : Int) : Bool :=
  let size := (Nat.toDigits 10 mantissa).length
  if mantissa = 0 || exponent + size < 300 then true
  else if exponent + size > 320 then false
  else if exponent < 0 then mantissa < doubleLimit * Nat.pow 10 exponent.natAbs
  else mantissa * Nat.pow 10 exponent.natAbs < doubleLimit

/-- the exponent behind its `e` -/
def exponent? (run : List Char) : Option Int :=
  let (negative, body) := splitSign run
  (groupedDigits? Char.isDigit body).map fun ds =>
    if negative then -(digitsValue 10 ds : Int) else digitsValue 10 ds

/-- a number with a fraction, an exponent or both, or one of the special values -/
def isFloat (run : List Char) : Bool :=
  let body := (splitSign run).2
  if body = "inf".toList || body = "nan".toList then true
  else
    let isMark (c : Char) : Bool := c = 'e' || c = 'E'
    let significand := body.takeWhile fun c => !isMark c
    let exponent : Option Int :=
      match body.dropWhile fun c => !isMark c with
      | [] => some 0
      | _ :: rest => exponent? rest
    let whole := significand.takeWhile (· ≠ '.')
    let fraction : Option (List Char) :=
      match significand.dropWhile (· ≠ '.') with
      | [] => if significand.length = body.length then none else some []
      | _ :: rest => groupedDigits? Char.isDigit rest
    match decimalDigits? whole, fraction, exponent with
    | some whole, some fraction, some exponent =>
      isFiniteDouble (digitsValue 10 (whole ++ fraction)) (exponent - fraction.length)
    | _, _, _ => false

/-! ## Dates and times -/

/-- exactly `n` digits at the start of a text -/
def fixedDigits? (n : Nat) (text : List Char) : Option (Nat × List Char) :=
  let digits := text.take n
  if digits.length = n && digits.all Char.isDigit then some (Json.decimal digits, text.drop n) else none

def isLeapYear (year : Nat) : Bool :=
  year % 4 = 0 && (year % 100 ≠ 0 || year % 400 = 0)

def daysInMonth (year month : Nat) : Nat :=
  if month = 2 then (if isLeapYear year then 29 else 28)
  else if month = 4 || month = 6 || month = 9 || month = 11 then 30
  else 31

/-- a character that must stand here -/
def expect? (p : Char → Bool) : List Char → Option (List Char)
  | c :: rest => if p c then some rest else none
  | [] => none

/-- the text behind a full date -/
def afterDate? (text : List Char) : Option (List Char) := do
  let (year, rest) ← fixedDigits? 4 text
  let rest ← expect? (· = '-') rest
  let (month, rest) ← fixedDigits? 2 rest
  let rest ← expect? (· = '-') rest
  let (day, rest) ← fixedDigits? 2 rest
  if 1 ≤ month && month ≤ 12 && 1 ≤ day && day ≤ daysInMonth year month then some rest else none

/-- the text behind the seconds of a time and their fraction -/
def afterSeconds? (text : List Char) : Option (List Char) := do
  let (second, rest) ← fixedDigits? 2 text
  if second ≤ 60 then
    match rest with
    | '.' :: fraction =>
      if (fraction.takeWhile Char.isDigit).isEmpty then none else some (fraction.dropWhile Char.isDigit)
    | rest => some rest
  else none

/-- the text behind a time of day; the seconds may be left out -/
def afterTime? (text : List Char) : Option (List Char) := do
  let (hour, rest) ← fixedDigits? 2 text
  let rest ← expect? (· = ':') rest
  let (minute, rest) ← fixedDigits? 2 rest
  if hour ≤ 23 && minute ≤ 59 then
    match rest with
    | ':' :: rest => afterSeconds? rest
    | rest => some rest
  else none

/-- an offset from universal time, or nothing -/
def isOffset : List Char → Bool
  | [] => true
  | ['Z'] => true
  | ['z'] => true
  | sign :: rest =>
    (sign = '+' || sign = '-') &&
      (match fixedDigits? 2 rest with
       | some (hour, ':' :: rest) =>
         match fixedDigits? 2 rest with
         | some (minute, []) => hour ≤ 23 && minute ≤ 59
         | _ => false
       | _ => false)

/-- a date, a time, or a date with a time and maybe an offset -/
def isDateTime (run : List Char) : Bool :=
  match afterDate? run with
  | some [] => true
  | some (separator :: rest) =>
    (separator = 'T' || separator = 't' || separator = ' ') &&
      (match afterTime? rest with
       | some offset => isOffset offset
       | none => false)
  | none => afterTime? run = some []

/-- the key of the table that stands for a date or time -/
def dateKey : String := "$date"

/-- the value of a scalar -/
def scalarValue? (run : List Char) : Option Json :=
  if run = "true".toList then some (.bool true)
  else if run = "false".toList then some (.bool false)
  else
    match integer? run with
    | some n => some (.int n)
    | none =>
      if isFloat run then some (.real (String.ofList run))
      else if isDateTime run then some (.obj [(dateKey, .str (String.ofList run))])
      else none

/-- the run of a scalar at the start of a text; one blank may part a date from its time -/
def scalarRun (text : List Char) : List Char :=
  let run := text.takeWhile isScalarChar
  match text.drop run.length with
  | ' ' :: c :: rest =>
    if (afterDate? run).map List.isEmpty = some true && c.isDigit then
      run ++ ' ' :: (c :: rest).takeWhile isScalarChar
    else run
  | _ => run

/-- a scalar and the text behind it -/
def scalar? (text : List Char) : Option (Json × List Char) :=
  let run := scalarRun text
  (scalarValue? run).map fun value => (value, text.drop run.length)

end StyleIndex.Toml
