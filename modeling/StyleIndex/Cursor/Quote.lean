/-
Quoted spans of one line. `"` and `'` open a span that the same character closes, a backslash inside a span escapes the
next character, and a back-tick is no quote.

`openQuote?` finds the quote that is still open at the end of a text, and `blankQuoted` hides what stands in spans. They
are two scans of the same language: what `openQuote?` reports open is what `blankQuoted` blanks to the end.
-/
namespace StyleIndex.Cursor

/-- a character that opens and closes quoted spans -/
def isQuote (c : Char) : Bool :=
  c = '"' || c = '\''

/-- the scan behind `openQuote?`: `opened` is the index and the character of the open quote, `i` the index reached -/
def openQuoteFrom : Option (Nat × Char) → Bool → Nat → List Char → Option Nat
  | opened, _, _, [] => opened.map Prod.fst
  | none, escaped, i, c :: cs =>
    if isQuote c then openQuoteFrom (some (i, c)) escaped (i + 1) cs else openQuoteFrom none escaped (i + 1) cs
  | some opened, true, i, _ :: cs => openQuoteFrom (some opened) false (i + 1) cs
  | some opened, false, i, c :: cs =>
    if c = '\\' then openQuoteFrom (some opened) true (i + 1) cs
    else if c = opened.2 then openQuoteFrom none false (i + 1) cs
    else openQuoteFrom (some opened) false (i + 1) cs

/-- the index of the quote that is still open at the end of the text -/
def openQuote? (text : List Char) : Option Nat :=
  openQuoteFrom none false 0 text

/-- the scan behind `blankQuoted`: the open quote, and whether the last character escapes the next -/
def blankFrom : Option Char → Bool → List Char → List Char
  | _, _, [] => []
  | none, escaped, c :: cs =>
    if isQuote c then ' ' :: blankFrom (some c) escaped cs else c :: blankFrom none escaped cs
  | some q, true, _ :: cs => ' ' :: blankFrom (some q) false cs
  | some q, false, c :: cs =>
    if c = '\\' then ' ' :: blankFrom (some q) true cs
    else if c = q then ' ' :: blankFrom none false cs
    else ' ' :: blankFrom (some q) false cs

/-- the text with every quoted span, closed or not, turned into spaces -/
def blankQuoted (text : List Char) : List Char :=
  blankFrom none false text

end StyleIndex.Cursor
