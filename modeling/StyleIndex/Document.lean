/-
Documents as the cursor sees them: lines, and the word at a position.

`Document` splits a text once and knows word ranges. `plainLine?` reads one line of a text and knows none. Both give the
same lines: a line ends at a line feed, loses one carriage return before it, and the text behind the last line feed is a
line too. `LineSource` is what the context detector needs of either.
-/
import StyleIndex.Text.Blank
import StyleIndex.Text.Columns
import StyleIndex.Symbol

namespace StyleIndex

/-- a place in a document: line and column from zero, the column in UTF-16 units -/
structure Position where
  line : Nat
  column : Nat
deriving DecidableEq, Repr

/-- a stretch of a document -/
structure Range where
  start : Position
  stop : Position
deriving DecidableEq, Repr

/-- read access to a document, line by line, and to the word at a position where the host can tell -/
structure LineSource where
  line? : Nat → Option (List Char)
  wordRange? : Position → Option Range

/-- a line without the carriage return at its end -/
def stripReturn (line : List Char) : List Char :=
  if line.getLast? = some '\r' then line.dropLast else line

/-- a text cut at its line feeds -/
def splitLines : List Char → List (List Char)
  | [] => [[]]
  | c :: cs =>
    if c = '\n' then [] :: splitLines cs
    else
      match splitLines cs with
      | [] => [[c]]
      | line :: lines => (c :: line) :: lines

/-- a text as its list of lines -/
structure Document where
  lines : List (List Char)

namespace Document

def ofText (text : List Char) : Document :=
  ⟨(splitLines text).map stripReturn⟩

def line? (doc : Document) (n : Nat) : Option (List Char) :=
  doc.lines[n]?

/-- the range of the word that touches a position; it is empty between words -/
def wordRange? (doc : Document) (pos : Position) : Option Range :=
  (doc.line? pos.line).map fun line =>
    let left := Columns.before pos.column line
    let right := Columns.after pos.column line
    { start := ⟨pos.line, Columns.width (Text.dropTrailing isSymbolChar left)⟩
      stop := ⟨pos.line, Columns.width (left ++ right.takeWhile isSymbolChar)⟩ }

def source (doc : Document) : LineSource :=
  ⟨doc.line?, doc.wordRange?⟩

end Document

/-- the text from line `n` on -/
def dropLines? : Nat → List Char → Option (List Char)
  | 0, text => some text
  | n + 1, text =>
    match text.dropWhile (· ≠ '\n') with
    | [] => none
    | _ :: rest => dropLines? n rest

/-- line `n` of a text, read without splitting all of it -/
def plainLine? (text : List Char) (n : Nat) : Option (List Char) :=
  (dropLines? n text).map fun rest => stripReturn (rest.takeWhile (· ≠ '\n'))

/-- a bare text: lines only -/
def plainSource (text : List Char) : LineSource :=
  ⟨plainLine? text, fun _ => none⟩

end StyleIndex
