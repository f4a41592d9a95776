/-
The lexemes of TOML 1.1: blanks, comments, keys and strings. Each reader takes a lexeme off the front of a text and
returns the rest; none means that the text is malformed.
-/
import StyleIndex.Text.Hex

namespace StyleIndex.Toml

/-- a blank inside a line -/
def isSpace (c : Char) : Bool :=
  c = ' ' || c = '\t'

def skipSpaces (text : List Char) : List Char :=
  text.dropWhile isSpace

/-- the text behind a line end -/
def lineEnd? : List Char → Option (List Char)
  | '\n' :: rest => some rest
  | '\r' :: '\n' :: rest => some rest
  | _ => none

/-- a character that may stand in a comment or a one-line string: everything but control characters, and the tab -/
def isPrintable (c : Char) : Bool :=
  c = '\t' || (0x20 ≤ c.toNat && c.toNat ≠ 0x7F)

/-- a comment, if one stands here; the line end stays -/
def skipComment : List Char → List Char
  | '#' :: rest => rest.dropWhile isPrintable
  | text => text

/-- the rest of a line that holds nothing more; the end of the text ends a line too -/
def finishLine? (text : List Char) : Option (List Char) :=
  match skipComment (skipSpaces text) with
  | [] => some []
  | rest => lineEnd? rest

/-- blanks, comments and line ends between the parts of a value; `comment` tells that a comment is being passed -/
def skipLayout : Bool → List Char → Option (List Char)
  | _, [] => some []
  | _, '\n' :: rest => skipLayout false rest
  | _, '\r' :: '\n' :: rest => skipLayout false rest
  | true, c :: rest => if isPrintable c then skipLayout true rest else none
  | false, c :: rest =>
    if isSpace c then skipLayout false rest
    else if c = '#' then skipLayout true rest
    else some (c :: rest)

/-! ## Strings -/

/-- the character with a code point; surrogates are no characters -/
def charOfCode? (code : Nat) : Option Char :=
  if code < 0xD800 || (0xE000 ≤ code && code < 0x110000) then some (Char.ofNat code) else none

/-- the character written by hexadecimal digits -/
def hexScalar? (digits : List Char) : Option Char :=
  (Text.hexNumber? digits).bind charOfCode?

/-- the one-letter escapes -/
def shortEscape? (c : Char) : Option Char :=
  if c = '"' || c = '\\' then some c
  else if c = 'b' then some (Char.ofNat 8)
  else if c = 't' then some '\t'
  else if c = 'n' then some '\n'
  else if c = 'f' then some (Char.ofNat 12)
  else if c = 'r' then some '\r'
  else if c = 'e' then some (Char.ofNat 27)
  else none

/-- puts a character before a string that was read -/
def consChar (c : Option Char) (read : Option (List Char × List Char)) : Option (List Char × List Char) :=
  match c, read with
  | some c, some (tail, rest) => some (c :: tail, rest)
  | _, _ => none

/-- the rest of a basic string behind its quote -/
def basicString : List Char → Option (List Char × List Char)
  | '"' :: rest => some ([], rest)
  | '\\' :: 'x' :: a :: b :: rest => consChar (hexScalar? [a, b]) (basicString rest)
  | '\\' :: 'u' :: a :: b :: c :: d :: rest => consChar (hexScalar? [a, b, c, d]) (basicString rest)
  | '\\' :: 'U' :: a :: b :: c :: d :: e :: f :: g :: h :: rest =>
    consChar (hexScalar? [a, b, c, d, e, f, g, h]) (basicString rest)
  | '\\' :: c :: rest => consChar (shortEscape? c) (basicString rest)
  | c :: rest => if isPrintable c then consChar (some c) (basicString rest) else none
  | [] => none

/-- the rest of a literal string behind its quote -/
def literalString : List Char → Option (List Char × List Char)
  | '\'' :: rest => some ([], rest)
  | c :: rest => if isPrintable c then consChar (some c) (literalString rest) else none
  | [] => none

/-- only blanks stand before the next line end -/
def isBlankToLineEnd (text : List Char) : Bool :=
  (lineEnd? (skipSpaces text)).isSome

/-- the rest of a multi-line basic string; `folding` tells that blanks are dropped behind a backslash at a line's end.
Up to two quotes may stand right before the closing three. -/
def multiBasicString : Bool → List Char → Option (List Char × List Char)
  | _, '"' :: '"' :: '"' :: '"' :: '"' :: rest => some (['"', '"'], rest)
  | _, '"' :: '"' :: '"' :: '"' :: rest => some (['"'], rest)
  | _, '"' :: '"' :: '"' :: rest => some ([], rest)
  | _, '\\' :: 'x' :: a :: b :: rest => consChar (hexScalar? [a, b]) (multiBasicString false rest)
  | _, '\\' :: 'u' :: a :: b :: c :: d :: rest =>
    consChar (hexScalar? [a, b, c, d]) (multiBasicString false rest)
  | _, '\\' :: 'U' :: a :: b :: c :: d :: e :: f :: g :: h :: rest =>
    consChar (hexScalar? [a, b, c, d, e, f, g, h]) (multiBasicString false rest)
  | _, '\\' :: c :: rest =>
    if isBlankToLineEnd (c :: rest) then
      if c = '\r' then
        match rest with
        | _ :: rest => multiBasicString true rest
        | [] => none
      else multiBasicString true rest
    else consChar (shortEscape? c) (multiBasicString false rest)
  | folding, '\r' :: '\n' :: rest =>
    if folding then multiBasicString true rest
    else consChar (some '\r') (consChar (some '\n') (multiBasicString false rest))
  | folding, c :: rest =>
    if folding && (isSpace c || c = '\n') then multiBasicString true rest
    else if isPrintable c || c = '\n' then consChar (some c) (multiBasicString false rest)
    else none
  | _, [] => none

/-- the rest of a multi-line literal string -/
def multiLiteralString : List Char → Option (List Char × List Char)
  | '\'' :: '\'' :: '\'' :: '\'' :: '\'' :: rest => some (['\'', '\''], rest)
  | '\'' :: '\'' :: '\'' :: '\'' :: rest => some (['\''], rest)
  | '\'' :: '\'' :: '\'' :: rest => some ([], rest)
  | '\r' :: '\n' :: rest => consChar (some '\r') (consChar (some '\n') (multiLiteralString rest))
  | c :: rest => if isPrintable c || c = '\n' then consChar (some c) (multiLiteralString rest) else none
  | [] => none

/-- a line end right behind the opening of a multi-line string is no part of it -/
def dropFirstLineEnd (text : List Char) : List Char :=
  (lineEnd? text).getD text

/-- a string of any of the four forms -/
def string? : List Char → Option (List Char × List Char)
  | '"' :: '"' :: '"' :: rest => multiBasicString false (dropFirstLineEnd rest)
  | '\'' :: '\'' :: '\'' :: rest => multiLiteralString (dropFirstLineEnd rest)
  | '"' :: rest => basicString rest
  | '\'' :: rest => literalString rest
  | _ => none

/-! ## Keys -/

def isBareKeyChar (c : Char) : Bool :=
  c.isAlphanum || c = '_' || c = '-'

/-- one part of a key -/
def simpleKey? (text : List Char) : Option (String × List Char) :=
  let ofString : Option (List Char × List Char) → Option (String × List Char) :=
    Option.map fun (s, rest) => (String.ofList s, rest)
  match text with
  | '"' :: rest => ofString (basicString rest)
  | '\'' :: rest => ofString (literalString rest)
  | text =>
    let run := text.takeWhile isBareKeyChar
    if run.isEmpty then none else some (String.ofList run, text.drop run.length)

/-- the further parts of a dotted key, with the blanks behind it skipped -/
def dottedRest : Nat → List String → List Char → Option (List String × List Char)
  | 0, _, _ => none
  | fuel + 1, seen, text =>
    match skipSpaces text with
    | '.' :: rest =>
      match simpleKey? (skipSpaces rest) with
      | some (key, rest) => dottedRest fuel (seen ++ [key]) rest
      | none => none
    | rest => some (seen, rest)

/-- how deep values may nest, and how many parts a key may have -/
def maxDepth : Nat := 80

/-- a key of one or more parts, at most `maxDepth`, and the text behind it and its blanks -/
def key? (text : List Char) : Option (List String × List Char) :=
  match simpleKey? text with
  | some (key, rest) =>
    (dottedRest (rest.length + 1) [key] rest).filter fun (parts, _) => parts.length ≤ maxDepth
  | none => none

end StyleIndex.Toml
