/-
Reading TOML 1.1. `Toml.parse?` reads a whole document into a value tree, or nothing if the document is malformed.

Arrays and inline tables nest at most `maxDepth` deep. Line ends and comments may stand between the parts of either. The
readers carry fuel; each nested call uses up a character, so a text needs no more fuel than it has characters.
-/
import StyleIndex.Toml.Lexeme
import StyleIndex.Toml.Scalar
import StyleIndex.Toml.Table

namespace StyleIndex.Toml

/-- the last part of a key and the path before it -/
def splitKey (parts : List String) : List String × String :=
  (parts.dropLast, parts.getLast?.getD "")

mutual

/-- a value; `depth` is the number of arrays and inline tables around it -/
def value? : Nat → Nat → List Char → Option (Json × List Char)
  | 0, _, _ => none
  | fuel + 1, depth, text =>
    match text with
    | '[' :: rest => if depth < maxDepth then items? fuel (depth + 1) [] rest else none
    | '\x7b' :: rest => if depth < maxDepth then fields? fuel (depth + 1) [] rest else none
    | '"' :: _ => (string? text).map fun (s, rest) => (.str (String.ofList s), rest)
    | '\'' :: _ => (string? text).map fun (s, rest) => (.str (String.ofList s), rest)
    | text => scalar? text

/-- the rest of an array at an item or at the closing bracket; `seen` holds the items read, last first -/
def items? : Nat → Nat → List Json → List Char → Option (Json × List Char)
  | 0, _, _, _ => none
  | fuel + 1, depth, seen, text => do
    match ← skipLayout false text with
    | ']' :: rest => return (.arr seen.reverse, rest)
    | text => do
      let (item, rest) ← value? fuel depth text
      match ← skipLayout false rest with
      | ',' :: rest => items? fuel depth (item :: seen) rest
      | ']' :: rest => return (.arr (item :: seen).reverse, rest)
      | _ => none

/-- the rest of an inline table at a key or at the closing brace; line ends may stand around the equals sign -/
def fields? : Nat → Nat → Entries → List Char → Option (Json × List Char)
  | 0, _, _, _ => none
  | fuel + 1, depth, seen, text => do
    match ← skipLayout false text with
    | '\x7d' :: rest => return (.obj (entriesToFields seen), rest)
    | text => do
      let (parts, rest) ← key? text
      let rest ← expect? (· = '=') (← skipLayout false rest)
      let (value, rest) ← value? fuel depth (← skipLayout false rest)
      let (path, key) := splitKey parts
      let seen ← seen.insert path key value
      match ← skipLayout false rest with
      | ',' :: rest => fields? fuel depth seen rest
      | '\x7d' :: rest => return (.obj (entriesToFields seen), rest)
      | _ => none

end

/-- a header behind its opening bracket or brackets -/
def header? (isArray : Bool) (text : List Char) : Option (Header × List Char) := do
  let (parts, rest) ← key? (skipSpaces text)
  let rest ← expect? (· = ']') rest
  let rest ← if isArray then expect? (· = ']') rest else some rest
  let (path, key) := splitKey parts
  return (⟨path, key, isArray⟩, rest)

/-- the lines of a document, one after another -/
def lines? : Nat → Draft → List Char → Option Draft
  | 0, _, _ => none
  | fuel + 1, draft, text =>
    match skipSpaces text with
    | [] => some draft
    | '[' :: '[' :: rest => do
      let (header, rest) ← header? true rest
      lines? fuel (← draft.open? header) (← finishLine? rest)
    | '[' :: rest => do
      let (header, rest) ← header? false rest
      lines? fuel (← draft.open? header) (← finishLine? rest)
    | '#' :: rest => do lines? fuel draft (← finishLine? ('#' :: rest))
    | text =>
      match lineEnd? text with
      | some rest => lines? fuel draft rest
      | none => do
        let (parts, rest) ← key? text
        let rest ← expect? (· = '=') rest
        let (value, rest) ← value? (rest.length + 1) 0 (skipSpaces rest)
        let (path, key) := splitKey parts
        lines? fuel (← draft.put? path key value) (← finishLine? rest)

/-- the document that a text writes; a byte order mark at its start does not count -/
def parse? (text : String) : Option Json :=
  let body :=
    match text.toList with
    | '\uFEFF' :: rest => rest
    | rest => rest
  (lines? (body.length + 1) .empty body).bind Draft.finish?

end StyleIndex.Toml
