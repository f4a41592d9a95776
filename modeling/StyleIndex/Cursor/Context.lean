/-
Where a completion is offered. `detect` says from the text around the cursor whether a class name fits there, and
`detectMixin` whether a mixin does. There is no parser behind them.

For class names the cursor line up to the cursor is cut at the quote that is still open. What stands before is the head:
if it ends with `name=` the attribute decides; otherwise `insideCall` reads the calls open at the cursor, from the cursor
line back over at most `lookback` older lines, until the first line on which a verdict falls.
-/
import StyleIndex.Cursor.Calls
import StyleIndex.Document

namespace StyleIndex

/-- which of the open calls decides -/
inductive Nesting where
  /-- the innermost named call -/
  | innermost
  /-- the only named call; two open ones never match -/
  | depthOne
deriving DecidableEq, Repr

/-- where class names are completed -/
structure ContextRules where
  /-- a quote must be open at the cursor -/
  requireQuote : Bool
  /-- the attributes whose quoted value holds class names -/
  attributes : List String
  /-- the functions whose arguments hold class names -/
  functions : List String
  /-- how many lines before the cursor line are read -/
  lookback : Nat
  nesting : Nesting
deriving DecidableEq, Repr

/-- the rules before any name is configured -/
def ContextRules.initial : ContextRules :=
  { requireQuote := true, attributes := [], functions := [], lookback := 10, nesting := .innermost }

/-- a place where a completion fits -/
structure ContextMatch where
  /-- the part of the symbol before the cursor -/
  typed : String
  /-- the word at the cursor, where the source can tell -/
  range : Option Range
deriving DecidableEq, Repr

namespace Cursor

/-- the run of symbol characters that ends at the cursor -/
def fragment (text : List Char) : List Char :=
  Text.takeTrailing isSymbolChar text

/-- a character that an attribute name starts with -/
def isAttributeStart (c : Char) : Bool :=
  c.isAlpha || c = '_'

/-- the attribute `name` of a head that ends with `name=`: the longest run of symbol characters before the equals sign
that starts with a letter or an underscore -/
def attribute? (head : List Char) : Option String :=
  match head.reverse with
  | '=' :: rest =>
    match (rest.takeWhile isSymbolChar).reverse.dropWhile (fun c => !isAttributeStart c) with
    | [] => none
    | name => some (String.ofList name)
  | _ => none

/-- the verdict on the calls open so far, innermost first; none while no named call is open -/
def verdict? (rules : ContextRules) (calls : List String) : Option Bool :=
  match rules.nesting, calls with
  | _, [] => none
  | .innermost, name :: _ => some (rules.functions.contains name)
  | .depthOne, [name] => some (rules.functions.contains name)
  | .depthOne, _ :: _ :: _ => some false

/-- reads older and older lines until a verdict falls; `line` is the number of the line read last, `budget` how many more
may be read -/
def searchCalls (source : LineSource) (rules : ContextRules) (stack : Stack) : (line budget : Nat) → Bool
  | line, budget =>
    match verdict? rules stack.calls with
    | some verdict => verdict
    | none =>
      match line, budget with
      | line + 1, budget + 1 =>
        match source.line? line with
        | some text => searchCalls source rules (stack.extend (.balance text)) line budget
        | none => false
      | _, _ => false

/-- the head stands inside the arguments of a configured function -/
def insideCall (source : LineSource) (line : Nat) (head : List Char) (rules : ContextRules) : Bool :=
  searchCalls source rules (Stack.empty.extend (.balance head)) line rules.lookback

/-- the cursor-line text that the attribute and call checks look at; none when a required quote is missing -/
def head? (rules : ContextRules) (text : List Char) : Option (List Char) :=
  match openQuote? text with
  | some i => some (text.take i)
  | none => if rules.requireQuote then none else some (Text.dropTrailing isSymbolChar text)

/-- whether a class name fits behind `head` on line `line` -/
def accepts (source : LineSource) (line : Nat) (head : List Char) (rules : ContextRules) : Bool :=
  match (if rules.attributes.isEmpty then none else attribute? head) with
  | some name => rules.attributes.contains name
  | none => !rules.functions.isEmpty && insideCall source line head rules

end Cursor

open Cursor

/-- whether a class name can be completed at a position -/
def detect (source : LineSource) (pos : Position) (rules : ContextRules) : Option ContextMatch :=
  (source.line? pos.line).bind fun line =>
    let text := Columns.before pos.column line
    (head? rules text).bind fun head =>
      if accepts source pos.line head rules then some ⟨String.ofList (fragment text), source.wordRange? pos⟩ else none

/-- the word that uses a mixin -/
def Cursor.mixinKeyword : List Char := "@mixin".toList

/-- the part of a mixin name at the end of a text: symbol characters behind `@mixin` and at least one blank -/
def Cursor.mixinFragment? (text : List Char) : Option (List Char) :=
  let rest := Text.dropTrailing isSymbolChar text
  let blanks := Text.takeTrailing Text.isBlank rest
  if !blanks.isEmpty && mixinKeyword.isSuffixOf (Text.dropTrailing Text.isBlank rest) then some (fragment text)
  else none

/-- whether a mixin can be completed at a position -/
def detectMixin (source : LineSource) (pos : Position) : Option ContextMatch :=
  (source.line? pos.line).bind fun line =>
    (mixinFragment? (Columns.before pos.column line)).map fun typed =>
      ⟨String.ofList typed, source.wordRange? pos⟩

end StyleIndex
