/-
Completion items: what an editor is offered at a place where a symbol fits.

The items keep the order of the symbols, most recent file first. An editor sorts items by `sortText`, so each carries its
rank in six digits. With a known word range an item replaces the whole word; without one it adds the missing end.
-/
import StyleIndex.Cursor.Context
import StyleIndex.Text.LowerCase

namespace StyleIndex

/-- what accepting an item does to the document -/
inductive Edit where
  /-- puts the text in place of a range -/
  | replace (range : Range) (text : String)
  /-- puts the text at the cursor -/
  | insert (text : String)
deriving DecidableEq, Repr

structure Item where
  label : String
  kind : Kind
  sortText : String
  edit : Edit
deriving DecidableEq, Repr

namespace Completion

/-- a rank in decimal, padded with zeros to six digits -/
def rankText (rank : Nat) : String :=
  let digits := Nat.toDigits 10 rank
  String.ofList (List.replicate (6 - digits.length) '0' ++ digits)

/-- the symbol starts with what was typed, whatever the case of the letters -/
def fits (typed symbol : String) : Bool :=
  (Text.lowerCase typed.toList).isPrefixOf (Text.lowerCase symbol.toList)

/-- the item for the symbol of a given rank -/
def item (found : ContextMatch) (kind : Kind) (symbol : String) (rank : Nat) : Item :=
  { label := symbol
    kind := kind
    sortText := rankText rank
    edit :=
      match found.range with
      | some range => .replace range symbol
      | none => .insert (String.ofList (symbol.toList.drop found.typed.length)) }

/-- the items for the symbols that fit a context, in the symbols' order; there are none at all without a context -/
def assemble (context : Option ContextMatch) (symbols : List String) (kind : Kind) : Option (List Item) :=
  context.map fun found =>
    (symbols.filter (fits found.typed)).zipIdx.map fun (symbol, rank) => item found kind symbol rank

end Completion
end StyleIndex
