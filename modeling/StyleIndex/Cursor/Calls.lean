/-
Calls that are open at a place in a text. A call is a name and an opening parenthesis; an opening parenthesis without a
name is a grouping.

`parens` lists the parentheses of a line outside quoted spans, `balance` cancels those that close on the line itself, and
`LineParens` holds what is left. `Stack.extend` puts an older line below what newer lines left open: closers that found
nothing on their own line close the innermost opens of the next older one.
-/
import StyleIndex.Cursor.Quote

namespace StyleIndex.Cursor

/-- the characters of a call's name -/
def isCallChar (c : Char) : Bool :=
  c.isAlphanum || c = '_' || c = '$'

/-- an opening parenthesis with the name of its call, if any; or a closing one -/
inductive Paren where
  | opening (call : Option String)
  | closing
deriving DecidableEq, Repr

/-- the name of a call: the run of name characters before its parenthesis without the digits it starts with -/
def callName? (run : List Char) : Option String :=
  match run.dropWhile Char.isDigit with
  | [] => none
  | name => some (String.ofList name)

/-- the parentheses of a text in order; `run` is the run of name characters that was just read, newest first -/
def parensFrom (run : List Char) : List Char → List Paren
  | [] => []
  | c :: cs =>
    if c = '(' then .opening (callName? run.reverse) :: parensFrom [] cs
    else if c = ')' then .closing :: parensFrom [] cs
    else if isCallChar c then parensFrom (c :: run) cs
    else parensFrom [] cs

/-- the parentheses of a text that stand outside quoted spans -/
def parens (text : List Char) : List Paren :=
  parensFrom [] (blankQuoted text)

/-- what a line contributes once its own parentheses are balanced -/
structure LineParens where
  /-- calls and groupings left open, innermost first -/
  opens : List (Option String)
  /-- closers that found nothing to close -/
  closes : Nat
deriving DecidableEq, Repr

namespace LineParens

def push (line : LineParens) : Paren → LineParens
  | .opening call => { line with opens := call :: line.opens }
  | .closing =>
    match line.opens with
    | [] => { line with closes := line.closes + 1 }
    | _ :: opens => { line with opens }

/-- the parentheses of a line, balanced from left to right -/
def balance (text : List Char) : LineParens :=
  (parens text).foldl push ⟨[], 0⟩

end LineParens

/-- what the lines read so far left open, newest line first -/
structure Stack where
  /-- calls and groupings open at the cursor, innermost first -/
  opens : List (Option String)
  /-- closers that wait for an opener on an older line -/
  carry : Nat
deriving DecidableEq, Repr

namespace Stack

def empty : Stack := ⟨[], 0⟩

/-- puts an older line below the stack -/
def extend (stack : Stack) (line : LineParens) : Stack :=
  { opens := stack.opens ++ line.opens.drop stack.carry
    carry := stack.carry - line.opens.length + line.closes }

/-- the named calls that are open, innermost first -/
def calls (stack : Stack) : List String :=
  stack.opens.filterMap id

end Stack
end StyleIndex.Cursor
