/-
Reading glob patterns. A pattern is refused if a brace or a class is not closed, a brace is not opened, a range runs
backwards, or a backslash stands at the end. Where the caller allows it, a bracket that is never closed is an ordinary
character, and so are all brackets behind it.
-/
import StyleIndex.Glob

namespace StyleIndex.Glob

/-- what the reader has built: the branches that are still open, innermost and latest first, each with its tokens last
first, and the number of branches below each open brace -/
structure Builder where
  branches : List (List GlobToken)
  braces : List Nat

namespace Builder

def start : Builder := ⟨[[]], []⟩

/-- adds a token to the current branch -/
def push (b : Builder) (token : GlobToken) : Builder :=
  match b.branches with
  | [] => b
  | branch :: rest => { b with branches := (token :: branch) :: rest }

/-- adds tokens to the current branch in turn -/
def pushAll (b : Builder) (tokens : List GlobToken) : Builder :=
  tokens.foldl push b

def openBrace (b : Builder) : Builder :=
  ⟨[] :: b.branches, b.branches.length :: b.braces⟩

def nextBranch (b : Builder) : Builder :=
  { b with branches := [] :: b.branches }

/-- ends the innermost brace and makes its branches one token -/
def closeBrace? (b : Builder) : Option Builder :=
  match b.braces with
  | [] => none
  | below :: braces =>
    let count := b.branches.length - below
    let inner := (b.branches.take count).reverse.map List.reverse
    some (push ⟨b.branches.drop count, braces⟩ (.alternatives inner))

/-- the current branch holds nothing yet -/
def isFresh (b : Builder) : Bool :=
  b.branches.head?.elim false List.isEmpty

/-- a brace is open -/
def inBraces (b : Builder) : Bool :=
  !b.braces.isEmpty

/-- puts a token for `/**` in place of the slash before it; a double star right behind another one adds nothing -/
def absorbSlash (b : Builder) (token : GlobToken) : Builder :=
  match b.branches with
  | (.leading :: _) :: _ => b
  | (.trailing :: _) :: _ => b
  | (_ :: branch) :: rest => { b with branches := (token :: branch) :: rest }
  | _ => b

end Builder

/-- the members of a class while it is read: the ranges so far, last first, and whether a range waits for its end -/
structure ClassState where
  ranges : List (Char × Char)
  first : Bool
  pending : Bool

namespace ClassState

/-- ends the range that waits; it may not run backwards -/
def endRange? (s : ClassState) (c : Char) : Option ClassState :=
  match s.ranges with
  | (low, _) :: rest => if c < low then none else some ⟨(low, c) :: rest, false, false⟩
  | [] => none

def add? (s : ClassState) (c : Char) : Option ClassState :=
  if s.pending then s.endRange? c
  else if c = '-' && !s.first then some { s with pending := true }
  else some ⟨(c, c) :: s.ranges, false, false⟩

/-- the finished ranges; a dash before the closing bracket is a member -/
def finish (s : ClassState) : List (Char × Char) :=
  if s.pending then s.ranges.reverse ++ [('-', '-')] else s.ranges.reverse

end ClassState

/-- how a class ends -/
inductive ClassEnd where
  | closed (ranges : List (Char × Char)) (rest : List Char)
  | unclosed
  | backwards

/-- the members of a class up to its closing bracket, which is a member if it stands first -/
def readMembers (s : ClassState) : List Char → ClassEnd
  | [] => .unclosed
  | c :: rest =>
    if c = ']' && !s.first then .closed s.finish rest
    else
      match s.add? c with
      | some s => readMembers s rest
      | none => .backwards

/-- a class behind its opening bracket: whether it is negated, and how it ends -/
def readClass (text : List Char) : Bool × ClassEnd :=
  match text with
  | '!' :: rest => (true, readMembers ⟨[], true, false⟩ rest)
  | '^' :: rest => (true, readMembers ⟨[], true, false⟩ rest)
  | rest => (false, readMembers ⟨[], true, false⟩ rest)

/-- what a run of two stars means, and the text behind it; `last` is the character before the stars -/
def doubleStar (b : Builder) (last : Option Char) (rest : List Char) : Builder × List Char :=
  let twoStars := b.pushAll [.many, .many]
  if b.isFresh then
    match rest with
    | [] => (b.push .leading, [])
    | '/' :: rest => (b.push .leading, rest)
    | rest => (twoStars, rest)
  else if last ≠ some '/' && !(b.inBraces && (last = some ',' || last = some '\x7b')) then (twoStars, rest)
  else
    match rest with
    | [] => (b.absorbSlash .trailing, [])
    | '/' :: rest => (b.absorbSlash .between, rest)
    | c :: rest =>
      if b.inBraces && (c = ',' || c = '\x7d') then (b.absorbSlash .trailing, c :: rest) else (twoStars, c :: rest)

/-- reads a pattern. `lenient` allows a bracket that is never closed, and `plain` tells that one was met, so that brackets
are ordinary characters from there on. `last` is the character read last. -/
def readTokens (lenient : Bool) : Nat → Bool → Builder → Option Char → List Char → Option Builder
  | 0, _, _, _, _ => none
  | _ + 1, _, b, _, [] => some b
  | fuel + 1, plain, b, last, c :: rest =>
    if c = '?' then readTokens lenient fuel plain (b.push .any) (some c) rest
    else if c = '*' then
      match rest with
      | '*' :: rest =>
        let (b, behind) := doubleStar b last rest
        readTokens lenient fuel plain b (some (if behind.length < rest.length then '/' else '*')) behind
      | rest => readTokens lenient fuel plain (b.push .many) (some c) rest
    else if c = '[' && !plain then
      match readClass rest with
      | (negated, .closed ranges rest) =>
        readTokens lenient fuel plain (b.push (.oneOf negated ranges)) (some ']') rest
      | (_, .unclosed) =>
        if lenient then readTokens lenient fuel true (b.push (.literal c)) (some c) rest else none
      | (_, .backwards) => none
    else if c = '\x7b' then readTokens lenient fuel plain b.openBrace (some c) rest
    else if c = '\x7d' then
      match b.closeBrace? with
      | some b => readTokens lenient fuel plain b (some c) rest
      | none => none
    else if c = ',' && b.inBraces then readTokens lenient fuel plain b.nextBranch (some c) rest
    else if c = '\\' then
      match rest with
      | c :: rest => readTokens lenient fuel plain (b.push (.literal c)) (some c) rest
      | [] => none
    else readTokens lenient fuel plain (b.push (.literal c)) (some c) rest

/-- the pattern that a text writes -/
def parse? (lenient : Bool) (text : List Char) : Option Glob :=
  match readTokens lenient (text.length + 1) false .start none text with
  | some ⟨[tokens], _⟩ => some tokens.reverse
  | _ => none

end StyleIndex.Glob
