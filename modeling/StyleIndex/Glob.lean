/-
Glob patterns over slash-separated paths, matched byte by byte.

`*` and `?` stop at slashes, `**` between slashes stands for any number of directories, `[…]` is a set of bytes, and
`{a,b}` offers alternatives. A backslash makes the next character literal. A class matches one byte, so a character outside
ASCII in a class stands for its bytes.
-/
import StyleIndex.Text.Utf8

namespace StyleIndex

/-- the parts of a pattern -/
inductive GlobToken where
  | literal (c : Char)
  /-- one byte that is no slash -/
  | any
  /-- bytes that are no slash -/
  | many
  /-- a double star and a slash at the start: nothing, or any directories -/
  | leading
  /-- a slash and a double star at the end: everything below -/
  | trailing
  /-- a double star between slashes: a slash, or any directories -/
  | between
  /-- one byte in the ranges, or outside them -/
  | oneOf (negated : Bool) (ranges : List (Char × Char))
  | alternatives (branches : List (List GlobToken))

abbrev Glob := List GlobToken

namespace Glob

def slash : UInt8 := 0x2F

/-! ## Classes -/

/-- the byte ranges of a class: a range of characters runs from the last byte of its first character to the first byte of
its last, and the other bytes stand for themselves -/
def byteRanges (range : Char × Char) : List (UInt8 × UInt8) :=
  let low := Utf8.encodeChar range.1
  let high := Utf8.encodeChar range.2
  if range.1 = range.2 then low.map fun b => (b, b)
  else
    low.dropLast.map (fun b => (b, b)) ++ [(low.getLast?.getD 0, high.head?.getD 0)] ++
      (high.drop 1).map fun b => (b, b)

def inClass (negated : Bool) (ranges : List (Char × Char)) (b : UInt8) : Bool :=
  ((ranges.flatMap byteRanges).any fun r => r.1 ≤ b && b ≤ r.2) != negated

/-! ## Empty braces -/

mutual

/-- a token that can only be written with braces and holds nothing -/
def isVacuousToken : GlobToken → Bool
  | .alternatives branches => allVacuous branches
  | _ => false

/-- a pattern that can only be written with braces and holds nothing -/
def isVacuous : List GlobToken → Bool
  | [] => true
  | token :: rest => isVacuousToken token && isVacuous rest

def allVacuous : List (List GlobToken) → Bool
  | [] => true
  | branch :: rest => isVacuous branch && allVacuous rest

end

/-! ## Nesting -/

/-- the number of pieces that a token adds to the row it stands in -/
def pieceCount : GlobToken → Nat
  | .literal c => (Utf8.encodeChar c).length
  | .trailing => 2
  | .alternatives branches => if allVacuous branches then 0 else 1
  | _ => 1

mutual

/-- how deep the parts of a token nest: sets, repetitions, rows and choices each count as one -/
def tokenDepth : GlobToken → Nat
  | .literal _ => 0
  | .any => 1
  | .many => 2
  | .leading => 4
  | .trailing => 1
  | .between => 4
  | .oneOf _ ranges => if (ranges.flatMap byteRanges).length ≤ 1 then 1 else 2
  | .alternatives branches =>
    if allVacuous branches then 0
    else (if 1 < branches.countP fun branch => !isVacuous branch then 2 else 1) + branchesDepth branches

/-- how deep the tokens of a row nest, the row itself left out -/
def rowDepth : List GlobToken → Nat
  | [] => 0
  | token :: rest => max (tokenDepth token) (rowDepth rest)

/-- how deep branches nest; a branch of one piece is no row -/
def branchesDepth : List (List GlobToken) → Nat
  | [] => 0
  | branch :: rest =>
    max (rowDepth branch + if 1 < (branch.map pieceCount).sum then 1 else 0) (branchesDepth rest)

end

/-- how deep a pattern may nest -/
def maxNesting : Nat := 250

/-- the pattern does not nest too deep to be used -/
def isUsable (glob : Glob) : Bool :=
  rowDepth glob + 1 ≤ maxNesting

/-! ## Matching

A pattern is run over a text as a whole. The ends of its matches are marked: one mark for each place between the bytes
of the text, the place before the first byte and the one behind the last included. A token moves the marks from where it
starts to where it may end, so a token costs one pass over the text, however many ways there are to match. -/

/-- the marks of the places behind one byte that satisfies `p` -/
def stepMarks (p : UInt8 → Bool) (text : List UInt8) (marks : List Bool) : List Bool :=
  false :: List.zipWith (fun mark b => mark && p b) marks text

/-- the marks of the places behind any number of bytes that satisfy `p`; `reached` tells that such a run comes up to here -/
def runMarks (p : UInt8 → Bool) (reached : Bool) : List UInt8 → List Bool → List Bool
  | _, [] => []
  | [], mark :: _ => [reached || mark]
  | b :: text, mark :: marks => (reached || mark) :: runMarks p ((reached || mark) && p b) text marks

/-- the marks of the places behind any number of directories, each with its slash; `passed` tells that a place before has
a mark, and `atStart` that a slash stands right before this one -/
def descendMarks (passed atStart : Bool) : List UInt8 → List Bool → List Bool
  | _, [] => []
  | [], mark :: _ => [mark || (passed && atStart)]
  | b :: text, mark :: marks => (mark || (passed && atStart)) :: descendMarks (passed || mark) (b = slash) text marks

mutual

/-- the marks of the places where a token may end that starts at a mark -/
def tokenMarks (text : List UInt8) (token : GlobToken) (marks : List Bool) : List Bool :=
  match token with
  | .literal c => (Utf8.encodeChar c).foldl (fun marks byte => stepMarks (· = byte) text marks) marks
  | .any => stepMarks (· ≠ slash) text marks
  | .many => runMarks (· ≠ slash) false text marks
  | .leading => descendMarks false false text marks
  | .trailing => runMarks (fun _ => true) false text (stepMarks (· = slash) text marks)
  | .between => descendMarks false false text (stepMarks (· = slash) text marks)
  | .oneOf negated ranges => stepMarks (inClass negated ranges) text marks
  | .alternatives branches => if allVacuous branches then marks else branchMarks text branches marks

/-- the marks of the places where a row of tokens may end -/
def rowMarks (text : List UInt8) (tokens : List GlobToken) (marks : List Bool) : List Bool :=
  match tokens with
  | [] => marks
  | token :: rest => rowMarks text rest (tokenMarks text token marks)

/-- the marks of the places where one of the branches that are not vacuous may end -/
def branchMarks (text : List UInt8) (branches : List (List GlobToken)) (marks : List Bool) : List Bool :=
  match branches with
  | [] => marks.map fun _ => false
  | branch :: rest =>
    if isVacuous branch then branchMarks text rest marks
    else List.zipWith (· || ·) (rowMarks text branch marks) (branchMarks text rest marks)

end

/-- the pattern matches the whole text; a lone `**` matches every text -/
def matchesBytes (glob : Glob) (text : List UInt8) : Bool :=
  match glob with
  | [.leading] => true
  | tokens => (rowMarks text tokens (true :: text.map fun _ => false)).getLast? = some true

end Glob
end StyleIndex
