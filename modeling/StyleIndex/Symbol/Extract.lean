/-
Extraction of symbols from the text of a style sheet.

A definition site is a place where a definition starts: a dot followed by symbol characters, or `@define-mixin`, white
space and a name. `tokens` takes the sites from left to right, and the next site is looked for behind the token of the
last one. A token that is no identifier still uses up its text and is left out of the result, so `.5em` defines nothing.
-/
import StyleIndex.Text.Blank
import StyleIndex.Symbol

namespace StyleIndex

/-- a definition found at the start of a text: its raw token and the number of characters up to the token's end -/
structure Site where
  token : List Char
  length : Nat

namespace Site

/-- a dot and the run of symbol characters behind it -/
def className? : List Char → Option Site
  | '.' :: rest =>
    match rest.takeWhile isSymbolChar with
    | [] => none
    | token => some ⟨token, 1 + token.length⟩
  | _ => none

/-- the word that introduces a mixin definition -/
def keyword : List Char := "@define-mixin".toList

/-- the characters that a raw mixin name may hold -/
def isNameChar (c : Char) : Bool :=
  !Text.isBlank c && c != '{' && c != '(' && c != ';'

/-- the keyword, at least one blank, and the run of name characters behind -/
def mixin? (text : List Char) : Option Site :=
  if keyword.isPrefixOf text then
    let rest := text.drop keyword.length
    let blanks := rest.takeWhile Text.isBlank
    let token := (rest.drop blanks.length).takeWhile isNameChar
    if blanks.isEmpty || token.isEmpty then none
    else some ⟨token, keyword.length + blanks.length + token.length⟩
  else none

end Site

/-- the definition site of a kind at the start of a text -/
def Kind.site? : Kind → List Char → Option Site
  | .className => Site.className?
  | .mixin => Site.mixin?

/-- the raw tokens of a text, left to right; the first argument counts the characters that an earlier site has used -/
def tokens (site? : List Char → Option Site) : Nat → List Char → List (List Char)
  | _, [] => []
  | used + 1, _ :: cs => tokens site? used cs
  | 0, c :: cs =>
    match site? (c :: cs) with
    | some site => site.token :: tokens site? (site.length - 1) cs
    | none => tokens site? 0 cs

/-- every symbol of a kind that a style sheet defines, in order and with repetitions -/
def Kind.extract (kind : Kind) (sheet : String) : List String :=
  ((tokens kind.site? 0 sheet.toList).filter isIdentifier).map String.ofList

end StyleIndex
