/-
The word at the cursor. Neither detector looks at it: what they decide depends on the text before the word and on older
lines, and the part of the word before the cursor is only what they report as typed.

`Word` cuts a text at the start of the word that ends it. Symbol characters open no quote, close none and escape nothing,
so the quote scan passes over the word (`openQuote?_append_symbols`), and the head is the same with and without it
(`Word.head?_eq`). `Detector.find_eq` says so of both detectors, with `Detector.accepts` for what is left to decide, and
`Detector.accepts_congr` that this reads nothing but older lines. `WordAt` is the whole word around a column, with the part
behind the cursor, and `wordRange?_eq` its range in a document.
-/
import Mathlib.Data.List.DropRight
import Mathlib.Tactic
import StyleIndex.Proofs.Quotes
import StyleIndex.Proofs.Window

namespace StyleIndex

/-- one of the two ways to look for a place where a symbol fits -/
inductive Detector where
  | classNames (rules : ContextRules)
  | mixins

def Detector.find : Detector → LineSource → Position → Option ContextMatch
  | .classNames rules, source, pos => detect source pos rules
  | .mixins, source, pos => detectMixin source pos

/-! ## Symbol characters -/

theorem isSymbolChar_of_isIdentifier {name : List Char} (h : isIdentifier name = true) :
    ∀ c ∈ name, isSymbolChar c = true := by
  cases name with
  | nil => simp
  | cons first rest =>
    simp only [isIdentifier, Bool.and_eq_true, List.all_eq_true] at h
    intro c hc
    rcases List.mem_cons.1 hc with rfl | hc
    · simp [isSymbolChar, Char.isAlphanum, h.1]
    · exact h.2 c hc

theorem ne_nil_of_isIdentifier {name : List Char} (h : isIdentifier name = true) : name ≠ [] := by
  rintro rfl
  cases h

/-- Symbol characters are one UTF-16 unit each. -/
theorem width_symbols {run : List Char} (h : ∀ c ∈ run, isSymbolChar c = true) : Columns.width run = run.length := by
  induction run with
  | nil => rfl
  | cons c run ih =>
    have hc := toNat_lt_of_isSymbolChar (h c (by simp))
    have hunits : Columns.units c = 1 := by
      have hlt : c.val < 0x10000 := by
        rw [UInt32.lt_iff_toNat_lt]
        exact Nat.lt_trans hc (by decide)
      rw [Columns.units, if_pos hlt]
    rw [Columns.width, hunits, ih fun d hd => h d (by simp [hd]), List.length_cons, Nat.add_comm]

/-! ## The word that ends a text -/

/-- a text is cut before the symbol characters at its end: `left` ends with none, and `typed` is all of them -/
structure Word (text left typed : List Char) : Prop where
  split : text = left ++ typed
  symbols : ∀ c ∈ typed, isSymbolChar c = true
  boundary : ∀ c, left.getLast? = some c → isSymbolChar c = false

theorem word_fragment (text : List Char) : Word text (Text.dropTrailing isSymbolChar text) (Cursor.fragment text) where
  split := (Text.dropTrailing_append_takeTrailing isSymbolChar text).symm
  symbols c hc := by
    rw [Cursor.fragment, Text.takeTrailing, List.mem_reverse] at hc
    exact List.mem_takeWhile_imp hc
  boundary c hc := by
    rw [Text.dropTrailing, List.getLast?_reverse] at hc
    have h := List.head?_dropWhile_not isSymbolChar text.reverse
    rw [hc] at h
    simpa using h

namespace Word

variable {text left typed : List Char}

theorem fragment_eq (h : Word text left typed) : Cursor.fragment text = typed := by
  rw [Cursor.fragment, h.split, Text.takeTrailing_append h.symbols h.boundary]

theorem dropTrailing_eq (h : Word text left typed) : Text.dropTrailing isSymbolChar text = left := by
  rw [h.split, Text.dropTrailing_append h.symbols h.boundary]

/-- Other symbol characters behind the same text are another word there. -/
theorem replace (h : Word text left typed) {new : List Char} (hnew : ∀ c ∈ new, isSymbolChar c = true) :
    Word (left ++ new) left new :=
  ⟨rfl, hnew, h.boundary⟩

theorem left_self (h : Word text left typed) : Word left left [] :=
  ⟨(List.append_nil left).symm, by simp, h.boundary⟩

end Word

/-! ## Quotes -/

namespace Cursor

theorem isQuote_of_isSymbolChar {c : Char} (h : isSymbolChar c = true) : isQuote c = false := by
  rw [isQuote, Bool.or_eq_false_iff, decide_eq_false_iff_not, decide_eq_false_iff_not]
  constructor
  · rintro rfl
    exact absurd h (by decide)
  · rintro rfl
    exact absurd h (by decide)

/-- The quote scan passes over a word at the end. -/
theorem openQuote?_append_symbols (text : List Char) {run : List Char} (h : ∀ c ∈ run, isSymbolChar c = true) :
    openQuote? (text ++ run) = openQuote? text := by
  induction run generalizing text with
  | nil => rw [List.append_nil]
  | cons c run ih =>
    have hc := isQuote_of_isSymbolChar (h c (by simp))
    calc openQuote? (text ++ c :: run)
        = openQuote? ((text ++ [c]) ++ run) := by simp
      _ = openQuote? (text ++ [c]) := ih _ fun d hd => h d (by simp [hd])
      _ = openQuote? text := openQuote?_snoc hc text

end Cursor

/-! ## Detectors -/

namespace Word

variable {text left typed : List Char}

/-- The head does not depend on the word. -/
theorem head?_eq (h : Word text left typed) (rules : ContextRules) : Cursor.head? rules text = Cursor.head? rules left := by
  have hquote : Cursor.openQuote? text = Cursor.openQuote? left := by
    rw [h.split, Cursor.openQuote?_append_symbols left h.symbols]
  rw [Cursor.head?, Cursor.head?, hquote, h.dropTrailing_eq, h.left_self.dropTrailing_eq]
  cases hopen : Cursor.openQuote? left with
  | none => rfl
  | some i => simp only [h.split, List.take_append_of_le_length (Cursor.openQuote?_lt hopen).le]

theorem mixinFragment?_eq (h : Word text left typed) :
    Cursor.mixinFragment? text = (Cursor.mixinFragment? left).map fun _ => typed := by
  rw [Cursor.mixinFragment?, Cursor.mixinFragment?, h.fragment_eq, h.dropTrailing_eq, h.left_self.dropTrailing_eq]
  split_ifs <;> rfl

end Word

namespace Cursor

/-- The search reads nothing but older lines. -/
theorem accepts_congr {source source' : LineSource} {line : Nat} (h : ∀ m < line, source'.line? m = source.line? m)
    (head : List Char) (rules : ContextRules) : accepts source' line head rules = accepts source line head rules :=
  accepts_eq_of_linesBefore (LineSource.linesBefore_congr h rules.lookback) head

end Cursor

namespace Detector

/-- whether a symbol fits behind the text `left` of a line, whatever is typed of it -/
def accepts : Detector → LineSource → Nat → List Char → Bool
  | .classNames rules, source, line, left =>
    (Cursor.head? rules left).elim false fun head => Cursor.accepts source line head rules
  | .mixins, _, _, left => (Cursor.mixinFragment? left).isSome

theorem accepts_congr (detector : Detector) {source source' : LineSource} {line : Nat}
    (h : ∀ m < line, source'.line? m = source.line? m) (left : List Char) :
    detector.accepts source' line left = detector.accepts source line left := by
  cases detector with
  | classNames rules =>
    unfold accepts
    simp only [Cursor.accepts_congr h]
  | mixins => rfl

/-- A place is found only on a line that is there. -/
theorem exists_line_of_find {detector : Detector} {source : LineSource} {pos : Position} {found : ContextMatch}
    (h : detector.find source pos = some found) : ∃ line, source.line? pos.line = some line := by
  cases hline : source.line? pos.line with
  | some line => exact ⟨line, rfl⟩
  | none => cases detector <;> simp [find, detect, detectMixin, hline] at h

/-- **The word is not looked at.** A detector decides on the text before the word and reports the typed part of it. -/
theorem find_eq (detector : Detector) {source : LineSource} {n column : Nat} {line left typed : List Char}
    (hline : source.line? n = some line) (hword : Word (Columns.before column line) left typed) :
    detector.find source ⟨n, column⟩ =
      if detector.accepts source n left then some ⟨String.ofList typed, source.wordRange? ⟨n, column⟩⟩ else none := by
  cases detector with
  | classNames rules =>
    simp only [find, accepts, detect, hline, Option.bind_some, hword.head?_eq, hword.fragment_eq]
    rcases Option.eq_none_or_eq_some (Cursor.head? rules left) with hhead | ⟨head, hhead⟩ <;> simp [hhead]
  | mixins =>
    simp only [find, accepts, detectMixin, hline, Option.bind_some, hword.mixinFragment?_eq]
    rcases Option.eq_none_or_eq_some (Cursor.mixinFragment? left) with hname | ⟨name, hname⟩ <;> simp [hname]

theorem find_eq_some_iff {detector : Detector} {source : LineSource} {n column : Nat} {line left typed : List Char}
    (hline : source.line? n = some line) (hword : Word (Columns.before column line) left typed) {found : ContextMatch} :
    detector.find source ⟨n, column⟩ = some found ↔
      detector.accepts source n left = true ∧ found = ⟨String.ofList typed, source.wordRange? ⟨n, column⟩⟩ := by
  rw [detector.find_eq hline hword]
  split_ifs with haccepts
  · simp [haccepts, eq_comm]
  · simp [haccepts]

end Detector

/-! ## The word around a column -/

/-- the word around a column of a line: `typed` stands before the column, `rest` behind it -/
structure WordAt (line : List Char) (column : Nat) (left typed rest right : List Char) : Prop where
  split : line = left ++ (typed ++ rest) ++ right
  before : Columns.before column line = left ++ typed
  word : Word (left ++ typed) left typed
  rest : ∀ c ∈ rest, isSymbolChar c = true
  boundary : ∀ c, right.head? = some c → isSymbolChar c = false

theorem exists_wordAt (line : List Char) (column : Nat) :
    ∃ left typed rest right, WordAt line column left typed rest right := by
  have hword := word_fragment (Columns.before column line)
  refine ⟨_, _, (Columns.after column line).takeWhile isSymbolChar, (Columns.after column line).dropWhile isSymbolChar,
    ?_, hword.split, ?_, fun c hc => List.mem_takeWhile_imp hc, fun c hc => ?_⟩
  · rw [← List.append_assoc, ← hword.split, List.append_assoc, List.takeWhile_append_dropWhile,
      Columns.before_append_after]
  · rw [← hword.split]
    exact hword
  · have h := List.head?_dropWhile_not isSymbolChar (Columns.after column line)
    rw [hc] at h
    simpa using h

namespace WordAt

variable {line left typed rest right : List Char} {column : Nat}

theorem word_before (h : WordAt line column left typed rest right) : Word (Columns.before column line) left typed := by
  rw [h.before]
  exact h.word

theorem after_eq (h : WordAt line column left typed rest right) : Columns.after column line = rest ++ right := by
  have hcut := Columns.before_append_after column line
  rw [h.before] at hcut
  nth_rewrite 2 [h.split] at hcut
  rw [← List.append_assoc left, List.append_assoc (left ++ typed)] at hcut
  exact List.append_cancel_left hcut

/-- A symbol in the place of the word is the word around the column behind it. -/
theorem replace (h : WordAt line column left typed rest right) {new : List Char}
    (hnew : ∀ c ∈ new, isSymbolChar c = true) :
    WordAt (left ++ new ++ right) (Columns.width (left ++ new)) left new [] right where
  split := by rw [List.append_nil]
  before := Columns.before_width_append _ _
  word := h.word.replace hnew
  rest := by simp
  boundary := h.boundary

end WordAt

/-- The range of the word around a position: from its start, over what is typed, to the end of what stands behind. -/
theorem wordRange?_eq {doc : Document} {n column : Nat} {line left typed rest right : List Char}
    (hline : doc.line? n = some line) (h : WordAt line column left typed rest right) :
    doc.wordRange? ⟨n, column⟩ = some ⟨⟨n, Columns.width left⟩, ⟨n, Columns.width (left ++ (typed ++ rest))⟩⟩ := by
  rw [Document.wordRange?, hline, Option.map_some, h.before, h.after_eq]
  simp only [h.word.dropTrailing_eq, Text.takeWhile_append_eq_left h.rest h.boundary, List.append_assoc]

end StyleIndex
