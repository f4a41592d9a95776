/-
The head of a cursor line: the text before the cursor that the attribute check and the call check look at.

`headOf` is the head as a function of the text alone, `head?_eq_some_iff` says when the detector has one, and
`detect_isSome_iff_accepts` that all the rest is the check of that head. `attribute?_eq_none_iff` says when the attribute
check leaves the decision to the calls: exactly when the head does not end with a name and an equals sign
(`EndsWithAttribute`). `detect_isSome_iff` puts this together: what is left of `detect` is `insideCall`.
-/
import Mathlib.Data.List.DropRight
import Mathlib.Tactic
import StyleIndex.Cursor.Context

namespace StyleIndex.Cursor

/-- a quote is open at the end of the text, or none is asked for -/
def QuoteMet (rules : ContextRules) (text : List Char) : Prop :=
  (openQuote? text).isSome = true ∨ rules.requireQuote = false

/-- the text before the open quote, or before the typed fragment where no quote is open -/
def headOf (text : List Char) : List Char :=
  match openQuote? text with
  | some i => text.take i
  | none => Text.dropTrailing isSymbolChar text

/-- the head ends with `name=` -/
def EndsWithAttribute (head : List Char) : Prop :=
  ∃ before first more, head = before ++ first :: more ++ ['='] ∧ isAttributeStart first = true ∧
    ∀ c ∈ more, isSymbolChar c = true

theorem head?_eq_some_iff (rules : ContextRules) (text head : List Char) :
    head? rules text = some head ↔ QuoteMet rules text ∧ headOf text = head := by
  unfold head? headOf QuoteMet
  cases openQuote? text with
  | some i => simp
  | none => cases rules.requireQuote <;> simp

theorem isSymbolChar_of_isAttributeStart {c : Char} (h : isAttributeStart c = true) : isSymbolChar c = true := by
  simp only [isAttributeStart, Bool.or_eq_true, decide_eq_true_eq] at h
  simp only [isSymbolChar, Char.isAlphanum, Bool.or_eq_true, decide_eq_true_eq]
  tauto

/-- A name before the end of a text shows in the run of symbol characters there. -/
theorem exists_start_iff (text : List Char) :
    (∃ c ∈ text.reverse.takeWhile isSymbolChar, isAttributeStart c = true) ↔
      ∃ before first more, text = before ++ first :: more ∧ isAttributeStart first = true ∧
        ∀ c ∈ more, isSymbolChar c = true := by
  constructor
  · rintro ⟨c, hc, hstart⟩
    obtain ⟨after, rest, hrun⟩ := List.append_of_mem hc
    refine ⟨(rest ++ text.reverse.dropWhile isSymbolChar).reverse, c, after.reverse, ?_, hstart, fun d hd => ?_⟩
    · have h : text.reverse.takeWhile isSymbolChar ++ text.reverse.dropWhile isSymbolChar = text.reverse :=
        List.takeWhile_append_dropWhile
      rw [hrun] at h
      apply List.reverse_injective
      simpa using h.symm
    · have hd : d ∈ text.reverse.takeWhile isSymbolChar := by
        rw [hrun]
        exact List.mem_append_left _ (List.mem_reverse.1 hd)
      exact List.mem_takeWhile_imp hd
  · rintro ⟨before, first, more, rfl, hstart, hmore⟩
    refine ⟨first, ?_, hstart⟩
    have hall : ∀ c ∈ more.reverse ++ [first], isSymbolChar c = true := by
      intro c hc
      rcases List.mem_append.1 hc with hc | hc
      · exact hmore c (List.mem_reverse.1 hc)
      · rw [List.mem_singleton.1 hc]
        exact isSymbolChar_of_isAttributeStart hstart
    have hrev : (before ++ first :: more).reverse = (more.reverse ++ [first]) ++ before.reverse := by simp
    rw [hrev, List.takeWhile_append_of_pos hall]
    simp

/-- what is left of the symbol characters at the end of a text without those that no attribute name starts with -/
def trailingName (text : List Char) : List Char :=
  (fragment text).dropWhile fun c => !isAttributeStart c

theorem attribute?_append_equals (text : List Char) :
    attribute? (text ++ ['=']) = if trailingName text = [] then none else some (String.ofList (trailingName text)) := by
  simp only [attribute?, trailingName, fragment, Text.takeTrailing, List.reverse_append, List.reverse_singleton,
    List.singleton_append]
  split <;> simp_all

theorem attribute?_append_of_ne {last : Char} (h : last ≠ '=') (text : List Char) : attribute? (text ++ [last]) = none := by
  simp only [attribute?, List.reverse_append, List.reverse_singleton, List.singleton_append]
  split
  · rename_i heq
    exact absurd (List.cons.inj heq).1 h
  · rfl

/-- The attribute check is silent exactly on heads that do not end with `name=`. -/
theorem attribute?_eq_none_iff (head : List Char) : attribute? head = none ↔ ¬ EndsWithAttribute head := by
  rcases List.eq_nil_or_concat head with rfl | ⟨text, last, rfl⟩
  · simp [attribute?, EndsWithAttribute]
  · rw [List.concat_eq_append]
    by_cases hlast : last = '='
    · subst hlast
      have hends : EndsWithAttribute (text ++ ['=']) ↔
          ∃ c ∈ text.reverse.takeWhile isSymbolChar, isAttributeStart c = true := by
        rw [exists_start_iff]
        simp only [EndsWithAttribute, List.append_cancel_right_eq]
      have hrun : attribute? (text ++ ['=']) = none ↔ trailingName text = [] := by
        rw [attribute?_append_equals]
        split_ifs with hname <;> simp [hname]
      rw [hends, hrun, trailingName, List.dropWhile_eq_nil_iff, fragment, Text.takeTrailing]
      simp
    · have hno : ¬ EndsWithAttribute (text ++ [last]) := by
        rintro ⟨before, first, more, heq, -⟩
        exact hlast (List.append_inj_right' heq rfl |> List.singleton_inj.1)
      simp [hno, attribute?_append_of_ne hlast]

/-- A class name is completed exactly if the quote rule is met and the check of the head accepts. -/
theorem detect_isSome_iff_accepts {source : LineSource} {pos : Position} (rules : ContextRules) {line : List Char}
    (hline : source.line? pos.line = some line) :
    (detect source pos rules).isSome = true ↔
      QuoteMet rules (Columns.before pos.column line) ∧
        accepts source pos.line (headOf (Columns.before pos.column line)) rules = true := by
  simp only [detect, hline, Option.bind_some]
  cases hhead : head? rules (Columns.before pos.column line) with
  | none =>
    have hquote : ¬ QuoteMet rules (Columns.before pos.column line) := by
      intro hquote
      rw [(head?_eq_some_iff rules _ _).2 ⟨hquote, rfl⟩] at hhead
      cases hhead
    simp [hquote]
  | some head =>
    obtain ⟨hquote, rfl⟩ := (head?_eq_some_iff rules _ _).1 hhead
    simp [hquote]

/-- **Calls decide.** Where functions are configured and the attribute check is silent, a class name is completed exactly
if the quote rule is met and the head stands inside a configured call. -/
theorem detect_isSome_iff {source : LineSource} {pos : Position} {rules : ContextRules} {line : List Char}
    (hline : source.line? pos.line = some line) (hfun : rules.functions ≠ [])
    (hattr : rules.attributes = [] ∨ ¬ EndsWithAttribute (headOf (Columns.before pos.column line))) :
    (detect source pos rules).isSome = true ↔
      QuoteMet rules (Columns.before pos.column line) ∧
        insideCall source pos.line (headOf (Columns.before pos.column line)) rules = true := by
  have haccepts : accepts source pos.line (headOf (Columns.before pos.column line)) rules =
      insideCall source pos.line (headOf (Columns.before pos.column line)) rules := by
    have hsilent : (if rules.attributes.isEmpty then none else attribute? (headOf (Columns.before pos.column line))) =
        none := by
      rcases hattr with hempty | hends
      · simp [hempty]
      · simp [(attribute?_eq_none_iff _).2 hends]
    have hsome : rules.functions.isEmpty = false := by simpa using hfun
    rw [accepts, hsilent, hsome]
    rfl
  rw [detect_isSome_iff_accepts rules hline, haccepts]

end StyleIndex.Cursor
