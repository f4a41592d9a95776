/-
The calls open at the cursor: the search that goes back line by line against one reading of all lines in order.

`openCalls` is the reading: the parentheses of the lines, oldest first, go through one stack, and a closer that finds it
empty is dropped. The search never sees the lines in that order. It balances each line on its own and puts older lines
below newer ones, so it rests on a law of concatenation: `foldl_push_join` says how the leftovers of a text and of what
follows it make the leftovers of both, and `extend_ofLines` that `Stack.extend` is this law. Older lines can only add
calls behind the ones that are known (`openCalls_append`), so a verdict on the innermost call is final.

Results, for a text read through either source:
- `detect_innermost_iff`: under `innermost` the verdict is that of the one reading of the whole window;
- `detect_depthOne_iff`: under `depthOne` the search accepts if some part of the window, taken from its end, leaves a
  single named call open and that call is configured. It agrees with the reading of the whole window exactly if no such
  part hides a further open call on an older line;
- `depthOne_misses_outer_call`: a line break between two nested calls hides the outer one.
-/
import Mathlib.Data.List.DropRight
import Mathlib.Tactic
import StyleIndex.Proofs.Head
import StyleIndex.Proofs.Lines

namespace StyleIndex.Cursor

/-! ## One stack -/

/-- reads one parenthesis through the stack of what is open, newest first -/
def readParen (opens : List (Option String)) : Paren → List (Option String)
  | .opening call => call :: opens
  | .closing => opens.tail

/-- the named calls that lines leave open, newest first: all their parentheses, oldest line first, through one stack -/
def openCalls (lines : List (List Char)) : List String :=
  ((lines.flatMap parens).foldl readParen []).filterMap id

/-- the lines that count for a cursor: up to `lookback` lines before the cursor line, and the head -/
def window (text : List Char) (line lookback : Nat) (head : List Char) : List (List Char) :=
  ((Document.ofText text).lines.take line).rtake lookback ++ [head]

theorem foldl_push_opens (ps : List Paren) (line : LineParens) :
    (ps.foldl LineParens.push line).opens = ps.foldl readParen line.opens := by
  induction ps generalizing line with
  | nil => rfl
  | cons p ps ih =>
    have hp : (line.push p).opens = readParen line.opens p := by
      cases p with
      | opening call => rfl
      | closing =>
        rcases line with ⟨_ | ⟨_, opens⟩, closes⟩ <;> rfl
    rw [List.foldl_cons, List.foldl_cons, ih, hp]

/-! ## Concatenation -/

/-- what an older and a newer text leave together -/
def LineParens.join (older newer : LineParens) : LineParens :=
  { opens := newer.opens ++ older.opens.drop newer.closes
    closes := newer.closes - older.opens.length + older.closes }

theorem LineParens.join_nil (older : LineParens) : older.join ⟨[], 0⟩ = older := by
  simp [join]

theorem LineParens.push_join (older newer : LineParens) (p : Paren) :
    (older.join newer).push p = older.join (newer.push p) := by
  rcases older with ⟨outer, waiting⟩
  rcases newer with ⟨_ | ⟨call, inner⟩, closes⟩ <;> cases p
  · rfl
  · -- the newer text has nothing open, so the closer goes to the innermost open of the older one, if any is left
    rcases Nat.lt_or_ge closes outer.length with hlt | hge
    · obtain ⟨call, rest, hdrop⟩ : ∃ call rest, outer.drop closes = call :: rest :=
        List.exists_cons_of_ne_nil (by simpa [List.drop_eq_nil_iff] using hlt)
      have hrest : outer.drop (closes + 1) = rest := by
        rw [← List.drop_drop, hdrop]
        rfl
      simp only [join, push, List.nil_append, hdrop, hrest, mk.injEq, true_and]
      omega
    · have hdrop : outer.drop closes = [] := List.drop_eq_nil_iff.2 hge
      have hrest : outer.drop (closes + 1) = [] := List.drop_eq_nil_iff.2 (by omega)
      simp only [join, push, List.nil_append, hdrop, hrest, mk.injEq, true_and]
      omega
  · rfl
  · rfl

/-- Reading on from the leftovers of an older text is joining them with the leftovers of the newer text alone. -/
theorem LineParens.foldl_push_join (ps : List Paren) (older : LineParens) :
    ps.foldl push older = older.join (ps.foldl push ⟨[], 0⟩) := by
  induction ps using List.reverseRecOn with
  | nil => exact (join_nil older).symm
  | append_singleton ps p ih =>
    rw [List.foldl_append, List.foldl_append, ih]
    exact push_join older _ p

/-- the stack that some lines leave -/
def Stack.ofLines (lines : List (List Char)) : Stack :=
  let left := (lines.flatMap parens).foldl LineParens.push ⟨[], 0⟩
  ⟨left.opens, left.closes⟩

theorem Stack.extend_ofLines (lines : List (List Char)) (text : List Char) :
    (ofLines lines).extend (.balance text) = ofLines (text :: lines) := by
  have h := LineParens.foldl_push_join (lines.flatMap parens) (.balance text)
  simp only [ofLines, List.flatMap_cons, List.foldl_append]
  rw [LineParens.balance] at h
  rw [h]
  rfl

theorem Stack.empty_extend (text : List Char) : empty.extend (.balance text) = ofLines [text] :=
  extend_ofLines [] text

theorem Stack.calls_ofLines (lines : List (List Char)) : (ofLines lines).calls = openCalls lines := by
  rw [calls, ofLines, foldl_push_opens]
  rfl

theorem Stack.calls_extend (stack : Stack) (line : LineParens) :
    (stack.extend line).calls = stack.calls ++ (line.opens.drop stack.carry).filterMap id :=
  List.filterMap_append

/-- Older lines add calls only behind those that newer lines leave open. -/
theorem openCalls_append (older newer : List (List Char)) :
    ∃ outer, openCalls (older ++ newer) = openCalls newer ++ outer := by
  induction older with
  | nil => exact ⟨[], (List.append_nil _).symm⟩
  | cons text older ih =>
    obtain ⟨outer, houter⟩ := ih
    rw [List.cons_append, ← Stack.calls_ofLines, ← Stack.extend_ofLines, Stack.calls_extend, Stack.calls_ofLines, houter,
      List.append_assoc]
    exact ⟨_, rfl⟩

theorem openCalls_of_suffix {part lines : List (List Char)} (h : part <:+ lines) :
    ∃ outer, openCalls lines = openCalls part ++ outer := by
  obtain ⟨older, rfl⟩ := h
  exact openCalls_append older part

/-! ## The search -/

theorem verdict?_eq_none_iff (rules : ContextRules) (calls : List String) : verdict? rules calls = none ↔ calls = [] := by
  unfold verdict?
  split <;> simp

theorem searchCalls_of_verdict {source : LineSource} {rules : ContextRules} {lines : List (List Char)} {verdict : Bool}
    (h : verdict? rules (openCalls lines) = some verdict) (line budget : Nat) :
    searchCalls source rules (Stack.ofLines lines) line budget = verdict := by
  unfold searchCalls
  rw [Stack.calls_ofLines, h]

/-- no shorter part of the lines, taken from their end, leaves a named call open -/
def Undecided (lines : List (List Char)) : Prop :=
  ∀ part, part <:+ lines → part ≠ lines → openCalls part = []

theorem Undecided.singleton (head : List Char) : Undecided [head] := by
  intro part hpart hne
  rcases List.suffix_cons_iff.1 hpart with rfl | hpart
  · exact absurd rfl hne
  · rw [List.suffix_nil.1 hpart]
    rfl

theorem Undecided.cons {lines : List (List Char)} (h : Undecided lines) (hcalls : openCalls lines = [])
    (text : List Char) : Undecided (text :: lines) := by
  intro part hpart hne
  rcases List.suffix_cons_iff.1 hpart with rfl | hpart
  · exact absurd rfl hne
  · by_cases hlines : part = lines
    · rw [hlines, hcalls]
    · exact h part hpart hlines

/-- The search decides a property of the window if every verdict on its newest lines settles the property for good, and
lines without an open named call do not have it. -/
theorem searchCalls_iff {source : LineSource} {text : List Char} {rules : ContextRules}
    (Accepted : List (List Char) → Prop) (hsource : source.Reads text)
    (hdecided : ∀ older lines verdict, Undecided lines → verdict? rules (openCalls lines) = some verdict →
      (Accepted (older ++ lines) ↔ verdict = true))
    (hopen : ∀ lines, Undecided lines → openCalls lines = [] → ¬ Accepted lines)
    (line budget : Nat) (lines : List (List Char)) (hline : line ≤ (Document.ofText text).lines.length)
    (hlines : Undecided lines) :
    searchCalls source rules (Stack.ofLines lines) line budget = true ↔
      Accepted (((Document.ofText text).lines.take line).rtake budget ++ lines) := by
  -- along the lines read so far, newest first; `Undecided` says that no verdict fell before
  induction line generalizing budget lines with
  | zero =>
    cases hv : verdict? rules (openCalls lines) with
    | some verdict =>
      rw [searchCalls_of_verdict hv]
      exact (hdecided _ lines verdict hlines hv).symm
    | none =>
      have h := hopen lines hlines ((verdict?_eq_none_iff rules _).1 hv)
      unfold searchCalls
      simpa [Stack.calls_ofLines, hv] using h
  | succ line ih =>
    cases hv : verdict? rules (openCalls lines) with
    | some verdict =>
      rw [searchCalls_of_verdict hv]
      exact (hdecided _ lines verdict hlines hv).symm
    | none =>
      have hcalls := (verdict?_eq_none_iff rules _).1 hv
      unfold searchCalls
      cases budget with
      | zero =>
        have h := hopen lines hlines hcalls
        simpa [Stack.calls_ofLines, hv] using h
      | succ budget =>
        have hlt : line < (Document.ofText text).lines.length := hline
        have hread : source.line? line = some (Document.ofText text).lines[line] := by
          rw [hsource.line?_eq, Document.line?, List.getElem?_eq_getElem hlt]
        rw [List.take_succ_eq_append_getElem hlt, List.rtake_concat_succ, List.append_assoc, List.singleton_append,
          ← ih budget _ (Nat.le_of_lt hlt) (hlines.cons hcalls _), ← Stack.extend_ofLines]
        simp only [Stack.calls_ofLines, hv, hread]

theorem lt_length_of_line? {source : LineSource} {text line : List Char} {n : Nat} (hsource : source.Reads text)
    (hline : source.line? n = some line) : n < (Document.ofText text).lines.length := by
  rw [hsource.line?_eq] at hline
  exact (List.getElem?_eq_some_iff.1 hline).1

theorem insideCall_eq (source : LineSource) (line : Nat) (head : List Char) (rules : ContextRules) :
    insideCall source line head rules = searchCalls source rules (Stack.ofLines [head]) line rules.lookback := by
  rw [insideCall, Stack.empty_extend]

/-! ## The innermost call decides -/

theorem insideCall_innermost_iff {source : LineSource} {text head : List Char} {rules : ContextRules} {line : Nat}
    (hsource : source.Reads text) (hline : line ≤ (Document.ofText text).lines.length)
    (hnesting : rules.nesting = .innermost) :
    insideCall source line head rules = true ↔
      ∃ name ∈ rules.functions, (openCalls (window text line rules.lookback head)).head? = some name := by
  rw [insideCall_eq]
  refine searchCalls_iff (fun lines => ∃ name ∈ rules.functions, (openCalls lines).head? = some name) hsource
    ?_ ?_ line rules.lookback [head] hline (Undecided.singleton head)
  · intro older lines verdict _ hverdict
    obtain ⟨outer, houter⟩ := openCalls_append older lines
    rw [houter]
    unfold verdict? at hverdict
    rw [hnesting] at hverdict
    cases hcalls : openCalls lines with
    | nil =>
      rw [hcalls] at hverdict
      cases hverdict
    | cons name calls =>
      rw [hcalls] at hverdict
      have hname : rules.functions.contains name = verdict := Option.some.inj hverdict
      simp [← hname]
  · rintro lines _ hcalls ⟨name, _, hname⟩
    rw [hcalls] at hname
    cases hname

/-- **The innermost call, however the calls are split over lines.** Under `innermost`, where functions are configured and
the attribute check is silent, a class name is completed exactly if the quote rule is met and the newest named call that
the window leaves open is a configured one. The window is read once, oldest line first, through one stack. -/
theorem detect_innermost_iff {source : LineSource} {text line : List Char} {pos : Position} {rules : ContextRules}
    (hsource : source.Reads text) (hline : source.line? pos.line = some line) (hnesting : rules.nesting = .innermost)
    (hfun : rules.functions ≠ [])
    (hattr : rules.attributes = [] ∨ ¬ EndsWithAttribute (headOf (Columns.before pos.column line))) :
    (detect source pos rules).isSome = true ↔
      ((openQuote? (Columns.before pos.column line)).isSome = true ∨ rules.requireQuote = false) ∧
        ∃ name ∈ rules.functions,
          (openCalls (window text pos.line rules.lookback (headOf (Columns.before pos.column line)))).head? = some name := by
  rw [detect_isSome_iff hline hfun hattr,
    insideCall_innermost_iff hsource (Nat.le_of_lt (lt_length_of_line? hsource hline)) hnesting]
  rfl

/-- A call that a closer two lines below spares, three lines above the cursor and at the edge of the window. -/
theorem detect_innermost_over_lines :
    let text := "clsx(\n  foo(\n  ),\n  \"".toList
    let rules : ContextRules := { ContextRules.initial with functions := ["clsx"], lookback := 3 }
    (detect (plainSource text) ⟨3, 3⟩ rules).isSome = true := by
  intro text rules
  have hline : (plainSource text).line? 3 = some "  \"".toList := by decide
  exact (detect_innermost_iff (Or.inr rfl) hline rfl (by decide) (Or.inl rfl)).2
    ⟨Or.inl (by decide), "clsx", by decide, by decide⟩

/-! ## A single call decides -/

/-- the lines leave one named call open, and it is a configured one -/
def SingleCall (rules : ContextRules) (lines : List (List Char)) : Prop :=
  ∃ name ∈ rules.functions, openCalls lines = [name]

theorem verdict?_depthOne {rules : ContextRules} {lines : List (List Char)} {verdict : Bool}
    (hnesting : rules.nesting = .depthOne) (h : verdict? rules (openCalls lines) = some verdict) :
    SingleCall rules lines ↔ verdict = true := by
  unfold SingleCall
  unfold verdict? at h
  rw [hnesting] at h
  rcases hcalls : openCalls lines with _ | ⟨name, _ | ⟨outer, calls⟩⟩ <;> rw [hcalls] at h
  · cases h
  · have hname : rules.functions.contains name = verdict := Option.some.inj h
    simp [← hname]
  · have hfalse : false = verdict := Option.some.inj h
    simp [← hfalse]

/-- Behind the first verdict no part of the window changes it. -/
theorem SingleCall.iff_of_undecided {rules : ContextRules} {older lines : List (List Char)} (hlines : Undecided lines)
    (hcalls : openCalls lines ≠ []) :
    (∃ part, part <:+ older ++ lines ∧ SingleCall rules part) ↔ SingleCall rules lines := by
  constructor
  · rintro ⟨part, hpart, name, hname, hsingle⟩
    refine ⟨name, hname, ?_⟩
    rcases List.suffix_or_suffix_of_suffix hpart (List.suffix_append older lines) with hnewer | holder
    · by_cases heq : part = lines
      · rw [← heq, hsingle]
      · rw [hlines part hnewer heq] at hsingle
        cases hsingle
    · obtain ⟨outer, houter⟩ := openCalls_of_suffix holder
      rw [hsingle] at houter
      cases hl : openCalls lines with
      | nil => exact absurd hl hcalls
      | cons inner calls =>
        rw [hl, List.cons_append] at houter
        obtain ⟨rfl, hnil⟩ := List.cons.inj houter
        rw [(List.append_eq_nil_iff.1 hnil.symm).1]
  · intro h
    exact ⟨lines, List.suffix_append older lines, h⟩

theorem insideCall_depthOne_iff {source : LineSource} {text head : List Char} {rules : ContextRules} {line : Nat}
    (hsource : source.Reads text) (hline : line ≤ (Document.ofText text).lines.length)
    (hnesting : rules.nesting = .depthOne) :
    insideCall source line head rules = true ↔
      ∃ part, part <:+ window text line rules.lookback head ∧ SingleCall rules part := by
  rw [insideCall_eq]
  refine searchCalls_iff (fun lines => ∃ part, part <:+ lines ∧ SingleCall rules part) hsource
    ?_ ?_ line rules.lookback [head] hline (Undecided.singleton head)
  · intro older lines verdict hlines hverdict
    have hcalls : openCalls lines ≠ [] := by
      intro hnil
      rw [(verdict?_eq_none_iff rules _).2 hnil] at hverdict
      cases hverdict
    rw [SingleCall.iff_of_undecided hlines hcalls, verdict?_depthOne hnesting hverdict]
  · rintro lines hlines hcalls ⟨part, hpart, name, _, hsingle⟩
    have hnone : openCalls part = [] := by
      by_cases heq : part = lines
      · rw [heq, hcalls]
      · exact hlines part hpart heq
    rw [hnone] at hsingle
    cases hsingle

/-- **A single call, as far as the search looks.** Under `depthOne`, where functions are configured, the attribute check
is silent and the quote rule is met, a class name is completed exactly if some part of the window, taken from its end,
leaves a single named call open and that call is configured. This is the verdict of the whole window exactly if, for every
such part, the whole window leaves no further named call open. -/
theorem detect_depthOne_iff {source : LineSource} {text line : List Char} {pos : Position} {rules : ContextRules}
    (hsource : source.Reads text) (hline : source.line? pos.line = some line) (hnesting : rules.nesting = .depthOne)
    (hfun : rules.functions ≠ [])
    (hattr : rules.attributes = [] ∨ ¬ EndsWithAttribute (headOf (Columns.before pos.column line)))
    (hquote : (openQuote? (Columns.before pos.column line)).isSome = true ∨ rules.requireQuote = false) :
    let lines := window text pos.line rules.lookback (headOf (Columns.before pos.column line))
    ((detect source pos rules).isSome = true ↔ ∃ part, part <:+ lines ∧ SingleCall rules part) ∧
      (((detect source pos rules).isSome = true ↔ ∃ name ∈ rules.functions, openCalls lines = [name]) ↔
        ∀ part, part <:+ lines → SingleCall rules part → (openCalls lines).length = 1) := by
  intro lines
  have hdetect : (detect source pos rules).isSome = true ↔ ∃ part, part <:+ lines ∧ SingleCall rules part := by
    rw [detect_isSome_iff hline hfun hattr,
      insideCall_depthOne_iff hsource (Nat.le_of_lt (lt_length_of_line? hsource hline)) hnesting]
    exact and_iff_right hquote
  refine ⟨hdetect, fun hwhole part hpart hsingle => ?_, fun hno => ?_⟩
  · obtain ⟨name, _, hname⟩ := hwhole.1 (hdetect.2 ⟨part, hpart, hsingle⟩)
    rw [hname]
    rfl
  · rw [hdetect]
    constructor
    · rintro ⟨part, hpart, hsingle⟩
      have hlength := hno part hpart hsingle
      obtain ⟨name, hname, hcalls⟩ := hsingle
      obtain ⟨outer, houter⟩ := openCalls_of_suffix hpart
      rw [hcalls] at houter
      rw [houter] at hlength
      have hnil : outer = [] := by simpa using hlength
      exact ⟨name, hname, by rw [houter, hnil]; rfl⟩
    · intro hsingle
      exact ⟨lines, List.suffix_refl lines, hsingle⟩

/-- A grouping on the cursor line: the part that decides is the whole window, and no other call is open. -/
theorem detect_depthOne_over_lines :
    let text := "clsx(\n  (\"".toList
    let rules : ContextRules := { ContextRules.initial with functions := ["clsx"], nesting := .depthOne }
    (detect (plainSource text) ⟨1, 4⟩ rules).isSome = true := by
  intro text rules
  have hline : (plainSource text).line? 1 = some "  (\"".toList := by decide
  exact (detect_depthOne_iff (Or.inr rfl) hline rfl (by decide) (Or.inl rfl) (Or.inl (by decide))).1.2
    ⟨_, List.suffix_refl _, "clsx", by decide, by decide⟩

/-- **The search misses an outer call on an older line.** Two named calls are open in both texts. On one line they are
counted, and nothing is completed; a line break between them hides the outer one. -/
theorem depthOne_misses_outer_call :
    let rules : ContextRules := { ContextRules.initial with functions := ["clsx"], nesting := .depthOne }
    openCalls (window "foo(\nclsx(\"".toList 1 rules.lookback "clsx(".toList) = ["clsx", "foo"] ∧
      (detect (plainSource "foo(\nclsx(\"".toList) ⟨1, 6⟩ rules).isSome = true ∧
      openCalls (window "foo(clsx(\"".toList 0 rules.lookback "foo(clsx(".toList) = ["clsx", "foo"] ∧
      (detect (plainSource "foo(clsx(\"".toList) ⟨0, 10⟩ rules).isSome = false := by
  decide

end StyleIndex.Cursor
