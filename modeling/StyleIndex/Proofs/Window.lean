/-
What the context detector sees of a document.

Its verdict is a function of a window: the text before the cursor on the cursor line, and the lines in reach above it,
which are `lookback` lines or as many as there are. `searchCalls_eq_of_linesBefore` says so of the search for open calls
and `typed_detect_eq` of the detector; line numbers do not matter, only what stands on the lines.

How many lines are read is a question about the course of the search and not about its result. `detectM` is the detector
with every look at a line as an effect, and `Recorded` says of a program of this kind what it answers and which lines it
has looked at, in order.

`detect_sees_window` puts this together.
-/
import Mathlib.Tactic
import StyleIndex.Cursor.Context
import StyleIndex.Proofs.TextEdit

namespace StyleIndex

/-- the numbers of the `n` lines above a line, nearest first -/
def linesAbove (line n : Nat) : List Nat :=
  (List.range n).map fun i => line - 1 - i

theorem linesAbove_succ (line n : Nat) : linesAbove (line + 1) (n + 1) = line :: linesAbove line n := by
  rw [linesAbove, List.range_succ_eq_map, List.map_cons, List.map_map, linesAbove]
  refine congrArg₂ _ rfl (List.map_congr_left fun i _ => ?_)
  simp only [Function.comp_apply]
  omega

namespace LineSource

/-- the text before the cursor on the cursor line, if there is such a line -/
def textBefore? (source : LineSource) (pos : Position) : Option (List Char) :=
  (source.line? pos.line).map (Columns.before pos.column)

/-- the lines in reach above a line, nearest first: `budget` lines, or as many as there are -/
def linesBefore (source : LineSource) (line budget : Nat) : List (Option (List Char)) :=
  (linesAbove line (min budget line)).map source.line?

theorem linesBefore_succ (source : LineSource) (line budget : Nat) :
    source.linesBefore (line + 1) (budget + 1) = source.line? line :: source.linesBefore line budget := by
  rw [linesBefore, Nat.add_min_add_right, linesAbove_succ, List.map_cons, linesBefore]

theorem length_linesBefore (source : LineSource) (line budget : Nat) :
    (source.linesBefore line budget).length = min budget line := by
  rw [linesBefore, List.length_map, linesAbove, List.length_map, List.length_range]

/-- Only older lines are in reach. -/
theorem linesBefore_congr {source source' : LineSource} {line : Nat} (h : ∀ m < line, source'.line? m = source.line? m)
    (budget : Nat) : source'.linesBefore line budget = source.linesBefore line budget := by
  refine List.map_congr_left fun m hm => h m ?_
  obtain ⟨i, hi, rfl⟩ := List.mem_map.1 hm
  rw [List.mem_range] at hi
  omega

/-- The lines in reach in a document, below which anything may follow. -/
theorem linesBefore_document (above rest : List (List Char)) (budget : Nat) :
    (Document.source ⟨above ++ rest⟩).linesBefore above.length budget = (above.reverse.take budget).map some := by
  induction above using List.reverseRecOn generalizing rest budget with
  | nil => simp [linesBefore, linesAbove]
  | append_singleton above line ih =>
    cases budget with
    | zero => simp [linesBefore, linesAbove]
    | succ budget =>
      have hline : (Document.source ⟨above ++ line :: rest⟩).line? above.length = some line := by
        simp [Document.source, Document.line?]
      rw [List.append_assoc, List.singleton_append, List.length_append, List.length_singleton, linesBefore_succ, hline,
        ih (line :: rest), List.reverse_append, List.reverse_singleton, List.singleton_append, List.take_succ_cons,
        List.map_cons]

end LineSource

/-! ## The verdict -/

namespace Cursor

/-- Where no line is in reach, the search decides by what it has. -/
theorem searchCalls_of_reach {line budget : Nat} (h : min budget line = 0) (source : LineSource) (rules : ContextRules)
    (stack : Stack) : searchCalls source rules stack line budget = (verdict? rules stack.calls).getD false := by
  unfold searchCalls
  cases verdict? rules stack.calls with
  | some verdict => rfl
  | none =>
    cases line with
    | zero => rfl
    | succ line =>
      cases budget with
      | zero => rfl
      | succ budget => omega

/-- The search decides by the lines in reach, whatever their numbers are. -/
theorem searchCalls_eq_of_linesBefore {source source' : LineSource} {rules : ContextRules} {line line' budget : Nat}
    (h : source.linesBefore line budget = source'.linesBefore line' budget) (stack : Stack) :
    searchCalls source rules stack line budget = searchCalls source' rules stack line' budget := by
  induction line generalizing line' budget stack with
  | zero =>
    have hlength := congrArg List.length h
    rw [LineSource.length_linesBefore, LineSource.length_linesBefore] at hlength
    rw [searchCalls_of_reach (by omega), searchCalls_of_reach (by omega)]
  | succ line ih =>
    have hlength := congrArg List.length h
    rw [LineSource.length_linesBefore, LineSource.length_linesBefore] at hlength
    cases budget with
    | zero => rw [searchCalls_of_reach (by omega), searchCalls_of_reach (by omega)]
    | succ budget =>
      obtain ⟨line', rfl⟩ : ∃ n, line' = n + 1 := Nat.exists_eq_succ_of_ne_zero (by omega)
      rw [LineSource.linesBefore_succ, LineSource.linesBefore_succ] at h
      obtain ⟨hnearest, holder⟩ := List.cons.inj h
      unfold searchCalls
      cases verdict? rules stack.calls with
      | some verdict => rfl
      | none =>
        simp only [hnearest]
        cases source'.line? line' with
        | none => rfl
        | some text => exact ih holder _

theorem accepts_eq_of_linesBefore {source source' : LineSource} {rules : ContextRules} {line line' : Nat}
    (h : source.linesBefore line rules.lookback = source'.linesBefore line' rules.lookback) (head : List Char) :
    accepts source line head rules = accepts source' line' head rules := by
  unfold accepts insideCall
  rw [searchCalls_eq_of_linesBefore h]

end Cursor

/-- **The window decides.** Two cursors with the same text before them and the same lines in reach get the same verdict and
the same typed part. -/
theorem typed_detect_eq {source source' : LineSource} {pos pos' : Position} {rules : ContextRules}
    (htext : source.textBefore? pos = source'.textBefore? pos')
    (hlines : source.linesBefore pos.line rules.lookback = source'.linesBefore pos'.line rules.lookback) :
    (detect source pos rules).map ContextMatch.typed = (detect source' pos' rules).map ContextMatch.typed := by
  -- the typed part is read off the text before the cursor alone
  have htyped : ∀ (source : LineSource) (pos : Position), (detect source pos rules).map ContextMatch.typed =
      (source.textBefore? pos).bind fun text => (Cursor.head? rules text).bind fun head =>
        if Cursor.accepts source pos.line head rules then some (String.ofList (Cursor.fragment text)) else none := by
    intro source pos
    rw [detect, LineSource.textBefore?]
    cases source.line? pos.line with
    | none => rfl
    | some line =>
      simp only [Option.bind_some, Option.map_some]
      cases Cursor.head? rules (Columns.before pos.column line) with
      | none => rfl
      | some head =>
        simp only [Option.bind_some]
        split_ifs <;> rfl
  rw [htyped, htyped, htext]
  simp only [Cursor.accepts_eq_of_linesBefore hlines]

/-! ## The course of the search -/

section Looking

variable {m : Type → Type} [Monad m] (look : Nat → m (Option (List Char))) (rules : ContextRules)

/-- `Cursor.searchCalls` with every look at a line as an effect -/
def Cursor.searchCallsM (stack : Stack) : (line budget : Nat) → m Bool
  | line, budget =>
    match verdict? rules stack.calls with
    | some verdict => pure verdict
    | none =>
      match line, budget with
      | line + 1, budget + 1 => do
        match ← look line with
        | some text => searchCallsM (stack.extend (.balance text)) line budget
        | none => pure false
      | _, _ => pure false

/-- `Cursor.accepts` with every look at a line as an effect -/
def Cursor.acceptsM (line : Nat) (head : List Char) : m Bool :=
  match (if rules.attributes.isEmpty then none else attribute? head) with
  | some name => pure (rules.attributes.contains name)
  | none =>
    if rules.functions.isEmpty then pure false
    else searchCallsM look rules (Stack.empty.extend (.balance head)) line rules.lookback

/-- `detect` with every look at a line as an effect -/
def detectM (wordRange? : Position → Option Range) (pos : Position) : m (Option ContextMatch) := do
  match ← look pos.line with
  | none => pure none
  | some line =>
    let text := Columns.before pos.column line
    match Cursor.head? rules text with
    | none => pure none
    | some head =>
      if ← Cursor.acceptsM look rules pos.line head then
        pure (some ⟨String.ofList (Cursor.fragment text), wordRange? pos⟩)
      else pure none

end Looking

/-- looks at a line and notes its number -/
def LineSource.look (source : LineSource) (n : Nat) : StateM (List Nat) (Option (List Char)) := do
  modify (· ++ [n])
  pure (source.line? n)

/-- the program gives an answer and looks at some lines, in this order -/
def Recorded {α : Type} (program : StateM (List Nat) α) (answer : α) (lines : List Nat) : Prop :=
  ∀ seen, program.run seen = (answer, seen ++ lines)

theorem recorded_pure {α : Type} (answer : α) : Recorded (pure answer) answer [] := by
  intro seen
  rw [List.append_nil]
  rfl

theorem recorded_look (source : LineSource) (n : Nat) : Recorded (source.look n) (source.line? n) [n] :=
  fun _ => rfl

theorem Recorded.bind {α β : Type} {program : StateM (List Nat) α} {answer : α} {lines : List Nat}
    (h : Recorded program answer lines) {next : α → StateM (List Nat) β} {answer' : β} {lines' : List Nat}
    (hnext : Recorded (next answer) answer' lines') : Recorded (program >>= next) answer' (lines ++ lines') := by
  intro seen
  rw [StateT.run_bind, h seen]
  exact (hnext (seen ++ lines)).trans (by rw [List.append_assoc])

theorem Recorded.bind_silent {α β : Type} {program : StateM (List Nat) α} {answer : α} {lines : List Nat}
    (h : Recorded program answer lines) {next : α → StateM (List Nat) β} {answer' : β}
    (hnext : Recorded (next answer) answer' []) : Recorded (program >>= next) answer' lines := by
  rw [← List.append_nil lines]
  exact h.bind hnext

namespace Cursor

/-- The search looks at lines one above the other, and at no more of them than are in reach. -/
theorem recorded_searchCallsM (source : LineSource) (rules : ContextRules) (stack : Stack) (line budget : Nat) :
    ∃ n ≤ min budget line, Recorded (searchCallsM source.look rules stack line budget)
      (searchCalls source rules stack line budget) (linesAbove line n) := by
  induction line generalizing stack budget with
  | zero =>
    refine ⟨0, Nat.zero_le _, ?_⟩
    unfold searchCallsM searchCalls
    cases verdict? rules stack.calls <;> exact recorded_pure _
  | succ line ih =>
    unfold searchCallsM searchCalls
    cases verdict? rules stack.calls with
    | some verdict => exact ⟨0, Nat.zero_le _, recorded_pure verdict⟩
    | none =>
      cases budget with
      | zero => exact ⟨0, Nat.zero_le _, recorded_pure false⟩
      | succ budget =>
        have hlook := recorded_look source line
        simp only
        cases hline : source.line? line with
        | none =>
          rw [hline] at hlook
          exact ⟨1, by omega, hlook.bind (recorded_pure false)⟩
        | some text =>
          rw [hline] at hlook
          obtain ⟨n, hn, hrest⟩ := ih (stack.extend (.balance text)) budget
          refine ⟨n + 1, by omega, ?_⟩
          rw [linesAbove_succ]
          exact hlook.bind hrest

theorem recorded_acceptsM (source : LineSource) (rules : ContextRules) (line : Nat) (head : List Char) :
    ∃ n ≤ min rules.lookback line, Recorded (acceptsM source.look rules line head) (accepts source line head rules)
      (linesAbove line n) := by
  unfold acceptsM accepts
  generalize (if rules.attributes.isEmpty then none else attribute? head) = name
  cases name with
  | some name => exact ⟨0, Nat.zero_le _, recorded_pure _⟩
  | none =>
    simp only
    cases rules.functions.isEmpty with
    | true => exact ⟨0, Nat.zero_le _, recorded_pure false⟩
    | false => exact recorded_searchCallsM source rules _ line rules.lookback

end Cursor

/-- **The detector looks at the cursor line and at lines in reach**, from the cursor line up, and answers as `detect`. -/
theorem recorded_detectM (source : LineSource) (pos : Position) (rules : ContextRules) :
    ∃ n ≤ min rules.lookback pos.line, Recorded (detectM source.look rules source.wordRange? pos)
      (detect source pos rules) (pos.line :: linesAbove pos.line n) := by
  have hlook := recorded_look source pos.line
  unfold detectM detect
  cases hline : source.line? pos.line with
  | none =>
    rw [hline] at hlook
    exact ⟨0, Nat.zero_le _, hlook.bind (recorded_pure none)⟩
  | some line =>
    rw [hline] at hlook
    cases hhead : Cursor.head? rules (Columns.before pos.column line) with
    | none =>
      refine ⟨0, Nat.zero_le _, hlook.bind ?_⟩
      simp only [hhead, Option.bind_some, Option.bind_none]
      exact recorded_pure none
    | some head =>
      obtain ⟨n, hn, haccepts⟩ := Cursor.recorded_acceptsM source rules pos.line head
      refine ⟨n, hn, hlook.bind ?_⟩
      simp only [hhead, Option.bind_some]
      refine haccepts.bind_silent ?_
      cases Cursor.accepts source pos.line head rules with
      | true => exact recorded_pure _
      | false => exact recorded_pure none

/-- **The detector sees a window.**
- Two cursors with the same text before them and the same lines in reach get the same verdict and the same typed part.
- So in a document nothing counts of what stands behind the cursor, below its line, or above the lines in reach.
- Each run looks at the cursor line and then at lines above it, one after another and at no more than are in reach. -/
theorem detect_sees_window (rules : ContextRules) :
    (∀ (source source' : LineSource) (pos pos' : Position), source.textBefore? pos = source'.textBefore? pos' →
      source.linesBefore pos.line rules.lookback = source'.linesBefore pos'.line rules.lookback →
      (detect source pos rules).map ContextMatch.typed = (detect source' pos' rules).map ContextMatch.typed) ∧
    (∀ (far near : List (List Char)) (left right : List Char) (below : List (List Char)),
      far = [] ∨ rules.lookback ≤ near.length →
      (detect (Document.source ⟨far ++ near ++ (left ++ right) :: below⟩) ⟨(far ++ near).length, Columns.width left⟩
          rules).map ContextMatch.typed =
        (detect (Document.source ⟨near ++ [left]⟩) ⟨near.length, Columns.width left⟩ rules).map ContextMatch.typed) ∧
    ∀ (source : LineSource) (pos : Position), ∃ n ≤ min rules.lookback pos.line,
      Recorded (detectM source.look rules source.wordRange? pos) (detect source pos rules)
        (pos.line :: linesAbove pos.line n) := by
  refine ⟨fun source source' pos pos' => typed_detect_eq, fun far near left right below hfar => ?_,
    fun source pos => recorded_detectM source pos rules⟩
  refine typed_detect_eq ?_ ?_
  · have hleft : Columns.before (Columns.width left) left = left := by
      simpa using Columns.before_width_append left []
    simp [LineSource.textBefore?, Document.source, Document.line?, hleft]
  · rw [LineSource.linesBefore_document, LineSource.linesBefore_document, List.reverse_append]
    rcases hfar with rfl | hnear
    · rw [List.reverse_nil, List.append_nil]
    · rw [List.take_append_of_le_length (by rwa [List.length_reverse])]

/-- One line is in reach: a plain text, and a document in which the same call stands two lines lower. -/
theorem window_moved_down :
    let rules : ContextRules := { ContextRules.initial with functions := ["clsx"], lookback := 1 }
    (detect (plainSource "clsx(\n \"btn-x\")".toList) ⟨1, 5⟩ rules).map ContextMatch.typed = some "btn" ∧
      (detect (Document.ofText "foo(\nbar)\nclsx(\n \"btn".toList).source ⟨3, 5⟩ rules).map ContextMatch.typed =
        some "btn" := by
  intro rules
  have htyped : (detect (plainSource "clsx(\n \"btn-x\")".toList) ⟨1, 5⟩ rules).map ContextMatch.typed = some "btn" := by
    decide
  refine ⟨htyped, ?_⟩
  rw [← htyped]
  exact (detect_sees_window rules).1 _ _ _ _ (by decide) (by decide)

end StyleIndex
