/-
White space as the Unicode standard defines it: the characters with the property White_Space.

The property is wider than the ASCII blanks. It holds of the next-line control, the no-break space and the general
punctuation spaces, and it does not hold of the zero-width space.
-/
namespace StyleIndex.Text

/-- the characters with the Unicode property White_Space -/
def isBlank (c : Char) : Bool :=
  ('\t' ≤ c && c ≤ '\r') || c = ' ' || c = '\u0085' || c = '\u00a0' || c = '\u1680' ||
    ('\u2000' ≤ c && c ≤ '\u200a') || c = '\u2028' || c = '\u2029' || c = '\u202f' || c = '\u205f' || c = '\u3000'

/-- a text without its trailing run of characters that satisfy `p` -/
def dropTrailing (p : Char → Bool) (text : List Char) : List Char :=
  (text.reverse.dropWhile p).reverse

/-- the trailing run of characters of a text that satisfy `p` -/
def takeTrailing (p : Char → Bool) (text : List Char) : List Char :=
  (text.reverse.takeWhile p).reverse

/-- A text is its part before a trailing run followed by the run. -/
theorem dropTrailing_append_takeTrailing (p : Char → Bool) (text : List Char) :
    dropTrailing p text ++ takeTrailing p text = text := by
  rw [dropTrailing, takeTrailing, ← List.reverse_append, List.takeWhile_append_dropWhile, List.reverse_reverse]

/-- A run at the start of a text goes as far as its characters do. -/
theorem takeWhile_append_eq_left {α : Type} {p : α → Bool} {run rest : List α} (hrun : ∀ a ∈ run, p a = true)
    (hrest : ∀ a, rest.head? = some a → p a = false) : (run ++ rest).takeWhile p = run := by
  have hnone : rest.takeWhile p = [] := by
    cases rest with
    | nil => rfl
    | cons a rest => rw [List.takeWhile_cons_of_neg (by simp [hrest a rfl])]
  rw [List.takeWhile_append_of_pos hrun, hnone, List.append_nil]

/-- A run at the end of a text goes as far as its characters do. -/
theorem takeTrailing_append {p : Char → Bool} {left run : List Char} (hrun : ∀ c ∈ run, p c = true)
    (hleft : ∀ c, left.getLast? = some c → p c = false) : takeTrailing p (left ++ run) = run := by
  rw [takeTrailing, List.reverse_append, takeWhile_append_eq_left, List.reverse_reverse]
  · exact fun c hc => hrun c (List.mem_reverse.1 hc)
  · intro c hc
    rw [List.head?_reverse] at hc
    exact hleft c hc

theorem dropTrailing_append {p : Char → Bool} {left run : List Char} (hrun : ∀ c ∈ run, p c = true)
    (hleft : ∀ c, left.getLast? = some c → p c = false) : dropTrailing p (left ++ run) = left := by
  have hsplit := dropTrailing_append_takeTrailing p (left ++ run)
  rw [takeTrailing_append hrun hleft] at hsplit
  exact List.append_cancel_right hsplit

/-- A run at the end of a text does not go past a character of another kind. -/
theorem dropTrailing_cons {p : Char → Bool} {c : Char} (hc : p c = false) (text : List Char) :
    dropTrailing p (c :: text) = c :: dropTrailing p text := by
  rw [dropTrailing, List.reverse_cons, List.dropWhile_append, dropTrailing]
  cases text.reverse.dropWhile p with
  | nil => simp [hc]
  | cons d rest => simp

end StyleIndex.Text
