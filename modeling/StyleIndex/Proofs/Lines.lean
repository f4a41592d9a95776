/-
The two readings of a text, as a `Document` split into lines and as a plain text read one line at a time, see the same
lines.

`splitLines_eq` unrolls the split by one line and `getElem?_splitLines` reads off any line. `plainLine?_eq_line?` is the
agreement of the readings, and `LineSource.Reads.line?_eq` says it of a source, so that what is proved of the lines of a
document holds of both sources.
-/
import StyleIndex.Document

namespace StyleIndex

/-- The first line ends at the first line feed, and the other lines are those of the text behind it. -/
theorem splitLines_eq (text : List Char) :
    splitLines text = text.takeWhile (· ≠ '\n') :: (text.dropWhile (· ≠ '\n')).tail?.elim [] splitLines := by
  induction text with
  | nil => rfl
  | cons c cs ih =>
    by_cases hc : c = '\n'
    · subst hc
      simp [splitLines]
    · rw [splitLines, ih]
      simp [hc]

theorem getElem?_splitLines (n : Nat) (text : List Char) :
    (splitLines text)[n]? = (dropLines? n text).map fun rest => rest.takeWhile (· ≠ '\n') := by
  induction n generalizing text with
  | zero =>
    rw [splitLines_eq]
    rfl
  | succ n ih =>
    rw [splitLines_eq, List.getElem?_cons_succ, dropLines?]
    cases text.dropWhile (· ≠ '\n') with
    | nil => rfl
    | cons _ rest => exact ih rest

/-- A line read on its own is the line of the document. -/
theorem plainLine?_eq_line? (text : List Char) (n : Nat) : plainLine? text n = (Document.ofText text).line? n := by
  rw [Document.line?, Document.ofText, List.getElem?_map, getElem?_splitLines, Option.map_map]
  rfl

/-- the source reads the text, split into lines or one line at a time -/
def LineSource.Reads (source : LineSource) (text : List Char) : Prop :=
  source = (Document.ofText text).source ∨ source = plainSource text

theorem LineSource.Reads.line?_eq {source : LineSource} {text : List Char} (h : source.Reads text) :
    source.line? = (Document.ofText text).line? := by
  rcases h with rfl | rfl
  · rfl
  · funext n
    exact plainLine?_eq_line? text n

end StyleIndex
