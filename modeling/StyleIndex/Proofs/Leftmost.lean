/-
The leftmost place of a text where something stands.

A search from the left tries the places of a text one after another and stops at the first one from which the rest of the
text begins as wanted. `Leftmost` is what such a search reports: the text before the place, the text from there on, and that
it passed over no place. Where something stands is a predicate on the text from there to the end.

There is at most one such place (`Leftmost.unique`), and text that holds none can be put in front (`Leftmost.skip`).
-/
import Mathlib.Tactic

namespace StyleIndex

/-- A text from some place on begins behind a front or in it. -/
theorem suffix_append_cases {part front text : List Char} (h : part <:+ front ++ text) :
    part <:+ text ∨ ∃ start, start <:+ front ∧ start ≠ [] ∧ part = start ++ text := by
  rcases List.suffix_or_suffix_of_suffix h (List.suffix_append front text) with hshort | ⟨start, rfl⟩
  · exact Or.inl hshort
  · by_cases hnil : start = []
    · rw [hnil, List.nil_append]
      exact Or.inl (List.suffix_refl text)
    · exact Or.inr ⟨start, List.suffix_append_self_iff.1 h, hnil, rfl⟩

/-- the text is cut at the first place where something stands -/
structure Leftmost (Stands : List Char → Prop) (text before rest : List Char) : Prop where
  split : text = before ++ rest
  stands : Stands rest
  first : ∀ part, part <:+ before → part ≠ [] → ¬ Stands (part ++ rest)

namespace Leftmost

variable {Stands : List Char → Prop} {text before rest : List Char}

theorem isSuffix (h : Leftmost Stands text before rest) : rest <:+ text := by
  rw [h.split]
  exact List.suffix_append before rest

/-- No other place of the text where something stands lies before it. -/
theorem isPrefix {before' rest' : List Char} (h : Leftmost Stands text before rest) (hsplit : text = before' ++ rest')
    (hstands : Stands rest') : before <+: before' := by
  rcases List.append_eq_append_iff.1 (h.split.symm.trans hsplit) with ⟨part, hpart, _⟩ | ⟨part, hpart, hrest⟩
  · rw [hpart]
    exact List.prefix_append before part
  · by_cases hnil : part = []
    · rw [hpart, hnil, List.append_nil]
    · rw [hrest] at hstands
      exact absurd hstands (h.first part (hpart ▸ List.suffix_append before' part) hnil)

theorem unique {before' rest' : List Char} (h : Leftmost Stands text before rest)
    (h' : Leftmost Stands text before' rest') : before = before' ∧ rest = rest' := by
  have hle : before <+: before' := h.isPrefix h'.split h'.stands
  have hge : before' <+: before := h'.isPrefix h.split h.stands
  have hbefore : before = before' := hle.eq_of_length_le hge.length_le
  refine ⟨hbefore, ?_⟩
  have hsplit := h.split.symm.trans h'.split
  rw [hbefore] at hsplit
  exact List.append_cancel_left hsplit

theorem of_stands (h : Stands text) : Leftmost Stands text [] text where
  split := rfl
  stands := h
  first _ hpart hne := absurd (List.suffix_nil.1 hpart) hne

/-- A search that passes over a text goes on behind it. -/
theorem skip {skipped : List Char} (h : Leftmost Stands text before rest)
    (hskipped : ∀ part, part <:+ skipped → part ≠ [] → ¬ Stands (part ++ text)) :
    Leftmost Stands (skipped ++ text) (skipped ++ before) rest where
  split := by rw [h.split, List.append_assoc]
  stands := h.stands
  first part hpart hne := by
    rcases suffix_append_cases hpart with hshort | ⟨start, hstart, hstartNe, rfl⟩
    · exact h.first part hshort hne
    · rw [List.append_assoc, ← h.split]
      exact hskipped start hstart hstartNe

end Leftmost
end StyleIndex
