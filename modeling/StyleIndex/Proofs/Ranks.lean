/-
The order in which an editor shows completion items.

An editor sorts items by their `sortText`, as texts. The ranks behind it are numbers, and texts of digits stand in the order
of the numbers that they write as long as they have one length (`lt_iff_ofDigitChars_lt`). Six digits are enough for a
million ranks (`length_rankText`); the rank behind these is one digit longer and goes before most of them
(`not_rankText_lt_million`).

`sortTexts_increase_iff` is the consequence for the items: an editor that sorts them keeps their order exactly if there are
at most a million.
-/
import Mathlib.Tactic
import StyleIndex.Proofs.Completion

namespace StyleIndex.Completion

/-! ## Numbers as texts -/

/-- the text consists of decimal digits, and they write the number -/
def IsDecimal (text : String) (n : Nat) : Prop :=
  (∀ c ∈ text.toList, c.isDigit = true) ∧ Nat.ofDigitChars 10 text.toList 0 = n

theorem digit_bounds {c : Char} (h : c.isDigit = true) : 48 ≤ c.toNat ∧ c.toNat ≤ 57 :=
  Char.isDigit_iff_toNat.1 h

theorem ofDigitChars_cons_eq (c : Char) (text : List Char) :
    Nat.ofDigitChars 10 (c :: text) 0 = 10 ^ text.length * (c.toNat - 48) + Nat.ofDigitChars 10 text 0 := by
  rw [Nat.ofDigitChars_cons, Nat.ofDigitChars_eq_ofDigitChars_zero, Nat.mul_zero, Nat.zero_add]
  rfl

theorem ofDigitChars_lt_pow {text : List Char} (h : ∀ c ∈ text, c.isDigit = true) :
    Nat.ofDigitChars 10 text 0 < 10 ^ text.length := by
  induction text with
  | nil => simp
  | cons c text ih =>
    have hc := digit_bounds (h c (by simp))
    have hrest := ih fun d hd => h d (by simp [hd])
    calc Nat.ofDigitChars 10 (c :: text) 0
        = 10 ^ text.length * (c.toNat - 48) + Nat.ofDigitChars 10 text 0 := ofDigitChars_cons_eq c text
      _ < 10 ^ text.length * (c.toNat - 48) + 10 ^ text.length := by omega
      _ = 10 ^ text.length * (c.toNat - 48 + 1) := by ring
      _ ≤ 10 ^ text.length * 10 := Nat.mul_le_mul_left _ (by omega)
      _ = 10 ^ (c :: text).length := by rw [List.length_cons, pow_succ]

/-- **Digits of one length stand in the order of the numbers that they write.** -/
theorem lt_iff_ofDigitChars_lt {a b : List Char} (hlength : a.length = b.length) (ha : ∀ c ∈ a, c.isDigit = true)
    (hb : ∀ c ∈ b, c.isDigit = true) : a < b ↔ Nat.ofDigitChars 10 a 0 < Nat.ofDigitChars 10 b 0 := by
  induction a generalizing b with
  | nil =>
    obtain rfl := List.length_eq_zero_iff.1 hlength.symm
    simp
  | cons c a ih =>
    cases b with
    | nil => cases hlength
    | cons d b =>
      have hc := digit_bounds (ha c (by simp))
      have hd := digit_bounds (hb d (by simp))
      have htail : a.length = b.length := Nat.succ.inj hlength
      have ha' : ∀ x ∈ a, x.isDigit = true := fun x hx => ha x (by simp [hx])
      have hb' : ∀ x ∈ b, x.isDigit = true := fun x hx => hb x (by simp [hx])
      have hrest := ih htail ha' hb'
      have habound := ofDigitChars_lt_pow ha'
      have hbbound := ofDigitChars_lt_pow hb'
      rw [List.cons_lt_cons_iff, hrest, ofDigitChars_cons_eq, ofDigitChars_cons_eq, htail, ← Char.toNat_inj]
      rw [htail] at habound
      have hchar : c < d ↔ c.toNat < d.toNat := Iff.rfl
      rw [hchar]
      -- the first digit decides, since what follows is less than one unit of it
      rcases Nat.lt_trichotomy c.toNat d.toNat with hlt | heq | hgt
      · have hstep : 10 ^ b.length * (c.toNat - 48 + 1) ≤ 10 ^ b.length * (d.toNat - 48) :=
          Nat.mul_le_mul_left _ (by omega)
        rw [Nat.mul_add_one] at hstep
        omega
      · rw [heq]
        omega
      · have hstep : 10 ^ b.length * (d.toNat - 48 + 1) ≤ 10 ^ b.length * (c.toNat - 48) :=
          Nat.mul_le_mul_left _ (by omega)
        rw [Nat.mul_add_one] at hstep
        omega

/-! ## Ranks -/

theorem toList_rankText (rank : Nat) :
    (rankText rank).toList = List.replicate (6 - (Nat.toDigits 10 rank).length) '0' ++ Nat.toDigits 10 rank := by
  rw [rankText, String.toList_ofList]

theorem isDecimal_rankText (rank : Nat) : IsDecimal (rankText rank) rank := by
  constructor
  · intro c hc
    rw [toList_rankText, List.mem_append] at hc
    rcases hc with hpad | hdigit
    · rw [List.eq_of_mem_replicate hpad]
      rfl
    · exact Nat.isDigit_of_mem_toDigits (by decide) (by decide) hdigit
  · rw [toList_rankText, Nat.ofDigitChars_append, Nat.ofDigitChars_replicate_zero, Nat.mul_zero,
      Nat.ofDigitChars_ten_toDigits]

theorem length_rankText {rank : Nat} (h : rank < 1000000) : (rankText rank).toList.length = 6 := by
  have hdigits : (Nat.toDigits 10 rank).length ≤ 6 := (Nat.length_toDigits_le_iff (by decide) (by decide)).2 h
  rw [toList_rankText, List.length_append, List.length_replicate]
  omega

/-- Up to a million, ranks as texts stand in the order of the ranks. -/
theorem rankText_lt_iff {a b : Nat} (ha : a < 1000000) (hb : b < 1000000) : rankText a < rankText b ↔ a < b := by
  obtain ⟨hadigits, havalue⟩ := isDecimal_rankText a
  obtain ⟨hbdigits, hbvalue⟩ := isDecimal_rankText b
  have hlength : (rankText a).toList.length = (rankText b).toList.length := by
    rw [length_rankText ha, length_rankText hb]
  calc rankText a < rankText b
      ↔ (rankText a).toList < (rankText b).toList := Iff.rfl
    _ ↔ Nat.ofDigitChars 10 (rankText a).toList 0 < Nat.ofDigitChars 10 (rankText b).toList 0 :=
        lt_iff_ofDigitChars_lt hlength hadigits hbdigits
    _ ↔ a < b := by rw [havalue, hbvalue]

/-- The first rank with seven digits goes before the last one with six. -/
theorem not_rankText_lt_million : ¬ rankText 999999 < rankText 1000000 := by
  decide +kernel

theorem pairwise_rankText_iff (n : Nat) : ((List.range n).map rankText).Pairwise (· < ·) ↔ n ≤ 1000000 := by
  rw [List.pairwise_map]
  constructor
  · intro h
    by_contra hmany
    have hpair : rankText 999999 < rankText 1000000 := by
      have := List.pairwise_iff_getElem.1 h 999999 1000000 (by simp; omega) (by simp; omega) (by decide)
      simpa only [List.getElem_range] using this
    exact not_rankText_lt_million hpair
  · intro h
    refine List.pairwise_lt_range.imp_of_mem fun {a b} ha hb hlt => ?_
    rw [List.mem_range] at ha hb
    exact (rankText_lt_iff (by omega) (by omega)).2 hlt

/-! ## Items -/

theorem sortTexts_assemble {found : ContextMatch} {symbols : List String} {kind : Kind} {items : List Item}
    (h : assemble (some found) symbols kind = some items) :
    items.map Item.sortText = (List.range (symbols.filter (fits found.typed)).length).map rankText := by
  rw [assemble, Option.map_some, Option.some.injEq] at h
  subst h
  rw [List.range_eq_range', ← List.zipIdx_map_snd, List.map_map, List.map_map]
  rfl

/-- **Sorted by text, items keep their order up to a million.** The items of a context are those of the symbols that fit,
in their order, and the texts that they are sorted by write the numbers from zero on, none of them left out. These texts
increase along the list exactly if at most a million symbols fit. -/
theorem sortTexts_increase_iff (found : ContextMatch) (symbols : List String) (kind : Kind) :
    ∃ items, assemble (some found) symbols kind = some items ∧
      items.map Item.label = symbols.filter (fits found.typed) ∧
      List.Forall₂ IsDecimal (items.map Item.sortText) (List.range items.length) ∧
      ((items.map Item.sortText).Pairwise (· < ·) ↔ (symbols.filter (fits found.typed)).length ≤ 1000000) := by
  obtain ⟨items, hitems, hlabels⟩ := Option.map_eq_some_iff.1 (labels_some found symbols kind)
  have hlength : items.length = (symbols.filter (fits found.typed)).length := by rw [← hlabels, List.length_map]
  have htexts := sortTexts_assemble hitems
  refine ⟨items, hitems, hlabels, ?_, ?_⟩
  · rw [htexts, hlength, List.forall₂_map_left_iff, List.forall₂_same]
    intro rank _
    exact isDecimal_rankText rank
  · rw [htexts]
    exact pairwise_rankText_iff _

end StyleIndex.Completion
