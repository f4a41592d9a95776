/-
Columns and byte offsets of a line.

An editor names a place on a line by its column, in UTF-16 units, and a line is cut at byte offsets. The beginnings of a
line tie the two together: the width of a beginning is a column that cuts the line there (`before_width_append`,
`after_width_append`), and its byte count is the offset with that column (`columnOfByte?_byteCount`). The offsets that have
a column are those between characters (`IsBoundary`, `columnOfByte?_eq_some_iff`).

A column between the two units of one character (`SplitsPair`) has no offset of its own, so the conversions are not inverse
to each other. They are a Galois connection (`byteOfColumn_le_iff`): the offset of a column is the first boundary whose
column is not before it. That the conversion is monotone, and by how much a column moves on its way to bytes and back
(`width_before_of_splitsPair`, `width_before_of_not_splitsPair`), follows from this.

`walk?` is the conversion with a counter of 32 bits. On a line whose units fit in 32 bits the counter does not overflow
(`walk?_eq`).
-/
import Mathlib.Tactic
import StyleIndex.Text.Columns

namespace StyleIndex.Columns

/-! ## Widths and byte counts -/

theorem units_eq_one_or_two (c : Char) : units c = 1 ∨ units c = 2 := by
  unfold units
  split
  · exact Or.inl rfl
  · exact Or.inr rfl

theorem units_pos (c : Char) : 0 < units c := by
  rcases units_eq_one_or_two c with h | h <;> omega

theorem width_append (a b : List Char) : width (a ++ b) = width a + width b := by
  induction a with
  | nil => simp [width]
  | cons c a ih => rw [List.cons_append, width, width, ih, Nat.add_assoc]

theorem byteCount_append (a b : List Char) : byteCount (a ++ b) = byteCount a + byteCount b := by
  induction a with
  | nil => simp [byteCount]
  | cons c a ih => rw [List.cons_append, byteCount, byteCount, ih, Nat.add_assoc]

/-! ## Cuts -/

/-- A cut at a character of a line cuts its tail as many units earlier. -/
theorem before_units_add (c : Char) (n : Nat) (rest : List Char) : before (units c + n) (c :: rest) = c :: before n rest := by
  obtain ⟨k, hk⟩ := Nat.exists_eq_succ_of_ne_zero (Nat.pos_iff_ne_zero.1 (units_pos c))
  have hcut : units c + n = (k + n) + 1 := by omega
  rw [hcut, before, ← hcut, Nat.add_sub_cancel_left]

theorem after_units_add (c : Char) (n : Nat) (rest : List Char) : after (units c + n) (c :: rest) = after n rest := by
  obtain ⟨k, hk⟩ := Nat.exists_eq_succ_of_ne_zero (Nat.pos_iff_ne_zero.1 (units_pos c))
  have hcut : units c + n = (k + n) + 1 := by omega
  rw [hcut, after, ← hcut, Nat.add_sub_cancel_left]

/-- A cut behind the beginning of a line cuts the rest as many units earlier. -/
theorem before_width_add_append (left right : List Char) (n : Nat) :
    before (width left + n) (left ++ right) = left ++ before n right := by
  induction left with
  | nil => simp [width]
  | cons c left ih => rw [width, Nat.add_assoc, List.cons_append, before_units_add, ih, List.cons_append]

@[simp] theorem before_width_append (left right : List Char) : before (width left) (left ++ right) = left := by
  simpa [before] using before_width_add_append left right 0

@[simp] theorem after_width_append (left right : List Char) : after (width left) (left ++ right) = right := by
  induction left with
  | nil => simp [width, after]
  | cons c left ih => rw [width, List.cons_append, after_units_add, ih]

/-- A column at the end of a line or past it means the end. -/
theorem before_of_width_le {line : List Char} {column : Nat} (h : width line ≤ column) : before column line = line := by
  obtain ⟨n, rfl⟩ := Nat.exists_eq_add_of_le h
  have hcut := before_width_add_append line [] n
  cases n <;> simpa [before] using hcut

/-! ## Boundaries -/

/-- the byte offset lies between two characters of the line, or at one of its ends -/
def IsBoundary (line : List Char) (offset : Nat) : Prop :=
  ∃ left right, line = left ++ right ∧ offset = byteCount left

theorem columnOfByte?_utf8Size_add (c : Char) (n : Nat) (rest : List Char) :
    columnOfByte? (c :: rest) (c.utf8Size + n) = (columnOfByte? rest n).map (units c + ·) := by
  obtain ⟨m, hm⟩ : ∃ m, c.utf8Size + n = m + 1 := ⟨c.utf8Size + n - 1, by have := c.utf8Size_pos; omega⟩
  rw [hm, columnOfByte?, if_pos (by omega), ← hm, Nat.add_sub_cancel_left]

/-- An offset between characters has a column. -/
theorem columnOfByte?_byteCount (left right : List Char) :
    columnOfByte? (left ++ right) (byteCount left) = some (width left) := by
  induction left with
  | nil => cases right <;> rfl
  | cons c left ih => rw [List.cons_append, byteCount, columnOfByte?_utf8Size_add, ih, width, Option.map_some]

/-- The offsets that have a column are those of the beginnings of the line. -/
theorem columnOfByte?_eq_some_iff {line : List Char} {offset column : Nat} :
    columnOfByte? line offset = some column ↔
      ∃ left right, line = left ++ right ∧ offset = byteCount left ∧ column = width left := by
  constructor
  · intro h
    induction line generalizing offset column with
    | nil =>
      cases offset with
      | zero => exact ⟨[], [], rfl, rfl, (Option.some.inj h).symm⟩
      | succ n => cases h
    | cons c line ih =>
      cases offset with
      | zero => exact ⟨[], c :: line, rfl, rfl, (Option.some.inj h).symm⟩
      | succ n =>
        rw [columnOfByte?] at h
        split_ifs at h with hsize
        obtain ⟨column, hrest, rfl⟩ := Option.map_eq_some_iff.1 h
        obtain ⟨left, right, rfl, hoffset, rfl⟩ := ih hrest
        refine ⟨c :: left, right, rfl, ?_, rfl⟩
        rw [byteCount, ← hoffset]
        omega
  · intro h
    obtain ⟨left, right, rfl, rfl, rfl⟩ := h
    exact columnOfByte?_byteCount left right

theorem isBoundary_iff {line : List Char} {offset : Nat} :
    IsBoundary line offset ↔ ∃ column, columnOfByte? line offset = some column := by
  constructor
  · intro h
    obtain ⟨left, right, rfl, rfl⟩ := h
    exact ⟨width left, columnOfByte?_byteCount left right⟩
  · intro h
    obtain ⟨column, hcolumn⟩ := h
    obtain ⟨left, right, hline, hoffset, _⟩ := columnOfByte?_eq_some_iff.1 hcolumn
    exact ⟨left, right, hline, hoffset⟩

theorem isBoundary_byteOfColumn (line : List Char) (column : Nat) : IsBoundary line (byteOfColumn line column) :=
  ⟨before column line, after column line, (before_append_after column line).symm, rfl⟩

theorem columnOfByte?_byteOfColumn (line : List Char) (column : Nat) :
    columnOfByte? line (byteOfColumn line column) = some (width (before column line)) :=
  columnOfByte?_eq_some_iff.2 ⟨_, _, (before_append_after column line).symm, rfl, rfl⟩

/-! ## The connection -/

theorem byteOfColumn_zero (line : List Char) : byteOfColumn line 0 = 0 := by
  rw [byteOfColumn, before, byteCount]

theorem byteOfColumn_cons_succ (c : Char) (line : List Char) (n : Nat) :
    byteOfColumn (c :: line) (n + 1) = c.utf8Size + byteOfColumn line (n + 1 - units c) :=
  rfl

/-- **The conversions are a Galois connection**: the offset of a column is the first boundary whose column is not before
it. -/
theorem byteOfColumn_le_iff {line left right : List Char} {column : Nat} (hline : line = left ++ right)
    (hcolumn : column ≤ width line) : byteOfColumn line column ≤ byteCount left ↔ column ≤ width left := by
  subst hline
  induction left generalizing column with
  | nil =>
    cases column with
    | zero => simp [byteOfColumn_zero]
    | succ n =>
      -- behind the start of a line stands at least its first character
      cases right with
      | nil => cases hcolumn
      | cons c right =>
        have hsize := c.utf8Size_pos
        rw [List.nil_append, byteOfColumn_cons_succ, byteCount, width]
        omega
  | cons c left ih =>
    cases column with
    | zero => simp [byteOfColumn_zero]
    | succ n =>
      have hrest : n + 1 - units c ≤ width (left ++ right) := by
        rw [List.cons_append, width] at hcolumn
        omega
      rw [List.cons_append, byteOfColumn_cons_succ, byteCount, Nat.add_le_add_iff_left, ih hrest, width]
      omega

/-- A column does not move to the left. -/
theorem le_width_before {line : List Char} {column : Nat} (h : column ≤ width line) : column ≤ width (before column line) :=
  (byteOfColumn_le_iff (before_append_after column line).symm h).1 le_rfl

theorem byteOfColumn_le_byteCount (line : List Char) (column : Nat) : byteOfColumn line column ≤ byteCount line := by
  rw [← before_append_after column line, byteCount_append, before_append_after]
  exact Nat.le_add_right _ _

theorem monotone_byteOfColumn (line : List Char) : Monotone (byteOfColumn line) := by
  intro column column' hle
  by_cases hlast : column' ≤ width line
  · refine (byteOfColumn_le_iff (before_append_after column' line).symm (hle.trans hlast)).2 ?_
    exact hle.trans (le_width_before hlast)
  · have hend : byteOfColumn line column' = byteCount line := by
      rw [byteOfColumn, before_of_width_le (Nat.le_of_not_le hlast)]
    rw [hend]
    exact byteOfColumn_le_byteCount line column

/-! ## Columns inside a character -/

/-- the column lies between the two units of one character of the line -/
def SplitsPair (line : List Char) (column : Nat) : Prop :=
  ∃ left c right, line = left ++ c :: right ∧ units c = 2 ∧ column = width left + 1

theorem width_before_of_splitsPair {line : List Char} {column : Nat} (h : SplitsPair line column) :
    width (before column line) = column + 1 := by
  obtain ⟨left, c, right, rfl, hunits, rfl⟩ := h
  have hcut : before 1 (c :: right) = [c] := by simp [before, hunits]
  rw [before_width_add_append, hcut, width_append, width, width, hunits]

theorem width_before_of_not_splitsPair {line : List Char} {column : Nat} (hcolumn : column ≤ width line)
    (h : ¬ SplitsPair line column) : width (before column line) = column := by
  have hle := le_width_before hcolumn
  have hsplit := before_append_after column line
  rcases List.eq_nil_or_concat (before column line) with hnil | ⟨front, c, hfront⟩
  · rw [hnil, width] at hle ⊢
    omega
  · rw [List.concat_eq_append] at hfront
    have hline : line = front ++ c :: after column line := by
      rw [hfront, List.append_assoc, List.singleton_append] at hsplit
      exact hsplit.symm
    -- the last character before the cut is needed to reach the column
    have hbehind : width front < column := by
      by_contra hnot
      have hfits := (byteOfColumn_le_iff hline hcolumn).2 (Nat.le_of_not_lt hnot)
      have hsize := c.utf8Size_pos
      rw [byteOfColumn, hfront, byteCount_append, byteCount, byteCount] at hfits
      omega
    rw [hfront, width_append, width, width] at hle ⊢
    by_contra hne
    refine h ⟨front, c, after column line, hline, ?_, ?_⟩
    · rcases units_eq_one_or_two c with hunits | hunits <;> omega
    · rcases units_eq_one_or_two c with hunits | hunits <;> omega

/-! ## A counter of 32 bits -/

/-- a counter of 32 bits moves on by the units of a character; none where it would overflow -/
def addUnits? (count : UInt32) (c : Char) : Option UInt32 :=
  if count.toNat + units c < 2 ^ 32 then some (count + UInt32.ofNat (units c)) else none

/-- the walk over a line to a column: `offset` and `count` are the bytes and the units passed so far; none where the counter
overflows -/
def walk? (column : UInt32) : (offset : Nat) → (count : UInt32) → List Char → Option Nat
  | offset, _, [] => some offset
  | offset, count, c :: cs =>
    if column ≤ count then some offset
    else (addUnits? count c).bind fun count => walk? column (offset + c.utf8Size) count cs

theorem exists_addUnits? (count : UInt32) (c : Char) (h : count.toNat + units c < 2 ^ 32) :
    ∃ next, addUnits? count c = some next ∧ next.toNat = count.toNat + units c := by
  refine ⟨count + UInt32.ofNat (units c), if_pos h, ?_⟩
  rw [UInt32.toNat_add, UInt32.toNat_ofNat']
  omega

/-- **The counter does not overflow**, and the walk ends at the offset of the column. -/
theorem walk?_eq {line : List Char} (column : UInt32) (offset : Nat) (count : UInt32)
    (h : count.toNat + width line < 2 ^ 32) :
    walk? column offset count line = some (offset + byteOfColumn line (column.toNat - count.toNat)) := by
  induction line generalizing offset count with
  | nil =>
    have hcut : byteOfColumn [] (column.toNat - count.toNat) = 0 := by
      rw [byteOfColumn, before_of_width_le (Nat.zero_le _), byteCount]
    rw [walk?, hcut, Nat.add_zero]
  | cons c line ih =>
    rw [walk?]
    rw [width] at h
    split_ifs with hreached
    · rw [Nat.sub_eq_zero_of_le (UInt32.le_iff_toNat_le.1 hreached), byteOfColumn_zero, Nat.add_zero]
    · have hahead : count.toNat < column.toNat := by rwa [UInt32.le_iff_toNat_le, Nat.not_le] at hreached
      obtain ⟨next, hnext, hcount⟩ := exists_addUnits? count c (by omega)
      obtain ⟨n, hn⟩ : ∃ n, column.toNat - count.toNat = n + 1 := ⟨column.toNat - count.toNat - 1, by omega⟩
      have hrest : column.toNat - next.toNat = n + 1 - units c := by omega
      rw [hnext, Option.bind_some, hn]
      calc walk? column (offset + c.utf8Size) next line
          = some (offset + c.utf8Size + byteOfColumn line (column.toNat - next.toNat)) := ih _ _ (by omega)
        _ = some (offset + byteOfColumn (c :: line) (n + 1)) := by
          rw [hrest, byteOfColumn_cons_succ, Nat.add_assoc]

/-- **Columns and byte offsets.**
- An offset has a column exactly if it lies between characters.
- For a column of the line and such an offset, the offset of the column is not behind the offset exactly if the column is not
  behind the column of the offset. A column past the end of the line has the offset of its end.
- So the offset of a column always lies between characters and does not decrease with the column, an offset between
  characters is the offset of its column, and a column of the line comes back from bytes as itself, or one further exactly if
  it lies between the two units of one character.
- On a line of fewer than 2^32 units a walk to a column with a counter of 32 bits ends at that offset and its counter never
  overflows, and a column in 32 bits loses nothing. -/
theorem columns_offsets_galois (line : List Char) :
    (∀ offset, IsBoundary line offset ↔ ∃ place, columnOfByte? line offset = some place) ∧
    (∀ column offset place, column ≤ width line → columnOfByte? line offset = some place →
      (byteOfColumn line column ≤ offset ↔ column ≤ place)) ∧
    (∀ column, width line < column → byteOfColumn line column = byteCount line) ∧
    (∀ column, IsBoundary line (byteOfColumn line column)) ∧
    Monotone (byteOfColumn line) ∧
    (∀ offset place, columnOfByte? line offset = some place → byteOfColumn line place = offset) ∧
    (∀ column, SplitsPair line column → columnOfByte? line (byteOfColumn line column) = some (column + 1)) ∧
    (∀ column, column ≤ width line → ¬ SplitsPair line column →
      columnOfByte? line (byteOfColumn line column) = some column) ∧
    (width line < 2 ^ 32 →
      (∀ column : UInt32, walk? column 0 0 line = some (byteOfColumn line column.toNat)) ∧
      ∀ offset place, columnOfByte? line offset = some place → (UInt32.ofNat place).toNat = place) := by
  refine ⟨fun offset => isBoundary_iff, ?_, ?_, isBoundary_byteOfColumn line, monotone_byteOfColumn line, ?_, ?_, ?_, ?_⟩
  · intro column offset place hcolumn hplace
    obtain ⟨left, right, hline, rfl, rfl⟩ := columnOfByte?_eq_some_iff.1 hplace
    exact byteOfColumn_le_iff hline hcolumn
  · intro column hcolumn
    rw [byteOfColumn, before_of_width_le hcolumn.le]
  · intro offset place hplace
    obtain ⟨left, right, rfl, rfl, rfl⟩ := columnOfByte?_eq_some_iff.1 hplace
    rw [byteOfColumn, before_width_append]
  · intro column hsplits
    rw [columnOfByte?_byteOfColumn, width_before_of_splitsPair hsplits]
  · intro column hcolumn hsplits
    rw [columnOfByte?_byteOfColumn, width_before_of_not_splitsPair hcolumn hsplits]
  · intro hwidth
    constructor
    · intro column
      simpa using walk?_eq column 0 0 (by simpa using hwidth)
    · intro offset place hplace
      obtain ⟨left, right, rfl, rfl, rfl⟩ := columnOfByte?_eq_some_iff.1 hplace
      rw [width_append] at hwidth
      exact UInt32.toNat_ofNat_of_lt' (by rw [UInt32.size]; omega)

/-- Column 4 lies inside a character of two units and four bytes, column 3 before it, and column 7 past the end. -/
theorem columns_offsets_around_wide_character :
    let line := "<b>🎉é".toList
    (SplitsPair line 4 ∧ columnOfByte? line (byteOfColumn line 4) = some 5) ∧
      (¬ SplitsPair line 3 ∧ columnOfByte? line (byteOfColumn line 3) = some 3) ∧
      (columnOfByte? line 7 = some 5 ∧ (byteOfColumn line 4 ≤ 7 ↔ 4 ≤ 5) ∧ byteOfColumn line 5 = 7) ∧
      byteOfColumn line 7 = byteCount line ∧ walk? 4 0 0 line = some 7 ∧ (UInt32.ofNat 5).toNat = 5 := by
  intro line
  obtain ⟨_, hconnection, hend, _, _, hback, hinside, hbetween, hcounter⟩ := columns_offsets_galois line
  have hplace : columnOfByte? line 7 = some 5 := by decide
  have hsplits : SplitsPair line 4 := ⟨"<b>".toList, '🎉', "é".toList, by decide, by decide, by decide⟩
  have hwhole : ¬ SplitsPair line 3 := fun h => absurd (hinside 3 h) (by decide)
  obtain ⟨hwalk, hword⟩ := hcounter (by decide)
  refine ⟨⟨hsplits, hinside 4 hsplits⟩, ⟨hwhole, hbetween 3 (by decide) hwhole⟩, ⟨hplace, ?_, hback 7 5 hplace⟩,
    hend 7 (by decide), ?_, hword 7 5 hplace⟩
  · exact hconnection 4 7 5 (by decide) hplace
  · rw [hwalk]
    decide

end StyleIndex.Columns
