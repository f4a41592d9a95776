/-
Edits of a text, as an editor makes them: a stretch between two positions goes and a new text takes its place.

`Range.replaceIn` is the edit. It works on the text as a whole, carriage returns and line feeds included, while a document
has lines without them. `lines_replaceIn` says what it does to the lines of a document where a word replaces a part of one
line: that line has the new word, and every other line stays.
-/
import Mathlib.Tactic
import StyleIndex.Document
import StyleIndex.Proofs.Columns

namespace StyleIndex

/-! ## Lines and line ends -/

theorem splitLines_eq_splitOn (text : List Char) : splitLines text = text.splitOn '\n' := by
  induction text with
  | nil => rfl
  | cons c cs ih =>
    have hcons : (c :: cs).splitOn '\n' =
        if c == '\n' then [] :: cs.splitOn '\n' else (cs.splitOn '\n').modifyHead (c :: ·) :=
      List.splitOnP_cons_eq_if_modifyHead c cs
    rw [splitLines, ih, hcons]
    by_cases hc : c = '\n'
    · simp [hc]
    · simp only [hc, if_false, beq_iff_eq]
      cases hlines : cs.splitOn '\n' with
      | nil => exact absurd hlines (List.splitOn_ne_nil _ _)
      | cons line lines => rfl

theorem newline_notMem_splitLines (text : List Char) : ∀ line ∈ splitLines text, '\n' ∉ line := by
  induction text with
  | nil => simp [splitLines]
  | cons c cs ih =>
    rw [splitLines]
    split_ifs with hc
    · simpa using ih
    · cases hlines : splitLines cs with
      | nil => simpa using Ne.symm hc
      | cons line lines =>
        rw [hlines] at ih
        simpa [Ne.symm hc] using ih

/-- A line that loses a carriage return ends with it, and any other line does not. -/
theorem exists_lineEnd (line : List Char) :
    ∃ lineEnd, line = stripReturn line ++ lineEnd ∧
      (lineEnd = ['\r'] ∨ lineEnd = [] ∧ line.getLast? ≠ some '\r') := by
  unfold stripReturn
  split_ifs with hlast
  · exact ⟨['\r'], (List.dropLast_append_getLast? '\r' hlast).symm, Or.inl rfl⟩
  · exact ⟨[], (List.append_nil _).symm, Or.inr ⟨rfl, hlast⟩⟩

theorem stripReturn_append_return (line : List Char) : stripReturn (line ++ ['\r']) = line := by
  simp [stripReturn]

theorem stripReturn_of_getLast?_ne {line : List Char} (h : line.getLast? ≠ some '\r') : stripReturn line = line :=
  if_neg h

/-- Putting a word before the end of a line does not change how the line ends. -/
theorem stripReturn_replace {line left word right new : List Char} (hline : stripReturn line = left ++ word ++ right)
    (hnew : new ≠ []) (hreturn : '\r' ∉ new) :
    ∃ lineEnd, line = left ++ word ++ (right ++ lineEnd) ∧
      stripReturn (left ++ new ++ (right ++ lineEnd)) = left ++ new ++ right := by
  obtain ⟨lineEnd, hsplit, hend⟩ := exists_lineEnd line
  rw [hline] at hsplit
  refine ⟨lineEnd, by rw [hsplit, List.append_assoc], ?_⟩
  rcases hend with rfl | ⟨rfl, hlast⟩
  · rw [← List.append_assoc, stripReturn_append_return]
  · rw [List.append_nil] at hsplit ⊢
    apply stripReturn_of_getLast?_ne
    rcases List.eq_nil_or_concat right with rfl | ⟨right, c, rfl⟩
    · rw [List.append_nil, List.getLast?_append_of_ne_nil _ hnew]
      intro hreturn'
      exact hreturn (List.mem_of_getLast? hreturn')
    · rw [hsplit] at hlast
      simpa using hlast

/-! ## Edits -/

/-- the text before a position -/
def Position.before (pos : Position) (text : List Char) : List Char :=
  ((splitLines text).take pos.line).flatMap (· ++ ['\n']) ++ Columns.before pos.column ((splitLines text).getD pos.line [])

/-- the text from a position on -/
def Position.after (pos : Position) (text : List Char) : List Char :=
  Columns.after pos.column ((splitLines text).getD pos.line []) ++ ((splitLines text).drop (pos.line + 1)).flatMap ('\n' :: ·)

/-- the text with a new text in the place of a range -/
def Range.replaceIn (range : Range) (text new : List Char) : List Char :=
  range.start.before text ++ new ++ range.stop.after text

/-- Lines joined by line feeds, seen from one of them. -/
theorem intercalate_newline_append_cons (older newer : List (List Char)) (line : List Char) :
    ['\n'].intercalate (older ++ line :: newer) = older.flatMap (· ++ ['\n']) ++ line ++ newer.flatMap ('\n' :: ·) := by
  induction older with
  | nil =>
    induction newer generalizing line with
    | nil => simp
    | cons next newer ih =>
      have ih := ih next
      rw [List.nil_append] at ih ⊢
      rw [List.intercalate_cons_cons, ih]
      simp
  | cons first older ih =>
    rw [List.cons_append, List.intercalate_cons_of_ne_nil (by simp), ih]
    simp

/-- An edit of one line changes that line and no other. -/
theorem splitLines_replaceIn {text line : List Char} {n : Nat} (hline : (splitLines text)[n]? = some line)
    {new : List Char} (hnew : '\n' ∉ new) (start stop : Nat) :
    splitLines (Range.replaceIn ⟨⟨n, start⟩, ⟨n, stop⟩⟩ text new) =
      (splitLines text).set n (Columns.before start line ++ new ++ Columns.after stop line) := by
  have hlt : n < (splitLines text).length := (List.getElem?_eq_some_iff.1 hline).1
  have hget : (splitLines text).getD n [] = line := by rw [List.getD_eq_getElem?_getD, hline, Option.getD_some]
  have htext : Range.replaceIn ⟨⟨n, start⟩, ⟨n, stop⟩⟩ text new =
      ['\n'].intercalate ((splitLines text).take n ++
        (Columns.before start line ++ new ++ Columns.after stop line) :: (splitLines text).drop (n + 1)) := by
    rw [intercalate_newline_append_cons]
    simp only [Range.replaceIn, Position.before, Position.after, hget, List.append_assoc]
  have hlines := newline_notMem_splitLines text
  rw [htext, splitLines_eq_splitOn, List.splitOn_intercalate _ _ (by simp), List.set_eq_take_append_cons_drop, if_pos hlt]
  have hcut : '\n' ∉ line := hlines line (List.mem_of_getElem? hline)
  intro l hl
  rcases List.mem_append.1 hl with hl | hl
  · exact hlines l (List.mem_of_mem_take hl)
  · rcases List.mem_cons.1 hl with rfl | hl
    · rw [List.mem_append, List.mem_append]
      rintro ((hmem | hmem) | hmem)
      · exact hcut (Columns.before_append_after start line ▸ List.mem_append_left _ hmem)
      · exact hnew hmem
      · exact hcut (Columns.before_append_after stop line ▸ List.mem_append_right _ hmem)
    · exact hlines l (List.mem_of_mem_drop hl)

/-- **A word in the place of another.** Where a stretch of one line is replaced by a word, the document has that line with
the word in it, and all other lines as they were. -/
theorem lines_replaceIn {text left word right new : List Char} {n : Nat}
    (hline : (Document.ofText text).line? n = some (left ++ word ++ right)) (hnew : new ≠ [])
    (hsymbols : ∀ c ∈ new, isSymbolChar c = true) :
    (Document.ofText (Range.replaceIn ⟨⟨n, Columns.width left⟩, ⟨n, Columns.width (left ++ word)⟩⟩ text new)).lines =
      (Document.ofText text).lines.set n (left ++ new ++ right) := by
  have hnewline : '\n' ∉ new := fun hmem => absurd (hsymbols _ hmem) (by decide)
  have hreturn : '\r' ∉ new := fun hmem => absurd (hsymbols _ hmem) (by decide)
  rw [Document.line?, Document.ofText, List.getElem?_map, Option.map_eq_some_iff] at hline
  obtain ⟨line, hline, hstrip⟩ := hline
  obtain ⟨lineEnd, rfl, hstrip'⟩ := stripReturn_replace hstrip hnew hreturn
  rw [Document.ofText, Document.ofText, splitLines_replaceIn hline hnewline, List.map_set]
  have hbefore : Columns.before (Columns.width left) (left ++ word ++ (right ++ lineEnd)) = left := by
    rw [List.append_assoc, Columns.before_width_append]
  rw [hbefore, Columns.after_width_append, hstrip']

/-- A document with one line exchanged has the new line there, and the same lines everywhere else. -/
theorem Document.line?_of_lines_eq_set {doc doc' : Document} {n : Nat} {line new : List Char}
    (hline : doc.line? n = some line) (hset : doc'.lines = doc.lines.set n new) :
    doc'.line? n = some new ∧ ∀ m < n, doc'.line? m = doc.line? m := by
  have hlt : n < doc.lines.length := (List.getElem?_eq_some_iff.1 hline).1
  constructor
  · rw [line?, hset, List.getElem?_set_self hlt]
  · intro m hm
    rw [line?, line?, hset, List.getElem?_set_ne (Nat.ne_of_gt hm)]

end StyleIndex
