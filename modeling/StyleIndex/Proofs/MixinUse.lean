/-
Where a mixin is completed: the detector accepts exactly the grammar of a use.

`MixinUse` reads a text as the use of a mixin at its end. A text has at most one such reading (`MixinUse.unique`), since
neither a blank nor the sign that starts the keyword occurs in what follows it. For the same reason nothing in front of a
keyword matters to the reading (`mixinFragment?_append_keyword`), not even other keywords: a search from the left passes over
all of them and stops at the one of the reading (`leftmost_beginsMixinUse_iff`).
-/
import Mathlib.Tactic
import StyleIndex.Proofs.Leftmost
import StyleIndex.Proofs.Lines
import StyleIndex.Proofs.WordBytes

namespace StyleIndex

open Cursor

namespace MixinUse

variable {text before blanks name : List Char}

/-- **A text is the use of a mixin in at most one way.** -/
theorem unique {before' blanks' name' : List Char} (h : MixinUse text before blanks name)
    (h' : MixinUse text before' blanks' name') : before = before' ∧ blanks = blanks' ∧ name = name' := by
  have hname : name = name' := h.word.fragment_eq.symm.trans h'.word.fragment_eq
  -- behind the name both readings take all the blanks there are
  have hrest : (before ++ mixinKeyword) ++ blanks = (before' ++ mixinKeyword) ++ blanks' := by
    simpa using h.word.dropTrailing_eq.symm.trans h'.word.dropTrailing_eq
  have hblanks : blanks = blanks' := by
    calc blanks
        = Text.takeTrailing Text.isBlank ((before ++ mixinKeyword) ++ blanks) :=
          (Text.takeTrailing_append h.blank (isBlank_getLast?_mixinKeyword before)).symm
      _ = Text.takeTrailing Text.isBlank ((before' ++ mixinKeyword) ++ blanks') := by rw [hrest]
      _ = blanks' := Text.takeTrailing_append h'.blank (isBlank_getLast?_mixinKeyword before')
  subst hblanks
  exact ⟨List.append_cancel_right (List.append_cancel_right hrest), rfl, hname⟩

theorem append (h : MixinUse text before blanks name) (earlier : List Char) :
    MixinUse (earlier ++ text) (earlier ++ before) blanks name where
  split := by rw [h.split, List.append_assoc]
  blanks_ne_nil := h.blanks_ne_nil
  blank := h.blank
  symbols := h.symbols

theorem of_append {earlier : List Char} (h : MixinUse (earlier ++ text) (earlier ++ before) blanks name) :
    MixinUse text before blanks name where
  split := by
    have hsplit := h.split
    rw [List.append_assoc] at hsplit
    exact List.append_cancel_left hsplit
  blanks_ne_nil := h.blanks_ne_nil
  blank := h.blank
  symbols := h.symbols

/-- The sign that starts the keyword occurs nowhere behind its place. -/
theorem at_notMem_tail (h : MixinUse text before blanks name) : '@' ∉ (mixinKeyword ++ (blanks ++ name)).tail := by
  have htail : (mixinKeyword ++ (blanks ++ name)).tail = mixinKeyword.tail ++ (blanks ++ name) := rfl
  rw [htail, List.mem_append, List.mem_append]
  intro hmem
  rcases hmem with hkeyword | hblank | hname
  · exact absurd hkeyword (by decide)
  · exact absurd (h.blank '@' hblank) (by decide)
  · exact absurd (h.symbols '@' hname) (by decide)

/-- The keyword of the reading does not stand before any other keyword. -/
theorem isPrefix_of_keyword {earlier rest : List Char}
    (h : MixinUse (earlier ++ (mixinKeyword ++ rest)) before blanks name) : earlier <+: before := by
  rcases List.append_eq_append_iff.1 h.split with ⟨part, hpart, _⟩ | ⟨part, hpart, hrest⟩
  · rw [hpart]
    exact List.prefix_append earlier part
  · cases part with
    | nil => rw [hpart, List.append_nil]
    | cons c part =>
      have hmem : '@' ∈ (mixinKeyword ++ (blanks ++ name)).tail := by
        rw [hrest, List.cons_append, List.tail_cons]
        exact List.mem_append_right part (List.mem_append_left rest (by decide))
      exact absurd hmem h.at_notMem_tail

end MixinUse

/-- **Nothing in front of a keyword matters.** -/
theorem mixinFragment?_append_keyword (earlier rest : List Char) :
    mixinFragment? (earlier ++ (mixinKeyword ++ rest)) = mixinFragment? (mixinKeyword ++ rest) := by
  ext name
  rw [mixinFragment?_eq_some_iff, mixinFragment?_eq_some_iff]
  constructor
  · intro h
    rcases h with ⟨before, blanks, huse⟩
    obtain ⟨between, rfl⟩ := huse.isPrefix_of_keyword
    exact ⟨between, blanks, huse.of_append⟩
  · intro h
    rcases h with ⟨before, blanks, huse⟩
    exact ⟨earlier ++ before, blanks, huse.append earlier⟩

/-! ## The search from the left -/

/-- the use of a mixin begins a text and takes all of it -/
def BeginsMixinUse (text : List Char) : Prop :=
  ∃ blanks name, MixinUse text [] blanks name

/-- **A search from the left finds the reading.** -/
theorem leftmost_beginsMixinUse_iff {text before rest : List Char} :
    Leftmost BeginsMixinUse text before rest ↔
      ∃ blanks name, MixinUse text before blanks name ∧ rest = mixinKeyword ++ (blanks ++ name) := by
  constructor
  · intro h
    obtain ⟨blanks, name, huse⟩ := h.stands
    refine ⟨blanks, name, ?_, huse.split⟩
    have happend := huse.append before
    rwa [← h.split, List.append_nil] at happend
  · intro h
    rcases h with ⟨blanks, name, huse, rfl⟩
    have hrest : MixinUse (mixinKeyword ++ (blanks ++ name)) [] blanks name :=
      ⟨rfl, huse.blanks_ne_nil, huse.blank, huse.symbols⟩
    refine ⟨huse.split, ⟨blanks, name, hrest⟩, ?_⟩
    intro part _ hne hbegins
    rcases hbegins with ⟨blanks', name', huse'⟩
    have hpart : MixinUse (part ++ (mixinKeyword ++ (blanks ++ name))) part blanks name := by
      simpa using hrest.append part
    exact hne (hpart.unique huse').1

/-! ## The detector -/

/-- The typed part of a match is read from the line up to the cursor, whatever the source. -/
theorem LineSource.Reads.typed_detectMixin {source : LineSource} {text line : List Char} {pos : Position}
    (hsource : source.Reads text) (hline : (Document.ofText text).line? pos.line = some line) :
    (detectMixin source pos).map (·.typed.toList) = mixinFragment? (Columns.before pos.column line) := by
  rw [← hsource.line?_eq] at hline
  simp only [detectMixin, hline, Option.bind_some, Option.map_map, Function.comp_def, String.toList_ofList, Option.map_id']

theorem LineSource.Reads.detectMixin_eq_none {source : LineSource} {text : List Char} {pos : Position}
    (hsource : source.Reads text) (hline : (Document.ofText text).line? pos.line = none) :
    detectMixin source pos = none := by
  rw [← hsource.line?_eq] at hline
  rw [detectMixin, hline, Option.bind_none]

/-- **The detector of mixins accepts exactly the grammar.**
- It matches with a typed part exactly if the line is there and its text up to the cursor is anything, then the keyword, a
  run of blanks that is not empty, and the typed part, a run of symbol characters that may be empty.
- All parts of such a reading are determined by the text.
- A search from the left, which may try and leave other keywords, stops at the keyword of the reading.
- Two cursors whose lines agree from some keyword up to the cursor get the same verdict and the same typed part, whatever
  stands before that keyword on either line. -/
theorem mixin_detector_accepts_grammar {source : LineSource} {text : List Char} (hsource : source.Reads text)
    (pos : Position) :
    (∀ name : List Char, (∃ found, detectMixin source pos = some found ∧ found.typed.toList = name) ↔
      ∃ line before blanks, (Document.ofText text).line? pos.line = some line ∧
        MixinUse (Columns.before pos.column line) before blanks name) ∧
    ∀ line, (Document.ofText text).line? pos.line = some line →
      let ahead := Columns.before pos.column line
      (∀ before blanks name before' blanks' name', MixinUse ahead before blanks name →
        MixinUse ahead before' blanks' name' → before = before' ∧ blanks = blanks' ∧ name = name') ∧
      (∀ before rest, Leftmost BeginsMixinUse ahead before rest ↔
        ∃ blanks name, MixinUse ahead before blanks name ∧ rest = mixinKeyword ++ (blanks ++ name)) ∧
      ∀ (source' : LineSource) (text' line' : List Char) (pos' : Position) (earlier earlier' rest : List Char),
        source'.Reads text' → (Document.ofText text').line? pos'.line = some line' →
        ahead = earlier ++ (mixinKeyword ++ rest) →
        Columns.before pos'.column line' = earlier' ++ (mixinKeyword ++ rest) →
        (detectMixin source' pos').map (·.typed.toList) = (detectMixin source pos).map (·.typed.toList) := by
  refine ⟨fun name => ?_, fun line hline => ⟨?_, ?_, ?_⟩⟩
  · rw [← Option.map_eq_some_iff (f := fun found : ContextMatch => found.typed.toList)]
    cases hline : (Document.ofText text).line? pos.line with
    | none => simp [hsource.detectMixin_eq_none hline]
    | some line =>
      rw [hsource.typed_detectMixin hline, mixinFragment?_eq_some_iff]
      simp
  · intro before blanks name before' blanks' name' huse huse'
    exact huse.unique huse'
  · intro before rest
    exact leftmost_beginsMixinUse_iff
  · intro source' text' line' pos' earlier earlier' rest hsource' hline' hahead hahead'
    rw [hsource.typed_detectMixin hline, hsource'.typed_detectMixin hline', hahead, hahead',
      mixinFragment?_append_keyword, mixinFragment?_append_keyword]

/-- The first keyword on the line is left, a wide blank follows the second, and the cursor stands in the name. -/
theorem mixin_behind_abandoned_keyword :
    let text := "a\n@mixin (x) @mixin\u3000nav".toList
    let ahead := Columns.before 20 "@mixin (x) @mixin\u3000nav".toList
    (plainSource text).Reads text ∧
      (∃ found, detectMixin (plainSource text) ⟨1, 20⟩ = some found ∧ found.typed.toList = "na".toList) ∧
      Leftmost BeginsMixinUse ahead "@mixin (x) ".toList "@mixin\u3000na".toList ∧
      (detectMixin (plainSource "@mixin\u3000na".toList) ⟨0, 9⟩).map (·.typed.toList) =
        (detectMixin (plainSource text) ⟨1, 20⟩).map (·.typed.toList) := by
  intro text ahead
  have hsource : (plainSource text).Reads text := Or.inr rfl
  have hline : (Document.ofText text).line? 1 = some "@mixin (x) @mixin\u3000nav".toList := by decide
  have huse : MixinUse ahead "@mixin (x) ".toList ['\u3000'] "na".toList :=
    ⟨by decide, by decide, List.all_eq_true.1 (by decide), List.all_eq_true.1 (by decide)⟩
  obtain ⟨hmatches, hreadings⟩ := mixin_detector_accepts_grammar hsource ⟨1, 20⟩
  obtain ⟨_, hsearch, hearlier⟩ := hreadings _ hline
  refine ⟨hsource, (hmatches _).2 ⟨_, _, _, hline, huse⟩, (hsearch _ _).2 ⟨_, _, huse, by decide⟩, ?_⟩
  exact hearlier _ "@mixin\u3000na".toList "@mixin\u3000na".toList ⟨0, 9⟩ "@mixin (x) ".toList [] "\u3000na".toList
    (Or.inr rfl) (by decide) (by decide) (by decide)

end StyleIndex
