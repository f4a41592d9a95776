/-
What an editor may rely on when it takes a completion or lets the user type on.

- `accepted_completion_stable`: an item that replaces the word at the cursor leaves a document in which the same detector,
  asked behind the new word, finds the place again, with the new word as typed and as range, and offers the item again.
- `typing_narrows_completions`: a further symbol character changes nothing about the verdict, and the items are those of
  before that start with what is typed now. An editor may therefore filter a list by itself.

Both rest on `Detector.find_eq`: a detector does not look at the word. The other half is the filter. What is typed and the
symbols are ASCII, so the comparison in lower case is one letter by letter (`fits_eq`), and a longer typed part fits less.
-/
import Mathlib.Tactic
import StyleIndex.Completion
import StyleIndex.Proofs.Lines
import StyleIndex.Proofs.Word

namespace StyleIndex

/-! ## The filter -/

theorem Text.lowerFrom_of_ascii {text : List Char} (h : ∀ c ∈ text, c.toNat < 0x80) (past : List Char) :
    Text.lowerFrom past text = text.map Char.toLower := by
  induction text generalizing past with
  | nil => rfl
  | cons c text ih =>
    have hc := h c (by simp)
    have hsigma : c ≠ 'Σ' := by
      rintro rfl
      exact absurd hc (by decide)
    have hdotted : c ≠ 'İ' := by
      rintro rfl
      exact absurd hc (by decide)
    have hlower : Text.lowerChar c = c.toLower := by rw [Text.lowerChar, if_pos hc]
    rw [Text.lowerFrom, ih fun d hd => h d (by simp [hd])]
    simp [hsigma, hdotted, hlower]

namespace Completion

/-- the symbol starts with what was typed, whatever the case of the ASCII letters -/
def startsIgnoringCase (typed symbol : String) : Bool :=
  (Text.asciiLower typed).toList.isPrefixOf (Text.asciiLower symbol).toList

theorem startsIgnoringCase_iff (typed symbol : String) :
    startsIgnoringCase typed symbol = true ↔
      typed.toList.map Char.toLower <+: symbol.toList.map Char.toLower := by
  simp [startsIgnoringCase, Text.asciiLower]

/-- On symbol characters the filter compares letter by letter. -/
theorem fits_eq {typed symbol : String} (htyped : ∀ c ∈ typed.toList, isSymbolChar c = true)
    (hsymbol : ∀ c ∈ symbol.toList, isSymbolChar c = true) : fits typed symbol = startsIgnoringCase typed symbol := by
  have hlower : ∀ {s : String}, (∀ c ∈ s.toList, isSymbolChar c = true) →
      Text.lowerCase s.toList = (Text.asciiLower s).toList := by
    intro s hs
    rw [Text.lowerCase, Text.lowerFrom_of_ascii fun c hc => toNat_lt_of_isSymbolChar (hs c hc), Text.asciiLower,
      String.toList_ofList]
  rw [fits, hlower htyped, hlower hsymbol, startsIgnoringCase]

/-- What starts with a longer text starts with the shorter one. -/
theorem startsIgnoringCase_of_append {typed more : List Char} {symbol : String}
    (h : startsIgnoringCase (String.ofList (typed ++ more)) symbol = true) :
    startsIgnoringCase (String.ofList typed) symbol = true := by
  rw [startsIgnoringCase_iff, String.toList_ofList] at h ⊢
  rw [List.map_append] at h
  exact (List.prefix_append _ _).trans h

/-! ## Items -/

/-- the labels that are offered, in order -/
def labels (context : Option ContextMatch) (symbols : List String) (kind : Kind) : Option (List String) :=
  (assemble context symbols kind).map fun items => items.map Item.label

theorem labels_some (found : ContextMatch) (symbols : List String) (kind : Kind) :
    labels (some found) symbols kind = some (symbols.filter (fits found.typed)) := by
  have hlabels : ∀ (kept : List String) (first : Nat),
      ((kept.zipIdx first).map fun ranked => item found kind ranked.1 ranked.2).map Item.label = kept := by
    intro kept
    induction kept with
    | nil => intro first; rfl
    | cons symbol kept ih =>
      intro first
      rw [List.zipIdx_cons, List.map_cons, List.map_cons, ih]
      rfl
  simp only [labels, assemble, Option.map_some, Option.some.injEq]
  exact hlabels _ 0

theorem mem_assemble {found : ContextMatch} {symbols : List String} {kind : Kind} {items : List Item} {i : Item}
    (hitems : assemble (some found) symbols kind = some items) (hi : i ∈ items) :
    i.label ∈ symbols ∧ fits found.typed i.label = true ∧ ∃ rank, i = item found kind i.label rank := by
  rw [assemble, Option.map_some, Option.some.injEq] at hitems
  subst hitems
  obtain ⟨⟨symbol, rank⟩, hmem, rfl⟩ := List.mem_map.1 hi
  obtain ⟨hsymbol, hfits⟩ := List.mem_filter.1 (List.fst_mem_of_mem_zipIdx hmem)
  exact ⟨hsymbol, hfits, rank, rfl⟩

/-! ## Taking a completion -/

/-- With another word in its place, the place is found again behind that word, and the word is typed and the range. -/
theorem find_replaced {detector : Detector} {doc doc' : Document} {n column : Nat}
    {line left typed rest right new : List Char} (hline : doc.line? n = some line)
    (hat : WordAt line column left typed rest right) (haccepts : detector.accepts doc.source n left = true)
    (hnew : ∀ c ∈ new, isSymbolChar c = true) (hset : doc'.lines = doc.lines.set n (left ++ new ++ right)) :
    detector.find doc'.source ⟨n, Columns.width (left ++ new)⟩ =
      some ⟨String.ofList new, some ⟨⟨n, Columns.width left⟩, ⟨n, Columns.width (left ++ new)⟩⟩⟩ := by
  obtain ⟨hline', holder⟩ := Document.line?_of_lines_eq_set hline hset
  have hat' := hat.replace hnew
  have hsame : detector.accepts doc'.source n left = detector.accepts doc.source n left :=
    detector.accepts_congr holder left
  have hrange := wordRange?_eq hline' hat'
  rw [List.append_nil] at hrange
  refine (Detector.find_eq_some_iff hline' hat'.word_before).2 ⟨hsame.trans haccepts, ?_⟩
  rw [← hrange]
  rfl

/-- **A taken completion is exact and stable.** Where a detector finds a place in a document, every item that is assembled
for it replaces a range of the cursor's line, and its label starts with what was typed. Once the label stands in the place
of the range, with the rest of the document as it was, the detector finds the place behind the label again: the whole
label is typed, its range is the label, and the label is offered again. -/
theorem accepted_completion_stable {detector : Detector} {text : List Char} {pos : Position} {found : ContextMatch}
    {symbols : List String} {kind : Kind} {items : List Item} {i : Item}
    (hfound : detector.find (Document.ofText text).source pos = some found)
    (hsymbols : ∀ s ∈ symbols, isIdentifier s.toList = true)
    (hitems : assemble (some found) symbols kind = some items) (hi : i ∈ items) :
    ∃ line range, (Document.ofText text).line? pos.line = some line ∧ found.range = some range ∧
      (range.start.line = pos.line ∧ range.stop.line = pos.line ∧ range.start.column ≤ range.stop.column ∧
        range.stop.column ≤ Columns.width line) ∧
      startsIgnoringCase found.typed i.label = true ∧ i.edit = .replace range i.label ∧
      let edited := Document.ofText (range.replaceIn text i.label.toList)
      let behind : Position := ⟨pos.line, range.start.column + i.label.length⟩
      edited.lines = (Document.ofText text).lines.set pos.line
          (Columns.before range.start.column line ++ i.label.toList ++ Columns.after range.stop.column line) ∧
        ∃ again, detector.find edited.source behind = some again ∧ again.typed = i.label ∧
          again.range = some ⟨range.start, behind⟩ ∧
          ∃ offered, labels (some again) symbols kind = some offered ∧ i.label ∈ offered := by
  obtain ⟨hsymbol, hfits, rank, hitem⟩ := mem_assemble hitems hi
  have hidentifier := hsymbols _ hsymbol
  have hlabel := isSymbolChar_of_isIdentifier hidentifier
  have hnil := ne_nil_of_isIdentifier hidentifier
  obtain ⟨line, hline⟩ := Detector.exists_line_of_find hfound
  obtain ⟨left, typed, rest, right, hat⟩ := exists_wordAt line pos.column
  obtain ⟨haccepts, rfl⟩ := (Detector.find_eq_some_iff hline hat.word_before).1 hfound
  have hrange := wordRange?_eq hline hat
  have htyped : ∀ c ∈ (String.ofList typed).toList, isSymbolChar c = true := by
    rw [String.toList_ofList]
    exact hat.word.symbols
  have hstarts : startsIgnoringCase (String.ofList typed) i.label = true := by
    rw [← fits_eq htyped hlabel]
    exact hfits
  have hedit : i.edit =
      .replace ⟨⟨pos.line, Columns.width left⟩, ⟨pos.line, Columns.width (left ++ (typed ++ rest))⟩⟩ i.label := by
    rw [hitem]
    simp only [item, Document.source, hrange]
  have hlines := lines_replaceIn (hat.split ▸ hline) hnil hlabel
  have hagain := find_replaced hline hat haccepts hlabel hlines
  have hbehind : Columns.width (left ++ i.label.toList) = Columns.width left + i.label.length := by
    rw [Columns.width_append, width_symbols hlabel, String.length_toList]
  rw [hbehind, String.ofList_toList] at hagain
  have hfirst : Columns.before (Columns.width left) line = left := by
    rw [hat.split, List.append_assoc, Columns.before_width_append]
  have hlast : Columns.after (Columns.width (left ++ (typed ++ rest))) line = right := by
    rw [hat.split, Columns.after_width_append]
  have hwithin : Columns.width (left ++ (typed ++ rest)) ≤ Columns.width line := by
    rw [hat.split, Columns.width_append (left ++ (typed ++ rest))]
    exact Nat.le_add_right _ _
  have hordered : Columns.width left ≤ Columns.width (left ++ (typed ++ rest)) := by
    rw [Columns.width_append]
    exact Nat.le_add_right _ _
  refine ⟨line, _, hline, hrange, ⟨rfl, rfl, hordered, hwithin⟩, hstarts, hedit, ?_, _, hagain, rfl, rfl, _,
    labels_some _ _ _, ?_⟩
  · simp only [hlines, hfirst, hlast]
  · refine List.mem_filter.2 ⟨hsymbol, ?_⟩
    rw [fits_eq hlabel hlabel, startsIgnoringCase_iff]

/-- A class name is taken on a line with a character of two units before it, in the middle of a word. -/
theorem accepted_completion_after_emoji :
    let text := "<b>🎉</b><div class=\"nav\">".toList
    let rules : ContextRules := { ContextRules.initial with attributes := ["class"] }
    let edited := Document.ofText (Range.replaceIn ⟨⟨0, 21⟩, ⟨0, 24⟩⟩ text "Navbar".toList)
    edited.lines = ["<b>🎉</b><div class=\"Navbar\">".toList] ∧
      ∃ again, detect edited.source ⟨0, 27⟩ rules = some again ∧ again.typed = "Navbar" ∧
        again.range = some ⟨⟨0, 21⟩, ⟨0, 27⟩⟩ := by
  intro text rules edited
  have hfound : (Detector.classNames rules).find (Document.ofText text).source ⟨0, 23⟩ =
      some ⟨"na", some ⟨⟨0, 21⟩, ⟨0, 24⟩⟩⟩ := by decide +kernel
  have hitems : assemble (some ⟨"na", some ⟨⟨0, 21⟩, ⟨0, 24⟩⟩⟩) ["card", "Navbar"] .className =
      some [⟨"Navbar", .className, "000000", .replace ⟨⟨0, 21⟩, ⟨0, 24⟩⟩ "Navbar"⟩] := by decide +kernel
  obtain ⟨line, range, hline, hrange, _, _, _, hlines, again, hagain, htyped, hrange', _⟩ :=
    accepted_completion_stable hfound (by decide) hitems (List.mem_singleton.2 rfl)
  cases hrange
  cases hline
  exact ⟨hlines.trans (by decide +kernel), again, hagain, htyped, hrange'⟩

/-! ## Typing on -/

/-- where the cursor stands on a line: a column past the end means the end, and one inside a character the place behind -/
def cursorOn (line : List Char) (pos : Position) : Position :=
  ⟨pos.line, Columns.width (Columns.before pos.column line)⟩

/-- the text with a character typed at a place -/
def typeAt (text : List Char) (pos : Position) (c : Char) : List Char :=
  Range.replaceIn ⟨pos, pos⟩ text [c]

/-- After a symbol character is typed at the cursor, it ends the word before the cursor; older lines stay. -/
theorem line?_typeAt {text line left typed : List Char} {pos : Position} {c : Char}
    (hline : (Document.ofText text).line? pos.line = some line) (hc : isSymbolChar c = true)
    (hword : Word (Columns.before pos.column line) left typed) :
    ∃ line', (Document.ofText (typeAt text (cursorOn line pos) c)).line? pos.line = some line' ∧
      (∀ m < pos.line,
        (Document.ofText (typeAt text (cursorOn line pos) c)).line? m = (Document.ofText text).line? m) ∧
      Word (Columns.before ((cursorOn line pos).column + 1) line') left (typed ++ [c]) := by
  have hsymbols : ∀ d ∈ [c], isSymbolChar d = true := by simpa using hc
  have hcut : line = Columns.before pos.column line ++ [] ++ Columns.after pos.column line := by
    rw [List.append_nil, Columns.before_append_after]
  have hset := lines_replaceIn (hcut ▸ hline) (List.cons_ne_nil c []) hsymbols
  rw [List.append_nil] at hset
  obtain ⟨hline', holder⟩ := Document.line?_of_lines_eq_set hline hset
  refine ⟨_, hline', holder, ?_⟩
  have hcolumn : (cursorOn line pos).column + 1 = Columns.width (Columns.before pos.column line ++ [c]) := by
    rw [Columns.width_append, width_symbols hsymbols]
    rfl
  rw [hcolumn, Columns.before_width_append, hword.split, List.append_assoc]
  refine hword.replace fun d hd => ?_
  rcases List.mem_append.1 hd with hd | hd
  · exact hword.symbols d hd
  · exact hsymbols d hd

/-- The labels that fit a longer typed part are those of before that start with it. -/
theorem filter_fits_append {symbols : List String} {typed more : List Char}
    (hsymbols : ∀ s ∈ symbols, isIdentifier s.toList = true) (htyped : ∀ c ∈ typed ++ more, isSymbolChar c = true) :
    symbols.filter (fits (String.ofList (typed ++ more))) =
      (symbols.filter (fits (String.ofList typed))).filter (startsIgnoringCase (String.ofList (typed ++ more))) := by
  rw [List.filter_filter]
  refine List.filter_congr fun s hs => ?_
  have hs := isSymbolChar_of_isIdentifier (hsymbols s hs)
  have hlong : ∀ c ∈ (String.ofList (typed ++ more)).toList, isSymbolChar c = true := by
    rw [String.toList_ofList]
    exact htyped
  have hshort : ∀ c ∈ (String.ofList typed).toList, isSymbolChar c = true := by
    rw [String.toList_ofList]
    exact fun c hc => htyped c (List.mem_append_left _ hc)
  rw [fits_eq hlong hs, fits_eq hshort hs, Bool.eq_iff_iff, Bool.and_eq_true]
  exact ⟨fun h => ⟨h, startsIgnoringCase_of_append h⟩, fun h => h.1⟩

/-- **Typing on narrows the list.** After a symbol character is typed at the cursor, a detector finds a place behind it
exactly if it found one before. What is typed is longer by the character, and the labels on offer are those of before
that start with it, in the same order. This holds of both sources, before and after. -/
theorem typing_narrows_completions (detector : Detector) {source source' : LineSource} {text line : List Char}
    {pos : Position} {c : Char} {symbols : List String} (kind : Kind)
    (hline : (Document.ofText text).line? pos.line = some line) (hc : isSymbolChar c = true)
    (hsymbols : ∀ s ∈ symbols, isIdentifier s.toList = true) (hsource : source.Reads text)
    (hsource' : source'.Reads (typeAt text (cursorOn line pos) c)) :
    let behind : Position := ⟨pos.line, (cursorOn line pos).column + 1⟩
    ((detector.find source' behind).isSome = true ↔ (detector.find source pos).isSome = true) ∧
      ∀ found found', detector.find source pos = some found → detector.find source' behind = some found' →
        found'.typed.toList = found.typed.toList ++ [c] ∧
        ∃ offered, labels (some found) symbols kind = some offered ∧
          labels (some found') symbols kind = some (offered.filter (startsIgnoringCase found'.typed)) := by
  intro behind
  obtain ⟨left, typed, hword⟩ : ∃ left typed, Word (Columns.before pos.column line) left typed :=
    ⟨_, _, word_fragment _⟩
  obtain ⟨line', hline', holder, hword'⟩ := line?_typeAt hline hc hword
  rw [← hsource'.line?_eq] at hline' holder
  rw [← hsource.line?_eq] at hline holder
  have hsame := detector.accepts_congr holder left
  constructor
  · rw [detector.find_eq hline hword, detector.find_eq hline' hword', hsame]
    split_ifs <;> simp
  · intro found found' hfound hfound'
    obtain ⟨_, rfl⟩ := (Detector.find_eq_some_iff hline hword).1 hfound
    obtain ⟨_, rfl⟩ := (Detector.find_eq_some_iff hline' hword').1 hfound'
    refine ⟨by simp, _, labels_some _ _ _, ?_⟩
    rw [labels_some, filter_fits_append hsymbols hword'.symbols]

/-- A character is typed behind a backslash in a string, with the cursor asked for past the end of the line. -/
theorem typing_behind_escape :
    let text := "x\r\nclsx(\"a\\\r\n".toList
    let rules : ContextRules := { ContextRules.initial with functions := ["clsx"] }
    ∃ found', detect (plainSource (typeAt text ⟨1, 8⟩ 'b')) ⟨1, 9⟩ rules = some found' ∧ found'.typed.toList = ['b'] ∧
      labels (some found') ["btn", "card", "Box"] .className = some ["btn", "Box"] := by
  intro text rules
  have hline : (Document.ofText text).line? (Position.mk 1 99).line = some "clsx(\"a\\".toList := by decide
  have hfound : (Detector.classNames rules).find (plainSource text) ⟨1, 99⟩ = some ⟨"", none⟩ := by decide +kernel
  obtain ⟨hsome, hnarrows⟩ := typing_narrows_completions (.classNames rules) .className hline
    (by decide : isSymbolChar 'b' = true) (by decide : ∀ s ∈ ["btn", "card", "Box"], isIdentifier s.toList = true)
    (Or.inr rfl : (plainSource text).Reads text) (Or.inr rfl)
  obtain ⟨found', hfound'⟩ := Option.isSome_iff_exists.1 (hsome.2 (by rw [hfound]; rfl))
  obtain ⟨htyped, offered, hoffered, hlabels⟩ := hnarrows _ _ hfound hfound'
  have hb : found'.typed = "b" := String.toList_injective htyped
  have hall : labels (some ⟨"", none⟩) ["btn", "card", "Box"] .className = some ["btn", "card", "Box"] := by
    decide +kernel
  obtain rfl : ["btn", "card", "Box"] = offered := Option.some.inj (hall.symm.trans hoffered)
  refine ⟨found', hfound', htyped, hlabels.trans ?_⟩
  rw [hb]
  decide +kernel

end Completion
end StyleIndex
