/-
The two ways to insert a completion: an item replaces the word at the cursor, or it adds the missing end of the symbol.

Which way is taken depends on the settings, and with it how a document is read, split into lines or as a plain text. The
verdict does not depend on it: both readings have the same lines, so a detector finds the same place and the same typed part,
with and without a range (`Detector.find_plainSource`). What an editor shows of the items is therefore the same
(`insertion_modes_agree`).

The texts that come out are the same too, where the cursor stands at the end of its word and the symbol continues what is
typed letter for letter (`replaceIn_word_eq`). A symbol that differs in case keeps the typed letters if only its end is
added.
-/
import Mathlib.Tactic
import StyleIndex.Proofs.Completion
import StyleIndex.Session

namespace StyleIndex

/-! ## Verdicts -/

/-- A detector finds the same places in both readings of a text; a plain text knows no range. -/
theorem Detector.find_plainSource (detector : Detector) (text : List Char) (pos : Position) :
    detector.find (plainSource text) pos =
      (detector.find (Document.ofText text).source pos).map fun found => { found with range := none } := by
  have hlines : (plainSource text).line? = (Document.ofText text).source.line? :=
    LineSource.Reads.line?_eq (Or.inr rfl)
  cases hline : (Document.ofText text).source.line? pos.line with
  | none =>
    have hnone : ∀ source : LineSource, source.line? pos.line = none → detector.find source pos = none := by
      intro source hsource
      rw [Option.eq_none_iff_forall_ne_some]
      intro found hfound
      obtain ⟨line, hsome⟩ := exists_line_of_find hfound
      rw [hsource] at hsome
      cases hsome
    rw [hnone _ hline, hnone _ ((congrFun hlines pos.line).trans hline)]
    rfl
  | some line =>
    have hword := word_fragment (Columns.before pos.column line)
    have hplain : (plainSource text).line? pos.line = some line := (congrFun hlines pos.line).trans hline
    rw [detector.find_eq hline hword, detector.find_eq hplain hword,
      detector.accepts_congr (fun m _ => congrFun hlines m)]
    split_ifs <;> rfl

namespace Session

/-- what is completed at a position, and what is typed of it -/
def verdict? (settings : Settings) (source : LineSource) (language : String) (pos : Position) : Option (Kind × String) :=
  (context? settings source language pos).map fun (kind, found) => (kind, found.typed)

theorem context?_plainSource (settings : Settings) (text : List Char) (language : String) (pos : Position) :
    context? settings (plainSource text) language pos =
      (context? settings (Document.ofText text).source language pos).map
        fun (kind, found) => (kind, { found with range := none }) := by
  have hmixin : detectMixin (plainSource text) pos =
      (detectMixin (Document.ofText text).source pos).map fun found => { found with range := none } :=
    Detector.mixins.find_plainSource text pos
  have hclass : detect (plainSource text) pos settings.context =
      (detect (Document.ofText text).source pos settings.context).map fun found => { found with range := none } :=
    (Detector.classNames settings.context).find_plainSource text pos
  have hif : ∀ (b : Bool) (found : Option ContextMatch),
      (if b then found.map fun found => { found with range := none } else none) =
        (if b then found else none).map fun found => { found with range := none } := by
    intro b found
    cases b <;> rfl
  rw [context?, context?, hmixin, hclass, hif]
  cases (if settings.mixins.handlesLanguage language then detectMixin (Document.ofText text).source pos else none) with
  | some found => rfl
  | none =>
    simp only [Option.map_none]
    split_ifs
    · rw [Option.map_map, Option.map_map]
      rfl
    · rfl

theorem verdict?_plainSource (settings : Settings) (text : List Char) (language : String) (pos : Position) :
    verdict? settings (plainSource text) language pos =
      verdict? settings (Document.ofText text).source language pos := by
  rw [verdict?, context?_plainSource, Option.map_map]
  rfl

end Session

/-! ## Edits -/

/-- The text before a place on a line ends with the part of the line before it. -/
theorem Position.before_of_line {text first second : List Char} {n : Nat}
    (hline : (splitLines text)[n]? = some (first ++ second)) :
    (Position.mk n (Columns.width first)).before text =
      ((splitLines text).take n).flatMap (· ++ ['\n']) ++ first := by
  rw [Position.before, List.getD_eq_getElem?_getD, hline, Option.getD_some, Columns.before_width_append]

theorem Position.after_of_line {text first second : List Char} {n : Nat}
    (hline : (splitLines text)[n]? = some (first ++ second)) :
    (Position.mk n (Columns.width first)).after text =
      second ++ ((splitLines text).drop (n + 1)).flatMap ('\n' :: ·) := by
  rw [Position.after, List.getD_eq_getElem?_getD, hline, Option.getD_some, Columns.after_width_append]

/-- **An end added is a word replaced.** Behind a beginning, its continuation leads to the text that the whole leads to in
the place of the beginning. -/
theorem replaceIn_word_eq {text left typed more right : List Char} {n : Nat}
    (hline : (splitLines text)[n]? = some (left ++ typed ++ right)) :
    Range.replaceIn ⟨⟨n, Columns.width (left ++ typed)⟩, ⟨n, Columns.width (left ++ typed)⟩⟩ text more =
      Range.replaceIn ⟨⟨n, Columns.width left⟩, ⟨n, Columns.width (left ++ typed)⟩⟩ text (typed ++ more) := by
  have hstart : (splitLines text)[n]? = some (left ++ (typed ++ right)) := by rw [hline, List.append_assoc]
  rw [Range.replaceIn, Range.replaceIn, Position.before_of_line hline, Position.before_of_line hstart]
  simp only [List.append_assoc]

/-- A line of a document stands in the text with its end behind it. -/
theorem Document.exists_splitLines {text line : List Char} {n : Nat} (hline : (Document.ofText text).line? n = some line) :
    ∃ lineEnd, (splitLines text)[n]? = some (line ++ lineEnd) := by
  rw [line?, ofText, List.getElem?_map, Option.map_eq_some_iff] at hline
  obtain ⟨raw, hraw, rfl⟩ := hline
  obtain ⟨lineEnd, hsplit, _⟩ := exists_lineEnd raw
  exact ⟨lineEnd, hraw.trans (congrArg some hsplit)⟩

/-- The cursor stands at the end of its word if no symbol character stands behind it. -/
theorem WordAt.rest_eq_nil {text line left typed rest right : List Char} {pos : Position}
    (hline : (Document.ofText text).line? pos.line = some line) (hat : WordAt line pos.column left typed rest right)
    (hbehind : ∀ c ∈ ((Completion.cursorOn line pos).after text).head?, isSymbolChar c = false) : rest = [] := by
  obtain ⟨lineEnd, hraw⟩ := Document.exists_splitLines hline
  rw [hat.split, ← List.append_assoc left, List.append_assoc, List.append_assoc] at hraw
  rw [Completion.cursorOn, hat.before, Position.after_of_line hraw] at hbehind
  cases rest with
  | nil => rfl
  | cons c rest =>
    have hsymbol := hat.rest c (by simp)
    rw [hbehind c (by simp)] at hsymbol
    cases hsymbol

namespace Completion

/-- What is added to the typed part makes the symbol, the case of letters apart. -/
theorem asciiLower_append_drop {typed symbol : String} (h : startsIgnoringCase typed symbol = true) :
    Text.asciiLower (typed ++ String.ofList (symbol.toList.drop typed.length)) = Text.asciiLower symbol := by
  rw [startsIgnoringCase_iff, List.prefix_iff_eq_take, List.length_map, ← List.map_take] at h
  rw [Text.asciiLower, Text.asciiLower, String.toList_append, String.toList_ofList, List.map_append, h,
    ← List.map_append, ← String.length_toList, List.take_append_drop]

/-- **One symbol, both ways.** Where a detector finds a place, the item for a symbol that fits replaces the word, or without
a range adds an end that makes the symbol out of the typed part. At the end of a word, and if the symbol continues what is
typed, both lead to the same text. -/
theorem edits_agree {detector : Detector} {text : List Char} {pos : Position} {found : ContextMatch}
    (hfound : detector.find (Document.ofText text).source pos = some found) {symbol : String}
    (hsymbol : isIdentifier symbol.toList = true) (hfits : fits found.typed symbol = true) (kind : Kind) (rank : Nat) :
    ∃ line range rest, (Document.ofText text).line? pos.line = some line ∧
      (item found kind symbol rank).edit = .replace range symbol ∧
      (item { found with range := none } kind symbol rank).edit = .insert rest ∧
      Text.asciiLower (found.typed ++ rest) = Text.asciiLower symbol ∧
      ((∀ c ∈ ((cursorOn line pos).after text).head?, isSymbolChar c = false) → found.typed.toList <+: symbol.toList →
        Range.replaceIn ⟨cursorOn line pos, cursorOn line pos⟩ text rest.toList = range.replaceIn text symbol.toList) := by
  obtain ⟨line, hline⟩ := Detector.exists_line_of_find hfound
  obtain ⟨left, typed, rest, right, hat⟩ := exists_wordAt line pos.column
  obtain ⟨_, rfl⟩ := (Detector.find_eq_some_iff hline hat.word_before).1 hfound
  have hrange : (Document.ofText text).source.wordRange? pos =
      some ⟨⟨pos.line, Columns.width left⟩, ⟨pos.line, Columns.width (left ++ (typed ++ rest))⟩⟩ := wordRange?_eq hline hat
  have htyped : ∀ c ∈ (String.ofList typed).toList, isSymbolChar c = true := by
    rw [String.toList_ofList]
    exact hat.word.symbols
  have hstarts : startsIgnoringCase (String.ofList typed) symbol = true := by
    rw [← fits_eq htyped (isSymbolChar_of_isIdentifier hsymbol)]
    exact hfits
  refine ⟨line, ⟨⟨pos.line, Columns.width left⟩, ⟨pos.line, Columns.width (left ++ (typed ++ rest))⟩⟩, _, hline, ?_, rfl,
    asciiLower_append_drop hstarts, fun hbehind hcontinues => ?_⟩
  · simp only [item, hrange]
  · obtain rfl := WordAt.rest_eq_nil hline hat hbehind
    obtain ⟨lineEnd, hraw⟩ := Document.exists_splitLines hline
    rw [hat.split, List.append_nil, List.append_assoc] at hraw
    -- the symbol is the typed part with what is added behind it
    obtain ⟨more, hmore⟩ := hcontinues
    rw [String.toList_ofList] at hmore
    rw [← hmore, String.toList_ofList, String.length_ofList, List.drop_left, List.append_nil, cursorOn, hat.before]
    exact replaceIn_word_eq hraw

end Completion

/-! ## Items -/

/-- what an editor shows of an item and sorts it by -/
def Item.shown (i : Item) : String × Nat × String × String :=
  (i.label, i.kind.icon, i.kind.detail, i.sortText)

namespace Session

/-- the session with completions that replace the typed word, or that add the missing end -/
def replacing (s : Session) (replace : Bool) : Session :=
  { s with settings := { s.settings with replaceTyped := replace } }

theorem completions_replacing {s : Session} {file : FileId} {buffer : Buffer}
    (hopen : s.buffers.lookup file = some buffer) (replace : Bool) (pos : Position) :
    (s.replacing replace).completions file pos =
      (context? s.settings
        (if replace then (Document.ofText buffer.text.toList).source else plainSource buffer.text.toList)
        buffer.language pos).bind fun (kind, found) =>
          Completion.assemble (some found) (s.index.registry kind).items kind := by
  have hopen' : (s.replacing replace).buffers.lookup file = some buffer := hopen
  rw [completions, hopen', Option.bind_some]
  rfl

/-- What is completed was found by a detector. -/
theorem exists_detector_of_context? {settings : Settings} {source : LineSource} {language : String} {pos : Position}
    {kind : Kind} {found : ContextMatch} (h : context? settings source language pos = some (kind, found)) :
    ∃ detector : Detector, detector.find source pos = some found := by
  rw [context?] at h
  cases hmixin : (if settings.mixins.handlesLanguage language then detectMixin source pos else none) with
  | some mixin =>
    rw [hmixin] at h
    cases h
    exact ⟨.mixins, (Option.ite_none_right_eq_some.1 hmixin).2⟩
  | none =>
    rw [hmixin] at h
    obtain ⟨_, name, hname, heq⟩ := by simpa only [Option.ite_none_right_eq_some, Option.map_eq_some_iff] using h
    cases heq
    exact ⟨.classNames settings.context, hname⟩

end Session

open Completion in
/-- **The two ways to insert a completion agree.** Both readings of an open document have the same lines and lead to the same
verdict. Without one there are no items either way. With one there are items both ways, an editor shows the same of them in
the same order, and of each pair:
- what the one adds makes, behind the typed part, the symbol, the case of ASCII letters apart;
- if no symbol character stands behind the cursor and the symbol continues what is typed, adding the end at the cursor and
  replacing the range lead to the same text. -/
theorem insertion_modes_agree {s : Session} {file : FileId} {buffer : Buffer}
    (hopen : s.buffers.lookup file = some buffer)
    (hsymbols : ∀ kind, ∀ symbol ∈ (s.index.registry kind).items, isIdentifier symbol.toList = true) (pos : Position) :
    let text := buffer.text.toList
    let doc := Document.ofText text
    let verdict := Session.verdict? s.settings doc.source buffer.language pos
    (∀ n, doc.line? n = plainLine? text n) ∧
    verdict = Session.verdict? s.settings (plainSource text) buffer.language pos ∧
    (verdict = none → (s.replacing true).completions file pos = none ∧ (s.replacing false).completions file pos = none) ∧
    ∀ kind typed, verdict = some (kind, typed) →
      ∃ replaced added, (s.replacing true).completions file pos = some replaced ∧
        (s.replacing false).completions file pos = some added ∧ replaced.map Item.shown = added.map Item.shown ∧
        ∀ i i', (i, i') ∈ replaced.zip added →
          ∃ line range rest, doc.line? pos.line = some line ∧ i.edit = .replace range i.label ∧ i'.edit = .insert rest ∧
            Text.asciiLower (typed ++ rest) = Text.asciiLower i'.label ∧
            ((∀ c ∈ ((cursorOn line pos).after text).head?, isSymbolChar c = false) → typed.toList <+: i.label.toList →
              Range.replaceIn ⟨cursorOn line pos, cursorOn line pos⟩ text rest.toList =
                range.replaceIn text i.label.toList) := by
  intro text doc verdict
  have hplain := Session.context?_plainSource s.settings text buffer.language pos
  have hreplaced := Session.completions_replacing hopen true pos
  have hadded := Session.completions_replacing hopen false pos
  simp only [if_true, Bool.false_eq_true, if_false] at hreplaced hadded
  rw [hplain] at hadded
  refine ⟨fun n => (plainLine?_eq_line? text n).symm, (Session.verdict?_plainSource _ _ _ _).symm, fun hnone => ?_, ?_⟩
  · have hcontext : Session.context? s.settings doc.source buffer.language pos = none := Option.map_eq_none_iff.1 hnone
    rw [hreplaced, hadded, hcontext]
    exact ⟨rfl, rfl⟩
  · intro kind typed hverdict
    obtain ⟨⟨_, found⟩, hcontext, hfound⟩ := Option.map_eq_some_iff.1 hverdict
    cases hfound
    obtain ⟨detector, hdetector⟩ := Session.exists_detector_of_context? hcontext
    rw [hcontext] at hreplaced hadded
    refine ⟨_, _, hreplaced, hadded, ?_, ?_⟩
    · rw [List.map_map, List.map_map]
      rfl
    · intro i i' hpair
      rw [List.zip_map', List.mem_map] at hpair
      obtain ⟨⟨symbol, rank⟩, hmem, heq⟩ := hpair
      cases heq
      obtain ⟨hsymbol, hfits⟩ := List.mem_filter.1 (List.fst_mem_of_mem_zipIdx hmem)
      exact edits_agree hdetector (hsymbols kind symbol hsymbol) hfits kind rank

/-- The cursor is asked for past the end of a line that ends with a carriage return. Of two symbols that fit, one continues
what is typed, and the other differs in case. -/
theorem insertion_past_line_end :
    let text := "🎉\r\n<i class=\"na\r\n"
    let s : Session := { Session.initial with
      buffers := [("p", ⟨"html", text⟩)]
      index := ⟨⟨.className, [("s", ["Nav", "navbar"])]⟩, .empty .mixin⟩ }
    ∃ replaced added, (s.replacing true).completions "p" ⟨1, 99⟩ = some replaced ∧
      (s.replacing false).completions "p" ⟨1, 99⟩ = some added ∧ replaced.map Item.shown = added.map Item.shown ∧
      added.map Item.edit = [.insert "v", .insert "vbar"] ∧
      Range.replaceIn ⟨⟨1, 12⟩, ⟨1, 12⟩⟩ text.toList "vbar".toList =
        Range.replaceIn ⟨⟨1, 10⟩, ⟨1, 12⟩⟩ text.toList "navbar".toList := by
  intro text s
  have hsymbols : ∀ kind, ∀ symbol ∈ (s.index.registry kind).items, isIdentifier symbol.toList = true := by
    intro kind
    cases kind <;> decide +kernel
  have hverdict : Session.verdict? s.settings (Document.ofText text.toList).source "html" ⟨1, 99⟩ =
      some (.className, "na") := by decide +kernel
  have hreplaced : (s.replacing true).completions "p" ⟨1, 99⟩ =
      some [⟨"Nav", .className, "000000", .replace ⟨⟨1, 10⟩, ⟨1, 12⟩⟩ "Nav"⟩,
        ⟨"navbar", .className, "000001", .replace ⟨⟨1, 10⟩, ⟨1, 12⟩⟩ "navbar"⟩] := by decide +kernel
  have hadded : (s.replacing false).completions "p" ⟨1, 99⟩ =
      some [⟨"Nav", .className, "000000", .insert "v"⟩, ⟨"navbar", .className, "000001", .insert "vbar"⟩] := by
    decide +kernel
  have hopen : s.buffers.lookup "p" = some ⟨"html", text⟩ := rfl
  obtain ⟨_, _, _, hitems⟩ := insertion_modes_agree hopen hsymbols ⟨1, 99⟩
  obtain ⟨replaced, added, hreplaced', hadded', hshown, hpairs⟩ := hitems _ _ hverdict
  obtain rfl := Option.some.inj (hreplaced.symm.trans hreplaced')
  obtain rfl := Option.some.inj (hadded.symm.trans hadded')
  refine ⟨_, _, hreplaced, hadded, hshown, rfl, ?_⟩
  obtain ⟨line, range, rest, hline, hrange, hrest, _, hsame⟩ :=
    hpairs _ _ (List.mem_cons_of_mem _ (List.mem_singleton_self _))
  cases hrange
  cases hrest
  obtain rfl : "<i class=\"na".toList = line := Option.some.inj (Eq.trans (by decide +kernel) hline)
  have hhead : ((Completion.cursorOn "<i class=\"na".toList ⟨1, 99⟩).after text.toList).head? = some '\r' := by
    decide +kernel
  refine hsame (fun c hc => ?_) (by decide)
  obtain rfl := Option.some.inj (hhead.symm.trans hc)
  decide

end StyleIndex
