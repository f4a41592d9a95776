/-
The two scans over quoted spans take the same decisions.

`QuoteScan` is a scan in the middle of a text and `read` its step: which quote is open and where, and whether the next
character is escaped. What a step can do to the open quote is said once, by `read_cases`. `openQuote?` is what a scan by
characters has open at the end (`openQuote?_eq`), and `openByte?` the same scan by bytes. `blankQuoted` hides a character
exactly if a quote is open before it or it opens one (`blankQuoted_snoc`, `getElem?_blankQuoted`).

Results:
- `exists_openAt`: a text that leaves a quote open is cut at that quote, nothing is open before it, and all from there on is
  blank;
- `blankQuoted_append`: behind a text that leaves nothing open, blanking starts anew;
- `quote_scans_agree` puts this together.
-/
import Mathlib.Tactic
import StyleIndex.Cursor.Quote
import StyleIndex.Text.Columns

namespace StyleIndex

theorem Columns.byteCount_eq_sum (text : List Char) : byteCount text = (text.map Char.utf8Size).sum := by
  induction text with
  | nil => rfl
  | cons c text ih => simp [byteCount, ih]

namespace Cursor

/-! ## The scan -/

/-- a scan for the open quote, in the middle of a text -/
structure QuoteScan where
  /-- the place and the character of the open quote -/
  opened : Option (Nat × Char)
  /-- the next character is escaped -/
  escaped : Bool
  /-- the place of the next character -/
  place : Nat
deriving DecidableEq, Repr

namespace QuoteScan

def start : QuoteScan := ⟨none, false, 0⟩

/-- one step over a character, which moves the place by its size -/
def read (size : Char → Nat) (s : QuoteScan) (c : Char) : QuoteScan :=
  match s.opened with
  | none => ⟨if isQuote c then some (s.place, c) else none, s.escaped, s.place + size c⟩
  | some (i, quote) =>
    if s.escaped then ⟨some (i, quote), false, s.place + size c⟩
    else if c = '\\' then ⟨some (i, quote), true, s.place + size c⟩
    else if c = quote then ⟨none, false, s.place + size c⟩
    else ⟨some (i, quote), false, s.place + size c⟩

/-- the scan at the end of a text -/
def behind (size : Char → Nat) (text : List Char) : QuoteScan :=
  text.foldl (read size) start

theorem behind_snoc (size : Char → Nat) (text : List Char) (c : Char) :
    behind size (text ++ [c]) = (behind size text).read size c := by
  simp [behind]

@[simp]
theorem place_read (size : Char → Nat) (s : QuoteScan) (c : Char) : (s.read size c).place = s.place + size c := by
  unfold read
  split
  · rfl
  · split_ifs <;> rfl

theorem place_behind (size : Char → Nat) (text : List Char) : (behind size text).place = (text.map size).sum := by
  induction text using List.reverseRecOn with
  | nil => rfl
  | append_singleton text c ih => simp [behind_snoc, ih]

/-- nothing is escaped outside quoted spans, and what opens a span is a quote -/
structure Sound (s : QuoteScan) : Prop where
  escaped : s.opened = none → s.escaped = false
  quote : ∀ span, s.opened = some span → isQuote span.2 = true

/-- **What a step does to the open quote**: outside spans a quote opens one, and inside only a quote ends it. -/
theorem read_cases {s : QuoteScan} (h : s.Sound) (size : Char → Nat) (c : Char) :
    (s.opened = none ∧ (s.read size c).opened = if isQuote c then some (s.place, c) else none) ∨
      ∃ span, s.opened = some span ∧
        ((s.read size c).opened = some span ∨ (s.read size c).opened = none ∧ isQuote c = true) := by
  cases hopened : s.opened with
  | none => simp [read, hopened]
  | some span =>
    refine Or.inr ⟨span, rfl, ?_⟩
    have hquote := h.quote span hopened
    simp only [read, hopened]
    split_ifs with _ _ hclosed
    · exact Or.inl rfl
    · exact Or.inl rfl
    · rw [hclosed]
      exact Or.inr ⟨rfl, hquote⟩
    · exact Or.inl rfl

theorem Sound.read {s : QuoteScan} (h : s.Sound) (size : Char → Nat) (c : Char) : (s.read size c).Sound := by
  constructor
  · intro hnone
    cases hopened : s.opened with
    | none => simp [QuoteScan.read, hopened, h.escaped hopened]
    | some span =>
      simp only [QuoteScan.read, hopened] at hnone ⊢
      split_ifs at hnone ⊢
      rfl
  · intro span hspan
    rcases read_cases h size c with ⟨_, hread⟩ | ⟨old, hopened, hread | ⟨hread, _⟩⟩
    · rw [hread] at hspan
      split_ifs at hspan with hc
      rw [← Option.some.inj hspan]
      exact hc
    · rw [hread] at hspan
      rw [← Option.some.inj hspan]
      exact h.quote old hopened
    · rw [hread] at hspan
      cases hspan

theorem sound_behind (size : Char → Nat) (text : List Char) : (behind size text).Sound := by
  induction text using List.reverseRecOn with
  | nil => exact ⟨fun _ => rfl, fun span hspan => by cases hspan⟩
  | append_singleton text c ih =>
    rw [behind_snoc]
    exact ih.read size c

/-- a character is hidden if a quote is open before it or it opens one -/
def shows (s : QuoteScan) (c : Char) : Char :=
  if s.opened.isSome || isQuote c then ' ' else c

/-- The search for an open quote takes the steps of the scan. -/
theorem openQuoteFrom_cons (s : QuoteScan) (c : Char) (text : List Char) :
    openQuoteFrom s.opened s.escaped s.place (c :: text) =
      openQuoteFrom (s.read (fun _ => 1) c).opened (s.read (fun _ => 1) c).escaped (s.place + 1) text := by
  rcases s with ⟨_ | ⟨i, quote⟩, escaped, place⟩
  · by_cases hc : isQuote c = true <;> simp [openQuoteFrom, read, hc]
  · cases escaped with
    | true => rfl
    | false =>
      simp only [openQuoteFrom, read, Bool.false_eq_true, if_false]
      split_ifs <;> rfl

/-- Blanking takes the steps of the scan. -/
theorem blankFrom_cons (size : Char → Nat) (s : QuoteScan) (c : Char) (text : List Char) :
    blankFrom (s.opened.map Prod.snd) s.escaped (c :: text) =
      s.shows c :: blankFrom ((s.read size c).opened.map Prod.snd) (s.read size c).escaped text := by
  rcases s with ⟨_ | ⟨i, quote⟩, escaped, place⟩
  · by_cases hc : isQuote c = true <;> simp [blankFrom, read, shows, hc]
  · cases escaped with
    | true => rfl
    | false =>
      simp only [blankFrom, read, shows, Option.map_some, Option.isSome_some, Bool.true_or, if_true, Bool.false_eq_true,
        if_false]
      split_ifs <;> rfl

theorem openQuoteFrom_eq (s : QuoteScan) (text : List Char) :
    openQuoteFrom s.opened s.escaped s.place text = (text.foldl (read fun _ => 1) s).opened.map Prod.fst := by
  induction text generalizing s with
  | nil => simp [openQuoteFrom]
  | cons c text ih => rw [openQuoteFrom_cons, List.foldl_cons, ← ih, place_read]

/-- Blanking goes on from where a scan stands. -/
theorem blankFrom_append (size : Char → Nat) (s : QuoteScan) (text more : List Char) :
    blankFrom (s.opened.map Prod.snd) s.escaped (text ++ more) =
      blankFrom (s.opened.map Prod.snd) s.escaped text ++
        blankFrom ((text.foldl (read size) s).opened.map Prod.snd) (text.foldl (read size) s).escaped more := by
  induction text generalizing s with
  | nil => simp [blankFrom]
  | cons c text ih =>
    rw [List.cons_append, blankFrom_cons size, blankFrom_cons size, List.foldl_cons, ih, List.cons_append]

end QuoteScan

open QuoteScan

/-! ## What is open -/

/-- the byte offset of the quote that is still open at the end of a text -/
def openByte? (text : List Char) : Option Nat :=
  (behind Char.utf8Size text).opened.map Prod.fst

theorem openQuote?_eq (text : List Char) : openQuote? text = (behind (fun _ => 1) text).opened.map Prod.fst :=
  openQuoteFrom_eq start text

theorem openQuote?_eq_none_iff (text : List Char) : openQuote? text = none ↔ (behind (fun _ => 1) text).opened = none := by
  rw [openQuote?_eq, Option.map_eq_none_iff]

/-- Behind a text that leaves nothing open, blanking starts anew. -/
theorem blankQuoted_append {text : List Char} (h : openQuote? text = none) (more : List Char) :
    blankQuoted (text ++ more) = blankQuoted text ++ blankQuoted more := by
  have hopened := (openQuote?_eq_none_iff text).1 h
  have hescaped := (sound_behind _ text).escaped hopened
  have happend := blankFrom_append (fun _ => 1) start text more
  change _ = _ ++ blankFrom ((behind (fun _ => 1) text).opened.map Prod.snd) (behind (fun _ => 1) text).escaped more
    at happend
  rw [hopened, hescaped] at happend
  exact happend

theorem blankQuoted_snoc (size : Char → Nat) (text : List Char) (c : Char) :
    blankQuoted (text ++ [c]) = blankQuoted text ++ [(behind size text).shows c] := by
  calc blankQuoted (text ++ [c])
      = blankQuoted text ++ blankFrom ((behind size text).opened.map Prod.snd) (behind size text).escaped [c] :=
        blankFrom_append size start text [c]
    _ = blankQuoted text ++ [(behind size text).shows c] := by
        rw [blankFrom_cons size]
        simp [blankFrom]

@[simp]
theorem length_blankQuoted (text : List Char) : (blankQuoted text).length = text.length := by
  induction text using List.reverseRecOn with
  | nil => rfl
  | append_singleton text c ih => simp [blankQuoted_snoc fun _ => 1, ih]

/-- a text is cut at the quote it leaves open: nothing is open before it, and all from there on is blank -/
structure OpenAt (size : Char → Nat) (text : List Char) (span : Nat × Char) (before after : List Char) : Prop where
  split : text = before ++ span.2 :: after
  place : span.1 = (before.map size).sum
  closed : (behind size before).opened = none
  blank : blankQuoted text = blankQuoted before ++ List.replicate (after.length + 1) ' '

theorem exists_openAt {size : Char → Nat} {text : List Char} {span : Nat × Char}
    (h : (behind size text).opened = some span) : ∃ before after, OpenAt size text span before after := by
  induction text using List.reverseRecOn with
  | nil => cases h
  | append_singleton text c ih =>
    rw [behind_snoc] at h
    have hblank := blankQuoted_snoc size text c
    rcases read_cases (sound_behind size text) size c with ⟨hnone, hread⟩ | ⟨old, hold, hread | ⟨hread, _⟩⟩
    · -- the quote is the last character
      rw [h] at hread
      split_ifs at hread with hc
      obtain rfl := Option.some.inj hread
      refine ⟨text, [], rfl, place_behind size text, hnone, ?_⟩
      rw [hblank]
      simp [shows, hc]
    · -- it was open before the last character, which is hidden
      obtain rfl : span = old := Option.some.inj (h.symm.trans hread)
      obtain ⟨before, after, hat⟩ := ih hold
      refine ⟨before, after ++ [c], ?_, hat.place, hat.closed, ?_⟩
      · rw [hat.split]
        simp
      · rw [hblank, hat.blank]
        simp [shows, hold, List.replicate_succ']
    · rw [h] at hread
      cases hread

/-- The place of the open quote is counted in characters. -/
theorem OpenAt.place_eq {text before after : List Char} {span : Nat × Char}
    (h : OpenAt (fun _ => 1) text span before after) : span.1 = before.length := by
  rw [h.place]
  simp

theorem exists_openAt_of_openQuote? {text : List Char} {i : Nat} (h : openQuote? text = some i) :
    ∃ quote before after, isQuote quote = true ∧ before.length = i ∧ OpenAt (fun _ => 1) text (i, quote) before after := by
  rw [openQuote?_eq, Option.map_eq_some_iff] at h
  obtain ⟨⟨place, quote⟩, hopened, rfl⟩ := h
  obtain ⟨before, after, hat⟩ := exists_openAt hopened
  exact ⟨quote, before, after, (sound_behind _ text).quote _ hopened, hat.place_eq.symm, hat⟩

theorem openQuote?_lt {text : List Char} {i : Nat} (h : openQuote? text = some i) : i < text.length := by
  obtain ⟨quote, before, after, _, rfl, hat⟩ := exists_openAt_of_openQuote? h
  rw [hat.split]
  simp

/-- A character that is no quote neither opens nor ends a span. -/
theorem openQuote?_snoc {c : Char} (hc : isQuote c = false) (text : List Char) :
    openQuote? (text ++ [c]) = openQuote? text := by
  rw [openQuote?_eq, openQuote?_eq, behind_snoc]
  rcases read_cases (sound_behind (fun _ => 1) text) (fun _ => 1) c with
    ⟨hnone, hread⟩ | ⟨span, hspan, hread | ⟨_, hquote⟩⟩
  · simp [hread, hnone, hc]
  · rw [hread, hspan]
  · rw [hc] at hquote
    cases hquote

/-! ## Bytes -/

/-- A scan that counts otherwise has the same quote open, at the place that it counts for it. -/
theorem behind_eq (size : Char → Nat) (text : List Char) :
    (behind size text).opened =
        (behind (fun _ => 1) text).opened.map (fun span => (((text.take span.1).map size).sum, span.2)) ∧
      (behind size text).escaped = (behind (fun _ => 1) text).escaped := by
  induction text using List.reverseRecOn with
  | nil => exact ⟨rfl, rfl⟩
  | append_singleton text c ih =>
    obtain ⟨hopened, hescaped⟩ := ih
    have hplace := place_behind size text
    have hlength : (behind (fun _ => 1) text).place = text.length := by simp [place_behind]
    rw [behind_snoc, behind_snoc]
    simp only [QuoteScan.read, hescaped, hopened, hplace, hlength]
    cases hspan : (behind (fun _ => 1) text).opened with
    | none => by_cases hc : isQuote c = true <;> simp [hc]
    | some span =>
      obtain ⟨before, after, hat⟩ := exists_openAt hspan
      have hle : span.1 ≤ text.length := by
        rw [hat.place_eq, hat.split]
        simp
      have htake : (text ++ [c]).take span.1 = text.take span.1 := List.take_append_of_le_length hle
      simp only [Option.map_some]
      split_ifs <;> simp only [Option.map_some, Option.map_none, htake, and_self]

/-- The two scans have the same quote open, and its byte offset is that of a character. -/
theorem openByte?_eq (text : List Char) :
    openByte? text = (openQuote? text).map fun i => Columns.byteCount (text.take i) := by
  rw [openByte?, (behind_eq Char.utf8Size text).1, openQuote?_eq, Option.map_map, Option.map_map]
  refine Option.map_congr fun span _ => ?_
  exact (Columns.byteCount_eq_sum _).symm

/-! ## What is hidden -/

/-- **What is hidden**: the characters behind an open quote, and the quotes. -/
theorem getElem?_blankQuoted (text : List Char) (i : Nat) :
    (blankQuoted text)[i]? =
      text[i]?.map fun c => if (openQuote? (text.take i)).isSome || isQuote c then ' ' else c := by
  induction text using List.reverseRecOn with
  | nil => rfl
  | append_singleton text c ih =>
    rw [blankQuoted_snoc (fun _ => 1)]
    rcases Nat.lt_trichotomy i text.length with hlt | heq | hgt
    · rw [List.getElem?_append_left (by simpa using hlt), List.getElem?_append_left hlt,
        List.take_append_of_le_length hlt.le, ih]
    · subst heq
      have hshows : (behind (fun _ => 1) text).opened.isSome = (openQuote? text).isSome := by
        rw [openQuote?_eq, Option.isSome_map]
      simp [shows, hshows]
    · rw [List.getElem?_eq_none (by simp; omega), List.getElem?_eq_none (by simp; omega)]
      rfl

theorem isQuote_of_mem_blankQuoted {text : List Char} {c : Char} (h : c ∈ blankQuoted text) : isQuote c = false := by
  obtain ⟨i, hi⟩ := List.mem_iff_getElem?.1 h
  rw [getElem?_blankQuoted, Option.map_eq_some_iff] at hi
  obtain ⟨d, _, hd⟩ := hi
  split_ifs at hd with hhidden
  · rw [← hd]
    rfl
  · rw [Bool.not_eq_true, Bool.or_eq_false_iff] at hhidden
    rw [← hd]
    exact hhidden.2

theorem blankQuoted_eq_self {text : List Char} (h : ∀ c ∈ text, isQuote c = false) : blankQuoted text = text := by
  have hfrom : ∀ text : List Char, (∀ c ∈ text, isQuote c = false) → blankFrom none false text = text := by
    intro text
    induction text with
    | nil => simp [blankFrom]
    | cons c text ih =>
      intro h
      simp [blankFrom, h c (by simp), ih fun d hd => h d (by simp [hd])]
  exact hfrom text h

/-- **The scan and the blanking agree.**
- The scan by bytes has the same quote open as the scan by characters, at the byte offset of the character.
- If a quote is open, the text is cut at it: a quote stands there, the text before leaves none open, and blanking leaves of
  the text what it leaves of the part before, followed by one space for each further character.
- If none is open, blanking starts anew behind the text.
- A character is hidden exactly if a quote is open before it or it is a quote itself. So blanking keeps the number of
  characters, turns characters into spaces only, leaves no quote, and changes nothing the second time. -/
theorem quote_scans_agree (text : List Char) :
    openByte? text = (openQuote? text).map (fun i => Columns.byteCount (text.take i)) ∧
    (∀ i, openQuote? text = some i → ∃ before quote after, text = before ++ quote :: after ∧ before.length = i ∧
      (quote = '"' ∨ quote = '\'') ∧ openQuote? before = none ∧ openByte? before = none ∧
      blankQuoted text = blankQuoted before ++ (quote :: after).map fun _ => ' ') ∧
    (openQuote? text = none → ∀ more, blankQuoted (text ++ more) = blankQuoted text ++ blankQuoted more) ∧
    (∀ i : Nat, (blankQuoted text)[i]? =
      text[i]?.map fun c => if (openQuote? (text.take i)).isSome || isQuote c then ' ' else c) ∧
    (blankQuoted text).length = text.length ∧
    (∀ (i : Nat) (c : Char), text[i]? = some c → (blankQuoted text)[i]? = some c ∨ (blankQuoted text)[i]? = some ' ') ∧
    (∀ c ∈ blankQuoted text, c ≠ '"' ∧ c ≠ '\'') ∧
    blankQuoted (blankQuoted text) = blankQuoted text := by
  refine ⟨openByte?_eq text, fun i hi => ?_, blankQuoted_append, getElem?_blankQuoted text, length_blankQuoted text,
    fun i c hc => ?_, fun c hc => ?_, ?_⟩
  · obtain ⟨quote, before, after, hquote, hlength, hat⟩ := exists_openAt_of_openQuote? hi
    have hclosed : openQuote? before = none := (openQuote?_eq_none_iff before).2 hat.closed
    refine ⟨before, quote, after, hat.split, hlength, by simpa [isQuote] using hquote, hclosed, ?_, ?_⟩
    · rw [openByte?_eq, hclosed]
      rfl
    · rw [hat.blank, List.map_const', List.length_cons]
  · rw [getElem?_blankQuoted, hc, Option.map_some]
    split_ifs <;> simp
  · have hno := isQuote_of_mem_blankQuoted hc
    simpa [isQuote] using hno
  · exact blankQuoted_eq_self fun c hc => isQuote_of_mem_blankQuoted hc

/-- Two spans of different quotes, a character of two bytes in one of them, and a span that an escaped quote keeps open. -/
theorem quote_scans_agree_on_escape :
    let text := "a('é', \"b\\\"(".toList
    openQuote? text = some 7 ∧ openByte? text = some 8 ∧
      (∃ before quote after, text = before ++ quote :: after ∧ before.length = 7 ∧ (quote = '"' ∨ quote = '\'') ∧
        openQuote? before = none) ∧
      blankQuoted ("a('é', ".toList ++ "(".toList) = "a(   , (".toList := by
  intro text
  have hopen : openQuote? text = some 7 := by decide
  have hbyte := (quote_scans_agree text).1
  obtain ⟨before, quote, after, hsplit, hlength, hquote, hclosed, _⟩ := (quote_scans_agree text).2.1 7 hopen
  have happend := (quote_scans_agree "a('é', ".toList).2.2.1 (by decide) "(".toList
  refine ⟨hopen, ?_, ⟨before, quote, after, hsplit, hlength, hquote, hclosed⟩, ?_⟩
  · rw [hbyte, hopen]
    decide
  · rw [happend]
    decide

end Cursor
end StyleIndex
