/-
The word at the cursor, byte by byte.

A line is stored as bytes, and the word around the cursor can be found there: from the byte of the cursor one walks to both
sides over bytes that are symbol characters (`wordStart`, `wordStop`). A byte of a character is a symbol character exactly if
the character is one (`isSymbolByte_of_mem_encodeChar`), so both walks end between characters and the range of the word has
columns (`columnOfByte?_byteCount`).

What stands between the start of the word and the cursor is read in two more ways: as the symbol characters at the end of the
text before the cursor, and as the name in the use of a mixin (`MixinUse`). `word_readings_agree` says that all of them are
the same text.
-/
import Mathlib.Tactic
import StyleIndex.Proofs.Columns
import StyleIndex.Proofs.FileUrl
import StyleIndex.Proofs.Word

namespace StyleIndex

/-! ## Bytes of characters -/

/-- the byte, read as a character of its own, is a symbol character -/
def isSymbolByte (b : UInt8) : Bool :=
  isSymbolChar (Char.ofNat b.toNat)

theorem isSymbolByte_eq_false {b : UInt8} (h : 0x80 ≤ b.toNat) : isSymbolByte b = false := by
  have hall : ∀ b : UInt8, 0x80 ≤ b.toNat → isSymbolByte b = false := Url.forall_byte (by decide +kernel)
  exact hall b h

namespace Utf8

theorem encode_append (a b : List Char) : encode (a ++ b) = encode a ++ encode b :=
  List.flatMap_append

/-- A character takes as many bytes as its size says. -/
theorem length_encodeChar (c : Char) : (encodeChar c).length = c.utf8Size := by
  have hval : c.val.toNat = c.toNat := rfl
  simp only [encodeChar, Char.utf8Size, UInt32.le_iff_toNat_le, hval]
  split_ifs <;> simp_all <;> omega

theorem encodeChar_ne_nil (c : Char) : encodeChar c ≠ [] := by
  rw [← List.length_pos_iff, length_encodeChar]
  exact c.utf8Size_pos

theorem length_encode (text : List Char) : (encode text).length = Columns.byteCount text := by
  induction text with
  | nil => rfl
  | cons c text ih =>
    rw [Columns.byteCount, ← ih, ← length_encodeChar]
    simp [encode]

/-- The bytes of a character outside ASCII are all outside ASCII. -/
theorem le_of_mem_encodeChar {c : Char} (hc : 0x80 ≤ c.toNat) {b : UInt8} (hb : b ∈ encodeChar c) : 0x80 ≤ b.toNat := by
  have hmax : c.toNat < 0x110000 := by
    have hvalid : c.toNat.isValidChar := c.valid
    rcases hvalid with hlow | hhigh
    · omega
    · exact hhigh.2
  simp only [encodeChar, if_neg (Nat.not_lt.2 hc)] at hb
  split_ifs at hb
  all_goals simp only [List.mem_cons, List.not_mem_nil, or_false] at hb
  · rcases hb with rfl | rfl <;> simp only [byte, UInt8.toNat_ofNat'] <;> omega
  · rcases hb with rfl | rfl | rfl <;> simp only [byte, UInt8.toNat_ofNat'] <;> omega
  · rcases hb with rfl | rfl | rfl | rfl <;> simp only [byte, UInt8.toNat_ofNat'] <;> omega

end Utf8

/-- **Steps over bytes are steps over characters.** -/
theorem isSymbolByte_of_mem_encodeChar {c : Char} {b : UInt8} (hb : b ∈ Utf8.encodeChar c) :
    isSymbolByte b = isSymbolChar c := by
  by_cases hascii : c.toNat < 0x80
  · have hall : ∀ c : Char, c.toNat < 0x80 → ∀ b ∈ Utf8.encodeChar c, isSymbolByte b = isSymbolChar c :=
      Url.forall_ascii (by decide +kernel)
    exact hall c hascii b hb
  · have hbyte := isSymbolByte_eq_false (Utf8.le_of_mem_encodeChar (Nat.not_lt.1 hascii) hb)
    have hchar : isSymbolChar c = false := by
      by_contra h
      exact hascii (toNat_lt_of_isSymbolChar (by simpa using h))
    rw [hbyte, hchar]

/-! ## The walks -/

/-- where a walk to the left over symbol bytes ends that starts at a byte offset -/
def wordStart (bytes : List UInt8) (offset : Nat) : Nat :=
  offset - ((bytes.take offset).reverse.takeWhile isSymbolByte).length

/-- where a walk to the right over symbol bytes ends that starts at a byte offset -/
def wordStop (bytes : List UInt8) (offset : Nat) : Nat :=
  offset + ((bytes.drop offset).takeWhile isSymbolByte).length

theorem isSymbolByte_of_mem_encode {run : List Char} (h : ∀ c ∈ run, isSymbolChar c = true) :
    ∀ b ∈ Utf8.encode run, isSymbolByte b = true := by
  intro b hb
  obtain ⟨c, hc, hb⟩ := List.mem_flatMap.1 hb
  rw [isSymbolByte_of_mem_encodeChar hb, h c hc]

theorem isSymbolByte_getLast?_encode {left : List Char} (h : ∀ c, left.getLast? = some c → isSymbolChar c = false) :
    ∀ b, (Utf8.encode left).getLast? = some b → isSymbolByte b = false := by
  intro b hb
  rcases List.eq_nil_or_concat left with rfl | ⟨init, c, rfl⟩
  · cases hb
  · rw [List.concat_eq_append] at hb h
    have hchar : Utf8.encode [c] = Utf8.encodeChar c := List.flatMap_singleton ..
    rw [Utf8.encode_append, hchar, List.getLast?_append_of_ne_nil _ (Utf8.encodeChar_ne_nil c)] at hb
    rw [isSymbolByte_of_mem_encodeChar (List.mem_of_getLast? hb), h c (by simp)]

theorem isSymbolByte_head?_encode {right : List Char} (h : ∀ c, right.head? = some c → isSymbolChar c = false) :
    ∀ b, (Utf8.encode right).head? = some b → isSymbolByte b = false := by
  intro b hb
  cases right with
  | nil => cases hb
  | cons c right =>
    rw [Utf8.encode, List.flatMap_cons, List.head?_append_of_ne_nil _ (Utf8.encodeChar_ne_nil c)] at hb
    rw [isSymbolByte_of_mem_encodeChar (List.mem_of_head? hb), h c rfl]

namespace WordAt

variable {line left typed rest right : List Char} {column : Nat}

theorem byteOfColumn_eq (h : WordAt line column left typed rest right) :
    Columns.byteOfColumn line column = Columns.byteCount (left ++ typed) := by
  rw [Columns.byteOfColumn, h.before]

theorem encode_eq (h : WordAt line column left typed rest right) :
    Utf8.encode line = Utf8.encode (left ++ typed) ++ Utf8.encode (rest ++ right) := by
  rw [← Utf8.encode_append, h.split]
  simp only [List.append_assoc]

/-- The walk to the left ends at the start of the word. -/
theorem wordStart_eq (h : WordAt line column left typed rest right) :
    wordStart (Utf8.encode line) (Columns.byteOfColumn line column) = Columns.byteCount left := by
  have hwalk : ((Utf8.encode (left ++ typed)).reverse.takeWhile isSymbolByte) = (Utf8.encode typed).reverse := by
    rw [Utf8.encode_append, List.reverse_append]
    refine Text.takeWhile_append_eq_left (fun b hb => ?_) fun b hb => ?_
    · exact isSymbolByte_of_mem_encode h.word.symbols b (List.mem_reverse.1 hb)
    · rw [List.head?_reverse] at hb
      exact isSymbolByte_getLast?_encode h.word.boundary b hb
  calc wordStart (Utf8.encode line) (Columns.byteOfColumn line column)
      = Columns.byteCount (left ++ typed) - (Utf8.encode typed).reverse.length := by
        rw [wordStart, h.byteOfColumn_eq, h.encode_eq, ← Utf8.length_encode, List.take_left, hwalk]
    _ = Columns.byteCount left := by
        rw [List.length_reverse, Utf8.length_encode, Columns.byteCount_append, Nat.add_sub_cancel]

/-- The walk to the right ends at the end of the word. -/
theorem wordStop_eq (h : WordAt line column left typed rest right) :
    wordStop (Utf8.encode line) (Columns.byteOfColumn line column) = Columns.byteCount (left ++ (typed ++ rest)) := by
  have hwalk : (Utf8.encode (rest ++ right)).takeWhile isSymbolByte = Utf8.encode rest := by
    rw [Utf8.encode_append]
    exact Text.takeWhile_append_eq_left (isSymbolByte_of_mem_encode h.rest) (isSymbolByte_head?_encode h.boundary)
  calc wordStop (Utf8.encode line) (Columns.byteOfColumn line column)
      = Columns.byteCount (left ++ typed) + (Utf8.encode rest).length := by
        rw [wordStop, h.byteOfColumn_eq, h.encode_eq, ← Utf8.length_encode, List.drop_left, hwalk]
    _ = Columns.byteCount (left ++ (typed ++ rest)) := by
        rw [Utf8.length_encode, ← Columns.byteCount_append, List.append_assoc]

end WordAt

/-! ## Uses of mixins -/

/-- a text ends with the use of a mixin: the keyword, blanks, and the part of a name, which may be empty -/
structure MixinUse (text before blanks name : List Char) : Prop where
  split : text = before ++ (Cursor.mixinKeyword ++ (blanks ++ name))
  blanks_ne_nil : blanks ≠ []
  blank : ∀ c ∈ blanks, Text.isBlank c = true
  symbols : ∀ c ∈ name, isSymbolChar c = true

theorem isSymbolChar_of_isBlank {c : Char} (h : Text.isBlank c = true) : isSymbolChar c = false := by
  by_contra hsymbol
  have hall : ∀ c : Char, c.toNat < 0x80 → isSymbolChar c = true → Text.isBlank c = false :=
    Url.forall_ascii (by decide +kernel)
  have hsymbol : isSymbolChar c = true := by simpa using hsymbol
  rw [hall c (toNat_lt_of_isSymbolChar hsymbol) hsymbol] at h
  cases h

/-- However a text is read as the use of a mixin, the name is the word that ends it. -/
theorem MixinUse.word {text before blanks name : List Char} (h : MixinUse text before blanks name) :
    Word text (before ++ (Cursor.mixinKeyword ++ blanks)) name where
  split := by rw [h.split]; simp only [List.append_assoc]
  symbols := h.symbols
  boundary c hc := by
    rw [← List.append_assoc, List.getLast?_append_of_ne_nil _ h.blanks_ne_nil] at hc
    exact isSymbolChar_of_isBlank (h.blank c (List.mem_of_getLast? hc))

/-- No blank stands at the end of the keyword. -/
theorem isBlank_getLast?_mixinKeyword (before : List Char) :
    ∀ c, (before ++ Cursor.mixinKeyword).getLast? = some c → Text.isBlank c = false := by
  intro c hc
  rw [List.getLast?_append_of_ne_nil _ (by decide)] at hc
  obtain rfl := Option.some.inj ((by decide : Cursor.mixinKeyword.getLast? = some 'n').symm.trans hc)
  decide

/-- **The grammar of a use.** -/
theorem mixinFragment?_eq_some_iff {text name : List Char} :
    Cursor.mixinFragment? text = some name ↔ ∃ before blanks, MixinUse text before blanks name := by
  constructor
  · intro h
    unfold Cursor.mixinFragment? at h
    simp only at h
    split_ifs at h with huse
    obtain rfl := Option.some.inj h
    rw [Bool.and_eq_true, List.isSuffixOf_iff_suffix] at huse
    obtain ⟨hblanks, before, hbefore⟩ := huse
    have hword := word_fragment text
    refine ⟨before, _, ⟨?_, by simpa using hblanks, fun c hc => ?_, hword.symbols⟩⟩
    · rw [← List.append_assoc, hbefore, ← List.append_assoc, Text.dropTrailing_append_takeTrailing]
      exact hword.split
    · rw [Text.takeTrailing, List.mem_reverse] at hc
      exact List.mem_takeWhile_imp hc
  · rintro ⟨before, blanks, huse⟩
    have hboundary := isBlank_getLast?_mixinKeyword before
    have hrest := huse.word.dropTrailing_eq
    rw [← List.append_assoc] at hrest
    simp only [Cursor.mixinFragment?, hrest, Text.takeTrailing_append huse.blank hboundary,
      Text.dropTrailing_append huse.blank hboundary, huse.word.fragment_eq]
    rw [if_pos]
    rw [Bool.and_eq_true, List.isSuffixOf_iff_suffix]
    exact ⟨by simpa using huse.blanks_ne_nil, List.suffix_append _ _⟩

/-! ## All readings -/

theorem Detector.typed_of_find {detector : Detector} {source : LineSource} {n column : Nat} {line left typed : List Char}
    (hline : source.line? n = some line) (hword : Word (Columns.before column line) left typed) {found : ContextMatch}
    (hfound : detector.find source ⟨n, column⟩ = some found) :
    found.typed.toList = typed ∧ found.range = source.wordRange? ⟨n, column⟩ := by
  obtain ⟨_, rfl⟩ := (Detector.find_eq_some_iff hline hword).1 hfound
  exact ⟨String.toList_ofList, rfl⟩

/-- **All readings of the word agree.** On a line that is there, the walks over bytes from the cursor end between characters,
before and behind it, and enclose the symbol characters around it, as far as they go. What they pass over before the cursor
is the run of symbol characters that the text before the cursor ends with. The range of the word has the columns of the two
offsets, and its start is as far before the cursor as the typed part of a match is long, in both detectors. However the text
before the cursor is read as the use of a mixin, the name is that same run, and there is such a reading exactly if the
detector of mixins finds a place. -/
theorem word_readings_agree {text line : List Char} {n : Nat} (column : Nat)
    (hline : (Document.ofText text).line? n = some line) :
    let doc := Document.ofText text
    let ahead := Columns.before column line
    let cursor := Columns.byteOfColumn line column
    let start := wordStart (Utf8.encode line) cursor
    let stop := wordStop (Utf8.encode line) cursor
    (∃ left typed rest right, WordAt line column left typed rest right ∧ typed = Cursor.fragment ahead ∧
      start = Columns.byteCount left ∧ cursor = Columns.byteCount (left ++ typed) ∧
      stop = Columns.byteCount (left ++ (typed ++ rest))) ∧
    (start ≤ cursor ∧ cursor ≤ stop ∧ stop ≤ (Utf8.encode line).length) ∧
    (∃ first middle last, Columns.columnOfByte? line start = some first ∧ Columns.columnOfByte? line cursor = some middle ∧
      Columns.columnOfByte? line stop = some last ∧ doc.wordRange? ⟨n, column⟩ = some ⟨⟨n, first⟩, ⟨n, last⟩⟩ ∧
      ∀ (detector : Detector) found, detector.find doc.source ⟨n, column⟩ = some found →
        found.range = some ⟨⟨n, first⟩, ⟨n, last⟩⟩ ∧ first + found.typed.length = middle) ∧
    (∀ before blanks name, MixinUse ahead before blanks name → name = Cursor.fragment ahead) ∧
    ∀ found, detectMixin doc.source ⟨n, column⟩ = some found ↔
      ∃ before blanks name, MixinUse ahead before blanks name ∧
        found = ⟨String.ofList name, doc.wordRange? ⟨n, column⟩⟩ := by
  intro doc ahead cursor start stop
  obtain ⟨left, typed, rest, right, hat⟩ := exists_wordAt line column
  have hstart : start = Columns.byteCount left := hat.wordStart_eq
  have hcursor : cursor = Columns.byteCount (left ++ typed) := hat.byteOfColumn_eq
  have hstop : stop = Columns.byteCount (left ++ (typed ++ rest)) := hat.wordStop_eq
  have hrange := wordRange?_eq hline hat
  refine ⟨⟨left, typed, rest, right, hat, hat.word_before.fragment_eq.symm, hstart, hcursor, hstop⟩, ?_, ?_, ?_, ?_⟩
  · rw [hstart, hcursor, hstop, Utf8.length_encode, hat.split]
    simp only [Columns.byteCount_append]
    omega
  · refine ⟨Columns.width left, Columns.width (left ++ typed), Columns.width (left ++ (typed ++ rest)), ?_, ?_, ?_, hrange,
      fun detector found hfound => ?_⟩
    · rw [hstart, hat.split, List.append_assoc, Columns.columnOfByte?_byteCount]
    · rw [hcursor, hat.split, ← List.append_assoc left, List.append_assoc (left ++ typed), Columns.columnOfByte?_byteCount]
    · rw [hstop, hat.split, Columns.columnOfByte?_byteCount]
    · obtain ⟨htyped, hfoundRange⟩ := detector.typed_of_find hline hat.word_before hfound
      refine ⟨hfoundRange.trans hrange, ?_⟩
      rw [Columns.width_append, width_symbols hat.word.symbols, ← htyped, String.length_toList]
  · exact fun before blanks name huse => huse.word.fragment_eq.symm
  · intro found
    have hline' : doc.source.line? n = some line := hline
    simp only [detectMixin, hline', Option.bind_some, Option.map_eq_some_iff, mixinFragment?_eq_some_iff]
    constructor
    · rintro ⟨name, ⟨before, blanks, huse⟩, rfl⟩
      exact ⟨before, blanks, name, huse, rfl⟩
    · rintro ⟨before, blanks, name, huse, rfl⟩
      exact ⟨name, ⟨before, blanks, huse⟩, rfl⟩

/-- The cursor stands in a word between a wide blank and an accented letter, behind a character of two units. -/
theorem word_behind_wide_blank :
    let doc := Document.ofText "x\r\n🎉 @mixin\u3000nav-é".toList
    let line := "🎉 @mixin\u3000nav-é".toList
    doc.line? 1 = some line ∧ wordStart (Utf8.encode line) 16 = 14 ∧ wordStop (Utf8.encode line) 16 = 18 ∧
      doc.wordRange? ⟨1, 12⟩ = some ⟨⟨1, 10⟩, ⟨1, 14⟩⟩ ∧
      detectMixin doc.source ⟨1, 12⟩ = some ⟨"na", some ⟨⟨1, 10⟩, ⟨1, 14⟩⟩⟩ ∧ 10 + "na".length = 12 := by
  intro doc line
  have hline : doc.line? 1 = some line := by decide
  have huse : MixinUse (Columns.before 12 line) "🎉 ".toList ['\u3000'] "na".toList :=
    ⟨by decide, by decide, List.all_eq_true.1 (by decide), List.all_eq_true.1 (by decide)⟩
  obtain ⟨_, _, ⟨first, middle, last, hfirst, hmiddle, hlast, hrange, hdetectors⟩, _, hmixin⟩ :=
    word_readings_agree 12 hline
  obtain rfl : 10 = first := Option.some.inj (Eq.trans (by decide +kernel) hfirst)
  obtain rfl : 12 = middle := Option.some.inj (Eq.trans (by decide +kernel) hmiddle)
  obtain rfl : 14 = last := Option.some.inj (Eq.trans (by decide +kernel) hlast)
  have hfound : detectMixin doc.source ⟨1, 12⟩ = some ⟨"na", some ⟨⟨1, 10⟩, ⟨1, 14⟩⟩⟩ :=
    (hmixin _).2 ⟨_, _, _, huse, by rw [hrange]; rfl⟩
  exact ⟨hline, by decide +kernel, by decide +kernel, hrange, hfound, (hdetectors .mixins _ hfound).2⟩

end StyleIndex
