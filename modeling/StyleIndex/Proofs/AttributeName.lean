/-
The attribute that a head ends with.

An attribute name is a letter or an underscore and symbol characters behind it (`isAttributeName`), and a head ends with an
attribute if a name and an equals sign stand there (`AttributeAt`). It may end with several at once, since a name from some
letter on is a name too: `class=` stands at the end of `data-class=`. All of them are tails of one
(`AttributeAt.suffix_trailingName`), so that one is the longest (`LongestAttribute`), and a search from the left stops at it
(`LongestAttribute.exists_leftmost`). It takes no search to find: it is the run of symbol characters before the equals sign,
less the digits and hyphens that the run starts with (`trailingName_eq`).

`attribute_name_longest` puts this together, with what it means for the detector: where a head ends with an attribute, only
a configured name that ends with all of it can match.
-/
import Mathlib.Tactic
import StyleIndex.Proofs.FileUrl
import StyleIndex.Proofs.Head
import StyleIndex.Proofs.Leftmost
import StyleIndex.Proofs.Word

namespace StyleIndex.Cursor

/-! ## Names -/

/-- a letter or an underscore, then symbol characters -/
def isAttributeName : List Char → Bool
  | [] => false
  | c :: cs => isAttributeStart c && cs.all isSymbolChar

theorem isAttributeName_iff {name : List Char} :
    isAttributeName name = true ↔
      ∃ first more, name = first :: more ∧ isAttributeStart first = true ∧ ∀ c ∈ more, isSymbolChar c = true := by
  cases name with
  | nil => simp [isAttributeName]
  | cons first more => simp [isAttributeName]

theorem isSymbolChar_of_isAttributeName {name : List Char} (h : isAttributeName name = true) :
    ∀ c ∈ name, isSymbolChar c = true := by
  obtain ⟨first, more, rfl, hfirst, hmore⟩ := isAttributeName_iff.1 h
  intro c hc
  rcases List.mem_cons.1 hc with rfl | hc
  · exact isSymbolChar_of_isAttributeStart hfirst
  · exact hmore c hc

/-- A symbol character that no attribute name starts with is a digit or a hyphen. -/
theorem isAttributeStart_eq {c : Char} (h : isSymbolChar c = true) : (!isAttributeStart c) = (c.isDigit || c = '-') := by
  have hall : ∀ c : Char, c.toNat < 0x80 → isSymbolChar c = true → (!isAttributeStart c) = (c.isDigit || c = '-') :=
    Url.forall_ascii (by decide +kernel)
  exact hall c (toNat_lt_of_isSymbolChar h) h

theorem trailingName_eq (text : List Char) :
    trailingName text = (Text.takeTrailing isSymbolChar text).dropWhile fun c => c.isDigit || c = '-' := by
  have hrun : ∀ run : List Char, (∀ c ∈ run, isSymbolChar c = true) →
      run.dropWhile (fun c => !isAttributeStart c) = run.dropWhile fun c => c.isDigit || c = '-' := by
    intro run hrun
    induction run with
    | nil => rfl
    | cons c run ih =>
      rw [List.dropWhile_cons, List.dropWhile_cons, isAttributeStart_eq (hrun c (by simp)),
        ih fun d hd => hrun d (by simp [hd])]
  exact hrun _ (word_fragment text).symbols

/-! ## The attribute before the equals sign -/

/-- the head ends with an attribute: a name and the equals sign behind it -/
structure AttributeAt (head before name : List Char) : Prop where
  split : head = before ++ (name ++ ['='])
  isName : isAttributeName name = true

/-- the name of an attribute that the head ends with, and no such name is longer -/
structure LongestAttribute (head name : List Char) : Prop where
  ends : ∃ before, AttributeAt head before name
  longest : ∀ before' name', AttributeAt head before' name' → name'.length ≤ name.length

/-- a text is an attribute -/
def BeginsAttribute (text : List Char) : Prop :=
  ∃ name, AttributeAt text [] name

theorem endsWithAttribute_iff {head : List Char} : EndsWithAttribute head ↔ ∃ before name, AttributeAt head before name := by
  constructor
  · intro h
    obtain ⟨before, first, more, hsplit, hfirst, hmore⟩ := h
    refine ⟨before, first :: more, ?_, isAttributeName_iff.2 ⟨first, more, rfl, hfirst, hmore⟩⟩
    rw [hsplit, List.append_assoc]
  · intro h
    obtain ⟨before, name, hsplit, hname⟩ := h
    obtain ⟨first, more, rfl, hfirst, hmore⟩ := isAttributeName_iff.1 hname
    refine ⟨before, first, more, ?_, hfirst, hmore⟩
    rw [hsplit, List.append_assoc]

theorem isAttributeName_trailingName {text : List Char} (h : trailingName text ≠ []) :
    isAttributeName (trailingName text) = true := by
  have hsymbols : ∀ c ∈ trailingName text, isSymbolChar c = true :=
    fun c hc => (word_fragment text).symbols c ((List.dropWhile_suffix _).subset hc)
  have hfirst := List.head?_dropWhile_not (fun c => !isAttributeStart c) (fragment text)
  rw [← trailingName] at hfirst
  cases hname : trailingName text with
  | nil => exact absurd hname h
  | cons first more =>
    rw [hname] at hfirst hsymbols
    exact isAttributeName_iff.2 ⟨first, more, rfl, by simpa using hfirst, fun c hc => hsymbols c (by simp [hc])⟩

/-- A part of a text that starts with none of the characters that are dropped is not cut. -/
theorem suffix_dropWhile {p : Char → Bool} {first : Char} {more text : List Char} (h : first :: more <:+ text)
    (hfirst : p first = false) : first :: more <:+ text.dropWhile p := by
  rw [← List.takeWhile_append_dropWhile (p := p) (l := text)] at h
  rcases suffix_append_cases h with hrest | ⟨start, hstart, hne, heq⟩
  · exact hrest
  · obtain ⟨c, rest, rfl⟩ := List.exists_cons_of_ne_nil hne
    obtain rfl := (List.cons.inj heq).1
    have hdropped := List.mem_takeWhile_imp (hstart.subset List.mem_cons_self)
    rw [hfirst] at hdropped
    cases hdropped

/-- **Every name before the equals sign is a tail of the longest.** -/
theorem AttributeAt.suffix_trailingName {text before name : List Char} (h : AttributeAt (text ++ ['=']) before name) :
    name <:+ trailingName text := by
  have htext : text = before ++ name := by
    have hsplit := h.split
    rw [← List.append_assoc] at hsplit
    exact List.append_cancel_right hsplit
  have hsymbols : ∀ c ∈ name.reverse, isSymbolChar c = true :=
    fun c hc => isSymbolChar_of_isAttributeName h.isName c (List.mem_reverse.1 hc)
  have hrun : fragment text = fragment before ++ name := by
    calc fragment text
        = ((name.reverse ++ before.reverse).takeWhile isSymbolChar).reverse := by
          rw [htext, fragment, Text.takeTrailing, List.reverse_append]
      _ = (name.reverse ++ before.reverse.takeWhile isSymbolChar).reverse := by
          rw [List.takeWhile_append_of_pos hsymbols]
      _ = fragment before ++ name := by
          rw [List.reverse_append, List.reverse_reverse, fragment, Text.takeTrailing]
  obtain ⟨first, more, rfl, hfirst, _⟩ := isAttributeName_iff.1 h.isName
  apply suffix_dropWhile
  · rw [hrun]
    exact List.suffix_append _ _
  · simp [hfirst]

/-- Only heads that end with an equals sign have an attribute. -/
theorem exists_text_of_attribute? {head : List Char} {name : String} (h : attribute? head = some name) :
    ∃ text, head = text ++ ['='] ∧ trailingName text ≠ [] ∧ name = String.ofList (trailingName text) := by
  rcases List.eq_nil_or_concat head with rfl | ⟨text, last, rfl⟩
  · cases h
  · rw [List.concat_eq_append] at h ⊢
    by_cases hlast : last = '='
    · subst hlast
      rw [attribute?_append_equals] at h
      split_ifs at h with hname
      exact ⟨text, rfl, hname, (Option.some.inj h).symm⟩
    · rw [attribute?_append_of_ne hlast] at h
      cases h

/-- A head that ends with an attribute has one. -/
theorem AttributeAt.exists_attribute? {head before name : List Char} (h : AttributeAt head before name) :
    ∃ longest, attribute? head = some longest := by
  have hends : EndsWithAttribute head := endsWithAttribute_iff.2 ⟨before, name, h⟩
  rw [← Option.isSome_iff_exists, Option.isSome_iff_ne_none]
  intro hnone
  exact (attribute?_eq_none_iff head).1 hnone hends

theorem AttributeAt.suffix {head before name : List Char} (h : AttributeAt head before name) {longest : String}
    (hlongest : attribute? head = some longest) : name <:+ longest.toList := by
  obtain ⟨text, rfl, _, rfl⟩ := exists_text_of_attribute? hlongest
  rw [String.toList_ofList]
  exact h.suffix_trailingName

theorem exists_attributeAt {head : List Char} {name : String} (h : attribute? head = some name) :
    ∃ before, AttributeAt head before name.toList := by
  obtain ⟨text, rfl, hname, rfl⟩ := exists_text_of_attribute? h
  obtain ⟨before, htext⟩ : trailingName text <:+ text :=
    (List.dropWhile_suffix _).trans ⟨_, (word_fragment text).split.symm⟩
  refine ⟨before, ?_, ?_⟩
  · rw [String.toList_ofList, ← List.append_assoc, htext]
  · rw [String.toList_ofList]
    exact isAttributeName_trailingName hname

theorem attribute?_eq_some_iff_longest {head : List Char} {name : String} :
    attribute? head = some name ↔ LongestAttribute head name.toList := by
  constructor
  · intro h
    exact ⟨exists_attributeAt h, fun before' name' hat => (hat.suffix h).length_le⟩
  · intro h
    obtain ⟨before, hat⟩ := h.ends
    obtain ⟨longest, hattribute⟩ := hat.exists_attribute?
    obtain ⟨before', hat'⟩ := exists_attributeAt hattribute
    have heq : name.toList = longest.toList := (hat.suffix hattribute).eq_of_length_le (h.longest before' _ hat')
    rw [hattribute, String.toList_injective heq]

/-- **A search from the left stops at the longest attribute.** -/
theorem LongestAttribute.exists_leftmost {head name : List Char} (h : LongestAttribute head name) :
    ∃ before, Leftmost BeginsAttribute head before (name ++ ['=']) := by
  obtain ⟨before, hat⟩ := h.ends
  refine ⟨before, hat.split, ⟨name, rfl, hat.isName⟩, ?_⟩
  intro part hpart hne hbegins
  obtain ⟨front, rfl⟩ := hpart
  obtain ⟨name', hsplit, hname'⟩ := hbegins
  have hlonger : AttributeAt head front name' := by
    refine ⟨?_, hname'⟩
    rw [hat.split, List.append_assoc, hsplit, List.nil_append]
  -- the part would make a longer name
  have hlength := congrArg List.length hsplit
  have hle := h.longest front name' hlonger
  have hpos := List.length_pos_iff.2 hne
  simp only [List.nil_append, List.length_append] at hlength
  omega

theorem attribute?_eq_some_iff_leftmost {head : List Char} {name : String} :
    attribute? head = some name ↔ ∃ before, Leftmost BeginsAttribute head before (name.toList ++ ['=']) := by
  constructor
  · intro h
    exact (attribute?_eq_some_iff_longest.1 h).exists_leftmost
  · intro h
    obtain ⟨before, hleftmost⟩ := h
    obtain ⟨other, hsplit, hname⟩ := hleftmost.stands
    rw [List.nil_append] at hsplit
    have hat : AttributeAt head before other := ⟨hsplit ▸ hleftmost.split, hname⟩
    obtain ⟨longest, hlongest⟩ := hat.exists_attribute?
    obtain ⟨before', hleftmost'⟩ := (attribute?_eq_some_iff_longest.1 hlongest).exists_leftmost
    have heq := List.append_cancel_right (hleftmost.unique hleftmost').2
    rw [hlongest, String.toList_injective heq]

/-- The attribute read off the run of symbol characters before the equals sign. -/
theorem attribute?_eq_of_run (head : List Char) :
    attribute? head =
      let name := (Text.takeTrailing isSymbolChar head.dropLast).dropWhile fun c => c.isDigit || c = '-'
      if head.getLast? = some '=' ∧ name ≠ [] then some (String.ofList name) else none := by
  rcases List.eq_nil_or_concat head with rfl | ⟨text, last, rfl⟩
  · rfl
  · rw [List.concat_eq_append]
    by_cases hlast : last = '='
    · subst hlast
      simp only [attribute?_append_equals, trailingName_eq, List.dropLast_concat, List.getLast?_concat, true_and, ne_eq,
        ite_not]
    · simp [attribute?_append_of_ne hlast, hlast]

/-! ## The detector -/

/-- **An attribute decides alone**: a class name is completed exactly if the longest attribute that the head ends with is
configured. -/
theorem detect_isSome_iff_of_attribute {source : LineSource} {pos : Position} {rules : ContextRules}
    {line before name : List Char} (hline : source.line? pos.line = some line) (hrules : rules.attributes ≠ [])
    (hat : AttributeAt (headOf (Columns.before pos.column line)) before name) :
    (detect source pos rules).isSome = true ↔
      QuoteMet rules (Columns.before pos.column line) ∧
        ∃ configured ∈ rules.attributes, LongestAttribute (headOf (Columns.before pos.column line)) configured.toList := by
  obtain ⟨longest, hlongest⟩ := hat.exists_attribute?
  have haccepts : accepts source pos.line (headOf (Columns.before pos.column line)) rules =
      rules.attributes.contains longest := by
    have hsome : rules.attributes.isEmpty = false := by simpa using hrules
    rw [accepts, hsome, if_neg (by simp), hlongest]
  rw [detect_isSome_iff_accepts rules hline, haccepts]
  simp only [← attribute?_eq_some_iff_longest, hlongest, Option.some.injEq, exists_eq_right', List.contains_iff_mem]

/-- **The attribute name is the longest one.**
- It is the longest name that stands directly before an equals sign at the end of the head, and there is none exactly if no
  such name stands there.
- A search from the left for a name and an equals sign at the end of the head stops at it.
- It is the longest run of symbol characters before the equals sign, less the digits and hyphens the run starts with, and
  none where nothing is left.
- Where the head ends with an attribute, none of its proper tails is the attribute name; and on every line with that head a
  class name is completed exactly if the quote rule is met and the longest attribute is configured, so never without a
  configured name that ends with all of the attribute. -/
theorem attribute_name_longest (head : List Char) :
    (∀ name : String, attribute? head = some name ↔ LongestAttribute head name.toList) ∧
    (attribute? head = none ↔ ∀ before name, ¬ AttributeAt head before name) ∧
    (∀ name : String, attribute? head = some name ↔
      ∃ before, Leftmost BeginsAttribute head before (name.toList ++ ['='])) ∧
    (attribute? head =
      let name := (Text.takeTrailing isSymbolChar head.dropLast).dropWhile fun c => c.isDigit || c = '-'
      if head.getLast? = some '=' ∧ name ≠ [] then some (String.ofList name) else none) ∧
    ∀ before long, AttributeAt head before long →
      (∀ name : String, name.toList <:+ long → name.toList ≠ long → attribute? head ≠ some name) ∧
      ∀ (source : LineSource) (pos : Position) (rules : ContextRules) (line : List Char),
        source.line? pos.line = some line → headOf (Columns.before pos.column line) = head → rules.attributes ≠ [] →
        ((detect source pos rules).isSome = true ↔
          QuoteMet rules (Columns.before pos.column line) ∧
            ∃ name ∈ rules.attributes, LongestAttribute head name.toList) ∧
        ((detect source pos rules).isSome = true → ∃ name ∈ rules.attributes, long <:+ name.toList) := by
  refine ⟨fun name => attribute?_eq_some_iff_longest, ?_, fun name => attribute?_eq_some_iff_leftmost,
    attribute?_eq_of_run head, fun before long hat => ⟨?_, ?_⟩⟩
  · rw [attribute?_eq_none_iff, endsWithAttribute_iff]
    simp only [not_exists]
  · intro name htail hne hname
    exact hne (htail.eq_of_length_le (hat.suffix hname).length_le)
  · intro source pos rules line hline hhead hrules
    subst hhead
    have hdetect := detect_isSome_iff_of_attribute hline hrules hat
    refine ⟨hdetect, fun hsome => ?_⟩
    obtain ⟨_, name, hmem, hlongest⟩ := hdetect.1 hsome
    exact ⟨name, hmem, hat.suffix (attribute?_eq_some_iff_longest.2 hlongest)⟩

/-- Hyphens and underscores stay in a name, a colon or a letter outside ASCII ends it, and no name starts with a digit. -/
example : ["<b data-class=", "<b :class=", "2-class=", "é-class=", "_9=", "-9=", "class= "].map (attribute? ·.toList) =
    [some "data-class", some "class", some "class", some "class", some "_9", none, none] := by
  decide

/-- A configured name stands at the end of a longer attribute, and does not match. -/
theorem attribute_tail_ignored :
    let text := "<b data-class=\"x".toList
    let head := "<b data-class=".toList
    let rules := { ContextRules.initial with attributes := ["class"] }
    AttributeAt head "<b ".toList "data-class".toList ∧ attribute? head = some "data-class" ∧
      attribute? head ≠ some "class" ∧ (detect (plainSource text) ⟨0, 16⟩ rules).isSome = false := by
  intro text head rules
  have hat : AttributeAt head "<b ".toList "data-class".toList := ⟨by decide, by decide⟩
  obtain ⟨_, _, _, _, hattribute⟩ := attribute_name_longest head
  obtain ⟨htails, hdetect⟩ := hattribute _ _ hat
  have hmatch := (hdetect (plainSource text) ⟨0, 16⟩ rules text (by decide) (by decide) (by decide)).2
  refine ⟨hat, by decide, htails "class" (by decide) (by decide), ?_⟩
  by_contra hsome
  obtain ⟨name, hmem, hsuffix⟩ := hmatch (Bool.eq_true_of_not_eq_false hsome)
  obtain rfl : name = "class" := by simpa [rules] using hmem
  exact absurd hsuffix (by decide)

end StyleIndex.Cursor
