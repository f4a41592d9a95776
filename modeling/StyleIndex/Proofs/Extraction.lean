/-
What extraction finds in a style sheet, said by the places of the text.

The search looks for the next definition behind the token of the last one. For class names this loses nothing: a token has
no dots, so every dot is looked at (`tokens_className`), and `classNames_at_dots` lists the names dot by dot.

The raw name of a mixin may hold the keyword of another definition, and that one is lost. `Accepts` says which definitions
are left: those that do not begin in the token of an earlier one that is left itself. There is one such list
(`Accepts.unique`), and the search goes through it (`exists_accepted`). The search passes over keyword and blanks too, but no
definition begins there (`Defines.start_le`).
-/
import Mathlib.Data.List.TakeWhile
import Mathlib.Tactic
import StyleIndex.Symbol.Extract

namespace StyleIndex

/-! ## Class names -/

/-- the symbol characters right behind a place of a text, as far as they go -/
def runBehind (text : List Char) (place : Nat) : List Char :=
  (text.drop (place + 1)).takeWhile isSymbolChar

theorem runBehind_append_cons (before : List Char) (c : Char) (rest : List Char) :
    runBehind (before ++ c :: rest) before.length = rest.takeWhile isSymbolChar := by
  have hlength : before.length + 1 = (before ++ [c]).length := by simp
  rw [runBehind, List.append_cons, hlength, List.drop_left]

theorem className?_of_ne {c : Char} (h : c ≠ '.') (rest : List Char) : Site.className? (c :: rest) = none := by
  rw [Site.className?]
  rintro _ ⟨⟩
  exact h rfl

theorem className?_dot (rest : List Char) :
    Site.className? ('.' :: rest) =
      if rest.takeWhile isSymbolChar = [] then none
      else some ⟨rest.takeWhile isSymbolChar, 1 + (rest.takeWhile isSymbolChar).length⟩ := by
  rw [Site.className?]
  split <;> simp_all

/-- **No dot is passed over.** The tokens are the runs behind the dots, the empty ones left out, as long as no dot is among
the characters that are used up at the start. -/
theorem tokens_className (before : List Char) {used : Nat} {text : List Char} (h : ∀ c ∈ text.take used, c ≠ '.') :
    tokens Site.className? used text =
      ((text.idxsOf '.' before.length).map (runBehind (before ++ text))).filter (· ≠ []) := by
  induction text generalizing before used with
  | nil => simp [tokens]
  | cons c rest ih =>
    have ih := @ih (before ++ [c])
    rw [List.append_assoc, List.singleton_append, List.length_append, List.length_singleton] at ih
    cases used with
    | succ used =>
      have hc : c ≠ '.' := h c (by simp)
      rw [tokens, ih fun d hd => h d (by simp [hd]), List.idxsOf_cons, if_neg (by simpa using hc)]
    | zero =>
      by_cases hdot : c = '.'
      · subst hdot
        rw [List.idxsOf_cons, if_pos (beq_self_eq_true '.'), List.map_cons, runBehind_append_cons, tokens, className?_dot]
        by_cases hrun : rest.takeWhile isSymbolChar = []
        · rw [if_pos hrun, hrun, List.filter_cons_of_neg (by simp)]
          exact ih (by simp)
        · -- what the run uses up holds no dot
          have hused : ∀ d ∈ rest.take (1 + (rest.takeWhile isSymbolChar).length - 1), d ≠ '.' := by
            rw [Nat.add_sub_cancel_left, ← List.prefix_iff_eq_take.1 (List.takeWhile_prefix _)]
            rintro d hd rfl
            exact absurd (List.mem_takeWhile_imp hd) (by decide)
          rw [if_neg hrun, List.filter_cons_of_pos (by simpa using hrun)]
          exact congrArg _ (ih hused)
      · rw [tokens, className?_of_ne hdot, List.idxsOf_cons, if_neg (by simpa using hdot)]
        exact ih (by simp)

/-- a run starts with an ASCII letter -/
def startsWithLetter (run : List Char) : Bool :=
  run.head?.any Char.isAlpha

theorem isIdentifier_run (text : List Char) (place : Nat) :
    isIdentifier (runBehind text place) = startsWithLetter (runBehind text place) := by
  have hall : (runBehind text place).all isSymbolChar = true :=
    List.all_eq_true.2 fun c hc => List.mem_takeWhile_imp hc
  cases hrun : runBehind text place with
  | nil => rfl
  | cons c run =>
    rw [hrun, List.all_cons, Bool.and_eq_true] at hall
    simp [isIdentifier, startsWithLetter, hall.2]

/-- **Class names by dots.** Extraction gives, dot by dot from left to right, the symbol characters right behind the dot
where these start with a letter. -/
theorem classNames_at_dots (sheet : String) :
    Kind.className.extract sheet =
      (((sheet.toList.idxsOf '.').map (runBehind sheet.toList)).filter startsWithLetter).map String.ofList := by
  have htokens : tokens Site.className? 0 sheet.toList =
      ((sheet.toList.idxsOf '.').map (runBehind sheet.toList)).filter (· ≠ []) :=
    tokens_className [] (by simp)
  rw [Kind.extract, Kind.site?, htokens, List.filter_filter]
  refine congrArg _ (List.filter_congr fun run hrun => ?_)
  obtain ⟨place, _, rfl⟩ := List.mem_map.1 hrun
  rw [isIdentifier_run]
  cases runBehind sheet.toList place with
  | nil => rfl
  | cons c run => simp

example : Kind.className.extract ".a, 0.5em.b, .-c..a" = ["a", "b", "a"] := by decide +kernel

/-! ## Mixins -/

/-- a mixin is defined at the start of a text: the keyword stands there, then blanks, and behind them a token of name
characters, as far as they go -/
structure Site.IsMixin (text blanks token after : List Char) : Prop where
  split : text = keyword ++ (blanks ++ (token ++ after))
  blanks_ne_nil : blanks ≠ []
  blank : ∀ c ∈ blanks, Text.isBlank c = true
  token_ne_nil : token ≠ []
  name : ∀ c ∈ token, isNameChar c = true
  boundary : ∀ c, after.head? = some c → isNameChar c = false

namespace Site

theorem isBlank_of_isNameChar {c : Char} (h : isNameChar c = true) : Text.isBlank c = false := by
  simp only [isNameChar, Bool.and_eq_true, Bool.not_eq_true'] at h
  exact h.1.1.1

theorem IsMixin.mixin?_eq {text blanks token after : List Char} (h : IsMixin text blanks token after) :
    mixin? text = some ⟨token, keyword.length + blanks.length + token.length⟩ := by
  have hprefix : keyword.isPrefixOf text = true := by
    rw [List.isPrefixOf_iff_prefix, h.split]
    exact List.prefix_append _ _
  have hblanks : (text.drop keyword.length).takeWhile Text.isBlank = blanks := by
    rw [h.split, List.drop_left]
    refine Text.takeWhile_append_eq_left h.blank fun c hc => isBlank_of_isNameChar (h.name c ?_)
    rw [List.head?_append_of_ne_nil _ h.token_ne_nil] at hc
    exact List.mem_of_head? hc
  have htoken : ((text.drop keyword.length).drop blanks.length).takeWhile isNameChar = token := by
    rw [h.split, List.drop_left, List.drop_left]
    exact Text.takeWhile_append_eq_left h.name h.boundary
  simp only [mixin?, hprefix, hblanks, htoken, if_true]
  rw [if_neg (by simp [h.blanks_ne_nil, h.token_ne_nil])]

/-- **What the search takes for a definition.** -/
theorem mixin?_eq_some_iff {text : List Char} {site : Site} :
    mixin? text = some site ↔
      ∃ blanks after, IsMixin text blanks site.token after ∧
        site.length = keyword.length + blanks.length + site.token.length := by
  constructor
  · intro h
    unfold mixin? at h
    simp only at h
    split_ifs at h with hprefix hempty
    obtain ⟨rest, rfl⟩ := List.isPrefixOf_iff_prefix.1 hprefix
    rw [List.drop_left] at h hempty
    obtain rfl := Option.some.inj h
    simp only [Bool.or_eq_true, List.isEmpty_iff, not_or] at hempty
    refine ⟨rest.takeWhile Text.isBlank,
      ((rest.drop (rest.takeWhile Text.isBlank).length).dropWhile isNameChar), ⟨?_, hempty.1, ?_, hempty.2, ?_, ?_⟩, rfl⟩
    · rw [List.takeWhile_append_dropWhile]
      nth_rewrite 1 [List.prefix_iff_eq_take.1 (List.takeWhile_prefix (p := Text.isBlank) (l := rest))]
      rw [List.take_append_drop]
    · exact fun c hc => List.mem_takeWhile_imp hc
    · exact fun c hc => List.mem_takeWhile_imp hc
    · intro c hc
      have hnot := List.head?_dropWhile_not isNameChar (rest.drop (rest.takeWhile Text.isBlank).length)
      rw [hc] at hnot
      simpa using hnot
  · rintro ⟨blanks, after, hmixin, hlength⟩
    rw [hmixin.mixin?_eq, ← hlength]

end Site

/-- a definition of a mixin: where its keyword starts, where its token starts, and the token -/
structure Definition where
  place : Nat
  start : Nat
  token : List Char

/-- the place is one of the token's -/
def Definition.covers (d : Definition) (place : Nat) : Prop :=
  d.start ≤ place ∧ place < d.start + d.token.length

/-- the text has this definition of a mixin -/
def Defines (text : List Char) (d : Definition) : Prop :=
  ∃ before rest blanks after, text = before ++ rest ∧ d.place = before.length ∧
    Site.IsMixin rest blanks d.token after ∧ d.start = d.place + Site.keyword.length + blanks.length

/-- The definitions that are left when each one that is left takes away those that begin in its token: in the order of the
text, exactly the definitions that do not begin in the token of an earlier one of the list. -/
structure Accepts (text : List Char) (accepted : List Definition) : Prop where
  inOrder : accepted.Pairwise fun a b => a.place < b.place
  mem_iff : ∀ d, d ∈ accepted ↔
    Defines text d ∧ ∀ earlier ∈ accepted, earlier.place < d.place → ¬ earlier.covers d.place

/-- There is one such list. -/
theorem Accepts.unique {text : List Char} {a b : List Definition} (ha : Accepts text a) (hb : Accepts text b) : a = b := by
  have hmem : ∀ place, ∀ d : Definition, d.place = place → (d ∈ a ↔ d ∈ b) := by
    intro place
    induction place using Nat.strong_induction_on with
    | _ place ih =>
      rintro d rfl
      rw [ha.mem_iff, hb.mem_iff]
      refine and_congr_right fun _ => forall_congr' fun earlier => ?_
      -- membership of what begins earlier is settled
      constructor
      · exact fun h hmem hlt => h ((ih _ hlt earlier rfl).2 hmem) hlt
      · exact fun h hmem hlt => h ((ih _ hlt earlier rfl).1 hmem) hlt
  have hirrefl : Std.Irrefl fun a b : Definition => a.place < b.place := ⟨fun _ => lt_irrefl _⟩
  have hantisymm : Std.Antisymm fun a b : Definition => a.place < b.place :=
    ⟨fun _ _ hab hba => absurd hab hba.asymm⟩
  exact ha.inOrder.eq_of_mem_iff hb.inOrder fun d => hmem _ d rfl

/-- a site that was found at a place of a text -/
def Site.placed (site : Site) (place : Nat) : Definition :=
  ⟨place, place + (site.length - site.token.length), site.token⟩

theorem defines_iff {before rest : List Char} {d : Definition} (hplace : d.place = before.length) :
    Defines (before ++ rest) d ↔ ∃ site, Site.mixin? rest = some site ∧ d = site.placed before.length := by
  constructor
  · rintro ⟨before', rest', blanks, after, htext, hbefore, hmixin, hstart⟩
    obtain ⟨rfl, rfl⟩ := List.append_inj htext (by omega)
    refine ⟨_, hmixin.mixin?_eq, ?_⟩
    cases d
    simp only at hplace hstart
    simp only [Site.placed, hplace, hstart, Definition.mk.injEq, true_and, and_true]
    omega
  · rintro ⟨site, hsite, rfl⟩
    obtain ⟨blanks, after, hmixin, hlength⟩ := Site.mixin?_eq_some_iff.1 hsite
    refine ⟨before, rest, blanks, after, rfl, rfl, hmixin, ?_⟩
    simp only [Site.placed]
    omega

theorem Defines.getElem? {text : List Char} {d : Definition} (h : Defines text d) : text[d.place]? = some '@' := by
  obtain ⟨before, rest, blanks, after, rfl, hplace, hmixin, _⟩ := h
  rw [hplace, List.getElem?_append_right le_rfl, hmixin.split, Nat.sub_self]
  rfl

/-- No definition begins in the keyword or the blanks of another. -/
theorem Defines.start_le {text : List Char} {a b : Definition} (ha : Defines text a) (hb : Defines text b)
    (hlt : a.place < b.place) : a.start ≤ b.place := by
  by_contra hinside
  have hsign := hb.getElem?
  obtain ⟨before, rest, blanks, after, rfl, hplace, hmixin, hstart⟩ := ha
  obtain ⟨offset, hoffset⟩ : ∃ offset, b.place = before.length + (offset + 1) := ⟨b.place - before.length - 1, by omega⟩
  have hkeyword : Site.keyword = '@' :: Site.keyword.tail := rfl
  have hlength : offset < (Site.keyword.tail ++ blanks).length := by
    have hkeyword : Site.keyword.length = Site.keyword.tail.length + 1 := rfl
    rw [List.length_append]
    omega
  have hmem : '@' ∈ Site.keyword.tail ++ blanks := by
    rw [hoffset, List.getElem?_append_right (by omega), Nat.add_sub_cancel_left, hmixin.split, hkeyword, List.cons_append,
      List.getElem?_cons_succ, ← List.append_assoc, List.getElem?_append_left hlength] at hsign
    exact List.mem_of_getElem? hsign
  rcases List.mem_append.1 hmem with hmem | hmem
  · exact absurd hmem (by decide)
  · exact absurd (hmixin.blank _ hmem) (by decide)

/-- At a place of a text there is one definition at most. -/
theorem Defines.unique {text : List Char} {a b : Definition} (ha : Defines text a) (hb : Defines text b)
    (hplace : a.place = b.place) : a = b := by
  obtain ⟨before, rest, blanks, after, rfl, hbefore, hmixin, hstart⟩ := ha
  have ha : Defines (before ++ rest) a := ⟨before, rest, blanks, after, rfl, hbefore, hmixin, hstart⟩
  obtain ⟨site, hsite, rfl⟩ := (defines_iff hbefore).1 ha
  obtain ⟨site', hsite', rfl⟩ := (defines_iff (hplace.symm.trans hbefore)).1 hb
  rw [hsite] at hsite'
  obtain rfl := Option.some.inj hsite'
  rfl

/-! ## The search for mixins -/

/-- the definitions that are left of those from a place on -/
structure AcceptsFrom (text : List Char) (place : Nat) (accepted : List Definition) : Prop where
  inOrder : accepted.Pairwise fun a b => a.place < b.place
  mem_iff : ∀ d, d ∈ accepted ↔ place ≤ d.place ∧ Defines text d ∧
    ∀ earlier ∈ accepted, earlier.place < d.place → ¬ earlier.covers d.place

namespace AcceptsFrom

variable {text : List Char} {accepted : List Definition}

theorem nil {place : Nat} (h : ∀ d, Defines text d → d.place < place) : AcceptsFrom text place [] := by
  refine ⟨List.Pairwise.nil, fun d => ⟨fun hd => absurd hd List.not_mem_nil, ?_⟩⟩
  rintro ⟨hle, hdefines, _⟩
  exact absurd (h d hdefines) hle.not_gt

/-- The search goes on where no definition begins. -/
theorem skip {place : Nat} (h : AcceptsFrom text (place + 1) accepted) (hnone : ∀ d, Defines text d → d.place ≠ place) :
    AcceptsFrom text place accepted := by
  refine ⟨h.inOrder, fun d => ?_⟩
  rw [h.mem_iff]
  refine and_congr_left fun ⟨hdefines, _⟩ => ?_
  have hne := hnone d hdefines
  omega

/-- A definition takes away those that begin in its token, and the search goes on behind. -/
theorem cons {first : Definition} (hfirst : Defines text first)
    (h : AcceptsFrom text (first.start + first.token.length) accepted) : AcceptsFrom text first.place (first :: accepted) := by
  have hplace : first.place < first.start + first.token.length := by
    obtain ⟨_, _, _, _, _, _, _, hstart⟩ := hfirst
    have hkeyword : 0 < Site.keyword.length := by decide
    omega
  have hlater : ∀ d ∈ accepted, first.place < d.place := fun d hd => hplace.trans_le ((h.mem_iff d).1 hd).1
  refine ⟨List.pairwise_cons.2 ⟨hlater, h.inOrder⟩, fun d => ?_⟩
  rw [List.mem_cons, List.forall_mem_cons]
  constructor
  · rintro (rfl | hd)
    · exact ⟨le_rfl, hfirst, fun hlt => absurd hlt (lt_irrefl _),
        fun earlier hmem hlt => absurd hlt (hlater earlier hmem).asymm⟩
    · obtain ⟨hbehind, hdefines, hearlier⟩ := (h.mem_iff d).1 hd
      exact ⟨(hlater d hd).le, hdefines, fun _ hcovers => absurd hcovers.2 hbehind.not_gt, hearlier⟩
  · rintro ⟨hle, hdefines, hnot, hearlier⟩
    rcases hle.eq_or_lt with heq | hlt
    · exact Or.inl (hdefines.unique hfirst heq.symm)
    · have hbehind : first.start + first.token.length ≤ d.place := by
        by_contra hinside
        exact hnot hlt ⟨hfirst.start_le hdefines hlt, not_le.1 hinside⟩
      exact Or.inr ((h.mem_iff d).2 ⟨hbehind, hdefines, hearlier⟩)

end AcceptsFrom

/-- **The search goes through the definitions that are left.** Here `before` has been searched already, and the first `used`
characters of the text belong to a definition found there. -/
theorem exists_accepted (before : List Char) (used : Nat) (text : List Char) :
    ∃ accepted, accepted.map Definition.token = tokens Site.mixin? used text ∧
      AcceptsFrom (before ++ text) (before.length + used) accepted := by
  induction text generalizing before used with
  | nil =>
    refine ⟨[], by simp [tokens], .nil fun d hdefines => ?_⟩
    have hlt := (List.getElem?_eq_some_iff.1 hdefines.getElem?).1
    rw [List.append_nil] at hlt
    omega
  | cons c rest ih =>
    have ih := ih (before ++ [c])
    rw [List.append_assoc, List.singleton_append, List.length_append, List.length_singleton] at ih
    cases used with
    | succ used =>
      obtain ⟨accepted, htokens, haccepts⟩ := ih used
      rw [Nat.add_assoc, Nat.add_comm 1] at haccepts
      exact ⟨accepted, by rw [htokens, tokens], haccepts⟩
    | zero =>
      cases hsite : Site.mixin? (c :: rest) with
      | none =>
        obtain ⟨accepted, htokens, haccepts⟩ := ih 0
        refine ⟨accepted, by rw [htokens, tokens, hsite], haccepts.skip fun d hdefines hplace => ?_⟩
        obtain ⟨site, hsite', _⟩ := (defines_iff hplace).1 hdefines
        rw [hsite] at hsite'
        cases hsite'
      | some site =>
        obtain ⟨accepted, htokens, haccepts⟩ := ih (site.length - 1)
        have hfirst : Defines (before ++ c :: rest) (site.placed before.length) := (defines_iff rfl).2 ⟨site, hsite, rfl⟩
        -- the search goes on where the token ends
        have hbehind : before.length + 1 + (site.length - 1) =
            (site.placed before.length).start + (site.placed before.length).token.length := by
          obtain ⟨blanks, after, _, hlength⟩ := Site.mixin?_eq_some_iff.1 hsite
          have hkeyword : 0 < Site.keyword.length := by decide
          simp only [Site.placed]
          omega
        rw [hbehind] at haccepts
        refine ⟨site.placed before.length :: accepted, ?_, haccepts.cons hfirst⟩
        rw [List.map_cons, htokens, tokens, hsite]
        rfl

/-- **Mixins by definitions.** Extraction gives the identifiers among the tokens of the definitions that are left, in the
order of the text. -/
theorem mixins_at_definitions (sheet : String) :
    ∃ accepted, (∀ other, Accepts sheet.toList other ↔ other = accepted) ∧
      Kind.mixin.extract sheet = ((accepted.map Definition.token).filter isIdentifier).map String.ofList := by
  obtain ⟨accepted, htokens, hsearch⟩ := exists_accepted [] 0 sheet.toList
  have haccepts : Accepts sheet.toList accepted := ⟨hsearch.inOrder, by simpa using hsearch.mem_iff⟩
  refine ⟨accepted, fun other => ⟨fun h => h.unique haccepts, ?_⟩, ?_⟩
  · rintro rfl
    exact haccepts
  · rw [htokens]
    rfl

example : Kind.mixin.extract "@define-mixin 2@define-mixin a; @define-mixin\n\u3000b(" = ["b"] := by decide +kernel

end StyleIndex
