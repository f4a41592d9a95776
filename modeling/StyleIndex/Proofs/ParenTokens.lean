/-
The parentheses of a line, each seen once and with its name.

A parenthesis is written as the name of a call and `(`, as `(` alone, or as `)` (`Paren.Written`). `Searched` is the search
for them from the left: the leftmost place where one is written is taken, and the search goes on behind it. `parens` is what
that search finds in a line whose quoted spans are hidden (`searched_iff`). The second reading needs no search: `parenAt`
says from its place what a parenthesis is, and `parens` lists the places in order (`parensFrom_eq`).

So a name that is tried and not followed by `(` never hides a parenthesis, and the balance of a line counts all parentheses
outside quoted spans (`excess_balance`).
-/
import Mathlib.Data.List.TakeWhile
import Mathlib.Tactic
import StyleIndex.Cursor.Calls
import StyleIndex.Proofs.Leftmost
import StyleIndex.Proofs.Quotes
import StyleIndex.Text.Blank

namespace StyleIndex.Cursor

/-! ## How a parenthesis is written -/

/-- a character that the name of a call starts with -/
def isCallStart (c : Char) : Bool :=
  c.isAlpha || c = '_' || c = '$'

/-- how a parenthesis is written: a call as its name and the parenthesis, a grouping and a closer as the parenthesis alone -/
inductive Paren.Written : Paren → List Char → Prop where
  | call {first : Char} {more : List Char} : isCallStart first = true → (∀ c ∈ more, isCallChar c = true) →
      Written (.opening (some (String.ofList (first :: more)))) (first :: more ++ ['('])
  | grouping : Written (.opening none) ['(']
  | closing : Written .closing [')']

/-- a parenthesis is written at the start of a text -/
def BeginsParen (text : List Char) : Prop :=
  ∃ paren written after, Paren.Written paren written ∧ text = written ++ after

/-- the parentheses that a search from the left finds, each behind the one before -/
inductive Searched : List Char → List Paren → Prop where
  | done {text : List Char} : (∀ part, part <:+ text → ¬ BeginsParen part) → Searched text []
  | found {text before written after : List Char} {paren : Paren} {parens : List Paren} :
      Leftmost BeginsParen text before (written ++ after) → paren.Written written → Searched after parens →
      Searched text (paren :: parens)

/-- the parenthesis that a run of name characters and the mark behind it make -/
def parenOf (run : List Char) (mark : Char) : Paren :=
  if mark = '(' then .opening (callName? run) else .closing

theorem isCallChar_of_isCallStart {c : Char} (h : isCallStart c = true) : isCallChar c = true := by
  simp only [isCallStart, isCallChar, Char.isAlphanum, Bool.or_eq_true] at h ⊢
  tauto

theorem isDigit_of_isCallStart {c : Char} (h : isCallStart c = true) : c.isDigit = false := by
  have hclass : c.isAlpha = true ∨ c = '_' ∨ c = '$' := by simpa [isCallStart, or_assoc] using h
  rcases hclass with hclass | rfl | rfl
  · have hletter : (decide (65 ≤ c.val ∧ c.val ≤ 90) || (decide (97 ≤ c.val) && decide (c.val ≤ 122))) = true := hclass
    change (decide (48 ≤ c.val) && decide (c.val ≤ 57)) = false
    simp only [Bool.or_eq_true, Bool.and_eq_true, decide_eq_true_eq, UInt32.le_iff_toNat_le] at hletter
    simp only [Bool.and_eq_false_iff, decide_eq_false_iff_not, UInt32.le_iff_toNat_le]
    change (65 ≤ c.toNat ∧ c.toNat ≤ 90) ∨ 97 ≤ c.toNat ∧ c.toNat ≤ 122 at hletter
    change ¬ 48 ≤ c.toNat ∨ ¬ c.toNat ≤ 57
    omega
  · rfl
  · rfl

theorem isCallStart_of_isCallChar {c : Char} (h : isCallChar c = true) (hdigit : c.isDigit = false) :
    isCallStart c = true := by
  simpa [isCallStart, isCallChar, Char.isAlphanum, hdigit] using h

/-- what a written parenthesis consists of: a run of name characters, empty unless a call is written, and a mark -/
structure Paren.Parts (paren : Paren) (run : List Char) (mark : Char) : Prop where
  chars : ∀ c ∈ run, isCallChar c = true
  ends : mark = '(' ∨ mark = ')' ∧ run = []
  eq : paren = parenOf run mark

theorem Paren.Parts.isCallChar_mark {paren : Paren} {run : List Char} {mark : Char} (h : paren.Parts run mark) :
    isCallChar mark = false := by
  rcases h.ends with rfl | ⟨rfl, _⟩ <;> rfl

theorem Paren.Written.parts {paren : Paren} {written : List Char} (h : paren.Written written) :
    ∃ run mark, written = run ++ [mark] ∧ paren.Parts run mark := by
  cases h with
  | @call first more hfirst hmore =>
    refine ⟨first :: more, '(', rfl, ⟨?_, Or.inl rfl, ?_⟩⟩
    · intro c hc
      rcases List.mem_cons.1 hc with rfl | hc
      · exact isCallChar_of_isCallStart hfirst
      · exact hmore c hc
    · have hname : (first :: more).dropWhile Char.isDigit = first :: more := by
        rw [List.dropWhile_cons_of_neg (by simp [isDigit_of_isCallStart hfirst])]
      rw [parenOf, if_pos rfl, callName?, hname]
  | grouping => exact ⟨[], '(', rfl, by simp, Or.inl rfl, rfl⟩
  | closing => exact ⟨[], ')', rfl, by simp, Or.inr ⟨rfl, rfl⟩, rfl⟩

/-- The run before a mark is what its characters are. -/
theorem cut_unique {run run' rest rest' : List Char} {mark mark' : Char} (hrun : ∀ c ∈ run, isCallChar c = true)
    (hrun' : ∀ c ∈ run', isCallChar c = true) (hmark : isCallChar mark = false) (hmark' : isCallChar mark' = false)
    (h : run ++ mark :: rest = run' ++ mark' :: rest') : run = run' ∧ mark = mark' ∧ rest = rest' := by
  have hhead : ∀ {mark : Char} {rest : List Char}, isCallChar mark = false →
      ∀ c, (mark :: rest).head? = some c → isCallChar c = false := by
    intro mark rest hmark c hc
    rwa [← Option.some.inj hc]
  have heq : run = run' := by
    calc run
        = (run ++ mark :: rest).takeWhile isCallChar := (Text.takeWhile_append_eq_left hrun (hhead hmark)).symm
      _ = (run' ++ mark' :: rest').takeWhile isCallChar := by rw [h]
      _ = run' := Text.takeWhile_append_eq_left hrun' (hhead hmark')
  subst heq
  exact ⟨rfl, List.cons.inj (List.append_cancel_left h)⟩

/-- **A text begins with at most one parenthesis.** -/
theorem Paren.Written.unique {paren paren' : Paren} {written written' after after' : List Char}
    (h : paren.Written written) (h' : paren'.Written written') (heq : written ++ after = written' ++ after') :
    paren = paren' ∧ after = after' := by
  obtain ⟨run, mark, rfl, hparts⟩ := h.parts
  obtain ⟨run', mark', rfl, hparts'⟩ := h'.parts
  rw [List.append_assoc, List.append_assoc] at heq
  obtain ⟨rfl, rfl, rfl⟩ :=
    cut_unique hparts.chars hparts'.chars hparts.isCallChar_mark hparts'.isCallChar_mark heq
  exact ⟨hparts.eq.trans hparts'.eq.symm, rfl⟩

/-- The first mark behind the start of a parenthesis opens, or closes right there. -/
theorem BeginsParen.cut {run rest : List Char} {mark : Char} (h : BeginsParen (run ++ mark :: rest))
    (hrun : ∀ c ∈ run, isCallChar c = true) (hmark : isCallChar mark = false) :
    mark = '(' ∨ mark = ')' ∧ run = [] := by
  obtain ⟨paren, written, after, hwritten, heq⟩ := h
  obtain ⟨run', mark', rfl, hparts⟩ := hwritten.parts
  rw [List.append_assoc] at heq
  obtain ⟨rfl, rfl, rfl⟩ := cut_unique hrun hparts.chars hmark hparts.isCallChar_mark heq
  exact hparts.ends

theorem not_beginsParen_of_chars {text : List Char} (h : ∀ c ∈ text, isCallChar c = true) : ¬ BeginsParen text := by
  intro hbegins
  rcases hbegins with ⟨paren, written, after, hwritten, rfl⟩
  obtain ⟨run, mark, rfl, hparts⟩ := hwritten.parts
  have hmark := h mark (by simp)
  rw [hparts.isCallChar_mark] at hmark
  cases hmark

theorem not_beginsParen_of_digit {c : Char} (h : c.isDigit = true) (rest : List Char) : ¬ BeginsParen (c :: rest) := by
  intro hbegins
  rcases hbegins with ⟨paren, written, after, hwritten, heq⟩
  cases hwritten with
  | call hfirst _ =>
    obtain ⟨rfl, _⟩ := List.cons.inj heq
    rw [isDigit_of_isCallStart hfirst] at h
    cases h
  | grouping =>
    obtain ⟨rfl, _⟩ := List.cons.inj heq
    cases h
  | closing =>
    obtain ⟨rfl, _⟩ := List.cons.inj heq
    cases h

/-! ## The search -/

theorem Searched.unique {text : List Char} {parens parens' : List Paren} (h : Searched text parens)
    (h' : Searched text parens') : parens = parens' := by
  induction h generalizing parens' with
  | done hnone =>
    cases h' with
    | done => rfl
    | found hleftmost => exact absurd hleftmost.stands (hnone _ hleftmost.isSuffix)
  | found hleftmost hwritten _ ih =>
    cases h' with
    | done hnone => exact absurd hleftmost.stands (hnone _ hleftmost.isSuffix)
    | found hleftmost' hwritten' hafter' =>
      obtain ⟨rfl, rfl⟩ := hwritten.unique hwritten' (hleftmost.unique hleftmost').2
      rw [ih hafter']

/-- A search that passes over a text goes on behind it. -/
theorem Searched.skip {skipped text : List Char} {parens : List Paren} (h : Searched text parens)
    (hskipped : ∀ part, part <:+ skipped → part ≠ [] → ¬ BeginsParen (part ++ text)) :
    Searched (skipped ++ text) parens := by
  cases h with
  | done hnone =>
    refine .done fun part hpart => ?_
    rcases suffix_append_cases hpart with hshort | ⟨start, hstart, hne, rfl⟩
    · exact hnone part hshort
    · exact hskipped start hstart hne
  | found hleftmost hwritten hafter => exact .found (hleftmost.skip hskipped) hwritten hafter

/-- A call's name is written without the digits that its run starts with. -/
theorem written_callName? {run : List Char} (hrun : ∀ c ∈ run, isCallChar c = true) :
    (Paren.opening (callName? run)).Written (run.dropWhile Char.isDigit ++ ['(']) := by
  have hname : ∀ c ∈ run.dropWhile Char.isDigit, isCallChar c = true :=
    fun c hc => hrun c ((List.dropWhile_suffix _).subset hc)
  rw [callName?]
  cases hdrop : run.dropWhile Char.isDigit with
  | nil => exact .grouping
  | cons first more =>
    have hdigit := List.head?_dropWhile_not Char.isDigit run
    rw [hdrop] at hdigit hname
    exact .call (isCallStart_of_isCallChar (hname first (by simp)) hdigit) fun c hc => hname c (by simp [hc])

/-- A search that finds a parenthesis at the start goes on behind it. -/
theorem Searched.cons {paren : Paren} {written after : List Char} {parens : List Paren} (hwritten : paren.Written written)
    (h : Searched after parens) : Searched (written ++ after) (paren :: parens) :=
  .found (.of_stands ⟨paren, written, after, hwritten, rfl⟩) hwritten h

/-- **The search finds what the scan lists.** -/
theorem searched_parensFrom (text run : List Char) (hrun : ∀ c ∈ run.reverse, isCallChar c = true) :
    Searched (run.reverse ++ text) (parensFrom run text) := by
  induction text generalizing run with
  | nil =>
    refine .done fun part hpart => not_beginsParen_of_chars fun c hc => hrun c ?_
    simpa using hpart.subset hc
  | cons c text ih =>
    have hbehind : Searched text (parensFrom [] text) := ih [] (by simp)
    have hpart : ∀ part, part <:+ run.reverse → ∀ d ∈ part, isCallChar d = true :=
      fun part hpart d hd => hrun d (hpart.subset hd)
    rw [parensFrom]
    split_ifs with hopen hclose hchar
    · -- the digits at the start of the run are passed over
      subst hopen
      have hsplit : run.reverse ++ '(' :: text =
          run.reverse.takeWhile Char.isDigit ++ ((run.reverse.dropWhile Char.isDigit ++ ['(']) ++ text) := by
        rw [← List.append_assoc, ← List.append_assoc, List.takeWhile_append_dropWhile, List.append_assoc]
        rfl
      rw [hsplit]
      refine (Searched.cons (written_callName? hrun) hbehind).skip fun part hpart hne => ?_
      cases part with
      | nil => exact absurd rfl hne
      | cons d part =>
        exact not_beginsParen_of_digit (List.mem_takeWhile_imp (hpart.subset List.mem_cons_self)) _
    · -- the whole run is passed over, since no parenthesis that opens follows it
      subst hclose
      refine (Searched.cons .closing hbehind).skip fun part hsuffix hne hbegins => ?_
      rcases hbegins.cut (hpart part hsuffix) rfl with habsurd | ⟨_, hnil⟩
      · cases habsurd
      · exact hne hnil
    · simpa using ih (c :: run) (by simpa [or_imp, forall_and, hchar] using hrun)
    · have hsplit : run.reverse ++ c :: text = (run.reverse ++ [c]) ++ text := by simp
      rw [hsplit]
      refine hbehind.skip fun part hsuffix hne hbegins => ?_
      rcases List.suffix_concat_iff.1 hsuffix with hnil | ⟨front, rfl, hfront⟩
      · exact hne hnil
      · rw [List.append_assoc] at hbegins
        rcases hbegins.cut (hpart front hfront) (by simpa using hchar) with habsurd | ⟨habsurd, _⟩
        · exact hopen habsurd
        · exact hclose habsurd

theorem searched_iff {text : List Char} {found : List Paren} : Searched text found ↔ found = parensFrom [] text := by
  have hsearched : Searched text (parensFrom [] text) := searched_parensFrom text [] (by simp)
  constructor
  · intro h
    exact h.unique hsearched
  · intro h
    rw [h]
    exact hsearched

/-! ## Places -/

def isParen (c : Char) : Bool :=
  c = '(' || c = ')'

/-- the parenthesis at a place of a text: the name of an opening one is the longest run of name characters directly before
it, less the digits the run starts with -/
def parenAt (text : List Char) (i : Nat) : Paren :=
  let name := (Text.takeTrailing isCallChar (text.take i)).dropWhile Char.isDigit
  if text[i]? = some '(' then .opening (if name.isEmpty then none else some (String.ofList name)) else .closing

theorem callName?_eq (run : List Char) :
    callName? run =
      if (run.dropWhile Char.isDigit).isEmpty then none else some (String.ofList (run.dropWhile Char.isDigit)) := by
  rw [callName?]
  cases run.dropWhile Char.isDigit <;> rfl

/-- The mark behind a text, seen from its place. -/
theorem parenAt_length (before after : List Char) (mark : Char) :
    parenAt (before ++ mark :: after) before.length = parenOf (Text.takeTrailing isCallChar before) mark := by
  simp [parenAt, parenOf, callName?_eq]

/-- **One step of the scan**: a parenthesis is listed, and the run goes on over name characters only. -/
theorem parensFrom_cons (run text : List Char) (c : Char) :
    parensFrom run (c :: text) =
      (if isParen c then [parenOf run.reverse c] else []) ++ parensFrom (if isCallChar c then c :: run else []) text := by
  by_cases hopen : c = '('
  · subst hopen
    rfl
  · by_cases hclose : c = ')'
    · subst hclose
      rfl
    · by_cases hchar : isCallChar c = true <;> simp [parensFrom, isParen, hopen, hclose, hchar]

/-- **The scan lists the places of a text in order.** The run it carries is the one that ends the text before. -/
theorem parensFrom_eq (before text : List Char) :
    parensFrom (Text.takeTrailing isCallChar before).reverse text =
      (text.findIdxs isParen before.length).map (parenAt (before ++ text)) := by
  induction text generalizing before with
  | nil => rfl
  | cons c text ih =>
    have hrun : (Text.takeTrailing isCallChar (before ++ [c])).reverse =
        if isCallChar c then c :: (Text.takeTrailing isCallChar before).reverse else [] := by
      simp only [Text.takeTrailing, List.reverse_reverse, List.reverse_append, List.reverse_singleton, List.singleton_append,
        List.takeWhile_cons]
    have hbehind := ih (before ++ [c])
    rw [hrun, List.append_assoc, List.singleton_append, List.length_append, List.length_singleton] at hbehind
    rw [parensFrom_cons, hbehind, List.reverse_reverse, List.findIdxs_cons]
    split_ifs with hparen
    · rw [List.map_cons, parenAt_length, List.singleton_append]
    · rw [List.nil_append]

/-- the places of a text outside its quoted spans where a character of a kind stands -/
def placesOutside (p : Char → Bool) (text : List Char) : List Nat :=
  (text.findIdxs p).filter fun i => (openQuote? (text.take i)).isNone

theorem placesOutside_snoc (p : Char → Bool) (text : List Char) (c : Char) :
    placesOutside p (text ++ [c]) =
      placesOutside p text ++ if p c && (openQuote? text).isNone then [text.length] else [] := by
  have hbefore : ∀ i ∈ text.findIdxs p,
      (openQuote? ((text ++ [c]).take i)).isNone = (openQuote? (text.take i)).isNone := by
    intro i hi
    have hlt : i < text.length := by simpa using List.lt_add_of_mem_findIdxs i hi
    rw [List.take_append_of_le_length hlt.le]
  rw [placesOutside, List.findIdxs_append, List.filter_append, List.filter_congr hbefore, placesOutside]
  congr 1
  by_cases hc : p c = true <;> simp [List.findIdxs_cons, hc, List.filter_cons]

/-- **What blanking leaves of a kind of characters stands outside quoted spans.** -/
theorem findIdxs_blankQuoted {p : Char → Bool} (hblank : p ' ' = false) (hquotes : p '"' = false ∧ p '\'' = false)
    (text : List Char) : (blankQuoted text).findIdxs p = placesOutside p text := by
  have hquote : ∀ c, isQuote c = true → p c = false := by
    intro c hc
    rcases (by simpa [isQuote] using hc : c = '"' ∨ c = '\'') with rfl | rfl
    · exact hquotes.1
    · exact hquotes.2
  induction text using List.reverseRecOn with
  | nil => rfl
  | append_singleton text c ih =>
    rw [blankQuoted_snoc (fun _ => 1), List.findIdxs_append, ih, placesOutside_snoc, openQuote?_eq, Option.isNone_map,
      length_blankQuoted]
    congr 1
    cases hopened : (QuoteScan.behind (fun _ => 1) text).opened with
    | some span => simp [QuoteScan.shows, hopened, hblank]
    | none =>
      by_cases hc : isQuote c = true
      · simp [QuoteScan.shows, hopened, hc, hblank, hquote c hc]
      · simp [QuoteScan.shows, hopened, hc]

/-! ## The balance of a line -/

/-- what a parenthesis adds to the number of open ones -/
def Paren.weight : Paren → Int
  | .opening _ => 1
  | .closing => -1

theorem sum_weight_parensFrom (run text : List Char) :
    ((parensFrom run text).map Paren.weight).sum = text.count '(' - text.count ')' := by
  induction text generalizing run with
  | nil => rfl
  | cons c text ih =>
    rw [parensFrom_cons, List.map_append, List.sum_append, ih, List.count_cons, List.count_cons]
    by_cases hopen : c = '('
    · subst hopen
      simp [isParen, parenOf, Paren.weight]
      omega
    · by_cases hclose : c = ')'
      · subst hclose
        simp [isParen, parenOf, Paren.weight]
        omega
      · simp [isParen, hopen, hclose]

namespace LineParens

/-- how many more parentheses a line opens than it closes -/
def excess (line : LineParens) : Int :=
  line.opens.length - line.closes

theorem excess_push (line : LineParens) (paren : Paren) : (line.push paren).excess = line.excess + paren.weight := by
  rcases line with ⟨opens, closes⟩
  cases paren with
  | opening call =>
    simp only [push, excess, Paren.weight, List.length_cons]
    omega
  | closing =>
    cases opens with
    | nil =>
      simp only [push, excess, Paren.weight]
      omega
    | cons call opens =>
      simp only [push, excess, Paren.weight, List.length_cons]
      omega

theorem excess_foldl_push (line : LineParens) (parens : List Paren) :
    (parens.foldl push line).excess = line.excess + (parens.map Paren.weight).sum := by
  induction parens generalizing line with
  | nil => simp
  | cons paren parens ih =>
    rw [List.foldl_cons, ih, excess_push, List.map_cons, List.sum_cons]
    omega

theorem excess_balance (text : List Char) :
    (balance text).excess = (blankQuoted text).count '(' - (blankQuoted text).count ')' := by
  rw [balance, excess_foldl_push, parens, sum_weight_parensFrom]
  simp [excess]

end LineParens

theorem count_blankQuoted {c : Char} (hblank : c ≠ ' ') (hquotes : c ≠ '"' ∧ c ≠ '\'') (text : List Char) :
    (blankQuoted text).count c = (placesOutside (· == c) text).length := by
  have hplaces : (blankQuoted text).findIdxs (· == c) = placesOutside (· == c) text :=
    findIdxs_blankQuoted (by simpa using hblank.symm) (by simpa using ⟨hquotes.1.symm, hquotes.2.symm⟩) text
  rw [← hplaces, List.length_findIdxs, List.count]

/-- **Every parenthesis is seen once, with its name.**
- The search from the left over the line whose quoted spans are hidden finds `parens`, and nothing else.
- They are one for each parenthesis of that line, in the order of their places, and those places are the ones of the
  parentheses of the line itself that stand outside quoted spans. An opening one has the longest run of name characters
  before it as its name, less the digits it starts with, or none.
- Their balance leaves as many more open than unmatched closers as the line has more opening than closing parentheses
  outside quoted spans. -/
theorem parens_seen_once (text : List Char) :
    let cleaned := blankQuoted text
    (∀ found, Searched cleaned found ↔ found = parens text) ∧
    parens text = (cleaned.findIdxs isParen).map (parenAt cleaned) ∧
    cleaned.findIdxs isParen = placesOutside isParen text ∧
    LineParens.balance text = ((cleaned.findIdxs isParen).map (parenAt cleaned)).foldl LineParens.push ⟨[], 0⟩ ∧
    ((LineParens.balance text).opens.length : Int) - (LineParens.balance text).closes =
      cleaned.count '(' - cleaned.count ')' ∧
    cleaned.count '(' = (placesOutside (· == '(') text).length ∧
    cleaned.count ')' = (placesOutside (· == ')') text).length := by
  intro cleaned
  have hplaces : parens text = (cleaned.findIdxs isParen).map (parenAt cleaned) := parensFrom_eq [] cleaned
  refine ⟨fun found => searched_iff, hplaces, ?_, ?_, LineParens.excess_balance text, ?_, ?_⟩
  · exact findIdxs_blankQuoted (by decide) (by decide) text
  · rw [← hplaces, LineParens.balance]
  · exact count_blankQuoted (by decide) (by decide) text
  · exact count_blankQuoted (by decide) (by decide) text

/-- A name behind digits, a grouping behind a blank, a parenthesis in a quoted span and a closer too many. -/
example : parens "9a$1(é-x (')'b))) (".toList =
    [.opening (some "a$1"), .opening none, .closing, .closing, .closing, .opening none] := by
  decide

end StyleIndex.Cursor
