/-
The values that write a settings layer.

A client sends its settings as a JSON value. Which values write which patch is said here without the decoder: one relation
for each type that a field can have (`WritesBool` to `WritesNesting`) and one for each record (`WritesSource`,
`WritesContext`, `WritesPatch`). A record is a table, in which unknown keys do not matter, or the list of all its fields in
order; a field that is absent is left out or null. The whole stands under a key of its own or is all that the client sent
(`Json.Holds`).

Decoding reads exactly these values: every decoder has one law, from `bool?_eq_some_iff` up to `patch?_eq_some_iff`. A record
is read only if each of its fields can be, so one value of a wrong type leaves nothing of a layer
(`patch?_eq_none_of_field`, `patch?_eq_none_of_record`). `client_settings_decode` puts both together.
-/
import Mathlib.Tactic
import StyleIndex.Proofs.Entries
import StyleIndex.Proofs.Settings

namespace StyleIndex

/-! ## Written values -/

/-- the name under which settings ask for a way to resolve nested calls -/
def Nesting.name : Nesting → String
  | .innermost => "innermost"
  | .depthOne => "depthOne"

namespace Json

/-- a truth value -/
def WritesBool (v : Json) (b : Bool) : Prop :=
  v = .bool b

/-- the list of some texts -/
def WritesTexts (v : Json) (texts : List String) : Prop :=
  v = .arr (texts.map .str)

/-- a list of the members of a set, in any order and each as often as one likes; the set itself is held in order -/
def WritesNames (v : Json) (names : List String) : Prop :=
  names.Pairwise (· < ·) ∧ ∃ texts, v.WritesTexts texts ∧ ∀ name, name ∈ names ↔ name ∈ texts

/-- a natural number of at most 64 bits -/
def WritesCount (v : Json) (n : Nat) : Prop :=
  v = .int n ∧ n < 2 ^ 64

/-- the name of a choice, alone or as the only key of a table without a value -/
def WritesNesting (v : Json) (nesting : Nesting) : Prop :=
  v = .str nesting.name ∨ v = .obj [(nesting.name, .null)]

/-- what stands in the place of a field; if the field is absent, there is nothing or null -/
inductive WritesOptional {α : Type} (writes : Json → α → Prop) : Option Json → Option α → Prop where
  | omitted : WritesOptional writes none none
  | null : WritesOptional writes (some .null) none
  | given {v : Json} {x : α} (h : writes v x) : WritesOptional writes (some v) (some x)

/-- what stands in the place of a field of a record: in a table under its key, in a list at its index -/
def slot? (key : Key) : Json → Option Json
  | .obj entries => entries.lookup key.1
  | .arr items => items[key.2]?
  | _ => none

/-- a table, or a list of as many values as a record has fields -/
def IsRecord (size : Nat) : Json → Prop
  | .obj _ => True
  | .arr items => items.length = size
  | _ => False

/-- a record of what a patch changes about one kind of symbol -/
@[mk_iff] structure WritesSource (tree : Json) (p : SourcePatch) : Prop where
  record : tree.IsRecord 3
  enabled : WritesOptional WritesBool (tree.slot? ("enabled", 0)) p.enabled
  extensions : WritesOptional WritesTexts (tree.slot? ("extensions", 1)) p.extensions
  languages : WritesOptional WritesTexts (tree.slot? ("languages", 2)) p.languages

/-- a record of what a patch changes about the rules for the cursor -/
@[mk_iff] structure WritesContext (tree : Json) (p : ContextPatch) : Prop where
  record : tree.IsRecord 5
  requireQuote : WritesOptional WritesBool (tree.slot? ("requireQuote", 0)) p.requireQuote
  attributes : WritesOptional WritesNames (tree.slot? ("attributeNames", 1)) p.attributes
  functions : WritesOptional WritesNames (tree.slot? ("functionNames", 2)) p.functions
  lookback : WritesOptional WritesCount (tree.slot? ("lookbackLines", 3)) p.lookback
  nesting : WritesOptional WritesNesting (tree.slot? ("nesting", 4)) p.nesting

/-- a record of a whole patch -/
@[mk_iff] structure WritesPatch (tree : Json) (p : Patch) : Prop where
  record : tree.IsRecord 5
  classNames : WritesOptional WritesSource (tree.slot? ("classNames", 0)) p.classNames
  mixins : WritesOptional WritesSource (tree.slot? ("mixins", 1)) p.mixins
  context : WritesOptional WritesContext (tree.slot? ("context", 2)) p.context
  exclude : WritesOptional WritesTexts (tree.slot? ("exclude", 3)) p.exclude
  replaceTyped : WritesOptional WritesBool (tree.slot? ("replaceTypedPrefix", 4)) p.replaceTyped

/-- where a client puts the settings of this server: under a key of their own, or they are all that it sends -/
inductive Holds : Json → Json → Prop where
  | nested {entries : List (String × Json)} {tree : Json} (h : entries.lookup "classy" = some tree) :
      Holds (.obj entries) tree
  | whole {tree : Json} (h : tree.get? "classy" = none) : Holds tree tree

end Json

/-- a value that a field can be written as -/
def Field.Writes : (f : Field) → Json → f.Value → Prop
  | .enabled _ | .requireQuote | .replaceTyped => Json.WritesBool
  | .extensions _ | .languages _ | .exclude => Json.WritesTexts
  | .attributes | .functions => Json.WritesNames
  | .lookback => Json.WritesCount
  | .nesting => Json.WritesNesting

/-! ## Sets of names -/

theorem eraseDups_sublist {α : Type} [BEq α] [LawfulBEq α] (l : List α) : l.eraseDups.Sublist l := by
  induction l using List.reverseRecOn with
  | nil => exact List.Sublist.slnil
  | append_singleton l a ih =>
    rw [List.eraseDups_append]
    refine ih.append ?_
    by_cases ha : a ∈ l
    · simp [List.removeAll, ha]
    · simp [List.removeAll, ha, List.eraseDups_cons]

theorem mem_nameSet_iff (texts : List String) (name : String) : name ∈ nameSet texts ↔ name ∈ texts := by
  rw [nameSet, List.mem_eraseDups, List.mem_mergeSort]

theorem pairwise_nameSet (texts : List String) : (nameSet texts).Pairwise (· < ·) := by
  have hsorted : (texts.mergeSort fun a b => decide (a ≤ b)).Pairwise fun a b => decide (a ≤ b) = true := by
    refine List.pairwise_mergeSort ?_ ?_ texts
    · intro a b c hab hbc
      exact decide_eq_true (String.le_trans (of_decide_eq_true hab) (of_decide_eq_true hbc))
    · intro a b
      simpa using String.le_total a b
  have hdistinct : (nameSet texts).Pairwise (· ≠ ·) := Registry.nodup_eraseDups _
  refine ((hsorted.sublist (eraseDups_sublist _)).and hdistinct).imp ?_
  rintro a b ⟨hle, hne⟩
  exact Std.lt_of_le_of_ne (of_decide_eq_true hle) hne

/-- The set of some names is the increasing list with the same members. -/
theorem nameSet_eq_iff (texts names : List String) :
    nameSet texts = names ↔ names.Pairwise (· < ·) ∧ ∀ name, name ∈ names ↔ name ∈ texts := by
  constructor
  · rintro rfl
    exact ⟨pairwise_nameSet texts, mem_nameSet_iff texts⟩
  · rintro ⟨hsorted, hmem⟩
    have hirrefl : Std.Irrefl fun a b : String => a < b := ⟨String.lt_irrefl⟩
    have hantisymm : Std.Antisymm fun a b : String => a < b := ⟨fun _ _ hab hba => absurd hba (String.lt_asymm hab)⟩
    refine (pairwise_nameSet texts).eq_of_mem_iff hsorted fun name => ?_
    rw [mem_nameSet_iff, hmem]

/-! ## Decoders of values -/

namespace Decode

theorem bool?_eq_some_iff (v : Json) (b : Bool) : v.bool? = some b ↔ v.WritesBool b := by
  unfold Json.WritesBool
  cases v <;> simp [Json.bool?]

theorem mapM_str?_eq_some_iff (items : List Json) (texts : List String) :
    items.mapM Json.str? = some texts ↔ items = texts.map .str := by
  induction items generalizing texts with
  | nil => cases texts <;> simp
  | cons item items ih =>
    cases item with
    | str s =>
      have hrest : (Json.str s :: items).mapM Json.str? = (items.mapM Json.str?).map (s :: ·) := by
        rw [List.mapM_cons]
        cases items.mapM Json.str? <;> rfl
      rw [hrest, Option.map_eq_some_iff]
      cases texts with
      | nil => simp
      | cons text texts => simp [ih, and_comm]
    | null | bool | int | real | arr | obj => cases texts <;> simp [Json.str?]

theorem strings?_eq_some_iff (v : Json) (texts : List String) : strings? v = some texts ↔ v.WritesTexts texts := by
  unfold Json.WritesTexts
  cases v with
  | arr items =>
    rw [strings?, mapM_str?_eq_some_iff, Json.arr.injEq]
  | null | bool | int | real | str | obj => simp [strings?]

theorem names?_eq_some_iff (v : Json) (names : List String) : names? v = some names ↔ v.WritesNames names := by
  rw [names?, Option.map_eq_some_iff]
  simp only [strings?_eq_some_iff, nameSet_eq_iff]
  constructor
  · rintro ⟨texts, htexts, hsorted, hmem⟩
    exact ⟨hsorted, texts, htexts, hmem⟩
  · rintro ⟨hsorted, texts, htexts, hmem⟩
    exact ⟨texts, htexts, hsorted, hmem⟩

theorem count?_eq_some_iff (v : Json) (n : Nat) : count? v = some n ↔ v.WritesCount n := by
  unfold Json.WritesCount
  cases v with
  | int i =>
    cases i with
    | ofNat m =>
      rw [count?, Option.ite_none_right_eq_some, Option.some.injEq, Json.int.injEq, Int.ofNat_eq_natCast, Int.natCast_inj]
      constructor
      · rintro ⟨hlt, rfl⟩
        exact ⟨rfl, hlt⟩
      · rintro ⟨rfl, hlt⟩
        exact ⟨hlt, rfl⟩
    | negSucc m =>
      have hne : Int.negSucc m ≠ (n : Int) := by omega
      simp [count?, hne]
  | null | bool | real | str | arr | obj => simp [count?]

theorem nestingOfName?_eq_some_iff (name : String) (nesting : Nesting) :
    nestingOfName? name = some nesting ↔ name = nesting.name := by
  unfold nestingOfName?
  split_ifs with hinner hdepth
  · subst hinner
    cases nesting <;> decide
  · subst hdepth
    cases nesting <;> decide
  · cases nesting
    · simp [Nesting.name, hinner]
    · simp [Nesting.name, hdepth]

theorem isUnit_client_iff (payload : Json) : client.isUnit payload = true ↔ payload = .null := by
  cases payload <;> simp [client]

theorem nesting?_eq_some_iff (v : Json) (nesting : Nesting) :
    nesting? client v = some nesting ↔ v.WritesNesting nesting := by
  unfold Json.WritesNesting
  match v with
  | .str name => simp [nesting?, nestingOfName?_eq_some_iff]
  | .obj [(name, payload)] =>
    rw [nesting?, Option.ite_none_right_eq_some, nestingOfName?_eq_some_iff, isUnit_client_iff]
    simp [and_comm]
  | .obj [] => simp [nesting?]
  | .obj (_ :: _ :: _) => simp [nesting?]
  | .null | .bool _ | .int _ | .real _ | .arr _ => simp [nesting?]

/-- A field is read from the values that write it. -/
theorem read?_eq_some_iff (f : Field) (v : Json) (x : f.Value) : f.read? client v = some x ↔ f.Writes v x := by
  cases f with
  | enabled | requireQuote | replaceTyped => exact bool?_eq_some_iff v x
  | extensions | languages | exclude => exact strings?_eq_some_iff v x
  | attributes | functions => exact names?_eq_some_iff v x
  | lookback => exact count?_eq_some_iff v x
  | nesting => exact nesting?_eq_some_iff v x

/-! ## Decoders of records -/

theorem isRecord_client_iff (size : Nat) (tree : Json) : tree.isRecord client size = true ↔ tree.IsRecord size := by
  cases tree with
  | arr items =>
    simp only [Json.isRecord, Json.IsRecord, client, Bool.not_true, Bool.false_or, Bool.and_eq_true, decide_eq_true_eq]
    omega
  | null | bool | int | real | str | obj => simp [Json.isRecord, Json.IsRecord]

theorem part?_eq_slot? (key : Key) (tree : Json) : tree.part? key = (tree.slot? key).bind nonNull := by
  cases tree <;> rfl

theorem nonNull_of_ne {v : Json} (h : v ≠ .null) : nonNull v = some v := by
  cases v with
  | null => exact absurd rfl h
  | bool | int | real | str | arr | obj => rfl

/-- What an optional field is read from, given what its type is read from. -/
theorem optional_iff {α : Type} {decode : Json → Option α} {writes : Json → α → Prop}
    (hdecode : ∀ v x, decode v = some x ↔ writes v x) (hnull : decode .null = none) (tree : Json) (key : Key)
    (x : Option α) :
    (isReadable decode (tree.part? key) = true ∧ (tree.part? key).bind decode = x) ↔
      Json.WritesOptional writes (tree.slot? key) x := by
  rw [part?_eq_slot?]
  cases hslot : tree.slot? key with
  | none =>
    constructor
    · rintro ⟨_, rfl⟩
      exact .omitted
    · rintro ⟨⟩
      exact ⟨rfl, rfl⟩
  | some v =>
    -- null stands for an absent field, so the type must not read it as one of its own values
    by_cases hv : v = .null
    · subst hv
      constructor
      · rintro ⟨_, rfl⟩
        exact .null
      · rintro (_ | _ | h)
        · exact ⟨rfl, rfl⟩
        · rw [← hdecode, hnull] at h
          cases h
    · rw [Option.bind_some, nonNull_of_ne hv, isReadable, Option.all_some, Option.bind_some]
      constructor
      · rintro ⟨hsome, rfl⟩
        obtain ⟨value, hvalue⟩ := Option.isSome_iff_exists.1 hsome
        rw [hvalue]
        exact .given ((hdecode v value).1 hvalue)
      · rintro (_ | _ | h)
        · exact absurd rfl hv
        · rw [(hdecode v _).2 h]
          exact ⟨rfl, rfl⟩

theorem sourcePatch?_eq_some_iff (tree : Json) (p : SourcePatch) :
    sourcePatch? client tree = some p ↔ tree.WritesSource p := by
  obtain ⟨enabled, extensions, languages⟩ := p
  rw [sourcePatch?_eq, Option.ite_none_right_eq_some, Json.writesSource_iff, ← isRecord_client_iff,
    ← optional_iff bool?_eq_some_iff rfl, ← optional_iff strings?_eq_some_iff rfl, ← optional_iff strings?_eq_some_iff rfl]
  simp only [Bool.and_eq_true, Option.some.injEq, SourcePatch.mk.injEq]
  tauto

theorem contextPatch?_eq_some_iff (tree : Json) (p : ContextPatch) :
    contextPatch? client tree = some p ↔ tree.WritesContext p := by
  obtain ⟨requireQuote, attributes, functions, lookback, nesting⟩ := p
  rw [contextPatch?_eq, Option.ite_none_right_eq_some, Json.writesContext_iff, ← isRecord_client_iff,
    ← optional_iff bool?_eq_some_iff rfl, ← optional_iff names?_eq_some_iff rfl, ← optional_iff names?_eq_some_iff rfl,
    ← optional_iff count?_eq_some_iff rfl, ← optional_iff nesting?_eq_some_iff rfl]
  simp only [Bool.and_eq_true, Option.some.injEq, ContextPatch.mk.injEq]
  tauto

/-- **Decoding reads what is written**: the patch of a value tree is the one that the tree writes. -/
theorem patch?_eq_some_iff (tree : Json) (p : Patch) : patch? client tree = some p ↔ tree.WritesPatch p := by
  obtain ⟨classNames, mixins, context, exclude, replaceTyped⟩ := p
  rw [patch?_eq, Option.ite_none_right_eq_some, isWellTyped_iff, Json.writesPatch_iff, ← isRecord_client_iff,
    ← optional_iff sourcePatch?_eq_some_iff rfl, ← optional_iff sourcePatch?_eq_some_iff rfl,
    ← optional_iff contextPatch?_eq_some_iff rfl, ← optional_iff strings?_eq_some_iff rfl,
    ← optional_iff bool?_eq_some_iff rfl]
  simp only [Option.some.injEq, Patch.mk.injEq]
  tauto

/-! ## Wrong types -/

/-- A field with a value that cannot be read leaves no patch. -/
theorem patch?_eq_none_of_field {tree : Json} (f : Field) {v : Json} (hwritten : f.written? tree = some v)
    (hwrong : ∀ x, ¬ f.Writes v x) : patch? client tree = none := by
  rw [patch?_eq, if_neg]
  intro htyped
  have hread := List.all_eq_true.1 (Bool.and_eq_true_iff.1 htyped).2 f f.mem_all
  rw [hwritten, isReadable, Option.all_some, Option.isSome_iff_exists] at hread
  obtain ⟨x, hx⟩ := hread
  exact hwrong x ((read?_eq_some_iff f v x).1 hx)

/-- A record inside a layer that is none leaves no patch. -/
theorem patch?_eq_none_of_record {tree v : Json} {r : Key × Nat} (hr : r ∈ records) (hpart : tree.part? r.1 = some v)
    (hwrong : ¬ v.IsRecord r.2) : patch? client tree = none := by
  rw [patch?_eq, if_neg]
  intro htyped
  have hrecord := List.all_eq_true.1 (Bool.and_eq_true_iff.1 (Bool.and_eq_true_iff.1 htyped).1).2 r hr
  rw [hpart, Option.all_some] at hrecord
  exact hwrong ((isRecord_client_iff r.2 v).1 hrecord)

end Decode

/-! ## Layers of a client -/

theorem Json.holds_clientSection (value : Json) : value.Holds (Decode.clientSection value) := by
  unfold Decode.clientSection
  cases value with
  | obj entries =>
    cases hlookup : (Json.obj entries).get? Decode.sectionKey with
    | none => exact .whole hlookup
    | some tree => exact .nested hlookup
  | null | bool | int | real | str | arr => exact .whole rfl

theorem Json.Holds.clientSection_eq {value tree : Json} (h : value.Holds tree) : Decode.clientSection value = tree := by
  unfold Decode.clientSection
  cases h with
  | nested hlookup =>
    rw [Json.get?, Decode.sectionKey, hlookup]
    rfl
  | whole hnone =>
    rw [Decode.sectionKey, hnone]
    rfl

theorem Layer.patch?_client (value : Json) :
    (client value).patch? = Decode.patch? Decode.client (Decode.clientSection value) := by
  cases value <;> rfl

/-- **Settings of a client are read in every shape, and as a whole or not at all.** The layer of a client is the patch that
its value writes: under a key of their own or as the whole value, with each record a table or a list. And if a field has a
value that does not write it, whether in the layer itself or in a record inside, or something stands for such a record that
is none, then there is no patch, whatever else the value holds. -/
theorem client_settings_decode (value : Json) :
    (∀ p, (Layer.client value).patch? = some p ↔ ∃ tree, value.Holds tree ∧ tree.WritesPatch p) ∧
      ∀ tree, value.Holds tree →
        (∀ (f : Field) (v : Json), f.written? tree = some v → (∀ x, ¬ f.Writes v x) →
          (Layer.client value).patch? = none) ∧
        ∀ r ∈ Decode.records, ∀ v, tree.part? r.1 = some v → ¬ v.IsRecord r.2 → (Layer.client value).patch? = none := by
  rw [Layer.patch?_client]
  refine ⟨fun p => ?_, fun tree htree => ?_⟩
  · rw [Decode.patch?_eq_some_iff]
    constructor
    · intro hwrites
      exact ⟨_, value.holds_clientSection, hwrites⟩
    · rintro ⟨tree, htree, hwrites⟩
      rw [htree.clientSection_eq]
      exact hwrites
  · rw [htree.clientSection_eq]
    refine ⟨fun f v hwritten hwrong => ?_, fun r hr v hpart hwrong => ?_⟩
    · exact Decode.patch?_eq_none_of_field f hwritten hwrong
    · exact Decode.patch?_eq_none_of_record hr hpart hwrong

/-- Records as tables and as lists in one another, and values of wrong types beside ones that are right. -/
theorem client_settings_of_mixed_shapes :
    let sent : Json := .arr [
      .obj [("extensions", .arr [.str "css"]), ("enabled", .null), ("colour", .str "red")],
      .null,
      .arr [.bool true, .arr [.str "tw", .str "class", .str "tw"], .null, .int 3, .str "depthOne"],
      .arr [],
      .bool false]
    let context (key : String) (v : Json) : Json :=
      .obj [("exclude", .arr [.str "dist"]), ("context", .obj [("requireQuote", .bool true), (key, v)])]
    (Layer.client (.obj [("editor", .int 1), ("classy", sent)])).patch? =
        some {
          classNames := some { extensions := some ["css"] }
          context := some {
            requireQuote := some true, attributes := some ["class", "tw"], lookback := some 3, nesting := some .depthOne }
          exclude := some []
          replaceTyped := some false } ∧
      (Layer.client (context "lookbackLines" (.int (-1)))).patch? = none ∧
      (Layer.client (context "lookbackLines" (.real "1.5"))).patch? = none ∧
      (Layer.client (context "functionNames" (.arr [.str "clsx", .int 1]))).patch? = none ∧
      (Layer.client (context "nesting" (.str "deepest"))).patch? = none ∧
      (Layer.client (.obj [("mixins", .arr [.bool true])])).patch? = none := by
  intro sent context
  have hwrong (f : Field) (key : String) (v : Json) (hwritten : f.written? (context key v) = some v)
      (hv : ∀ x, ¬ f.Writes v x) (hkey : (context key v).get? "classy" = none) : (Layer.client (context key v)).patch? = none :=
    ((client_settings_decode _).2 _ (.whole hkey)).1 f v hwritten hv
  refine ⟨((client_settings_decode _).1 _).2 ⟨sent, .nested rfl, ?_⟩, ?_, ?_, ?_, ?_, ?_⟩
  · have hclassNames : Json.WritesSource (.obj [("extensions", .arr [.str "css"]), ("enabled", .null), ("colour", .str "red")])
        { extensions := some ["css"] } := ⟨trivial, .null, .given rfl, .omitted⟩
    have hnames : Json.WritesNames (.arr [.str "tw", .str "class", .str "tw"]) ["class", "tw"] := by
      refine ⟨by decide, ["tw", "class", "tw"], rfl, fun name => ?_⟩
      simp only [List.mem_cons, List.not_mem_nil, or_false]
      tauto
    exact ⟨rfl, .given hclassNames, .null,
      .given ⟨rfl, .given rfl, .given hnames, .null, .given ⟨rfl, by decide⟩, .given (Or.inl rfl)⟩, .given rfl, .given rfl⟩
  · refine hwrong .lookback _ _ rfl ?_ rfl
    rintro n ⟨⟨⟩, _⟩
  · refine hwrong .lookback _ _ rfl ?_ rfl
    rintro n ⟨⟨⟩, _⟩
  · refine hwrong .functions _ _ rfl ?_ rfl
    rintro names ⟨_, texts, htexts, _⟩
    have hmem : Json.int 1 ∈ texts.map Json.str := by
      rw [← Json.arr.inj htexts]
      simp
    simp at hmem
  · refine hwrong .nesting _ _ rfl ?_ rfl
    rintro nesting (hname | hname)
    · cases nesting <;> simp [Nesting.name] at hname
    · cases hname
  · refine ((client_settings_decode _).2 _ (.whole rfl)).2 (.source .mixin, 3) (by simp [Decode.records]) _ rfl ?_
    simp [Json.IsRecord]

end StyleIndex
