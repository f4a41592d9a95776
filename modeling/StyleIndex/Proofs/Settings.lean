/-
Settings, field by field.

`Field` lists the thirteen fields that a layer can set. Each has a key, in the layer or in a record inside it, and a type
that it is read as, so what a layer says of a field can be told from its value tree alone (`Layer.field?`): nothing unless
the whole layer is well formed, and otherwise what stands under the key of the field, if anything does.

Decoding a layer comes to the same (`Decode.field?_of_patch?`), and laying a patch over settings changes the fields that
the patch has (`Settings.field_apply`). So the settings that layers resolve to have each field from the highest layer that
says something of it (`Settings.field_resolve`).

`settings_resolve_by_field` puts this together for the layers of a session. A change of the client's settings resolves
these layers anew, so nothing that a client said before stays.
-/
import Mathlib.Tactic
import StyleIndex.Proofs.Session

namespace StyleIndex

/-! ## Fields -/

/-- the fields of the settings that a layer can set -/
inductive Field where
  | enabled (kind : Kind)
  | extensions (kind : Kind)
  | languages (kind : Kind)
  | requireQuote
  | attributes
  | functions
  | lookback
  | nesting
  | exclude
  | replaceTyped
deriving DecidableEq, Repr

/-- a key of a record, with its place in a record that is written as a list -/
abbrev Key := String × Nat

namespace Key

/-- the record of a kind of symbol -/
def source : Kind → Key
  | .className => ("classNames", 0)
  | .mixin => ("mixins", 1)

/-- the record of the rules for the cursor -/
def context : Key := ("context", 2)

end Key

namespace Field

def all : List Field :=
  [.enabled .className, .extensions .className, .languages .className, .enabled .mixin, .extensions .mixin,
    .languages .mixin, .requireQuote, .attributes, .functions, .lookback, .nesting, .exclude, .replaceTyped]

theorem mem_all (f : Field) : f ∈ all := by
  cases f with
  | enabled kind | extensions kind | languages kind => cases kind <;> simp [all]
  | requireQuote | attributes | functions | lookback | nesting | exclude | replaceTyped => simp [all]

/-- what a field is -/
abbrev Value : Field → Type
  | .enabled _ | .requireQuote | .replaceTyped => Bool
  | .extensions _ | .languages _ | .attributes | .functions | .exclude => List String
  | .lookback => Nat
  | .nesting => Nesting

/-- the record inside a layer that holds a field; the last two stand in the layer itself -/
def holder? : Field → Option Key
  | .enabled kind | .extensions kind | .languages kind => some (.source kind)
  | .requireQuote | .attributes | .functions | .lookback | .nesting => some .context
  | .exclude | .replaceTyped => none

/-- the key of a field in the record that holds it -/
def key : Field → Key
  | .enabled _ => ("enabled", 0)
  | .extensions _ => ("extensions", 1)
  | .languages _ => ("languages", 2)
  | .requireQuote => ("requireQuote", 0)
  | .attributes => ("attributeNames", 1)
  | .functions => ("functionNames", 2)
  | .lookback => ("lookbackLines", 3)
  | .nesting => ("nesting", 4)
  | .exclude => ("exclude", 3)
  | .replaceTyped => ("replaceTypedPrefix", 4)

/-- how a field is read from the value that a layer writes for it -/
def read? (d : Decode.Dialect) : (f : Field) → Json → Option f.Value
  | .enabled _ | .requireQuote | .replaceTyped => Json.bool?
  | .extensions _ | .languages _ | .exclude => Decode.strings?
  | .attributes | .functions => Decode.names?
  | .lookback => Decode.count?
  | .nesting => Decode.nesting? d

end Field

/-- the value of a field -/
def Settings.field (s : Settings) : (f : Field) → f.Value
  | .enabled kind => (s.source kind).enabled
  | .extensions kind => (s.source kind).extensions
  | .languages kind => (s.source kind).languages
  | .requireQuote => s.context.requireQuote
  | .attributes => s.context.attributes
  | .functions => s.context.functions
  | .lookback => s.context.lookback
  | .nesting => s.context.nesting
  | .exclude => s.exclude
  | .replaceTyped => s.replaceTyped

/-- Settings are their fields. -/
theorem Settings.ext_field {s t : Settings} (h : ∀ f, s.field f = t.field f) : s = t := by
  obtain ⟨⟨_, _, _⟩, ⟨_, _, _⟩, ⟨_, _, _, _, _⟩, _, _⟩ := s
  obtain ⟨⟨_, _, _⟩, ⟨_, _, _⟩, ⟨_, _, _, _, _⟩, _, _⟩ := t
  simp only [mk.injEq, Source.mk.injEq, ContextRules.mk.injEq]
  exact ⟨⟨h (.enabled .className), h (.extensions .className), h (.languages .className)⟩,
    ⟨h (.enabled .mixin), h (.extensions .mixin), h (.languages .mixin)⟩,
    ⟨h .requireQuote, h .attributes, h .functions, h .lookback, h .nesting⟩, h .exclude, h .replaceTyped⟩

/-! ## Patches -/

namespace Patch

/-- what a patch changes about one kind of symbol -/
def source (p : Patch) : Kind → Option SourcePatch
  | .className => p.classNames
  | .mixin => p.mixins

/-- the value that a patch has for a field -/
def field? (p : Patch) : (f : Field) → Option f.Value
  | .enabled kind => (p.source kind).bind (·.enabled)
  | .extensions kind => (p.source kind).bind (·.extensions)
  | .languages kind => (p.source kind).bind (·.languages)
  | .requireQuote => p.context.bind (·.requireQuote)
  | .attributes => p.context.bind (·.attributes)
  | .functions => p.context.bind (·.functions)
  | .lookback => p.context.bind (·.lookback)
  | .nesting => p.context.bind (·.nesting)
  | .exclude => p.exclude
  | .replaceTyped => p.replaceTyped

end Patch

theorem Settings.source_apply (s : Settings) (p : Patch) (kind : Kind) :
    (s.apply p).source kind = (s.source kind).apply ((p.source kind).getD {}) := by
  cases kind <;> rfl

/-- A patch changes the fields that it has, and no others. -/
theorem Settings.field_apply (s : Settings) (p : Patch) (f : Field) :
    (s.apply p).field f = (p.field? f).getD (s.field f) := by
  cases f with
  | enabled kind | extensions kind | languages kind =>
    simp only [field, Patch.field?, source_apply, Source.apply]
    cases p.source kind <;> rfl
  | requireQuote | attributes | functions | lookback | nesting =>
    simp only [field, Patch.field?, apply, ContextRules.apply]
    cases p.context <;> rfl
  | exclude | replaceTyped => rfl

/-! ## Value trees -/

namespace Json

/-- the value of a key in a record; null is no value -/
def part? (key : Key) : Json → Option Json
  | .obj entries => (entries.lookup key.1).bind Decode.nonNull
  | .arr items => items[key.2]?.bind Decode.nonNull
  | _ => none

/-- a table, or a list of all fields of a record -/
def isRecord (d : Decode.Dialect) (size : Nat) : Json → Bool
  | .obj _ => true
  | .arr items => size ≤ items.length && (!d.exactLength || items.length = size)
  | _ => false

end Json

/-- what a layer writes for a field -/
def Field.written? (f : Field) (tree : Json) : Option Json :=
  (f.holder?.elim (some tree) fun holder => tree.part? holder).bind fun record => record.part? f.key

namespace Decode

/-- the value is absent or can be decoded -/
def isReadable {α : Type} (decode : Json → Option α) (value : Option Json) : Bool :=
  value.all fun v => (decode v).isSome

/-- the records inside a layer, each with the number of its fields -/
def records : List (Key × Nat) :=
  [(.source .className, 3), (.source .mixin, 3), (.context, 5)]

/-- the layer and all records in it are records, and every field that it writes has its type -/
def isWellTyped (d : Dialect) (tree : Json) : Bool :=
  tree.isRecord d 5 && (records.all fun r => (tree.part? r.1).all (Json.isRecord d r.2)) &&
    Field.all.all fun f => isReadable (f.read? d) (f.written? tree)

theorem fields?_eq (d : Dialect) (names : List String) (tree : Json) :
    fields? d names tree =
      if tree.isRecord d names.length then some (names.zipIdx.map fun key => tree.part? key) else none := by
  cases tree with
  | obj entries =>
    have hmap : (names.zipIdx.map fun key => (Json.obj entries).part? key) =
        names.map fun name => (entries.lookup name).bind nonNull := by
      rw [← List.zipIdx_map_fst 0 names, List.map_map, List.zipIdx_map_fst]
      rfl
    simp only [fields?, Json.isRecord, if_true, hmap]
  | arr items =>
    by_cases hshort : items.length < names.length
    · simp [fields?, Json.isRecord, hshort]
    · have hmap : (items.take names.length).map nonNull =
          names.zipIdx.map fun key => (Json.arr items).part? key := by
        refine List.ext_getElem? fun i => ?_
        by_cases hi : i < names.length
        · have hitem : i < items.length := by omega
          simp [Json.part?, hi, hitem]
        · simp [hi]
      have hlong : names.length ≤ items.length := by omega
      cases hexact : d.exactLength <;> simp [fields?, Json.isRecord, hshort, hmap, hlong, hexact]
  | null | bool | int | real | str => rfl

/-- A field that is absent or can be read is decoded, and the record goes on; any other makes it malformed. -/
theorem optional_bind {α β : Type} (decode : Json → Option α) (value : Option Json) (rest : Option α → Option β) :
    (optional decode value >>= rest) = if isReadable decode value then rest (value.bind decode) else none := by
  cases value with
  | none => rfl
  | some v => cases hv : decode v <;> simp [optional, isReadable, hv]

/-- A record of a kind of symbol is decoded if it is one and its fields can be read. -/
theorem sourcePatch?_eq (d : Dialect) (tree : Json) :
    sourcePatch? d tree =
      if tree.isRecord d 3 && isReadable Json.bool? (tree.part? ("enabled", 0)) &&
          isReadable strings? (tree.part? ("extensions", 1)) && isReadable strings? (tree.part? ("languages", 2)) then
        some ⟨(tree.part? ("enabled", 0)).bind Json.bool?, (tree.part? ("extensions", 1)).bind strings?,
          (tree.part? ("languages", 2)).bind strings?⟩
      else none := by
  simp only [sourcePatch?, fields?_eq, List.length_cons, List.length_nil, Nat.zero_add, Nat.reduceAdd]
  cases tree.isRecord d 3 with
  | false => rfl
  | true =>
    simp only [if_true, List.zipIdx_cons, List.zipIdx_nil, List.map_cons, List.map_nil, Nat.zero_add, Nat.reduceAdd,
      optional_bind, Bool.true_and, Bool.and_eq_true, ite_and]
    rfl

/-- The record of the rules for the cursor is decoded if it is one and its fields can be read. -/
theorem contextPatch?_eq (d : Dialect) (tree : Json) :
    contextPatch? d tree =
      if tree.isRecord d 5 && isReadable Json.bool? (tree.part? ("requireQuote", 0)) &&
          isReadable names? (tree.part? ("attributeNames", 1)) && isReadable names? (tree.part? ("functionNames", 2)) &&
          isReadable count? (tree.part? ("lookbackLines", 3)) && isReadable (nesting? d) (tree.part? ("nesting", 4)) then
        some ⟨(tree.part? ("requireQuote", 0)).bind Json.bool?, (tree.part? ("attributeNames", 1)).bind names?,
          (tree.part? ("functionNames", 2)).bind names?, (tree.part? ("lookbackLines", 3)).bind count?,
          (tree.part? ("nesting", 4)).bind (nesting? d)⟩
      else none := by
  simp only [contextPatch?, fields?_eq, List.length_cons, List.length_nil, Nat.zero_add, Nat.reduceAdd]
  cases tree.isRecord d 5 with
  | false => rfl
  | true =>
    simp only [if_true, List.zipIdx_cons, List.zipIdx_nil, List.map_cons, List.map_nil, Nat.zero_add, Nat.reduceAdd,
      optional_bind, Bool.true_and, Bool.and_eq_true, ite_and]
    rfl

theorem isReadable_sourcePatch? (d : Dialect) (value : Option Json) :
    isReadable (sourcePatch? d) value =
      (value.all (Json.isRecord d 3) && isReadable Json.bool? (value.bind fun v => v.part? ("enabled", 0)) &&
        isReadable strings? (value.bind fun v => v.part? ("extensions", 1)) &&
        isReadable strings? (value.bind fun v => v.part? ("languages", 2))) := by
  cases value with
  | none => rfl
  | some v =>
    rw [isReadable, Option.all_some, sourcePatch?_eq, Bool.eq_iff_iff]
    exact Option.isSome_ite

theorem isReadable_contextPatch? (d : Dialect) (value : Option Json) :
    isReadable (contextPatch? d) value =
      (value.all (Json.isRecord d 5) && isReadable Json.bool? (value.bind fun v => v.part? ("requireQuote", 0)) &&
        isReadable names? (value.bind fun v => v.part? ("attributeNames", 1)) &&
        isReadable names? (value.bind fun v => v.part? ("functionNames", 2)) &&
        isReadable count? (value.bind fun v => v.part? ("lookbackLines", 3)) &&
        isReadable (nesting? d) (value.bind fun v => v.part? ("nesting", 4))) := by
  cases value with
  | none => rfl
  | some v =>
    rw [isReadable, Option.all_some, contextPatch?_eq, Bool.eq_iff_iff]
    exact Option.isSome_ite

theorem isWellTyped_iff {d : Dialect} {tree : Json} :
    isWellTyped d tree = true ↔
      tree.isRecord d 5 = true ∧ isReadable (sourcePatch? d) (tree.part? (.source .className)) = true ∧
        isReadable (sourcePatch? d) (tree.part? (.source .mixin)) = true ∧
        isReadable (contextPatch? d) (tree.part? .context) = true ∧ isReadable strings? (tree.part? ("exclude", 3)) = true ∧
        isReadable Json.bool? (tree.part? ("replaceTypedPrefix", 4)) = true := by
  simp only [isWellTyped, records, isReadable_sourcePatch?, isReadable_contextPatch?, List.all_cons, List.all_nil,
    Bool.and_true, Bool.and_eq_true, List.all_eq_true]
  constructor
  · rintro ⟨⟨hlayer, hclass, hmixins, hcontext⟩, hfields⟩
    have hfield : ∀ f : Field, isReadable (f.read? d) (f.written? tree) = true := fun f => hfields f f.mem_all
    exact ⟨hlayer,
      ⟨⟨⟨hclass, hfield (.enabled .className)⟩, hfield (.extensions .className)⟩, hfield (.languages .className)⟩,
      ⟨⟨⟨hmixins, hfield (.enabled .mixin)⟩, hfield (.extensions .mixin)⟩, hfield (.languages .mixin)⟩,
      ⟨⟨⟨⟨⟨hcontext, hfield .requireQuote⟩, hfield .attributes⟩, hfield .functions⟩, hfield .lookback⟩, hfield .nesting⟩,
      hfield .exclude, hfield .replaceTyped⟩
  · rintro ⟨hlayer, ⟨⟨⟨hclass, hclassEnabled⟩, hclassExtensions⟩, hclassLanguages⟩,
      ⟨⟨⟨hmixins, hmixinEnabled⟩, hmixinExtensions⟩, hmixinLanguages⟩,
      ⟨⟨⟨⟨⟨hcontext, hquote⟩, hattributes⟩, hfunctions⟩, hlookback⟩, hnesting⟩, hexclude, hreplace⟩
    refine ⟨⟨hlayer, hclass, hmixins, hcontext⟩, fun f _ => ?_⟩
    cases f with
    | enabled kind =>
      cases kind
      exacts [hclassEnabled, hmixinEnabled]
    | extensions kind =>
      cases kind
      exacts [hclassExtensions, hmixinExtensions]
    | languages kind =>
      cases kind
      exacts [hclassLanguages, hmixinLanguages]
    | requireQuote => exact hquote
    | attributes => exact hattributes
    | functions => exact hfunctions
    | lookback => exact hlookback
    | nesting => exact hnesting
    | exclude => exact hexclude
    | replaceTyped => exact hreplace

/-- A layer is decoded if it is well typed. -/
theorem patch?_eq (d : Dialect) (tree : Json) :
    patch? d tree =
      if isWellTyped d tree then
        some ⟨(tree.part? (.source .className)).bind (sourcePatch? d), (tree.part? (.source .mixin)).bind (sourcePatch? d),
          (tree.part? .context).bind (contextPatch? d), (tree.part? ("exclude", 3)).bind strings?,
          (tree.part? ("replaceTypedPrefix", 4)).bind Json.bool?⟩
      else none := by
  simp only [patch?, fields?_eq, List.length_cons, List.length_nil, Nat.zero_add, Nat.reduceAdd, isWellTyped_iff]
  cases tree.isRecord d 5 with
  | false => simp
  | true =>
    simp only [if_true, List.zipIdx_cons, List.zipIdx_nil, List.map_cons, List.map_nil, Nat.zero_add, Nat.reduceAdd,
      optional_bind, true_and, ite_and]
    rfl

/-- A record of a kind of symbol that can be decoded has, for each field, what is written for it. -/
theorem bind_sourcePatch? {d : Dialect} {value : Option Json} (h : isReadable (sourcePatch? d) value = true) :
    (value.bind (sourcePatch? d)).bind (·.enabled) = (value.bind fun v => v.part? ("enabled", 0)).bind Json.bool? ∧
      (value.bind (sourcePatch? d)).bind (·.extensions) =
        (value.bind fun v => v.part? ("extensions", 1)).bind strings? ∧
      (value.bind (sourcePatch? d)).bind (·.languages) =
        (value.bind fun v => v.part? ("languages", 2)).bind strings? := by
  cases value with
  | none => exact ⟨rfl, rfl, rfl⟩
  | some v =>
    have hpatch : (sourcePatch? d v).isSome = true := h
    rw [sourcePatch?_eq, Option.isSome_ite] at hpatch
    simp only [Option.bind_some, sourcePatch?_eq, if_pos hpatch, and_self]

/-- The record of the rules for the cursor, if it can be decoded, has for each field what is written for it. -/
theorem bind_contextPatch? {d : Dialect} {value : Option Json} (h : isReadable (contextPatch? d) value = true) :
    (value.bind (contextPatch? d)).bind (·.requireQuote) =
        (value.bind fun v => v.part? ("requireQuote", 0)).bind Json.bool? ∧
      (value.bind (contextPatch? d)).bind (·.attributes) =
        (value.bind fun v => v.part? ("attributeNames", 1)).bind names? ∧
      (value.bind (contextPatch? d)).bind (·.functions) =
        (value.bind fun v => v.part? ("functionNames", 2)).bind names? ∧
      (value.bind (contextPatch? d)).bind (·.lookback) =
        (value.bind fun v => v.part? ("lookbackLines", 3)).bind count? ∧
      (value.bind (contextPatch? d)).bind (·.nesting) =
        (value.bind fun v => v.part? ("nesting", 4)).bind (nesting? d) := by
  cases value with
  | none => exact ⟨rfl, rfl, rfl, rfl, rfl⟩
  | some v =>
    have hpatch : (contextPatch? d v).isSome = true := h
    rw [contextPatch?_eq, Option.isSome_ite] at hpatch
    simp only [Option.bind_some, contextPatch?_eq, if_pos hpatch, and_self]

/-- **What decoding computes.** A decoded layer has, for each field, what the layer writes for it. -/
theorem field?_of_patch? {d : Dialect} {tree : Json} {p : Patch} (h : patch? d tree = some p) (f : Field) :
    p.field? f = (f.written? tree).bind (f.read? d) := by
  rw [patch?_eq] at h
  split_ifs at h with htyped
  obtain rfl := Option.some.inj h
  obtain ⟨_, hclass, hmixins, hcontext, _, _⟩ := isWellTyped_iff.1 htyped
  cases f with
  | enabled kind =>
    cases kind
    exacts [(bind_sourcePatch? hclass).1, (bind_sourcePatch? hmixins).1]
  | extensions kind =>
    cases kind
    exacts [(bind_sourcePatch? hclass).2.1, (bind_sourcePatch? hmixins).2.1]
  | languages kind =>
    cases kind
    exacts [(bind_sourcePatch? hclass).2.2, (bind_sourcePatch? hmixins).2.2]
  | requireQuote => exact (bind_contextPatch? hcontext).1
  | attributes => exact (bind_contextPatch? hcontext).2.1
  | functions => exact (bind_contextPatch? hcontext).2.2.1
  | lookback => exact (bind_contextPatch? hcontext).2.2.2.1
  | nesting => exact (bind_contextPatch? hcontext).2.2.2.2
  | exclude | replaceTyped => rfl

theorem isSome_patch? (d : Dialect) (tree : Json) : (patch? d tree).isSome = isWellTyped d tree := by
  rw [patch?_eq, Bool.eq_iff_iff]
  exact Option.isSome_ite

end Decode

/-! ## Layers -/

namespace Layer

/-- the value tree of a layer; a file that is not in the format of settings files has none, and null is nothing -/
def tree? : Layer → Option Json
  | file text => Toml.parse? text
  | client .null => none
  | client value => some (Decode.clientSection value)

def dialect : Layer → Decode.Dialect
  | file _ => Decode.file
  | client _ => Decode.client

/-- the layer has a value tree, and nothing in it has a wrong type -/
def isWellFormed (l : Layer) : Bool :=
  l.tree?.any (Decode.isWellTyped l.dialect)

/-- what a layer says of a field; a malformed layer says nothing -/
def field? (l : Layer) (f : Field) : Option f.Value :=
  if l.isWellFormed then (l.tree?.bind f.written?).bind (f.read? l.dialect) else none

theorem patch?_eq_bind (l : Layer) : l.patch? = l.tree?.bind (Decode.patch? l.dialect) := by
  cases l with
  | file text => rfl
  | client value => cases value <;> rfl

theorem isSome_patch? (l : Layer) : l.patch?.isSome = l.isWellFormed := by
  rw [patch?_eq_bind, isWellFormed]
  cases l.tree? with
  | none => rfl
  | some tree => exact Decode.isSome_patch? l.dialect tree

theorem bind_patch? (l : Layer) (f : Field) : (l.patch?.bind fun p => p.field? f) = l.field? f := by
  have hsome := l.isSome_patch?
  cases hpatch : l.patch? with
  | none =>
    rw [hpatch] at hsome
    rw [field?, ← hsome]
    rfl
  | some p =>
    rw [hpatch] at hsome
    rw [patch?_eq_bind] at hpatch
    obtain ⟨tree, htree, hdecoded⟩ := Option.bind_eq_some_iff.1 hpatch
    rw [field?, ← hsome, htree]
    exact Decode.field?_of_patch? hdecoded f

end Layer

namespace Settings

theorem field_applyLayer (s : Settings) (l : Layer) (f : Field) :
    (s.applyLayer l).field f = (l.field? f).getD (s.field f) := by
  rw [applyLayer, ← l.bind_patch? f]
  cases l.patch? with
  | none => rfl
  | some p => exact s.field_apply p f

theorem applyLayer_of_malformed (s : Settings) {l : Layer} (h : l.isWellFormed = false) : s.applyLayer l = s := by
  rw [← l.isSome_patch?, Option.isSome_eq_false_iff, Option.isNone_iff_eq_none] at h
  rw [applyLayer, h]

theorem resolve_snoc (layers : List Layer) (l : Layer) : resolve (layers ++ [l]) = (resolve layers).applyLayer l :=
  List.foldl_concat ..

/-- **The highest layer counts**, for each field by itself. -/
theorem field_resolve (layers : List Layer) (f : Field) :
    (resolve layers).field f = (layers.reverse.findSome? fun l => l.field? f).getD (initial.field f) := by
  induction layers using List.reverseRecOn with
  | nil => rfl
  | append_singleton layers l ih =>
    rw [resolve_snoc, field_applyLayer, ih, List.reverse_concat, List.findSome?_cons]
    cases l.field? f <;> rfl

/-- A malformed layer is as good as none. -/
theorem resolve_filter (layers : List Layer) : resolve (layers.filter Layer.isWellFormed) = resolve layers := by
  induction layers using List.reverseRecOn with
  | nil => rfl
  | append_singleton layers l ih =>
    rw [resolve_snoc, List.filter_append, ← ih]
    cases hl : l.isWellFormed with
    | true =>
      rw [List.filter_cons_of_pos hl, List.filter_nil]
      exact resolve_snoc _ l
    | false => rw [List.filter_cons_of_neg (by simp [hl]), List.filter_nil, List.append_nil, applyLayer_of_malformed _ hl]

theorem findSome?_toList {α β : Type} (say : Layer → Option α) (layer : β → Layer) (source : Option β) :
    (source.toList.map layer).reverse.findSome? say = source.bind fun b => say (layer b) := by
  cases source with
  | none => rfl
  | some b => simp

theorem findSome?_sessionLayers {α : Type} (say : Layer → Option α) (user workspace : Option String)
    (client : Option Json) :
    (sessionLayers user workspace client).reverse.findSome? say =
      (client.bind fun value => say (.client value)).or
        ((workspace.bind fun text => say (.file text)).or (user.bind fun text => say (.file text))) := by
  simp only [sessionLayers, List.reverse_append, List.findSome?_append, findSome?_toList]

end Settings

/-! ## Sessions -/

theorem Session.settings_outcome_configure (s : Session) (env : Env) (value : Json) :
    (s.outcome env (.configure value)).settings =
      Settings.resolve (Settings.sessionLayers (env.client.bind fun _ => env.userFile)
        (s.root.bind fun root => env.disk.readText? (root.join [settingsFile])) (some value)) := by
  rw [outcome_configure]
  rfl

/-- **Settings, field by field.** The settings of a session are the ones that have each field from the highest layer that is
well formed and says something of it, the client before the workspace and the workspace before the user, and from the
built-in settings if there is none. Leaving the malformed layers out changes nothing. And a client that changes its settings
is taken at its word: they are resolved from the files of that moment and from what it sends, whatever it sent before. -/
theorem settings_resolve_by_field (user workspace : Option String) (client : Option Json) :
    (∀ s, Settings.resolve (Settings.sessionLayers user workspace client) = s ↔
      ∀ f, s.field f =
        ((client.bind fun value => (Layer.client value).field? f).or
          ((workspace.bind fun text => (Layer.file text).field? f).or
            (user.bind fun text => (Layer.file text).field? f))).getD (Settings.initial.field f)) ∧
    Settings.resolve ((Settings.sessionLayers user workspace client).filter Layer.isWellFormed) =
      Settings.resolve (Settings.sessionLayers user workspace client) ∧
    ∀ (w : World) (value : Json), w.refusal? false = none →
      (w.step (.message (.configure value))).1.session.settings =
        Settings.resolve (Settings.sessionLayers (w.env.client.bind fun _ => w.env.userFile)
          (w.session.root.bind fun root => w.env.disk.readText? (root.join [Session.settingsFile])) (some value)) := by
  have hfield (f : Field) := Settings.field_resolve (Settings.sessionLayers user workspace client) f
  refine ⟨fun s => ⟨?_, fun h => ?_⟩, Settings.resolve_filter _, fun w value hheard => ?_⟩
  · rintro rfl f
    rw [hfield, Settings.findSome?_sessionLayers]
  · refine Settings.ext_field fun f => ?_
    rw [hfield, Settings.findSome?_sessionLayers, h f]
  · rw [World.step_message hheard]
    exact w.session.settings_outcome_configure w.env value

/-- The user's file turns class names off, the workspace's file is malformed in one value, and the client replaces what it
sent when it introduced itself. -/
theorem settings_with_malformed_file :
    let root : FilePath := ⟨[Name.ofString "w"]⟩
    let user := "[classNames]\nenabled = false"
    let workspace := "exclude = []\n[mixins]\nenabled = 1"
    let sent : Json := .obj [("replaceTypedPrefix", .bool false)]
    let disk : Disk := ⟨[([Name.ofString "w"], .directory),
      ([Name.ofString "w", Session.settingsFile], .file (Utf8.ofString workspace))]⟩
    let introduction : Introduction := ⟨[], none, some (.obj [("context", .obj [("lookbackLines", .int 3)])]), false⟩
    let w := (World.start ⟨disk, some user, id, some ⟨false⟩, id⟩ (some root)).run [.message (.introduce introduction)]
    w.session.settings.context.lookback = 3 ∧
      (w.step (.message (.configure sent))).1.session.settings =
        { Settings.initial with
          classNames := { Settings.initial.classNames with enabled := false }
          replaceTyped := false } := by
  intro root user workspace sent disk introduction w
  obtain ⟨_, _, hconfigure⟩ := settings_resolve_by_field (some user) (some workspace) (some sent)
  have hworkspace : w.env.disk.readText? (root.join [Session.settingsFile]) = some workspace := by decide +kernel
  refine ⟨by decide +kernel, (hconfigure w sent rfl).trans ?_⟩
  rw [show w.session.root = some root from rfl, Option.bind_some, hworkspace]
  decide +kernel

end StyleIndex
