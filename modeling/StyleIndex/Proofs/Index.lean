/-
What loading files does to the index.

A registry takes a load if the settings want its extension, so the two registries can be looked at one by one
(`registry_map`, `registry_into`). After a list of loads a file has the symbols of the last text that a wanted load gave
it, and what it had before if there was none: `lastText?` is that text, `symbols?_loadAll` the law. For the order,
`moreRecent_loadAll` says that the files of loads that could be read end up behind all others.
-/
import Mathlib.Tactic
import StyleIndex.Index
import StyleIndex.Proofs.Registry

namespace StyleIndex

theorem Kind.exists_iff {P : Kind → Prop} : (∃ kind, P kind) ↔ P .className ∨ P .mixin := by
  constructor
  · rintro ⟨kind, h⟩
    cases kind with
    | className => exact Or.inl h
    | mixin => exact Or.inr h
  · rintro (h | h)
    · exact ⟨_, h⟩
    · exact ⟨_, h⟩

namespace Index

@[simp] theorem registry_map (f : Kind → Registry → Registry) (ix : Index) (kind : Kind) :
    (ix.map f).registry kind = f kind (ix.registry kind) := by
  cases kind <;> rfl

/-- each registry holds the symbols of its own kind -/
def Typed (ix : Index) : Prop :=
  ∀ kind, (ix.registry kind).kind = kind

theorem typed_empty : Typed empty := by
  intro kind
  cases kind <;> rfl

theorem Typed.map {ix : Index} (h : ix.Typed) {f : Kind → Registry → Registry} (hf : ∀ kind r, (f kind r).kind = r.kind) :
    (ix.map f).Typed := by
  intro kind
  rw [registry_map, hf, h kind]

theorem Typed.remove {ix : Index} (h : ix.Typed) (file : FileId) : (ix.remove file).Typed :=
  h.map fun _ _ => rfl

theorem Typed.reset {ix : Index} (h : ix.Typed) : ix.reset.Typed :=
  h.map fun _ _ => rfl

theorem symbols?_remove (ix : Index) (file : FileId) (kind : Kind) (other : FileId) :
    ((ix.remove file).registry kind).symbols? other =
      if other = file then none else (ix.registry kind).symbols? other := by
  rw [remove, registry_map, Registry.symbols?_remove]

@[simp] theorem symbols?_reset (ix : Index) (kind : Kind) (file : FileId) :
    (ix.reset.registry kind).symbols? file = none := by
  rw [reset, registry_map, Registry.symbols?_reset]

end Index

namespace Load

@[simp] theorem registry_into (l : Load) (settings : Settings) (ix : Index) (kind : Kind) :
    (l.into settings ix).registry kind =
      if l.isWanted settings kind then (ix.registry kind).load l.file l.content else ix.registry kind := by
  rw [into, Index.registry_map]

theorem typed_into {ix : Index} (h : ix.Typed) (l : Load) (settings : Settings) : (l.into settings ix).Typed := by
  refine h.map fun kind r => ?_
  split_ifs <;> simp

/-- the load gives a file a text in the registry of a kind -/
def Gives (l : Load) (settings : Settings) (kind : Kind) (file : FileId) (text : String) : Prop :=
  l.file = file ∧ l.isWanted settings kind = true ∧ l.content = some text

/-- the text that the load gives a file in the registry of a kind -/
def text? (l : Load) (settings : Settings) (kind : Kind) (file : FileId) : Option String :=
  if l.file = file && l.isWanted settings kind then l.content else none

theorem text?_eq_some_iff {l : Load} {settings : Settings} {kind : Kind} {file : FileId} {text : String} :
    l.text? settings kind file = some text ↔ l.Gives settings kind file text := by
  unfold text? Gives
  split_ifs with h
  · rw [Bool.and_eq_true, decide_eq_true_eq] at h
    simp [h]
  · simp only [Bool.and_eq_true, decide_eq_true_eq] at h
    simp only [false_iff]
    rintro ⟨hfile, hwanted, _⟩
    exact h ⟨hfile, hwanted⟩

theorem symbols?_into {ix : Index} (h : ix.Typed) (l : Load) (settings : Settings) (kind : Kind) (file : FileId) :
    ((l.into settings ix).registry kind).symbols? file =
      ((l.text? settings kind file).map (Registry.symbolsOf kind)).or ((ix.registry kind).symbols? file) := by
  rw [registry_into, text?]
  by_cases hwanted : l.isWanted settings kind = true
  · rw [if_pos hwanted, Registry.symbols?_load, h kind]
    by_cases hfile : file = l.file
    · simp [hfile, hwanted]
    · simp [hfile, Ne.symm hfile]
  · simp [hwanted]

end Load

namespace Scan

theorem loadAll_append (settings : Settings) (first second : List Load) (ix : Index) :
    loadAll settings (first ++ second) ix = loadAll settings second (loadAll settings first ix) :=
  List.foldl_append

theorem loadAll_snoc (settings : Settings) (loads : List Load) (l : Load) (ix : Index) :
    loadAll settings (loads ++ [l]) ix = l.into settings (loadAll settings loads ix) :=
  loadAll_append settings loads [l] ix

theorem typed_loadAll {ix : Index} (h : ix.Typed) (settings : Settings) (loads : List Load) :
    (loadAll settings loads ix).Typed := by
  induction loads using List.reverseRecOn with
  | nil => exact h
  | append_singleton loads l ih =>
    rw [loadAll_snoc]
    exact Load.typed_into ih l settings

/-! ## Symbols -/

/-- the text that loads give a file in the registry of a kind; the last one counts -/
def lastText? (settings : Settings) (kind : Kind) (file : FileId) (loads : List Load) : Option String :=
  loads.reverse.findSome? fun l => l.text? settings kind file

theorem lastText?_append (settings : Settings) (kind : Kind) (file : FileId) (first second : List Load) :
    lastText? settings kind file (first ++ second) =
      (lastText? settings kind file second).or (lastText? settings kind file first) := by
  rw [lastText?, List.reverse_append, List.findSome?_append]
  rfl

theorem lastText?_singleton (settings : Settings) (kind : Kind) (file : FileId) (l : Load) :
    lastText? settings kind file [l] = l.text? settings kind file := by
  simp [lastText?]

/-- **The last text counts.** After loads a file has the symbols of the last text that they gave it, or else what it had
before. -/
theorem symbols?_loadAll {ix : Index} (h : ix.Typed) (settings : Settings) (loads : List Load) (kind : Kind)
    (file : FileId) :
    ((loadAll settings loads ix).registry kind).symbols? file =
      ((lastText? settings kind file loads).map (Registry.symbolsOf kind)).or ((ix.registry kind).symbols? file) := by
  induction loads using List.reverseRecOn with
  | nil => rfl
  | append_singleton loads l ih =>
    rw [loadAll_snoc, Load.symbols?_into (typed_loadAll h settings loads), ih, lastText?_append, lastText?_singleton]
    cases l.text? settings kind file <;> rfl

theorem exists_gives_of_lastText? {settings : Settings} {kind : Kind} {file : FileId} {loads : List Load} {text : String}
    (h : lastText? settings kind file loads = some text) : ∃ l ∈ loads, l.Gives settings kind file text := by
  obtain ⟨l, hl, htext⟩ := List.exists_of_findSome?_eq_some h
  exact ⟨l, List.mem_reverse.1 hl, Load.text?_eq_some_iff.1 htext⟩

theorem lastText?_isSome_of_gives {settings : Settings} {kind : Kind} {file : FileId} {loads : List Load} {l : Load}
    {text : String} (hl : l ∈ loads) (h : l.Gives settings kind file text) :
    (lastText? settings kind file loads).isSome = true := by
  rw [lastText?, List.findSome?_isSome_iff]
  exact ⟨l, List.mem_reverse.2 hl, by rw [Load.text?_eq_some_iff.2 h]; rfl⟩

/-- the loads give a file no two texts -/
def Agree (settings : Settings) (kind : Kind) (file : FileId) (loads : List Load) : Prop :=
  ∀ l ∈ loads, ∀ l' ∈ loads, ∀ text text', l.Gives settings kind file text → l'.Gives settings kind file text' →
    text = text'

/-- Loads that agree on a file give it a text if one of them does. -/
theorem lastText?_eq_some_iff {settings : Settings} {kind : Kind} {file : FileId} {loads : List Load}
    (hagree : Agree settings kind file loads) (text : String) :
    lastText? settings kind file loads = some text ↔ ∃ l ∈ loads, l.Gives settings kind file text := by
  refine ⟨exists_gives_of_lastText?, fun ⟨l, hl, h⟩ => ?_⟩
  obtain ⟨last, hlast⟩ := Option.isSome_iff_exists.1 (lastText?_isSome_of_gives hl h)
  obtain ⟨l', hl', h'⟩ := exists_gives_of_lastText? hlast
  rw [hlast, hagree l hl l' hl' text last h h']

/-! ## Recency -/

/-- Files that are loaded successfully are more recent than all others. -/
theorem moreRecent_loadAll {ix : Index} (h : ix.Typed) (settings : Settings) (loads : List Load)
    (hloads : ∀ l ∈ loads, l.content.isSome = true) (kind : Kind) :
    ∃ older newer, ((loadAll settings loads ix).registry kind).MoreRecent older newer ∧
      (∀ l ∈ loads, l.isWanted settings kind = true → l.file ∈ newer.map Prod.fst) ∧
      ∀ e ∈ newer, ∃ l ∈ loads, ∃ text, l.Gives settings kind e.1 text ∧ e.2 = Registry.symbolsOf kind text := by
  induction loads using List.reverseRecOn with
  | nil => exact ⟨_, [], Registry.MoreRecent.start _, by simp, by simp⟩
  | append_singleton loads l ih =>
    obtain ⟨older, newer, hrecent, hfiles, hnewer⟩ := ih fun l' hl' => hloads l' (List.mem_append_left _ hl')
    obtain ⟨text, htext⟩ := Option.isSome_iff_exists.1 (hloads l (by simp))
    rw [loadAll_snoc, Load.registry_into]
    split_ifs with hwanted
    · rw [htext, Registry.load]
      refine ⟨_, _, hrecent.update l.file text, fun l' hl' hwanted' => ?_, fun e he => ?_⟩
      · by_cases hfile : l'.file = l.file
        · simp [hfile]
        · rcases List.mem_append.1 hl' with hl' | hl'
          · obtain ⟨e, he, heq⟩ := List.mem_map.1 (hfiles l' hl' hwanted')
            refine List.mem_map.2 ⟨e, List.mem_append_left _ (List.mem_filter.2 ⟨he, ?_⟩), heq⟩
            simpa [heq] using hfile
          · exact absurd (congrArg Load.file (List.mem_singleton.1 hl')) hfile
      · rcases List.mem_append.1 he with he | he
        · obtain ⟨l', hl', text', hgives, heq⟩ := hnewer e (List.mem_filter.1 he).1
          exact ⟨l', List.mem_append_left _ hl', text', hgives, heq⟩
        · rw [List.mem_singleton.1 he, typed_loadAll h settings loads kind]
          exact ⟨l, by simp, text, ⟨rfl, hwanted, htext⟩, rfl⟩
    · refine ⟨older, newer, hrecent, fun l' hl' hwanted' => ?_, fun e he => ?_⟩
      · rcases List.mem_append.1 hl' with hl' | hl'
        · exact hfiles l' hl' hwanted'
        · rw [List.mem_singleton.1 hl'] at hwanted'
          exact absurd hwanted' hwanted
      · obtain ⟨l', hl', text', hgives, heq⟩ := hnewer e he
        exact ⟨l', List.mem_append_left _ hl', text', hgives, heq⟩

end Scan
end StyleIndex
