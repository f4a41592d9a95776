/-
Where the entries of the index come from.

`Session.loads` are the files that a message puts into the index, and `Request.named` the files that it names. All that a
message does to the index is to forget files that it names, or all if it rescans, and to put its loads in. So what holds of
an index and is kept by these is kept by the message (`outcome_induction`). Three facts follow. No file gets a second entry
(`outcome_nodup`). An entry that stands in a registry behind a message stood there before or was made by a load of the
message (`outcome_madeFrom`). And a message that does not rescan changes nothing about files that it does not name
(`symbols?_outcome_of_notMem`).

So every entry of every run has the symbols of some text (`World.run_extracted`), and the merged list of a registry holds
identifiers, each once (`isIdentifier_of_mem_items`, `nodup_items`).
-/
import Mathlib.Tactic
import StyleIndex.Proofs.Rescan

namespace StyleIndex

namespace Registry

theorem nodup_remove {r : Registry} (h : r.files.Nodup) (file : FileId) : (r.remove file).files.Nodup := by
  rw [files_remove]
  exact h.filter _

theorem nodup_load {r : Registry} (h : r.files.Nodup) (file : FileId) (content : Option String) :
    (r.load file content).files.Nodup := by
  cases content with
  | none => exact h
  | some text =>
    rw [load, files_update]
    refine List.Nodup.append (h.filter _) (List.nodup_singleton file) ?_
    intro other hother hfile
    exact of_decide_eq_true (List.mem_filter.1 hother).2 (List.mem_singleton.1 hfile)

theorem mem_entries_load {r : Registry} {file : FileId} {content : Option String} {e : FileId × List String}
    (he : e ∈ (r.load file content).entries) :
    e ∈ r.entries ∨ ∃ text, content = some text ∧ e = (file, symbolsOf r.kind text) := by
  cases content with
  | none => exact Or.inl he
  | some text =>
    rcases List.mem_append.1 he with he | he
    · exact Or.inl (List.mem_filter.1 he).1
    · exact Or.inr ⟨text, rfl, List.mem_singleton.1 he⟩

/-! ## Merged lists -/

theorem nodup_eraseDups {α : Type} [BEq α] [LawfulBEq α] (l : List α) : l.eraseDups.Nodup := by
  induction l using List.reverseRecOn with
  | nil => exact List.nodup_nil
  | append_singleton l a ih =>
    rw [List.eraseDups_append]
    by_cases ha : a ∈ l
    · simpa [List.removeAll, ha] using ih
    · have hlast : ([a].removeAll l).eraseDups = [a] := by simp [List.removeAll, ha, List.eraseDups_cons]
      rw [hlast]
      refine List.Nodup.append ih (List.nodup_singleton a) ?_
      intro b hb hba
      rw [List.mem_singleton.1 hba, List.mem_eraseDups] at hb
      exact ha hb

theorem nodup_items (r : Registry) : r.items.Nodup :=
  nodup_eraseDups _

theorem isIdentifier_of_mem_extract {kind : Kind} {text symbol : String} (h : symbol ∈ kind.extract text) :
    isIdentifier symbol.toList = true := by
  obtain ⟨token, htoken, rfl⟩ := List.mem_map.1 h
  rw [String.toList_ofList]
  exact (List.mem_filter.1 htoken).2

/-- every entry has the symbols of some text -/
def Extracted (r : Registry) : Prop :=
  ∀ e ∈ r.entries, ∃ kind text, e.2 = symbolsOf kind text

theorem Extracted.isIdentifier_of_mem_items {r : Registry} (h : r.Extracted) {symbol : String}
    (hsymbol : symbol ∈ r.items) : isIdentifier symbol.toList = true := by
  rw [items, List.mem_eraseDups, List.mem_flatMap] at hsymbol
  obtain ⟨e, he, hsymbol⟩ := hsymbol
  obtain ⟨kind, text, htext⟩ := h e (List.mem_reverse.1 he)
  rw [htext, symbolsOf, List.mem_eraseDups] at hsymbol
  exact isIdentifier_of_mem_extract hsymbol

end Registry

namespace Index

/-- no registry has two entries for a file -/
def Nodup (ix : Index) : Prop :=
  ∀ kind, (ix.registry kind).files.Nodup

theorem Nodup.remove {ix : Index} (h : ix.Nodup) (file : FileId) : (ix.remove file).Nodup := by
  intro kind
  rw [Index.remove, registry_map]
  exact Registry.nodup_remove (h kind) file

theorem nodup_reset (ix : Index) : ix.reset.Nodup := by
  intro kind
  rw [reset, registry_map]
  exact List.nodup_nil

theorem Nodup.into {ix : Index} (h : ix.Nodup) (l : Load) (settings : Settings) : (l.into settings ix).Nodup := by
  intro kind
  rw [Load.registry_into]
  split_ifs
  · exact Registry.nodup_load (h kind) l.file l.content
  · exact h kind

end Index

/-- the entry of a load that could be read -/
def Load.Makes (l : Load) (kind : Kind) (e : FileId × List String) : Prop :=
  ∃ text, l.content = some text ∧ e = (l.file, Registry.symbolsOf kind text)

theorem Load.mem_entries_into {ix : Index} (h : ix.Typed) {l : Load} {settings : Settings} {kind : Kind}
    {e : FileId × List String} (he : e ∈ ((l.into settings ix).registry kind).entries) :
    e ∈ (ix.registry kind).entries ∨ l.Makes kind e := by
  rw [registry_into] at he
  split_ifs at he
  · rcases Registry.mem_entries_load he with he | ⟨text, htext, he⟩
    · exact Or.inl he
    · exact Or.inr ⟨text, htext, he.trans (by rw [h kind])⟩
  · exact Or.inl he

namespace Index

/-- the entries of the index are old ones or made by loads -/
structure MadeFrom (old : Index) (loads : List Load) (ix : Index) : Prop where
  typed : ix.Typed
  entries : ∀ kind, ∀ e ∈ (ix.registry kind).entries, e ∈ (old.registry kind).entries ∨ ∃ l ∈ loads, l.Makes kind e

theorem MadeFrom.remove {old ix : Index} {loads : List Load} (h : MadeFrom old loads ix) (file : FileId) :
    MadeFrom old loads (ix.remove file) where
  typed := h.typed.remove file
  entries kind e he := by
    rw [Index.remove, registry_map] at he
    exact h.entries kind e (List.mem_filter.1 he).1

theorem MadeFrom.into {old ix : Index} {loads : List Load} (h : MadeFrom old loads ix) {l : Load} (hl : l ∈ loads)
    (settings : Settings) : MadeFrom old loads (l.into settings ix) where
  typed := l.typed_into h.typed settings
  entries kind e he := by
    rcases Load.mem_entries_into h.typed he with he | hmakes
    · exact h.entries kind e he
    · exact Or.inr ⟨l, hl, hmakes⟩

end Index

/-- the files that a message names to put them in or to take them out -/
def Request.named : Request → List FileId
  | .didOpen url _ _ => [url.text]
  | .didChange url _ => [url.text]
  | .didClose url => [url.text]
  | .didChangeFiles changes => changes.map fun c => c.1.text
  | _ => []

namespace Session

/-! ## Messages -/

/-- the files that a message puts into the index -/
def loads (s : Session) (env : Env) : Request → List Load
  | .initialized => s.diskLoads env ++ s.bufferLoads env
  | .configure settings =>
    let configured := { s with clientSettings := some settings }.reload env
    configured.diskLoads env ++ configured.bufferLoads env
  | .didOpen url _ text => (bufferLoad? url.text text).toList
  | .didChange url texts => texts.getLast?.toList.filterMap (bufferLoad? url.text)
  | .didClose url => (url.load? env.disk).toList
  | .didChangeFiles changes => changes.filterMap fun c => c.1.load? env.disk
  | _ => []

theorem file_of_bufferLoad? {file : FileId} {text : String} {l : Load} (h : bufferLoad? file text = some l) :
    l.file = file := by
  obtain ⟨_, _, rfl⟩ := Option.map_eq_some_iff.1 h
  rfl

theorem file_of_load? {url : Url} {d : Disk} {l : Load} (h : url.load? d = some l) : l.file = url.text := by
  obtain ⟨_, _, h⟩ := Option.bind_eq_some_iff.1 h
  obtain ⟨_, _, rfl⟩ := Option.map_eq_some_iff.1 h
  rfl

/-- A message that does not rescan loads files that it names. -/
theorem file_mem_named {s : Session} {env : Env} {request : Request} (hrescans : request.rescans = false) {l : Load}
    (hl : l ∈ s.loads env request) : l.file ∈ request.named := by
  cases request with
  | initialized | configure => cases hrescans
  | introduce | shutdown | completion => cases hl
  | didOpen url language text =>
    rw [loads, Option.mem_toList] at hl
    exact List.mem_singleton.2 (file_of_bufferLoad? hl)
  | didChange url texts =>
    obtain ⟨text, _, hl⟩ := List.mem_filterMap.1 hl
    exact List.mem_singleton.2 (file_of_bufferLoad? hl)
  | didClose url =>
    rw [loads, Option.mem_toList] at hl
    exact List.mem_singleton.2 (file_of_load? hl)
  | didChangeFiles changes =>
    obtain ⟨c, hc, hl⟩ := List.mem_filterMap.1 hl
    exact List.mem_map.2 ⟨c, hc, (file_of_load? hl).symm⟩

theorem applyChange_induction {P : Index → Prop} {d : Disk} {settings : Settings} {url : Url}
    (hremove : ∀ ix, P ix → P (ix.remove url.text))
    (hinto : ∀ ix, ∀ l ∈ (url.load? d).toList, P ix → P (l.into settings ix))
    (change : Change) {ix : Index} (h : P ix) : P (ix.applyChange d settings url change) := by
  cases change with
  | touched =>
    rw [applyChange_touched]
    exact List.foldlRecOn _ _ h fun ix hix l hl => hinto ix l hl hix
  | deleted => exact hremove ix h

theorem rescan_induction {P : Index → Prop} {s : Session} {env : Env}
    (hinto : ∀ ix settings, ∀ l ∈ s.diskLoads env ++ s.bufferLoads env, P ix → P (l.into settings ix))
    (h : P s.index.reset) : P (s.rescan env).index := by
  rw [rescan_index, ← Scan.loadAll_append]
  exact List.foldlRecOn _ _ h fun ix hix l hl => hinto ix s.settings l hl hix

/-- **What a message does to the index**: it forgets files that it names, or all of them to rescan, and puts its loads
in. -/
theorem outcome_induction {P : Index → Prop} {s : Session} {env : Env} {request : Request}
    (hremove : ∀ ix, ∀ file ∈ request.named, P ix → P (ix.remove file))
    (hreset : request.rescans = true → P s.index.reset)
    (hinto : ∀ ix settings, ∀ l ∈ s.loads env request, P ix → P (l.into settings ix)) (h : P s.index) :
    P (s.outcome env request).index := by
  cases request with
  | introduce intro =>
    rw [(outcome_introduce s env intro).1]
    exact h
  | shutdown | completion => exact h
  | initialized => exact rescan_induction hinto (hreset rfl)
  | configure settings =>
    rw [outcome_configure]
    exact rescan_induction hinto (hreset rfl)
  | didOpen url language text =>
    rw [(outcome_didOpen s env url language text).1, sync_eq_loadAll]
    exact List.foldlRecOn _ _ h fun ix hix l hl => hinto ix s.settings l hl hix
  | didChange url texts =>
    cases htexts : texts.getLast? with
    | none =>
      rw [outcome_didChange_of_none s env url htexts]
      exact h
    | some text =>
      rw [(outcome_didChange s env url htexts).1, sync_eq_loadAll]
      refine List.foldlRecOn _ _ h fun ix hix l hl => hinto ix s.settings l ?_ hix
      rw [loads, htexts]
      simpa using hl
  | didClose url =>
    exact applyChange_induction (hremove · url.text (List.mem_singleton_self _)) (hinto · s.settings) _ h
  | didChangeFiles changes =>
    simp only [outcome, handle, didChangeFiles]
    refine List.foldlRecOn _ _ h fun ix hix c hc => ?_
    have hc : c ∈ changes := (List.mem_filter.1 hc).1
    refine applyChange_induction (hremove · c.1.text (List.mem_map_of_mem hc))
      (fun ix l hl => hinto ix s.settings l ?_) c.2 hix
    exact List.mem_filterMap.2 ⟨c, hc, Option.mem_toList.1 hl⟩

/-- No message gives a file a second entry. -/
theorem outcome_nodup {s : Session} (h : s.index.Nodup) (env : Env) (request : Request) :
    (s.outcome env request).index.Nodup :=
  outcome_induction (fun _ file _ hix => hix.remove file) (fun _ => s.index.nodup_reset)
    (fun _ settings l _ hix => hix.into l settings) h

/-- **Where entries come from.** Behind a message an entry was there before, or a load of the message made it. -/
theorem outcome_madeFrom {s : Session} (h : s.index.Typed) (env : Env) (request : Request) :
    Index.MadeFrom s.index (s.loads env request) (s.outcome env request).index := by
  refine outcome_induction (fun _ file _ hix => hix.remove file) (fun _ => ⟨h.reset, fun kind e he => ?_⟩)
    (fun _ settings l hl hix => hix.into hl settings) ⟨h, fun _ _ he => Or.inl he⟩
  rw [Index.reset, Index.registry_map] at he
  cases he

/-- A message keeps to symbols of texts. -/
theorem outcome_extracted {s : Session} (htyped : s.index.Typed) (h : ∀ kind, (s.index.registry kind).Extracted)
    (env : Env) (request : Request) (kind : Kind) : ((s.outcome env request).index.registry kind).Extracted := by
  intro e he
  rcases (outcome_madeFrom htyped env request).entries kind e he with he | ⟨l, _, text, _, rfl⟩
  · exact h kind e he
  · exact ⟨kind, text, rfl⟩

/-- **What a message leaves alone.** A message that does not rescan acts on the files that it names and on no others. -/
theorem symbols?_outcome_of_notMem {s : Session} (h : s.index.Typed) (env : Env) {request : Request}
    (hrescans : request.rescans = false) {file : FileId} (hfile : file ∉ request.named) (kind : Kind) :
    ((s.outcome env request).index.registry kind).symbols? file = (s.index.registry kind).symbols? file := by
  refine (outcome_induction (P := fun ix => ix.Typed ∧ (ix.registry kind).symbols? file =
    (s.index.registry kind).symbols? file) (fun ix other hother hix => ⟨hix.1.remove other, ?_⟩) (fun hreset => ?_)
    (fun ix settings l hl hix => ⟨l.typed_into hix.1 settings, ?_⟩) ⟨h, rfl⟩).2
  · have hne : file ≠ other := fun heq => hfile (heq ▸ hother)
    rw [Index.symbols?_remove, if_neg hne]
    exact hix.2
  · rw [hrescans] at hreset
    cases hreset
  · have hne : l.file ≠ file := fun heq => hfile (heq ▸ file_mem_named hrescans hl)
    have hnone : l.text? settings kind file = none := by simp [Load.text?, hne]
    rw [Load.symbols?_into hix.1, hnone]
    exact hix.2

end Session

namespace World

/-! ## Runs -/

theorem start_nodup (env : Env) (root : Option FilePath) : (start env root).session.index.Nodup :=
  Index.nodup_reset .empty

/-- **Every run gives a file one entry at most.** -/
theorem run_nodup {w : World} (h : w.session.index.Nodup) (events : List Event) : (w.run events).session.index.Nodup :=
  run_keeps (P := fun s => s.index.Nodup) (fun _ env request hs => Session.outcome_nodup hs env request) h events

/-- **Every entry of a run has the symbols of a text.** -/
theorem run_extracted (env : Env) (root : Option FilePath) (events : List Event) (kind : Kind) :
    (((start env root).run events).session.index.registry kind).Extracted := by
  refine (run_keeps (P := fun s => s.WellFormed ∧ ∀ kind, (s.index.registry kind).Extracted) ?_ ⟨?_, ?_⟩ events).2 kind
  · rintro s env request ⟨hform, hextracted⟩
    exact ⟨Session.outcome_wellFormed hform env request, Session.outcome_extracted hform.typed hextracted env request⟩
  · exact start_wellFormed env root
  · intro kind e he
    cases kind <;> cases he

end World
end StyleIndex
