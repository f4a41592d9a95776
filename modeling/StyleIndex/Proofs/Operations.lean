/-
What a message does to one registry, as a list of operations.

A load is an operation on the registry of a kind if the registry takes it, and none otherwise; a change on disk removes a
file or loads it; a rescan resets the registry and loads the disk and the open documents. `Session.operations` lists what a
message comes to for one registry, and `registry_outcome` says that these operations are all it does to it. So each registry
has a history of its own, in which the other one does not occur.
-/
import Mathlib.Tactic
import StyleIndex.Proofs.History
import StyleIndex.Proofs.Session

namespace StyleIndex

/-! ## Loads and changes -/

namespace Scan

/-- what loads come to for the registry of a kind -/
def operations (settings : Settings) (kind : Kind) (loads : List Load) : List Registry.Operation :=
  (loads.filter fun l => l.isWanted settings kind).map fun l => .load l.file l.content

theorem registry_loadAll (settings : Settings) (kind : Kind) (loads : List Load) (ix : Index) :
    (loadAll settings loads ix).registry kind =
      (operations settings kind loads).foldl Registry.apply (ix.registry kind) := by
  induction loads generalizing ix with
  | nil => rfl
  | cons l loads ih =>
    have hcons : loadAll settings (l :: loads) ix = loadAll settings loads (l.into settings ix) := rfl
    rw [hcons, ih, Load.registry_into, operations, operations]
    by_cases hwanted : l.isWanted settings kind = true
    · simp only [hwanted, if_true, List.filter_cons, List.map_cons, List.foldl_cons, Registry.apply]
    · simp only [hwanted, List.filter_cons]
      rfl

end Scan

/-- what a change on disk comes to for the registry of a kind -/
def Change.operations (d : Disk) (settings : Settings) (kind : Kind) (url : Url) : Change → List Registry.Operation
  | .deleted => [.remove url.text]
  | .touched => Scan.operations settings kind (url.load? d).toList

theorem Index.registry_applyChange (ix : Index) (d : Disk) (settings : Settings) (kind : Kind) (url : Url)
    (change : Change) :
    (ix.applyChange d settings url change).registry kind =
      (change.operations d settings kind url).foldl Registry.apply (ix.registry kind) := by
  cases change with
  | deleted => rw [applyChange, remove, registry_map]; rfl
  | touched => rw [Session.applyChange_touched, Scan.registry_loadAll]; rfl

/-! ## Messages -/

/-- a message that resolves the settings -/
def Request.configures : Request → Bool
  | .introduce _ => true
  | .configure _ => true
  | _ => false

namespace Session

theorem settings_outcome {s : Session} {env : Env} {request : Request} (h : request.configures = false) :
    (s.outcome env request).settings = s.settings := by
  cases request with
  | introduce | configure => cases h
  | didChange url texts =>
    simp only [outcome, handle, didChange]
    split <;> rfl
  | initialized | shutdown | didOpen | didClose | didChangeFiles | completion => rfl

/-- what a rescan comes to for the registry of a kind -/
def rescanOperations (s : Session) (env : Env) (kind : Kind) : List Registry.Operation :=
  .reset :: (Scan.operations s.settings kind (s.diskLoads env) ++ Scan.operations s.settings kind (s.bufferLoads env))

/-- what a message comes to for the registry of a kind -/
def operations (s : Session) (env : Env) (kind : Kind) : Request → List Registry.Operation
  | .initialized => s.rescanOperations env kind
  | .configure settings => ({ s with clientSettings := some settings }.reload env).rescanOperations env kind
  | .didOpen url _ text => Scan.operations s.settings kind (bufferLoad? url.text text).toList
  | .didChange url texts => Scan.operations s.settings kind (texts.getLast?.toList.filterMap (bufferLoad? url.text))
  | .didClose url => (closingChange env url).operations env.disk s.settings kind url
  | .didChangeFiles changes =>
    (changes.filter s.heeds).flatMap fun c => c.2.operations env.disk s.settings kind c.1
  | _ => []

theorem registry_rescan (s : Session) (env : Env) (kind : Kind) :
    (s.rescan env).index.registry kind =
      (s.rescanOperations env kind).foldl Registry.apply (s.index.registry kind) := by
  rw [rescan_index, Scan.registry_loadAll, Scan.registry_loadAll, Index.reset, Index.registry_map, rescanOperations,
    List.foldl_cons, List.foldl_append, Registry.apply]

/-- **What a message does to a registry**: the operations that it comes to, and nothing else. -/
theorem registry_outcome (s : Session) (env : Env) (kind : Kind) (request : Request) :
    (s.outcome env request).index.registry kind =
      (s.operations env kind request).foldl Registry.apply (s.index.registry kind) := by
  cases request with
  | introduce intro => rw [(outcome_introduce s env intro).1]; rfl
  | shutdown | completion => rfl
  | initialized => exact registry_rescan s env kind
  | configure settings =>
    rw [outcome_configure, registry_rescan]
    rfl
  | didOpen url language text =>
    rw [(outcome_didOpen s env url language text).1, sync_eq_loadAll, Scan.registry_loadAll]
    rfl
  | didChange url texts =>
    rw [operations]
    cases htexts : texts.getLast? with
    | none => rw [outcome_didChange_of_none s env url htexts]; rfl
    | some text =>
      have hload : (some text).toList.filterMap (bufferLoad? url.text) = (bufferLoad? url.text text).toList := by
        rw [Option.toList_some, List.filterMap_cons]
        cases bufferLoad? url.text text <;> rfl
      rw [(outcome_didChange s env url htexts).1, sync_eq_loadAll, Scan.registry_loadAll, hload]
  | didClose url =>
    have hindex : (s.outcome env (.didClose url)).index =
        s.index.applyChange env.disk s.settings url (closingChange env url) := rfl
    rw [hindex, Index.registry_applyChange, operations]
  | didChangeFiles changes =>
    simp only [outcome, handle, didChangeFiles, operations]
    generalize s.index = ix
    induction changes.filter s.heeds generalizing ix with
    | nil => rfl
    | cons c changes ih =>
      rw [List.foldl_cons, ih, Index.registry_applyChange, List.flatMap_cons, List.foldl_append]

end Session
end StyleIndex
