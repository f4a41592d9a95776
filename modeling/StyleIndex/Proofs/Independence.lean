/-
The two registries do not interfere.

Take two runs of the same events, in which only the settings differ, be it by what the client sends or by what stands in the
settings files, and let the settings agree at every point on the source of one kind and on what a scan leaves out. Then the
registry of that kind has the same files with the same symbols in both runs, behind every event. The disks may differ in the
contents of the settings files, so none of these must be read as a sheet of that kind or as a file with rules
(`LeavesUnread`): a settings file is a file like any other, and a session that is told to index such files indexes it too.

The order of recency is the same as well while rescans have the same orders in both runs (`RescansAlike`). Nothing in a
session decides on these orders, so two runs may well have different ones (`settings_file_and_orders_count`).

What a scan loads for one kind does not depend on the other source, since sorting is stable (`filter_mergeSort`,
`operations_styleFiles`). So a message comes to the same operations on the registry in both runs, but for the orders
(`Paired.operations_eq`). An event leads from paired worlds to paired worlds (`Paired.step`) and from the same symbols to the
same symbols (`Paired.symbols?_step`), and with the same orders from equal registries to equal ones (`Paired.registry_step`).
-/
import Mathlib.Tactic
import StyleIndex.Proofs.OpenDocuments
import StyleIndex.Proofs.Operations
import StyleIndex.Proofs.Orders
import StyleIndex.Proofs.Redaction

namespace StyleIndex

/-! ## Sorting -/

theorem eq_of_append_eq_append {α : Type} {p : α → Bool} {a b a' b' : List α} (h : a ++ b = a' ++ b')
    (ha : ∀ x ∈ a, p x = true) (hb : ∀ x ∈ b, p x = false) (ha' : ∀ x ∈ a', p x = true) (hb' : ∀ x ∈ b', p x = false) :
    a = a' ∧ b = b' := by
  have hfilter : ∀ {a b : List α}, (∀ x ∈ a, p x = true) → (∀ x ∈ b, p x = false) → (a ++ b).filter p = a := by
    intro a b ha hb
    rw [List.filter_append, List.filter_eq_self.2 ha, List.filter_eq_nil_iff.2 (by simpa using hb), List.append_nil]
  have heq : a = a' := by rw [← hfilter ha hb, h, hfilter ha' hb']
  exact ⟨heq, by simpa [heq] using h⟩

/-- **Sorting is stable**, so a part of a list can be taken before or after it is sorted. -/
theorem filter_mergeSort {α : Type} {le : α → α → Bool} (htrans : ∀ a b c, le a b = true → le b c = true → le a c = true)
    (htotal : ∀ a b, (le a b || le b a) = true) (p : α → Bool) (l : List α) :
    (l.mergeSort le).filter p = (l.filter p).mergeSort le := by
  induction l with
  | nil => simp
  | cons a l ih =>
    obtain ⟨first, rest, hcons, hl, hfirst⟩ := List.mergeSort_cons htrans htotal a l
    rw [hl, List.filter_append] at ih
    rw [hcons, List.filter_append]
    by_cases ha : p a = true
    · -- both sorted lists are cut where the elements stop being less than the new one
      obtain ⟨first', rest', hcons', hl', hfirst'⟩ := List.mergeSort_cons htrans htotal a (l.filter p)
      have hrest := (List.pairwise_cons.1 (List.pairwise_append.1
        (hcons ▸ List.pairwise_mergeSort htrans htotal (a :: l))).2.1).1
      have hrest' := (List.pairwise_cons.1 (List.pairwise_append.1
        (hcons' ▸ List.pairwise_mergeSort htrans htotal (a :: l.filter p))).2.1).1
      obtain ⟨hf, hr⟩ := eq_of_append_eq_append (p := fun b => !le a b) (ih.trans hl')
        (fun b hb => hfirst b (List.mem_filter.1 hb).1) (fun b hb => by simp [hrest b (List.mem_filter.1 hb).1]) hfirst'
        (fun b hb => by simp [hrest' b hb])
      rw [List.filter_cons_of_pos ha, List.filter_cons_of_pos ha, hf, hr, hcons']
    · rw [List.filter_cons_of_neg ha, List.filter_cons_of_neg ha, ih]

/-! ## Settings and loads -/

/-- the settings agree on the source of a kind and on what a scan leaves out -/
structure Settings.AgreeOn (kind : Kind) (a b : Settings) : Prop where
  source : b.source kind = a.source kind
  exclude : b.exclude = a.exclude

namespace Scan

variable {kind : Kind} {a b : Settings}

theorem isWanted_congr (h : a.AgreeOn kind b) (l : Load) : l.isWanted b kind = l.isWanted a kind := by
  rw [Load.isWanted, Load.isWanted, h.source]

theorem operations_congr (h : a.AgreeOn kind b) (loads : List Load) : operations b kind loads = operations a kind loads := by
  simp only [operations, isWanted_congr h]

theorem excludeRules_congr (h : a.AgreeOn kind b) : excludeRules b = excludeRules a := by
  rw [excludeRules, excludeRules, writtenRules, writtenRules, h.exclude]

/-- the walked paths that a source reads -/
def sheetsRead (d : Disk) (settings : Settings) (kind : Kind) (root : FilePath) : List FilePath :=
  (d.walk (excludeRules settings) root).found.filter fun path =>
    path.extension?.any (settings.source kind).handlesExtension

/-- Loads can be picked before or after they are put in order. -/
theorem filter_inOrder (listing : FileId → String) (p : Load → Bool) (loads : List Load) :
    (inOrder listing loads).filter p = inOrder listing (loads.filter p) :=
  filter_mergeSort (listed_trans fun l : Load => listing l.file) (listed_total fun l : Load => listing l.file) p loads

/-- **What a scan loads for one kind** does not depend on the other source. -/
theorem operations_styleFiles (listing : FileId → String) (d : Disk) (settings : Settings) (root : FilePath)
    (kind : Kind) :
    operations settings kind (inOrder listing (styleFiles d settings root)) =
      (inOrder listing (((d.walk (excludeRules settings) root).found.filterMap (load? d)).filter fun l =>
        l.isWanted settings kind)).map fun l => .load l.file l.content := by
  rw [operations, filter_inOrder, styleFiles, List.filter_filter]
  refine congrArg (fun loads => (inOrder listing loads).map _) (List.filter_congr fun l _ => ?_)
  cases hwanted : l.isWanted settings kind with
  | false => rfl
  | true => rw [Bool.true_and, Load.isStyle_of_isWanted kind hwanted]

theorem operations_inOrder_congr (h : a.AgreeOn kind b) (listing : FileId → String) {held : List Name → Bool} {d d' : Disk}
    (hdisk : d'.redact held = d.redact held) {root : FilePath}
    (hrules : ∀ path ∈ d.rulesRead root, d.avoids held path = true)
    (hsheets : ∀ path ∈ sheetsRead d a kind root, d.avoids held path = true) :
    operations b kind (inOrder listing (styleFiles d' b root)) =
      operations a kind (inOrder listing (styleFiles d a root)) := by
  rw [operations_styleFiles, operations_styleFiles, excludeRules_congr h, Disk.found_congr hdisk _ hrules,
    List.filter_filterMap, List.filter_filterMap]
  refine congrArg (fun loads => (inOrder listing loads).map _) (List.filterMap_congr fun path hpath => ?_)
  rw [load?, load?]
  cases hextension : path.extension? with
  | none => rfl
  | some extension =>
    rw [Option.map_some, Option.map_some, Option.filter_some, Option.filter_some, isWanted_congr h, Load.isWanted,
      Load.isWanted]
    split_ifs with hwanted
    · have hread : path ∈ sheetsRead d a kind root := List.mem_filter.2 ⟨hpath, by simpa [hextension] using hwanted⟩
      rw [Disk.readText?_congr hdisk (hsheets path hread)]
    · rfl

end Scan

namespace Change

/-- the paths that a source reads to follow a change on disk -/
def sheetsRead (settings : Settings) (kind : Kind) (url : Url) : Change → List FilePath
  | .deleted => []
  | .touched =>
    if (extensionOf? url.pathText).any (settings.source kind).handlesExtension then url.filePath?.toList else []

theorem operations_congr {kind : Kind} {a b : Settings} (h : a.AgreeOn kind b) {held : List Name → Bool} {d d' : Disk}
    (hdisk : d'.redact held = d.redact held) {url : Url} {change : Change}
    (havoids : ∀ path ∈ change.sheetsRead a kind url, d.avoids held path = true) :
    change.operations d' b kind url = change.operations d a kind url := by
  cases change with
  | deleted => rfl
  | touched =>
    rw [operations, operations, Scan.operations_congr h, Url.load?, Url.load?]
    cases hextension : extensionOf? url.pathText with
    | none => rfl
    | some extension =>
      cases hpath : url.filePath? with
      | none => rfl
      | some path =>
        rw [sheetsRead, hextension, hpath, Option.any_some] at havoids
        rw [Option.bind_some, Option.bind_some, Option.map_some, Option.map_some, Option.toList_some, Option.toList_some]
        by_cases hwanted : (a.source kind).handlesExtension extension = true
        · rw [if_pos hwanted] at havoids
          rw [Disk.readText?_congr hdisk (havoids path (by simp))]
        · simp [Scan.operations, Load.isWanted, hwanted]

end Change

/-! ## Messages -/

/-- messages that differ in the settings they carry at most -/
inductive Request.Alike : Request → Request → Prop
  | same (request : Request) : Alike request request
  | introduce (intro : Introduction) (options : Option Json) :
    Alike (.introduce intro) (.introduce { intro with options })
  | configure (settings settings' : Json) : Alike (.configure settings) (.configure settings')

theorem Request.Alike.isIntroduction_eq {request request' : Request} (h : Alike request request') :
    request'.isIntroduction = request.isIntroduction := by
  cases h <;> rfl

theorem Request.Alike.rescans_eq {request request' : Request} (h : Alike request request') :
    request'.rescans = request.rescans := by
  cases h <;> rfl

theorem Request.Alike.after_eq {request request' : Request} (h : Alike request request') (phase : Phase) :
    phase.after request' = phase.after request := by
  cases h <;> rfl

namespace Session

/-- the paths that a rescan reads for a source: files with rules and sheets -/
def scanReads (s : Session) (env : Env) (kind : Kind) : List FilePath :=
  s.root.toList.flatMap fun root => env.disk.rulesRead root ++ Scan.sheetsRead env.disk s.settings kind root

/-- the paths that a message reads for a source -/
def reads (s : Session) (env : Env) (kind : Kind) : Request → List FilePath
  | .initialized => s.scanReads env kind
  | .configure settings => ({ s with clientSettings := some settings }.reload env).scanReads env kind
  | .didClose url => (closingChange env url).sheetsRead s.settings kind url
  | .didChangeFiles changes => (changes.filter s.heeds).flatMap fun c => c.2.sheetsRead s.settings kind c.1
  | _ => []

variable {kind : Kind} {held : List Name → Bool} {s s' : Session} {env env' : Env}

theorem rescanOperations_congr (hroot : s'.root = s.root) (hbuffers : s'.buffers = s.buffers)
    (hlisting : env'.listing = env.listing) (hopen : env'.openListing = env.openListing)
    (hdisk : env'.disk.redact held = env.disk.redact held)
    (hsettings : s.settings.AgreeOn kind s'.settings)
    (havoids : ∀ path ∈ s.scanReads env kind, env.disk.avoids held path = true) :
    s'.rescanOperations env' kind = s.rescanOperations env kind := by
  have hbufferLoads : s'.bufferLoads env' = s.bufferLoads env := by
    rw [bufferLoads, bufferLoads, buffersInOrder, buffersInOrder, hbuffers, hopen]
  have hdiskLoads : Scan.operations s'.settings kind (s'.diskLoads env') =
      Scan.operations s.settings kind (s.diskLoads env) := by
    rw [diskLoads, diskLoads, hroot, hlisting]
    cases hpath : s.root with
    | none => exact Scan.operations_congr hsettings []
    | some root =>
      have hreads : ∀ path ∈ env.disk.rulesRead root ++ Scan.sheetsRead env.disk s.settings kind root,
          env.disk.avoids held path = true := by
        intro path hmem
        exact havoids path (by simpa [scanReads, hpath] using hmem)
      exact Scan.operations_inOrder_congr hsettings env.listing hdisk
        (fun path hmem => hreads path (List.mem_append_left _ hmem))
        (fun path hmem => hreads path (List.mem_append_right _ hmem))
  rw [rescanOperations, rescanOperations, hdiskLoads, hbufferLoads, Scan.operations_congr hsettings]

/-- **A message comes to the same operations** on the registry of a kind in both sessions, if rescans have the same
orders. -/
theorem operations_congr (hroot : s'.root = s.root) (hbuffers : s'.buffers = s.buffers)
    (hlisting : env'.listing = env.listing) (hopen : env'.openListing = env.openListing)
    (hdisk : env'.disk.redact held = env.disk.redact held) (hbefore : s.settings.AgreeOn kind s'.settings)
    {request request' : Request} (halike : request.Alike request')
    (hbehind : (s.outcome env request).settings.AgreeOn kind (s'.outcome env' request').settings)
    (havoids : ∀ path ∈ s.reads env kind request, env.disk.avoids held path = true) :
    s'.operations env' kind request' = s.operations env kind request := by
  have hconfigure : ∀ {settings settings' : Json}, request = .configure settings → request' = .configure settings' →
      s'.operations env' kind request' = s.operations env kind request := by
    rintro settings settings' rfl rfl
    rw [outcome_configure, outcome_configure] at hbehind
    exact rescanOperations_congr hroot hbuffers hlisting hopen hdisk hbehind havoids
  cases halike with
  | introduce intro options => rfl
  | configure settings settings' => exact hconfigure rfl rfl
  | same =>
    cases request with
    | introduce | shutdown | completion => rfl
    | initialized => exact rescanOperations_congr hroot hbuffers hlisting hopen hdisk hbefore havoids
    | configure settings => exact hconfigure rfl rfl
    | didOpen url language text => exact Scan.operations_congr hbefore _
    | didChange url texts => exact Scan.operations_congr hbefore _
    | didClose url =>
      have hexists : env'.disk.pathExists = env.disk.pathExists := funext (Disk.pathExists_congr hdisk)
      have hchange : closingChange env' url = closingChange env url := by rw [closingChange, closingChange, hexists]
      rw [operations, operations, hchange]
      exact Change.operations_congr hbefore hdisk havoids
    | didChangeFiles changes =>
      have hheeds : s'.heeds = s.heeds := by
        funext c
        rw [heeds, heeds, isOpen, isOpen, hbuffers]
      rw [operations, operations, hheeds]
      refine List.flatMap_congr fun c hc => Change.operations_congr hbefore hdisk fun path hpath => ?_
      exact havoids path (List.mem_flatMap.2 ⟨c, hc, hpath⟩)

/-- A message has the same effect on the root and the open documents in both sessions. -/
theorem documents_congr (hroot : s'.root = s.root) (hbuffers : s'.buffers = s.buffers) (env env' : Env)
    {request request' : Request} (halike : request.Alike request') :
    (s'.outcome env' request').root = (s.outcome env request).root ∧
      (s'.outcome env' request').buffers = (s.outcome env request).buffers := by
  cases halike with
  | introduce intro options => exact ⟨congrArg (rootOf? intro).or hroot, hbuffers⟩
  | configure settings settings' =>
    rw [outcome_configure, outcome_configure]
    exact ⟨hroot, hbuffers⟩
  | same =>
    cases request with
    | introduce intro => exact ⟨congrArg (rootOf? intro).or hroot, hbuffers⟩
    | configure settings =>
      rw [outcome_configure, outcome_configure]
      exact ⟨hroot, hbuffers⟩
    | didOpen url language text =>
      refine ⟨hroot, ?_⟩
      rw [(outcome_didOpen s' env' url language text).2.1, (outcome_didOpen s env url language text).2.1, setBuffer,
        setBuffer, hbuffers]
    | didChange url texts =>
      cases htexts : texts.getLast? with
      | none =>
        rw [outcome_didChange_of_none s' env' url htexts, outcome_didChange_of_none s env url htexts]
        exact ⟨hroot, hbuffers⟩
      | some text =>
        simp only [outcome, handle, didChange, htexts, hroot, hbuffers, and_self]
    | didClose url =>
      refine ⟨hroot, ?_⟩
      have hclose : ∀ (s : Session) (env : Env), (s.outcome env (.didClose url)).buffers =
          s.buffers.filter fun b => b.1 ≠ url.text := fun _ _ => rfl
      rw [hclose, hclose, hbuffers]
    | initialized | shutdown | didChangeFiles | completion => exact ⟨hroot, hbuffers⟩

end Session

/-! ## Steps -/

/-- events that differ at most in settings, those a message carries and those written into a file, and in the orders that
they give to rescans -/
inductive Event.Alike : Event → Event → Prop
  | message {request request' : Request} (h : request.Alike request') : Alike (.message request) (.message request')
  | write (path : FilePath) (content content' : List UInt8) :
    Alike (.write path (.file content)) (.write path (.file content'))
  | writeUserFile (text text' : String) : Alike (.writeUserFile text) (.writeUserFile text')
  | relist (listing listing' openListing openListing' : FileId → String) :
    Alike (.relist listing openListing) (.relist listing' openListing')
  | same (e : Event) : Alike e e

namespace World

/-- the disks differ in the contents of places held back at most, and the settings agree as far as a kind is concerned -/
structure Agree (held : List Name → Bool) (kind : Kind) (w w' : World) : Prop where
  disk : w'.env.disk.redact held = w.env.disk.redact held
  settings : w.session.settings.AgreeOn kind w'.session.settings

/-- an event reads no file held back for the source of a kind, neither as a sheet nor for rules -/
def LeavesUnread (held : List Name → Bool) (kind : Kind) (w : World) (e : Event) : Prop :=
  ∀ request ∈ w.heardAt e, ∀ path ∈ w.session.reads w.env kind request, w.env.disk.avoids held path = true

/-- if an event leads to a rescan, its orders are the same in both worlds -/
def RescansAlike (w w' : World) (e : Event) : Prop :=
  ∀ request ∈ w.heardAt e, request.rescans = true → w.env.SameOrders w'.env

/-- worlds of two runs that are the same but for settings, contents of files, orders and indexes -/
structure Paired (w w' : World) : Prop where
  client : w'.env.client = w.env.client
  phase : w'.phase = w.phase
  root : w'.session.root = w.session.root
  buffers : w'.session.buffers = w.session.buffers

variable {held : List Name → Bool} {kind : Kind} {w w' : World}

theorem Paired.message (h : Paired w w') {request request' : Request} (halike : request.Alike request') :
    Paired (w.step (.message request)).1 (w'.step (.message request')).1 ∧
      ((w.step (.message request)).1.session = w.session ∧ (w'.step (.message request')).1.session = w'.session ∨
        request ∈ w.heardAt (.message request) ∧
          (w.step (.message request)).1.session = w.session.outcome w.env request ∧
          (w'.step (.message request')).1.session = w'.session.outcome w'.env request') := by
  have hrefusal : w'.refusal? request'.isIntroduction = w.refusal? request.isIntroduction := by
    rw [refusal?, refusal?, h.client, h.phase, halike.isIntroduction_eq]
  cases hheard : w.refusal? request.isIntroduction with
  | some failure =>
    rw [hheard] at hrefusal
    rw [step_refused hheard, step_refused hrefusal]
    exact ⟨h, Or.inl ⟨rfl, rfl⟩⟩
  | none =>
    rw [hheard] at hrefusal
    obtain ⟨hroot, hbuffers⟩ := Session.documents_congr h.root h.buffers w.env w'.env halike
    rw [step_message hheard, step_message hrefusal]
    refine ⟨⟨h.client, ?_, hroot, hbuffers⟩, Or.inr ⟨by simp [heardAt, hheard], rfl, rfl⟩⟩
    rw [h.phase, halike.after_eq]

/-- **One event** leads from paired worlds to paired worlds. It leaves both sessions as they are, or it is a message that
gets through in both worlds. -/
theorem Paired.step (h : Paired w w') {e e' : Event} (halike : e.Alike e') :
    Paired (w.step e).1 (w'.step e').1 ∧
      ((w.step e).1.session = w.session ∧ (w'.step e').1.session = w'.session ∨
        ∃ request request', request.Alike request' ∧ request ∈ w.heardAt e ∧
          (w.step e).1.session = w.session.outcome w.env request ∧
          (w'.step e').1.session = w'.session.outcome w'.env request') := by
  cases halike with
  | message halike =>
    obtain ⟨hpaired, hcases⟩ := h.message halike
    exact ⟨hpaired, hcases.imp_right fun hheard => ⟨_, _, halike, hheard⟩⟩
  | write | writeUserFile | relist => exact ⟨⟨h.client, h.phase, h.root, h.buffers⟩, Or.inl ⟨rfl, rfl⟩⟩
  | same =>
    cases e with
    | message request =>
      obtain ⟨hpaired, hcases⟩ := h.message (.same request)
      exact ⟨hpaired, hcases.imp_right fun hheard => ⟨_, _, .same request, hheard⟩⟩
    | write | delete | writeUserFile | relist => exact ⟨⟨h.client, h.phase, h.root, h.buffers⟩, Or.inl ⟨rfl, rfl⟩⟩

/-- In the other world, with the orders of the first one, a message comes to the operations of the first. -/
theorem Paired.operations_eq (h : Paired w w') (hagree : Agree held kind w w') {request request' : Request}
    (halike : request.Alike request')
    (hbehind : (w.session.outcome w.env request).settings.AgreeOn kind (w'.session.outcome w'.env request').settings)
    (havoids : ∀ path ∈ w.session.reads w.env kind request, w.env.disk.avoids held path = true) :
    w'.session.operations { w'.env with listing := w.env.listing, openListing := w.env.openListing } kind request' =
      w.session.operations w.env kind request := by
  have hsettings := Session.settings_outcome_relist w'.session w'.env w.env.listing w.env.openListing request'
  let listed : Env := { w'.env with listing := w.env.listing, openListing := w.env.openListing }
  have hdisk : listed.disk.redact held = w.env.disk.redact held := hagree.disk
  have hlisting : listed.listing = w.env.listing := rfl
  exact Session.operations_congr h.root h.buffers hlisting rfl hdisk hagree.settings halike (hsettings ▸ hbehind) havoids

/-- **The symbols of one event.** Whatever the orders of a rescan, files that have the same symbols in the registry of a
kind in both worlds still do behind the event. -/
theorem Paired.symbols?_step (h : Paired w w') (hform : w.session.WellFormed) (hform' : w'.session.WellFormed)
    (hagree : Agree held kind w w') {e e' : Event} (halike : e.Alike e')
    (hbehind : Agree held kind (w.step e).1 (w'.step e').1) (hunread : LeavesUnread held kind w e)
    (hsymbols : ∀ file, (w'.session.index.registry kind).symbols? file = (w.session.index.registry kind).symbols? file)
    (file : FileId) :
    ((w'.step e').1.session.index.registry kind).symbols? file =
      ((w.step e).1.session.index.registry kind).symbols? file := by
  rcases (h.step halike).2 with ⟨hsame, hsame'⟩ | ⟨request, request', halike, hheard, houtcome, houtcome'⟩
  · rw [hsame, hsame']
    exact hsymbols file
  · have hsettings := hbehind.settings
    rw [houtcome, houtcome'] at hsettings
    rw [houtcome, houtcome', ← Session.symbols?_outcome_relist hform' w'.env w.env.listing w.env.openListing,
      Session.registry_outcome, Session.registry_outcome, h.operations_eq hagree halike hsettings (hunread _ hheard)]
    exact Registry.symbols?_foldl_apply_congr ((hform'.typed kind).trans (hform.typed kind).symm) hsymbols _ file

/-- **The registry of one event.** With the same orders the whole registry of a kind stays the same in both worlds. -/
theorem Paired.registry_step (h : Paired w w') (hagree : Agree held kind w w') {e e' : Event} (halike : e.Alike e')
    (hbehind : Agree held kind (w.step e).1 (w'.step e').1) (hunread : LeavesUnread held kind w e)
    (horders : RescansAlike w w' e)
    (hregistry : w'.session.index.registry kind = w.session.index.registry kind) :
    (w'.step e').1.session.index.registry kind = (w.step e).1.session.index.registry kind := by
  rcases (h.step halike).2 with ⟨hsame, hsame'⟩ | ⟨request, request', halike, hheard, houtcome, houtcome'⟩
  · rw [hsame, hsame']
    exact hregistry
  · have hsettings := hbehind.settings
    rw [houtcome, houtcome'] at hsettings
    have hlisted : request'.rescans = true → w'.env.SameOrders
        { w'.env with listing := w.env.listing, openListing := w.env.openListing } := fun hrescans => by
      have hsame := horders request hheard (by rw [← hrescans, halike.rescans_eq])
      exact ⟨fun a b => (hsame.files a b).symm, fun a b => (hsame.documents a b).symm⟩
    rw [houtcome, houtcome', ← Session.outcome_relist_of_sameOrders hlisted, Session.registry_outcome,
      Session.registry_outcome, h.operations_eq hagree halike hsettings (hunread _ hheard), hregistry]

/-! ## Runs -/

/-- The last message of a run is a rescan. -/
theorem session_run_initialized {w : World} (hclient : w.env.client = none) (events : List Event) :
    (w.run (events ++ [.message .initialized])).session = (w.run events).session.rescan (w.run events).env := by
  have hheard : (w.run events).refusal? Request.initialized.isIntroduction = none := by
    rw [refusal?, run_client, hclient]
    rfl
  rw [run_snoc, step_message hheard]
  rfl

/-- **What every pair of events keeps, every pair of runs keeps**, as long as the worlds are paired. -/
theorem Paired.run_keeps {P : World → World → Prop} (h : Paired w w') (hP : P w w') {steps : List (Event × Event)}
    (halike : ∀ p ∈ steps, p.1.Alike p.2)
    (hstep : ∀ before p, before ++ [p] <+: steps →
      Paired (w.run (before.map Prod.fst)) (w'.run (before.map Prod.snd)) →
      P (w.run (before.map Prod.fst)) (w'.run (before.map Prod.snd)) →
      P ((w.run (before.map Prod.fst)).step p.1).1 ((w'.run (before.map Prod.snd)).step p.2).1) :
    Paired (w.run (steps.map Prod.fst)) (w'.run (steps.map Prod.snd)) ∧
      P (w.run (steps.map Prod.fst)) (w'.run (steps.map Prod.snd)) := by
  induction steps using List.reverseRecOn with
  | nil => exact ⟨h, hP⟩
  | append_singleton steps p ih =>
    obtain ⟨hpaired, hkept⟩ := ih (fun q hq => halike q (List.mem_append_left _ hq))
      fun before q hbefore => hstep before q (hbefore.trans (List.prefix_append _ _))
    rw [List.map_append, List.map_append, List.map_singleton, List.map_singleton, run_snoc, run_snoc]
    exact ⟨(hpaired.step (halike p (by simp))).1, hstep steps p (List.prefix_refl _) hpaired hkept⟩

end World

/-- **The registries do not interfere.** Let two runs have the same root and client and the same events, apart from the
settings that messages carry and files hold and from the orders of rescans, and let their worlds agree at every point: on the
disk, but for the contents of the places held back, and on the source of a kind and what a scan leaves out. Let no event of
the first run read a file held back, as a sheet for that source or for rules. Then at every point of the runs,
- the same files have entries in the registry of that kind, with the same symbols, whatever the orders;
- the whole registry is the same, and with it the order of recency, if each rescan up to there had the same orders in both
  runs. -/
theorem registry_independent (held : List Name → Bool) (kind : Kind) (env env' : Env) (root : Option FilePath)
    (hclient : env'.client = env.client) {steps : List (Event × Event)} (halike : ∀ p ∈ steps, p.1.Alike p.2)
    (hagree : ∀ before, before <+: steps → World.Agree held kind
      ((World.start env root).run (before.map Prod.fst)) ((World.start env' root).run (before.map Prod.snd)))
    (hunread : ∀ before p, before ++ [p] <+: steps →
      World.LeavesUnread held kind ((World.start env root).run (before.map Prod.fst)) p.1)
    {before : List (Event × Event)} (hbefore : before <+: steps) :
    let run (part : List (Event × Event)) : World := (World.start env root).run (part.map Prod.fst)
    let run' (part : List (Event × Event)) : World := (World.start env' root).run (part.map Prod.snd)
    (∀ file, ((run' before).session.index.registry kind).symbols? file =
      ((run before).session.index.registry kind).symbols? file) ∧
    ((∀ part p, part ++ [p] <+: before → World.RescansAlike (run part) (run' part) p.1) →
      (run' before).session.index.registry kind = (run before).session.index.registry kind) := by
  intro run run'
  have hstart : World.Paired (World.start env root) (World.start env' root) := ⟨hclient, rfl, rfl, rfl⟩
  have halike : ∀ p ∈ before, p.1.Alike p.2 := fun p hp => halike p (hbefore.subset hp)
  have hform : ∀ part, (run part).session.WellFormed := fun part =>
    World.run_wellFormed (World.start_wellFormed env root) _
  have hform' : ∀ part, (run' part).session.WellFormed := fun part =>
    World.run_wellFormed (World.start_wellFormed env' root) _
  have hbehind : ∀ part p, part ++ [p] <+: before →
      World.Agree held kind (run part) (run' part) ∧
        World.Agree held kind ((run part).step p.1).1 ((run' part).step p.2).1 := by
    intro part p hpart
    have hagree' := hagree (part ++ [p]) (hpart.trans hbefore)
    simp only [List.map_append, List.map_singleton, World.run_snoc] at hagree'
    exact ⟨hagree part ((List.prefix_append _ _).trans (hpart.trans hbefore)), hagree'⟩
  constructor
  · refine (hstart.run_keeps (P := fun w w' => ∀ file, (w'.session.index.registry kind).symbols? file =
      (w.session.index.registry kind).symbols? file) (fun file => rfl) halike fun part p hpart hpaired hsymbols => ?_).2
    exact hpaired.symbols?_step (hform part) (hform' part) (hbehind part p hpart).1 (halike p (hpart.subset (by simp)))
      (hbehind part p hpart).2 (hunread part p (hpart.trans hbefore)) hsymbols
  · intro horders
    refine (hstart.run_keeps (P := fun w w' => w'.session.index.registry kind = w.session.index.registry kind) rfl halike
      fun part p hpart hpaired hregistry => ?_).2
    exact hpaired.registry_step (hbehind part p hpart).1 (halike p (hpart.subset (by simp))) (hbehind part p hpart).2
      (hunread part p (hpart.trans hbefore)) (horders part p hpart) hregistry

/-- One client turns mixins off and its settings file says more: the mixins of an open document count in one run only, and
its class names in both. While the rescans of both runs have the same orders, the registry of class names is the same; and
when they have not, it still holds the same symbols. -/
theorem mixins_off_in_one_run :
    let folder : List Name := [Name.ofString "w"]
    let place := folder ++ [Session.settingsFile]
    let disk (text : String) : Disk := ⟨[(folder, .directory), (place, .file (Utf8.ofString text))]⟩
    let url (path : String) : Url := ⟨Url.fileScheme, some .here, path.toList, none, none⟩
    let off : Json := .obj [("mixins", .obj [("enabled", .bool false)])]
    let introduce (options : Option Json) : Event := .message (.introduce ⟨[url "/w"], none, options, false⟩)
    let sheet (path text : String) : Event := .message (.didOpen (url path) "pcss" text)
    let configure (settings : Json) : Event := .message (.configure settings)
    let steps : List (Event × Event) :=
      [(introduce none, introduce (some off)),
        (sheet "/w/a.pcss" ".kept @define-mixin gone", sheet "/w/a.pcss" ".kept @define-mixin gone"),
        (configure (.obj []), configure off), (.relist id id, .relist id fun _ => ""),
        (sheet "/w/b.pcss" ".more", sheet "/w/b.pcss" ".more"), (.message .initialized, .message .initialized)]
    let env (text : String) : Env := ⟨disk text, none, id, none, id⟩
    let w := World.start (env "") none
    let w' := World.start (env "replaceTypedPrefix=false") none
    ((w.run ((steps.take 2).map Prod.fst)).session.index.registry .mixin).files = ["file:///w/a.pcss"] ∧
      ((w'.run ((steps.take 2).map Prod.snd)).session.index.registry .mixin).files = [] ∧
      (w'.run ((steps.take 3).map Prod.snd)).session.index.registry .className =
        (w.run ((steps.take 3).map Prod.fst)).session.index.registry .className ∧
      ∀ file, ((w'.run (steps.map Prod.snd)).session.index.registry .className).symbols? file =
        ((w.run (steps.map Prod.fst)).session.index.registry .className).symbols? file := by
  intro folder place disk url off introduce sheet configure steps env w w'
  have halike : ∀ p ∈ steps, p.1.Alike p.2 := by
    simp only [steps, List.forall_mem_cons]
    exact ⟨.message (.introduce _ _), .same _, .message (.configure _ _), .relist _ _ _ _, .same _, .same _, by simp⟩
  have hdisk : ∀ before ∈ steps.inits, (w'.run (before.map Prod.snd)).env.disk.redact (· = place) =
      (w.run (before.map Prod.fst)).env.disk.redact (· = place) := by decide +kernel
  have hsource : ∀ before ∈ steps.inits, (w'.run (before.map Prod.snd)).session.settings.classNames =
      (w.run (before.map Prod.fst)).session.settings.classNames := by decide +kernel
  have hexclude : ∀ before ∈ steps.inits, (w'.run (before.map Prod.snd)).session.settings.exclude =
      (w.run (before.map Prod.fst)).session.settings.exclude := by decide +kernel
  have hunread : ∀ before ∈ steps.inits, ∀ p ∈ steps, ∀ request ∈ (w.run (before.map Prod.fst)).heardAt p.1,
      ∀ path ∈ (w.run (before.map Prod.fst)).session.reads (w.run (before.map Prod.fst)).env .className request,
        (w.run (before.map Prod.fst)).env.disk.avoids (· = place) path = true := by
    decide +kernel
  have hlaw := fun (before : List (Event × Event)) (hbefore : before <+: steps) =>
    registry_independent (· = place) .className (env "") (env "replaceTypedPrefix=false") none rfl halike
      (fun before hbefore => by
        have hmem : before ∈ steps.inits := (List.mem_inits _ _).2 hbefore
        exact ⟨hdisk before hmem, hsource before hmem, hexclude before hmem⟩)
      (fun before p hbefore => by
        have hmem : before ∈ steps.inits := (List.mem_inits _ _).2 ((List.prefix_append _ _).trans hbefore)
        exact hunread before hmem p (hbefore.subset (by simp)))
      hbefore
  refine ⟨by decide +kernel, by decide +kernel, (hlaw (steps.take 3) (List.take_prefix 3 steps)).2 ?_,
    (hlaw steps (List.prefix_refl steps)).1⟩
  have horders : ∀ part ∈ (steps.take 2).inits,
      (w.run (part.map Prod.fst)).env.SameOrders (w'.run (part.map Prod.snd)).env := by
    have hid : ∀ a b : FileId, id a ≤ id b ↔ id a ≤ id b := fun _ _ => Iff.rfl
    simp only [steps, List.take_succ_cons, List.take_zero, List.inits, List.map_cons, List.map_nil, List.forall_mem_cons]
    exact ⟨⟨hid, hid⟩, ⟨hid, hid⟩, ⟨hid, hid⟩, by simp⟩
  intro part p hpart request _ _
  have hlength : part.length < 3 := by simpa [steps] using hpart.length_le
  exact horders part ((List.mem_inits _ _).2 (List.prefix_of_prefix_length_le ((List.prefix_append _ _).trans hpart)
    (List.take_prefix_take_left (by decide)) (Nat.le_of_lt_succ hlength)))

/-- What must be left unread makes a difference, and so do the orders of rescans.
- The settings of two runs are the same at every point and the disks differ in the settings file alone, which is told to be
  a sheet and is linked as a file with rules. Its text as a sheet makes one difference, and its lines as rules make another.
- Two runs differ in nothing but the order in which a rescan takes the open documents, and their recency differs. -/
theorem settings_file_and_orders_count :
    let folder : List Name := [Name.ofString "w"]
    let place := folder ++ [Session.settingsFile]
    let text := "[classNames]\nextensions=[\"toml\"]"
    let disk (text : String) : Disk :=
      ⟨[(folder, .directory), (place, .file (Utf8.ofString text)),
        (folder ++ [Name.ofString ".ignore"], .link Session.settingsFile),
        (folder ++ [Name.ofString "a.toml"], .file (Utf8.ofString ".a"))]⟩
    let url (path : String) : Url := ⟨Url.fileScheme, some .here, path.toList, none, none⟩
    let events : List Event :=
      [.message (.introduce ⟨[url "/w"], none, none, false⟩),
        .message (.didChangeFiles [(url "/w/.classy.toml", .touched)]), .message .initialized]
    let w := World.start ⟨disk text, none, id, none, id⟩ none
    let w' := World.start ⟨disk ("n='''\n*.toml\n'''\n" ++ text), none, id, none, id⟩ none
    let opened (path : String) : Event := .message (.didOpen (url path) "css" ".b")
    let documents : List Event := [opened "/w/a.css", opened "/w/b.css", .message .initialized]
    let ordered (openListing : FileId → String) : World := World.start ⟨.empty, none, id, none, openListing⟩ none
    let backwards (file : FileId) : String := if file = "file:///w/a.css" then "b" else "a"
    let rank (w : World) (file : FileId) : Nat := (w.session.index.registry .className).files.idxOf file
    ((∀ kind before, before <+: events → World.Agree (· = place) kind (w.run before) (w'.run before)) ∧
      ((w.run (events.take 2)).session.index.registry .className).symbols? "file:///w/.classy.toml" = some [] ∧
      ((w'.run (events.take 2)).session.index.registry .className).symbols? "file:///w/.classy.toml" = some ["toml"] ∧
      ((w.run events).session.index.registry .className).symbols? "file:///w/a.toml" = some ["a"] ∧
      ((w'.run events).session.index.registry .className).symbols? "file:///w/a.toml" = none) ∧
    (∀ kind before, before <+: documents →
      World.Agree (fun _ => false) kind ((ordered id).run before) ((ordered backwards).run before)) ∧
    rank ((ordered id).run documents) "file:///w/a.css" < rank ((ordered id).run documents) "file:///w/b.css" ∧
    rank ((ordered backwards).run documents) "file:///w/b.css" <
      rank ((ordered backwards).run documents) "file:///w/a.css" := by
  intro folder place text disk url events w w' opened documents ordered backwards rank
  have hdisk : ∀ before ∈ events.inits,
      (w'.run before).env.disk.redact (· = place) = (w.run before).env.disk.redact (· = place) := by decide +kernel
  have hsettings : ∀ before ∈ events.inits, (w'.run before).session.settings = (w.run before).session.settings := by
    decide +kernel
  have hform : ∀ (env : Env) (events : List Event), ((World.start env none).run events).session.WellFormed :=
    fun env events => World.run_wellFormed (World.start_wellFormed env none) events
  have hlater : ∀ (openListing : FileId → String) (later earlier : FileId) (buffer buffer' : Buffer),
      let s := ((ordered openListing).run (documents.take 2)).session
      Reapplied s.buffers s.settings .className later buffer → Reapplied s.buffers s.settings .className earlier buffer' →
      openListing earlier < openListing later →
      rank ((ordered openListing).run documents) earlier < rank ((ordered openListing).run documents) later := by
    intro openListing later earlier buffer buffer' s hlater hearlier hlisted
    simp only [rank]
    rw [show documents = documents.take 2 ++ [.message .initialized] from rfl, World.session_run_initialized rfl]
    exact Session.idxOf_files_rescan_lt_of_listing (hform _ _) _ hlater hearlier hlisted
  refine ⟨⟨fun kind before hbefore => ?_, by decide +kernel, by decide +kernel, ?_, ?_⟩, fun kind before hbefore => ?_,
    ?_, ?_⟩
  · rw [← List.mem_inits] at hbefore
    exact ⟨hdisk before hbefore, by rw [hsettings before hbefore], by rw [hsettings before hbefore]⟩
  · have hclosed : (w.run (events.take 2)).session.buffers = [] := by decide +kernel
    have hfound : (FilePath.mk folder).join [Name.ofString "a.toml"] ∈ ((w.run (events.take 2)).env.disk.walk
        (Scan.excludeRules (w.run (events.take 2)).session.settings) ⟨folder⟩).found := by decide +kernel
    have hread : (w.run (events.take 2)).env.disk.readText? ((FilePath.mk folder).join [Name.ofString "a.toml"]) =
        some ".a" := by decide +kernel
    have hextension : ((FilePath.mk folder).join [Name.ofString "a.toml"]).extension? = some "toml" := by decide +kernel
    have hsymbols : Registry.symbolsOf .className ".a" = ["a"] := by decide +kernel
    rw [show events = events.take 2 ++ [.message .initialized] from rfl, World.session_run_initialized rfl,
      Session.symbols?_rescan_iff (hform _ _), ← hsymbols]
    refine .walked ?_ (by decide +kernel) hfound (by decide +kernel) hextension (by decide +kernel) hread
    rintro b ⟨hopen, _⟩
    rw [hclosed] at hopen
    cases hopen
  · have hfound : ((w'.run (events.take 2)).env.disk.walk
        (Scan.excludeRules (w'.run (events.take 2)).session.settings) ⟨folder⟩).found = [] := by decide +kernel
    have hroot : (w'.run (events.take 2)).session.root = some ⟨folder⟩ := by decide +kernel
    have hclosed : (w'.run (events.take 2)).session.buffers = [] := by decide +kernel
    rw [Option.eq_none_iff_forall_ne_some]
    intro symbols hsymbols
    rw [show events = events.take 2 ++ [.message .initialized] from rfl, World.session_run_initialized rfl,
      Session.symbols?_rescan_iff (hform _ _)] at hsymbols
    cases hsymbols with
    | document h =>
      have hopen := h.1
      rw [hclosed] at hopen
      cases hopen
    | walked _ hstart hwalked =>
      obtain rfl := Option.some.inj (hroot.symm.trans hstart)
      rw [hfound] at hwalked
      cases hwalked
  · have hsame : ∀ before ∈ documents.inits, ((ordered backwards).run before).env.disk.redact (fun _ => false) =
          ((ordered id).run before).env.disk.redact (fun _ => false) ∧
        ((ordered backwards).run before).session.settings = ((ordered id).run before).session.settings := by
      decide +kernel
    obtain ⟨hdisk, hsettings⟩ := hsame before ((List.mem_inits _ _).2 hbefore)
    exact ⟨hdisk, by rw [hsettings], by rw [hsettings]⟩
  · exact hlater id _ _ ⟨"css", ".b"⟩ ⟨"css", ".b"⟩ ⟨by decide +kernel, by decide +kernel⟩
      ⟨by decide +kernel, by decide +kernel⟩ (by decide)
  · exact hlater backwards _ _ ⟨"css", ".b"⟩ ⟨"css", ".b"⟩ ⟨by decide +kernel, by decide +kernel⟩
      ⟨by decide +kernel, by decide +kernel⟩ (by decide)

end StyleIndex
