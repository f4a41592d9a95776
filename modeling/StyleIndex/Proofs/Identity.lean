/-
One file, one entry.

The entries of a registry go by identities, and an identity is the text of a URL. It means a file if it reads back as a URL
with a path (`namesOf?`). The index writes the identity of a file in one way, but a URL may escape more than it does, or
carry a query or a fragment, and still mean the file. An identity is canonical if it is the one that the index would write
for the file it means (`isCanonical`).

What the index itself adds is canonical: a scan names files by their paths, and such a name reads back (`isCanonical_id`) as
long as the path does not go up, which only a root can do (`straight_of_found`). So the entries of a run are canonical if
all files that the client names are (`spelled_run`), and canonical identities that mean one file are equal. On the other
hand a message acts on the entry of the identity that it names and on no other. A document that is opened under another
spelling than its entry has therefore gets a second entry (`oneEntry_update_iff`).

`one_entry_per_file` says all this of runs, and `second_entry_under_escapes` shows the second entry.
-/
import Mathlib.Tactic
import StyleIndex.Proofs.Entries
import StyleIndex.Proofs.Walk

namespace StyleIndex

/-! ## Identities -/

/-- the names on the way to the file that an identity means -/
def namesOf? (file : FileId) : Option (List Name) :=
  ((Url.parse? file).bind Url.filePath?).map FilePath.components

/-- both identities mean the same file -/
def sameFile (file other : FileId) : Bool :=
  (namesOf? file).any fun names => namesOf? other = some names

/-- the identity is the one that its file has on disk, if it means a file -/
def isCanonical (file : FileId) : Bool :=
  (namesOf? file).all fun names => file = (FilePath.mk names).id

theorem sameFile_iff {file other : FileId} :
    sameFile file other = true ↔ ∃ names, namesOf? file = some names ∧ namesOf? other = some names := by
  simp [sameFile, Option.any_eq_true]

/-- Canonical identities tell files apart. -/
theorem eq_of_sameFile {file other : FileId} (hfile : isCanonical file = true) (hother : isCanonical other = true)
    (h : sameFile file other = true) : file = other := by
  obtain ⟨names, hnames, hnames'⟩ := sameFile_iff.1 h
  simp only [isCanonical, hnames, hnames', Option.all_some, decide_eq_true_eq] at hfile hother
  calc
    file = (FilePath.mk names).id := hfile
    _ = other := hother.symm

namespace FilePath

/-- a path that does not go up and has no slashes in its names -/
structure Straight (p : FilePath) : Prop where
  up : Name.up ∉ p.components
  slash : ∀ name ∈ p.components, Name.slash ∉ name

theorem components_components (p : FilePath) : (FilePath.mk p.components).components = p.components := by
  simp [components, List.filter_filter]

theorem components_join (p : FilePath) (names : List Name) :
    (p.join names).components = p.components ++ (FilePath.mk names).components := by
  simp [components, join]

theorem components_closeDrive (p : FilePath) : (FilePath.mk (Url.closeDrive p.components)).components = p.components := by
  unfold Url.closeDrive
  split
  · split_ifs
    · have hmark := components_join ⟨p.components⟩ [[]]
      rw [components_components] at hmark
      exact hmark.trans (by simp [components])
    · exact components_components p
  · exact components_components p

theorem id_components (p : FilePath) : (FilePath.mk p.components).id = p.id := by
  simp only [id, url, components_components]

/-- The identity of a straight path means the path. -/
theorem namesOf?_id {p : FilePath} (h : p.Straight) (hne : p.components ≠ []) : namesOf? p.id = some p.components := by
  rw [namesOf?, Url.parse?_id_eq_url hne h.up, Option.bind_some, Url.filePath?_url_eq hne h.slash, Option.map_some,
    components_closeDrive]

theorem isCanonical_id {p : FilePath} (h : p.Straight) (hne : p.components ≠ []) : isCanonical p.id = true := by
  rw [isCanonical, namesOf?_id h hne, Option.all_some, decide_eq_true_eq, id_components]

end FilePath

/-- A scan from a straight root finds straight paths. -/
theorem Disk.straight_of_found {d : Disk} (hd : d.WellFormed) (hnamed : d.Named) {root path : FilePath}
    (hroot : root.Straight) {excludes : List IgnoreRule} (h : path ∈ (d.walk excludes root).found) : path.Straight := by
  rcases root_cases hd root with hlost | ⟨start, content, hstart, hnode⟩ | ⟨start, hstart, hdir⟩
  · rw [found_of_lost hlost] at h
    cases h
  · rw [found_of_file hstart hnode, List.mem_singleton] at h
    rw [h]
    exact hroot
  · obtain ⟨names, rfl, hne, ⟨content, hnode⟩, _⟩ := (mem_found_iff hd hstart hdir).1 h
    have hproper := hd.isProper hnode
    have hslash : ∀ name ∈ start ++ names, Name.slash ∉ name :=
      hnamed _ (hd.mem_nodes_iff.2 ⟨by simp [hne], hnode⟩)
    constructor
    · rw [FilePath.components_join, List.mem_append, not_or]
      refine ⟨hroot.up, fun hup => ?_⟩
      have hname := hproper Name.up (List.mem_append_right _ (List.mem_filter.1 hup).1)
      exact absurd hname (by decide)
    · intro name hname
      rw [FilePath.components_join, List.mem_append] at hname
      rcases hname with hname | hname
      · exact hroot.slash name hname
      · exact hslash name (List.mem_append_right _ (List.mem_filter.1 hname).1)

/-- The path of a URL is cut at every slash, also at those that were escaped. -/
theorem Url.slash_notMem_filePath? {url : Url} {path : FilePath} (h : url.filePath? = some path) :
    ∀ name ∈ path.components, Name.slash ∉ name := by
  intro name hname
  unfold filePath? at h
  split at h
  · obtain ⟨written, hwritten, rfl⟩ := Option.map_eq_some_iff.1 h
    have hpieces : ∀ piece ∈ written.pieces, Name.slash ∉ piece := by
      unfold FilePath.ofBytes? at hwritten
      split at hwritten
      · split_ifs at hwritten
        cases hwritten
        exact fun piece hpiece => notMem_of_mem_splitOn hpiece
      · cases hwritten
    rcases mem_closeDrive (List.mem_filter.1 hname).1 with hname | rfl
    · exact hpieces name hname
    · simp
  · cases h

/-! ## Registries -/

namespace Registry

/-- no two entries mean the same file -/
def OneEntry (r : Registry) : Prop :=
  r.files.Pairwise fun file other => sameFile file other = false

theorem oneEntry_of_isCanonical {r : Registry} (hnodup : r.files.Nodup) (h : ∀ file ∈ r.files, isCanonical file = true) :
    r.OneEntry := by
  refine hnodup.imp_of_mem ?_
  intro file other hfile hother hne
  rw [Bool.eq_false_iff]
  intro hsame
  exact hne (eq_of_sameFile (h file hfile) (h other hother) hsame)

/-- **A second entry.** An update leaves one entry for each file exactly if its file has no entry under another identity. -/
theorem oneEntry_update_iff {r : Registry} (h : r.OneEntry) (file : FileId) (text : String) :
    (r.update file text).OneEntry ↔ ∀ other ∈ r.files, sameFile other file = true → other = file := by
  rw [OneEntry, files_update, List.pairwise_append]
  constructor
  · rintro ⟨_, _, hlast⟩ other hother hsame
    by_contra hne
    have hdiffer := hlast other (List.mem_filter.2 ⟨hother, by simpa using hne⟩) file (List.mem_singleton_self file)
    rw [hsame] at hdiffer
    cases hdiffer
  · intro honly
    refine ⟨List.Pairwise.filter _ h, List.pairwise_singleton _ _, ?_⟩
    intro other hother last hlast
    obtain ⟨hother, hne⟩ := List.mem_filter.1 hother
    rw [List.mem_singleton.1 hlast, Bool.eq_false_iff]
    intro hsame
    exact of_decide_eq_true hne (honly other hother hsame)

end Registry

/-! ## Messages -/

/-- the message names files as the index does, and no root that goes up -/
def Request.Spelled : Request → Prop
  | .introduce intro => ∀ path, Session.rootOf? intro = some path → Name.up ∉ path.components
  | request => ∀ file ∈ request.named, isCanonical file = true

/-- the document that a message gives a text, and the text -/
def Request.text? : Request → Option (Url × String)
  | .didOpen url _ text => some (url, text)
  | .didChange url texts => texts.getLast?.map fun text => (url, text)
  | _ => none

namespace Session

theorem index_outcome_of_text? {s : Session} {env : Env} {request : Request} {url : Url} {text : String}
    (h : request.text? = some (url, text)) : (s.outcome env request).index = sync s.settings s.index url.text text := by
  cases request with
  | didOpen url' language text' =>
    cases h
    exact (outcome_didOpen s env url language text).1
  | didChange url' texts =>
    obtain ⟨last, hlast, heq⟩ := Option.map_eq_some_iff.1 h
    cases heq
    exact (outcome_didChange s env url hlast).1
  | introduce | initialized | shutdown | didClose | didChangeFiles | configure | completion => cases h

/-- A document's text is an update of its file, where the settings take it. -/
theorem registry_sync (settings : Settings) (ix : Index) (file : FileId) (text : String) (kind : Kind) :
    (sync settings ix file text).registry kind =
      if settings.takes kind file then (ix.registry kind).update file text else ix.registry kind := by
  rw [sync]
  cases hload : bufferLoad? file text with
  | none =>
    rw [takes_eq_false_of_bufferLoad? hload]
    rfl
  | some l =>
    obtain ⟨extension, hextension, rfl⟩ := Option.map_eq_some_iff.1 hload
    rw [Option.elim_some, Load.registry_into, Settings.takes, hextension]
    rfl

/-- A rescan loads open documents and files that the walk finds. -/
theorem file_of_mem_rescan {s : Session} {env : Env} {l : Load} (hl : l ∈ s.diskLoads env ++ s.bufferLoads env) :
    (∃ b ∈ s.buffers, b.1 = l.file) ∨
      ∃ root path, s.root = some root ∧ path ∈ (env.disk.walk (Scan.excludeRules s.settings) root).found ∧
        path.components ≠ [] ∧ path.id = l.file := by
  rcases List.mem_append.1 hl with hl | hl
  · obtain ⟨root, hroot, hl⟩ := mem_diskLoads_iff.1 hl
    obtain ⟨_, path, hfound, extension, hextension, rfl⟩ := Scan.mem_styleFiles_iff.1 hl
    refine Or.inr ⟨root, path, hroot, hfound, ?_, rfl⟩
    intro hnil
    simp [FilePath.extension?, hnil] at hextension
  · obtain ⟨b, hb, hl⟩ := List.mem_filterMap.1 hl
    exact Or.inl ⟨b, mem_buffersInOrder_iff.1 hb, (file_of_bufferLoad? hl).symm⟩

theorem mem_buffers_outcome {s : Session} {env : Env} {request : Request} {b : FileId × Buffer}
    (hb : b ∈ (s.outcome env request).buffers) : b.1 ∈ request.named ∨ ∃ old ∈ s.buffers, old.1 = b.1 := by
  cases request with
  | introduce intro =>
    rw [(outcome_introduce s env intro).2] at hb
    exact Or.inr ⟨b, hb, rfl⟩
  | didOpen url language text =>
    rw [(outcome_didOpen s env url language text).2.1, setBuffer] at hb
    rcases List.mem_append.1 hb with hb | hb
    · exact Or.inr ⟨b, (List.mem_filter.1 hb).1, rfl⟩
    · rw [List.mem_singleton.1 hb]
      exact Or.inl (List.mem_singleton_self _)
  | didChange url texts =>
    cases htexts : texts.getLast? with
    | none =>
      rw [outcome_didChange_of_none s env url htexts] at hb
      exact Or.inr ⟨b, hb, rfl⟩
    | some text =>
      rw [(outcome_didChange s env url htexts).2.1] at hb
      obtain ⟨old, hold, rfl⟩ := List.mem_map.1 hb
      refine Or.inr ⟨old, hold, ?_⟩
      split_ifs <;> rfl
  | didClose url => exact Or.inr ⟨b, (List.mem_filter.1 hb).1, rfl⟩
  | configure settings =>
    rw [outcome_configure] at hb
    exact Or.inr ⟨b, hb, rfl⟩
  | initialized | shutdown | didChangeFiles | completion => exact Or.inr ⟨b, hb, rfl⟩

theorem root_outcome {s : Session} {env : Env} {request : Request} {path : FilePath}
    (h : (s.outcome env request).root = some path) :
    s.root = some path ∨ ∃ intro, request = .introduce intro ∧ rootOf? intro = some path := by
  cases request with
  | introduce intro =>
    have hroot : (rootOf? intro).or s.root = some path := h
    rcases Option.or_eq_some_iff.1 hroot with hroot | ⟨_, hroot⟩
    · exact Or.inr ⟨intro, rfl, hroot⟩
    · exact Or.inl hroot
  | didChange url texts =>
    simp only [outcome, handle, didChange] at h
    split at h <;> exact Or.inl h
  | configure settings =>
    rw [outcome_configure] at h
    exact Or.inl h
  | initialized | shutdown | didOpen | didClose | didChangeFiles | completion => exact Or.inl h

theorem slash_notMem_rootOf? {intro : Introduction} {path : FilePath} (h : rootOf? intro = some path) :
    ∀ name ∈ path.components, Name.slash ∉ name := by
  rcases Option.or_eq_some_iff.1 h with h | ⟨_, h⟩
  · obtain ⟨url, _, hurl⟩ := Option.bind_eq_some_iff.1 h
    exact Url.slash_notMem_filePath? hurl
  · obtain ⟨url, _, hurl⟩ := Option.bind_eq_some_iff.1 h
    exact Url.slash_notMem_filePath? hurl

end Session

namespace World

/-! ## Runs -/

/-- every identity that a world holds is canonical, and a scan of it would add no other -/
structure Spelled (w : World) : Prop where
  wellFormed : w.session.WellFormed
  disk : w.env.disk.WellFormed
  named : w.env.disk.Named
  root : ∀ path, w.session.root = some path → path.Straight
  buffers : ∀ b ∈ w.session.buffers, isCanonical b.1 = true
  entries : ∀ kind, ∀ e ∈ (w.session.index.registry kind).entries, isCanonical e.1 = true

theorem Spelled.isCanonical_rescan {w : World} (h : w.Spelled) {s : Session} (hroot : s.root = w.session.root)
    (hbuffers : s.buffers = w.session.buffers) {l : Load} (hl : l ∈ s.diskLoads w.env ++ s.bufferLoads w.env) :
    isCanonical l.file = true := by
  rcases Session.file_of_mem_rescan hl with ⟨b, hb, hfile⟩ | ⟨root, path, hpath, hfound, hne, hfile⟩
  · rw [← hfile]
    exact h.buffers b (hbuffers ▸ hb)
  · rw [← hfile]
    exact FilePath.isCanonical_id (Disk.straight_of_found h.disk h.named (h.root root (hroot ▸ hpath)) hfound) hne

theorem Spelled.isCanonical_load {w : World} (h : w.Spelled) {request : Request}
    (hnamed : ∀ file ∈ request.named, isCanonical file = true) {l : Load} (hl : l ∈ w.session.loads w.env request) :
    isCanonical l.file = true := by
  cases hrescans : request.rescans with
  | false => exact hnamed l.file (Session.file_mem_named hrescans hl)
  | true =>
    cases request with
    | initialized => exact h.isCanonical_rescan rfl rfl hl
    | configure settings =>
      rw [Session.loads] at hl
      refine h.isCanonical_rescan ?_ ?_ hl <;> rfl
    | introduce | shutdown | didOpen | didChange | didClose | didChangeFiles | completion => cases hrescans

/-- **One message** that names files as the index does leaves canonical identities. -/
theorem Spelled.outcome {w : World} (h : w.Spelled) {request : Request} (hrequest : request.Spelled) :
    ({ w with session := w.session.outcome w.env request, phase := w.phase.after request } : World).Spelled := by
  have hnamed : ∀ file ∈ request.named, isCanonical file = true := by
    cases request with
    | introduce => simp [Request.named]
    | initialized | shutdown | didOpen | didChange | didClose | didChangeFiles | configure | completion => exact hrequest
  refine ⟨Session.outcome_wellFormed h.wellFormed w.env request, h.disk, h.named, ?_, ?_, ?_⟩
  · intro path hpath
    rcases Session.root_outcome hpath with hold | ⟨intro, rfl, hnew⟩
    · exact h.root path hold
    · exact ⟨hrequest path hnew, Session.slash_notMem_rootOf? hnew⟩
  · intro b hb
    rcases Session.mem_buffers_outcome hb with hb | ⟨old, hold, hfile⟩
    · exact hnamed b.1 hb
    · rw [← hfile]
      exact h.buffers old hold
  · intro kind e he
    rcases (Session.outcome_madeFrom h.wellFormed.typed w.env request).entries kind e he with he | ⟨l, hl, _, _, rfl⟩
    · exact h.entries kind e he
    · exact h.isCanonical_load hnamed hl

/-- **One event.** -/
theorem Spelled.step {w : World} (h : w.Spelled) {e : Event}
    (hwrite : ∀ path node, e = .write path node → ∀ name ∈ path.pieces, Name.slash ∉ name)
    (hheard : ∀ request ∈ w.heardAt e, request.Spelled) : (w.step e).1.Spelled := by
  cases e with
  | message request =>
    cases hrefusal : w.refusal? request.isIntroduction with
    | none =>
      rw [step_message hrefusal]
      exact h.outcome (hheard request (by simp [heardAt, hrefusal]))
    | some failure =>
      rw [step_refused hrefusal]
      exact h
  | write path node =>
    exact { h with
      disk := step_disk_wellFormed h.disk (.write path node)
      named := Disk.named_write h.named (hwrite path node rfl) node }
  | delete path =>
    exact { h with disk := step_disk_wellFormed h.disk (.delete path), named := Disk.named_delete h.named path }
  | writeUserFile | relist => exact { h with }

end World

/-- the files of a run are named as the index names them, by the disk and by every message that gets through -/
structure SpelledRun (env : Env) (root : Option FilePath) (events : List Event) : Prop where
  disk : env.disk.WellFormed
  named : env.disk.Named
  workspace : ∀ path, root = some path → path.Straight
  written : ∀ path node, Event.write path node ∈ events → ∀ name ∈ path.pieces, Name.slash ∉ name
  messages : ∀ request ∈ (World.start env root).heard events, request.Spelled

theorem spelled_run {env : Env} {root : Option FilePath} {events : List Event} (h : SpelledRun env root events) :
    ((World.start env root).run events).Spelled := by
  obtain ⟨hdisk, hnamed, hroot, hwritten, hmessages⟩ := h
  induction events using List.reverseRecOn with
  | nil =>
    refine ⟨World.start_wellFormed env root, hdisk, hnamed, hroot, ?_, ?_⟩
    · intro b hb
      cases hb
    · intro kind e he
      cases kind <;> cases he
  | append_singleton events e ih =>
    rw [World.heard_snoc] at hmessages
    rw [World.run_snoc]
    have hbefore := ih (fun path node hmem => hwritten path node (List.mem_append_left _ hmem))
      fun request hrequest => hmessages request (List.mem_append_left _ hrequest)
    apply hbefore.step
    · rintro path node rfl
      exact hwritten path node (by simp)
    · intro request hrequest
      exact hmessages request (List.mem_append_right _ hrequest)

/-- **One file, one entry, if it has one spelling.** After a run whose messages name files as the index does, no two
entries of a registry mean the same file. In general, a document that is opened or changed leaves it so exactly if its file
has no entry under another identity, where the settings take it. For a message acts on the entries of the identities that
it names, and on no others. -/
theorem one_entry_per_file (env : Env) (root : Option FilePath) (events : List Event) {w : World}
    (hw : (World.start env root).run events = w) (kind : Kind) :
    (SpelledRun env root events → (w.session.index.registry kind).OneEntry) ∧
    (∀ request url text, w.refusal? request.isIntroduction = none → request.text? = some (url, text) →
      w.session.settings.takes kind url.text = true → (w.session.index.registry kind).OneEntry →
      (((w.step (.message request)).1.session.index.registry kind).OneEntry ↔
        ∀ file ∈ (w.session.index.registry kind).files, sameFile file url.text = true → file = url.text)) ∧
    ∀ request, w.refusal? request.isIntroduction = none → request.rescans = false → ∀ file ∉ request.named,
      ((w.step (.message request)).1.session.index.registry kind).symbols? file =
        (w.session.index.registry kind).symbols? file := by
  subst hw
  have hform := World.run_wellFormed (World.start_wellFormed env root) events
  refine ⟨?_, ?_, ?_⟩
  · intro hspelled
    apply Registry.oneEntry_of_isCanonical (World.run_nodup (World.start_nodup env root) events kind)
    intro file hfile
    obtain ⟨e, he, rfl⟩ := List.mem_map.1 hfile
    exact (spelled_run hspelled).entries kind e he
  · intro request url text hheard htext htakes hone
    rw [World.step_message hheard, ← Registry.oneEntry_update_iff hone url.text text]
    simp only [Session.index_outcome_of_text? htext, Session.registry_sync, htakes, if_true]
  · intro request hheard hrescans file hfile
    rw [World.step_message hheard]
    exact Session.symbols?_outcome_of_notMem hform.typed _ hrescans hfile kind

/-- A sheet with a blank in its name is opened under the escape that the index uses too. -/
theorem one_entry_with_blank :
    let root : FilePath := ⟨[Name.ofString "w"]⟩
    let disk : Disk := ⟨[([Name.ofString "w"], .directory),
      ([Name.ofString "w", Name.ofString "a b.css"], .file (Utf8.ofString ".old"))]⟩
    let url : Url := ⟨Url.fileScheme, some .here, "/w/a%20b.css".toList, none, none⟩
    let events : List Event := [.message .initialized, .message (.didOpen url "css" ".new")]
    let r := ((World.start ⟨disk, none, id, none, id⟩ (some root)).run events).session.index.registry .className
    r.entries = [("file:///w/a%20b.css", ["new"])] ∧ r.OneEntry := by
  intro root disk url events r
  have hspelled : SpelledRun ⟨disk, none, id, none, id⟩ (some root) events := by
    refine ⟨⟨by decide, by decide⟩, by decide +kernel, ?_, ?_, ?_⟩
    · intro path hpath
      cases hpath
      exact ⟨by decide, by decide⟩
    · intro path node hmem
      simp [events] at hmem
    · intro request hrequest
      have hheard : request ∈ [Request.initialized, .didOpen url "css" ".new"] := hrequest
      simp only [List.mem_cons, List.not_mem_nil, or_false] at hheard
      rcases hheard with rfl | rfl
      · simp [Request.Spelled, Request.named]
      · intro file hfile
        rw [List.mem_singleton.1 hfile]
        decide +kernel
  exact ⟨by decide +kernel, (one_entry_per_file _ _ events rfl .className).1 hspelled⟩

/-- A sheet with brackets in its name is opened under a URL that escapes them: its file has two entries, and the text on
disk counts beside the open one. -/
theorem second_entry_under_escapes :
    let root : FilePath := ⟨[Name.ofString "w"]⟩
    let disk : Disk := ⟨[([Name.ofString "w"], .directory),
      ([Name.ofString "w", Name.ofString "[id].css"], .file (Utf8.ofString ".old"))]⟩
    let url : Url := ⟨Url.fileScheme, some .here, "/w/%5Bid%5D.css".toList, none, none⟩
    let r := ((World.start ⟨disk, none, id, none, id⟩ (some root)).run
      [.message .initialized, .message (.didOpen url "css" ".new")]).session.index.registry .className
    r.entries = [("file:///w/[id].css", ["old"]), ("file:///w/%5Bid%5D.css", ["new"])] ∧
      Url.parse? "file:///w/%5Bid%5D.css" = some url ∧ sameFile "file:///w/[id].css" "file:///w/%5Bid%5D.css" = true ∧
      ¬r.OneEntry := by
  intro root disk url r
  have hentries : r.entries = [("file:///w/[id].css", ["old"]), ("file:///w/%5Bid%5D.css", ["new"])] := by
    decide +kernel
  have hsame : sameFile "file:///w/[id].css" "file:///w/%5Bid%5D.css" = true := by decide +kernel
  refine ⟨hentries, by decide +kernel, hsame, ?_⟩
  rw [Registry.OneEntry, Registry.files, hentries]
  simp [hsame]

end StyleIndex
