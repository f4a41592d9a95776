/-
What keeps a scan from a file does not keep a report of it from the index.

A scan leaves out what an exclude pattern, an ignore file or a hidden name keeps from its walk (`World.Filters`,
`symbols?_rescan_of_filters`). A report that such a file was created or changed is followed all the same: it loads the file
into each registry that takes the extension of the URL, if a text can be read there, and the filters do not come into it
(`registry_touched`). So reports keep to the filters exactly if they name no filtered file of this kind
(`reports_keep_to_filters_iff`); `reports_pass_filters` is a run in which they do not.

While nothing is open, reports in one message are the same as one message for each of them (`run_singly`), so that the law
can speak of single reports.
-/
import Mathlib.Tactic
import StyleIndex.Proofs.Closing
import StyleIndex.Proofs.Reports
import StyleIndex.Proofs.Rescan
import StyleIndex.Proofs.Walk

namespace StyleIndex

/-! ## Filters -/

/-- a file with this identity stands below the root of a walk, and the walk is kept from it: an exclude pattern, an ignore
file or a hidden name is in the way -/
def Disk.Filters (d : Disk) (excludes : List IgnoreRule) (root : FilePath) (file : FileId) : Prop :=
  ∃ start names node, d.locate? root = some start ∧ d.isDirectory start = true ∧
    d.node? (start ++ names) = some node ∧ Walk.reaches d excludes start names = false ∧ (root.join names).id = file

/-- The walk finds no path to a file that is kept from it. -/
theorem Disk.id_ne_of_filters {d : Disk} (hd : d.WellFormed) {excludes : List IgnoreRule} {root : FilePath} {file : FileId}
    (h : d.Filters excludes root file) {path : FilePath} (hfound : path ∈ (d.walk excludes root).found) :
    path.id ≠ file := by
  obtain ⟨start, names, node, hroot, hdir, hnode, hreaches, rfl⟩ := h
  obtain ⟨hstart, _⟩ := locate?_eq_some_iff.1 hroot
  obtain ⟨below, rfl, _, ⟨content, hfile⟩, hbelow⟩ := (mem_found_iff hd hstart hdir).1 hfound
  intro hid
  rw [names_eq_of_id_eq hd hfile hnode hid, hreaches] at hbelow
  cases hbelow

/-- a scan of the workspace would be kept from a file with this identity -/
def World.Filters (w : World) (file : FileId) : Prop :=
  ∃ root, w.session.root = some root ∧ w.env.disk.Filters (Scan.excludeRules w.session.settings) root file

/-- **A scan leaves out what is kept from its walk.** Only an open document could bring it in. -/
theorem World.symbols?_rescan_of_filters {w : World} (hform : w.session.WellFormed) (hdisk : w.env.disk.WellFormed)
    (hclosed : w.session.buffers = []) {file : FileId} (h : w.Filters file) (kind : Kind) :
    ((w.session.rescan w.env).index.registry kind).symbols? file = none := by
  obtain ⟨root, hroot, hfilters⟩ := h
  rw [Option.eq_none_iff_forall_ne_some]
  intro symbols hsymbols
  cases (Session.symbols?_rescan_iff hform w.env kind file symbols).1 hsymbols with
  | document hbuffer =>
    rw [Reapplied, hclosed] at hbuffer
    cases hbuffer.1
  | walked _ hstart hfound hid =>
    obtain rfl := Option.some.inj (hroot.symm.trans hstart)
    exact Disk.id_ne_of_filters hdisk hfilters hfound hid

/-! ## Single reports -/

/-- the report that the file of a URL was created or changed -/
def Event.touched (url : Url) : Event :=
  .message (.didChangeFiles [(url, .touched)])

/-- an event as events with one report each -/
def Event.singly : Event → List Event
  | .message (.didChangeFiles changes) => changes.map fun c => .message (.didChangeFiles [c])
  | e => [e]

/-- **A touched file is loaded**, whatever a scan would make of it: where the extension of the URL is taken and a text can be
read. -/
theorem registry_touched (ix : Index) (d : Disk) (settings : Settings) (url : Url) (kind : Kind) :
    (ix.applyChange d settings url .touched).registry kind =
      (ix.registry kind).load url.text (if settings.takes kind url.pathText then url.textOn? d else none) := by
  rw [Index.applyChange, Url.load?, Settings.takes, Url.textOn?]
  cases extensionOf? url.pathText with
  | none => rfl
  | some extension =>
    cases url.filePath? with
    | none =>
      rw [Option.bind_none, ite_self]
      rfl
    | some path =>
      simp only [Option.bind_some, Option.map_some, Option.elim_some, Option.any_some, Load.registry_into, Load.isWanted]
      by_cases hwanted : (settings.source kind).handlesExtension extension = true
      · simp only [hwanted, if_true]
      · simp only [hwanted, Registry.load]
        rfl

/-- The load gives the file of the URL an entry if the file is read again, and changes no other entry. -/
theorem mem_files_touched_iff {ix : Index} {d : Disk} {settings : Settings} {url : Url} {kind : Kind} {file : FileId} :
    file ∈ ((ix.applyChange d settings url .touched).registry kind).files ↔
      file ∈ (ix.registry kind).files ∨ file = url.text ∧ url.isReread d settings kind = true := by
  rw [registry_touched, Registry.mem_files_iff, Registry.mem_files_iff, Registry.contains, Registry.contains,
    Registry.symbols?_load, Url.isReread]
  by_cases hfile : file = url.text
  · cases settings.takes kind url.pathText <;> simp [hfile, or_comm]
  · simp [hfile]

/-! ## Reports one by one -/

theorem Session.filter_heeds {s : Session} (hclosed : s.buffers = []) (changes : List (Url × Change)) :
    changes.filter s.heeds = changes := by
  rw [List.filter_eq_self]
  intro c _
  simp [heeds, isOpen, hclosed]

theorem Event.eq_of_changes {e : Event} {c : Url × Change} (h : e.changes = [c]) : e = .message (.didChangeFiles [c]) := by
  cases e with
  | message request =>
    cases request with
    | didChangeFiles changes => rw [show changes = [c] from h]
    | introduce | initialized | shutdown | didOpen | didChange | didClose | configure | completion => cases h
  | write | delete | writeUserFile | relist => cases h

/-- Single reports are reports of one change at most. -/
theorem Event.of_mem_singles {reports : List Event} (hreports : ∀ e ∈ reports, e.isReport = true) {single : Event}
    (hsingle : single ∈ reports.flatMap singly) : single.isReport = true ∧ single.changes.length ≤ 1 := by
  obtain ⟨e, he, hsingle⟩ := List.mem_flatMap.1 hsingle
  have hreport := hreports e he
  cases e with
  | message request =>
    cases request with
    | didChangeFiles changes =>
      obtain ⟨c, _, rfl⟩ := List.mem_map.1 hsingle
      exact ⟨rfl, Nat.le_refl 1⟩
    | introduce | initialized | shutdown | didOpen | didChange | didClose | configure | completion => cases hreport
  | write | delete | writeUserFile | relist =>
    obtain rfl := List.mem_singleton.1 hsingle
    exact ⟨rfl, Nat.zero_le 1⟩

namespace World

theorem run_append (w : World) (events more : List Event) : w.run (events ++ more) = (w.run events).run more :=
  List.foldl_append

/-- While nothing is open, every change that is reported counts. -/
theorem step_didChangeFiles {w : World} (hheard : w.refusal? false = none) (hclosed : w.session.buffers = [])
    (changes : List (Url × Change)) :
    (w.step (.message (.didChangeFiles changes))).1 =
      { w with
        session :=
          { w.session with
            index := changes.foldl (fun ix c => ix.applyChange w.env.disk w.session.settings c.1 c.2) w.session.index } } := by
  rw [step_message hheard]
  simp only [Session.outcome, Session.handle, Session.didChangeFiles, Session.filter_heeds hclosed]
  rfl

theorem run_singles {w : World} (hheard : w.refusal? false = none) (hclosed : w.session.buffers = [])
    (changes : List (Url × Change)) :
    w.run (changes.map fun c => .message (.didChangeFiles [c])) = (w.step (.message (.didChangeFiles changes))).1 := by
  induction changes using List.reverseRecOn with
  | nil => rw [step_didChangeFiles hheard hclosed]; rfl
  | append_singleton changes c ih =>
    rw [List.map_append, List.map_singleton, run_snoc, ih, step_didChangeFiles hheard hclosed,
      step_didChangeFiles hheard hclosed, List.foldl_append]
    apply step_didChangeFiles
    · exact hheard
    · exact hclosed

/-- **Reports in one message are reports one by one**, while nothing is open. -/
theorem run_singly {w : World} (hheard : w.refusal? false = none) (hclosed : w.session.buffers = []) {events : List Event}
    (hevents : ∀ e ∈ events, e.isReport = true) : w.run (events.flatMap Event.singly) = w.run events := by
  induction events using List.reverseRecOn with
  | nil => rfl
  | append_singleton events e ih =>
    have hbefore : ∀ e' ∈ events, e'.isReport = true := fun e' he' => hevents e' (List.mem_append_left _ he')
    have hsame := run_reports hheard hbefore
    rw [List.flatMap_append, List.flatMap_singleton, run_append, ih hbefore, run_snoc]
    cases e with
    | message request =>
      cases request with
      | didChangeFiles changes =>
        exact run_singles (hsame.refusal.trans hheard) (hsame.buffers.trans hclosed) changes
      | introduce | initialized | shutdown | didOpen | didChange | didClose | configure | completion =>
        cases hevents _ (List.mem_append_right _ (List.mem_singleton_self _))
    | write | delete | writeUserFile | relist => rfl

/-- **One report.** It gives a file an entry if the file is read again for it, and in no other way. -/
theorem mem_files_step {w : World} (hheard : w.refusal? false = none) (hclosed : w.session.buffers = []) {e : Event}
    (he : e.isReport = true) (hsingle : e.changes.length ≤ 1) {kind : Kind} {file : FileId}
    (hfile : file ∈ ((w.step e).1.session.index.registry kind).files) :
    file ∈ (w.session.index.registry kind).files ∨
      ∃ url, e = .touched url ∧ file = url.text ∧ url.isReread w.env.disk w.session.settings kind = true := by
  rw [(step_report hheard he).1] at hfile
  simp only [Session.outcome, Session.handle, Session.didChangeFiles, Session.filter_heeds hclosed] at hfile
  rcases hchanges : e.changes with _ | ⟨⟨url, change⟩, _ | ⟨_, _⟩⟩
  · rw [hchanges] at hfile
    exact Or.inl hfile
  · rw [hchanges, List.foldl_cons, List.foldl_nil] at hfile
    cases change with
    | deleted =>
      rw [Index.applyChange, Index.remove, Index.registry_map, Registry.files_remove] at hfile
      exact Or.inl (List.mem_filter.1 hfile).1
    | touched =>
      exact (mem_files_touched_iff.1 hfile).imp_right fun h => ⟨url, Event.eq_of_changes hchanges, h⟩
  · rw [hchanges] at hsingle
    simp at hsingle

/-- **A touched file in a run of reports.** -/
theorem index_run_touched {w : World} (hheard : w.refusal? false = none) (hclosed : w.session.buffers = [])
    {before : List Event} (hsame : IndexOnly w (w.run before)) (url : Url) :
    (w.run (before ++ [.touched url])).session.index =
      (w.run before).session.index.applyChange (w.run before).env.disk w.session.settings url .touched := by
  rw [run_snoc, Event.touched, step_didChangeFiles (hsame.refusal.trans hheard) (hsame.buffers.trans hclosed),
    ← hsame.settings]
  simp only [List.foldl_cons, List.foldl_nil]

end World

/-- **Filters do not hold back reports.** Let nothing be open, and let changes be reported, in whatever messages and with
whatever changes of the disk between them.
- The messages may be taken apart into single reports.
- At no point would a scan give an entry to a file that is kept from it.
- A report that a file was created or changed loads it wherever the extension of its URL is taken and a text can be read,
  and otherwise leaves the registry as it is.
- So a registry never gains an entry for a file that a scan would be kept from exactly if no report names such a file that
  would be loaded, unless it has an entry already. -/
theorem reports_keep_to_filters_iff {w : World} (hform : w.session.WellFormed) (hdisk : w.env.disk.WellFormed)
    (hheard : w.refusal? false = none) (hclosed : w.session.buffers = []) {reports : List Event}
    (hreports : ∀ e ∈ reports, e.isReport = true) (kind : Kind) :
    let singles : List Event := reports.flatMap Event.singly
    let registry (events : List Event) : Registry := (w.run events).session.index.registry kind
    w.run singles = w.run reports ∧
    (∀ before : List Event, before <+: singles → ∀ file : FileId, (w.run before).Filters file →
      (((w.run before).session.rescan (w.run before).env).index.registry kind).symbols? file = none) ∧
    (∀ (before : List Event) (url : Url), before ++ [.touched url] <+: singles →
      registry (before ++ [.touched url]) = (registry before).load url.text
        (if w.session.settings.takes kind url.pathText then url.textOn? (w.run before).env.disk else none)) ∧
    ((∀ (before : List Event) (e : Event), before ++ [e] <+: singles → ∀ file : FileId, (w.run before).Filters file →
        file ∈ (registry (before ++ [e])).files → file ∈ (registry before).files) ↔
      ∀ (before : List Event) (url : Url), before ++ [.touched url] <+: singles → (w.run before).Filters url.text →
        url.isReread (w.run before).env.disk w.session.settings kind = true → url.text ∈ (registry before).files) := by
  intro singles registry
  -- at any point the session is as it was but for the index
  have hbefore : ∀ {before : List Event}, before <+: singles → World.IndexOnly w (w.run before) := fun hinit =>
    World.run_reports hheard fun e he => (Event.of_mem_singles hreports (hinit.subset he)).1
  have hlast : ∀ {before : List Event} {e : Event}, before ++ [e] <+: singles → World.IndexOnly w (w.run before) :=
    fun hinit => hbefore ((List.prefix_append _ _).trans hinit)
  refine ⟨World.run_singly hheard hclosed hreports, fun before hinit file hfilters => ?_, fun before url hinit => ?_,
    fun hkeep => ?_, fun hnamed => ?_⟩
  · exact World.symbols?_rescan_of_filters (World.run_wellFormed hform before) (World.run_disk_wellFormed hdisk before)
      ((hbefore hinit).buffers.trans hclosed) hfilters kind
  · simp only [registry, World.index_run_touched hheard hclosed (hlast hinit)]
    exact registry_touched _ _ _ _ _
  · intro before url hinit hfilters hreread
    refine hkeep before (.touched url) hinit url.text hfilters ?_
    simp only [registry, World.index_run_touched hheard hclosed (hlast hinit)]
    exact mem_files_touched_iff.2 (Or.inr ⟨rfl, hreread⟩)
  · intro before e hinit file hfilters hfile
    have hsame := hlast hinit
    have he : e ∈ singles := hinit.subset (by simp)
    obtain ⟨hreport, hsingle⟩ := Event.of_mem_singles hreports he
    simp only [registry, World.run_snoc] at hfile
    rcases World.mem_files_step (hsame.refusal.trans hheard) (hsame.buffers.trans hclosed) hreport hsingle hfile with
      hfile | ⟨url, rfl, rfl, hreread⟩
    · exact hfile
    · rw [hsame.settings] at hreread
      exact hnamed before url hinit hfilters hreread

/-- A sheet among the packages that is not UTF-8 stays out, for a report of it finds no text. -/
theorem unreadable_report_keeps_out :
    let root : FilePath := ⟨[Name.ofString "w"]⟩
    let disk : Disk := ⟨[([Name.ofString "w"], .directory),
      ([Name.ofString "w", Name.ofString "node_modules"], .directory),
      ([Name.ofString "w", Name.ofString "node_modules", Name.ofString "a.css"], .file (Utf8.ofString ".old" ++ [0xE9]))]⟩
    let url : Url := ⟨Url.fileScheme, some .here, "/w/node_modules/a.css".toList, none, none⟩
    let w := (World.start ⟨disk, none, id, none, id⟩ (some root)).run [.message .initialized]
    w.Filters url.text ∧ url.text ∉ ((w.run [.touched url]).session.index.registry .className).files := by
  intro root disk url w
  have hform : w.session.WellFormed := World.run_wellFormed (World.start_wellFormed _ _) _
  have hdisk : w.env.disk.WellFormed := ⟨by decide, by decide⟩
  have hfilters : w.Filters url.text :=
    ⟨root, rfl, [Name.ofString "w"], [Name.ofString "node_modules", Name.ofString "a.css"], _, by decide +kernel,
      by decide +kernel, rfl, by decide +kernel, by decide +kernel⟩
  have hunread : url.isReread disk w.session.settings .className = false := by decide +kernel
  have hreports : ∀ e ∈ [Event.touched url], e.isReport = true := by decide
  obtain ⟨_, _, _, hkeep⟩ := reports_keep_to_filters_iff hform hdisk rfl rfl hreports .className
  refine ⟨hfilters, fun hfile => absurd (hkeep.2 ?_ [] _ List.prefix_rfl url.text hfilters hfile) (by decide +kernel)⟩
  intro before other hinit _ hreread
  obtain ⟨rfl, rfl⟩ : before = [] ∧ other = url := by
    cases before with
    | nil => exact ⟨rfl, by simpa [Event.touched, Event.singly] using hinit⟩
    | cons first before => simp [Event.touched, Event.singly] at hinit
  cases hunread.symm.trans hreread

/-- **Reports pass every filter.** Sheets among the packages, in a hidden directory and in one that an ignore file names are
all kept from the scan, and are all in the index once they are reported. -/
theorem reports_pass_filters :
    let root : FilePath := ⟨[Name.ofString "w"]⟩
    let disk : Disk := ⟨[([Name.ofString "w"], .directory),
      ([Name.ofString "w", Name.ofString ".ignore"], .file (Utf8.ofString "gen\n")),
      ([Name.ofString "w", Name.ofString "node_modules"], .directory),
      ([Name.ofString "w", Name.ofString "node_modules", Name.ofString "a.css"], .file (Utf8.ofString ".vendor")),
      ([Name.ofString "w", Name.ofString ".cache"], .directory),
      ([Name.ofString "w", Name.ofString ".cache", Name.ofString "b.css"], .file (Utf8.ofString ".hidden")),
      ([Name.ofString "w", Name.ofString "gen"], .directory),
      ([Name.ofString "w", Name.ofString "gen", Name.ofString "c.css"], .file (Utf8.ofString ".ignored"))]⟩
    let vendor : Url := ⟨Url.fileScheme, some .here, "/w/node_modules/a.css".toList, none, none⟩
    let hidden : Url := ⟨Url.fileScheme, some .here, "/w/.cache/b.css".toList, none, none⟩
    let ignored : Url := ⟨Url.fileScheme, some .here, "/w/gen/c.css".toList, none, none⟩
    let w := (World.start ⟨disk, none, id, none, id⟩ (some root)).run [.message .initialized]
    let reports : List Event := [.touched vendor, .message (.didChangeFiles [(hidden, .touched), (ignored, .touched)])]
    w.session.buffers = [] ∧ (∀ url ∈ [vendor, hidden, ignored], w.Filters url.text) ∧
      (w.session.index.registry .className).files = [] ∧
      ∀ url ∈ [vendor, hidden, ignored], url.text ∈ ((w.run reports).session.index.registry .className).files := by
  intro root disk vendor hidden ignored w reports
  have hfilters : ∀ {url : Url} (directory file : String) {node : Node},
      disk.node? [Name.ofString "w", Name.ofString directory, Name.ofString file] = some node →
      Walk.reaches disk (Scan.excludeRules w.session.settings) [Name.ofString "w"]
        [Name.ofString directory, Name.ofString file] = false →
      (root.join [Name.ofString directory, Name.ofString file]).id = url.text → w.Filters url.text :=
    fun _ _ _ hnode hreaches hid =>
      ⟨root, rfl, [Name.ofString "w"], _, _, by decide +kernel, by decide +kernel, hnode, hreaches, hid⟩
  refine ⟨rfl, ?_, by decide +kernel, by decide +kernel⟩
  intro url hurl
  simp only [List.mem_cons, List.not_mem_nil, or_false] at hurl
  rcases hurl with rfl | rfl | rfl
  · exact hfilters "node_modules" "a.css" rfl (by decide +kernel) (by decide +kernel)
  · exact hfilters ".cache" "b.css" rfl (by decide +kernel) (by decide +kernel)
  · exact hfilters "gen" "c.css" rfl (by decide +kernel) (by decide +kernel)

end StyleIndex
