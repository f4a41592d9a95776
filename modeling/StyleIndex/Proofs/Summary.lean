/-
What the summary of a scan counts.

`counted` is a scan that counts as it goes: it takes the walked files one by one, lets each registry that wants a file read
it, and counts the file once, as loaded if some registry could read it. A step of it is `visit_eq`, a whole scan
`counted_eq`: it comes to the index and to the summary of a scan, whatever the index was before.

The walk sees each path once (`Disk.nodup_found`) and no two paths with one identity (`Disk.eq_of_id_eq`), so the files that
are loaded are as many as the identities in the index behind a first scan (`card_files_run`). A second scan finds the same
texts and leaves each file as it is (`symbols?_run_run`).

`scan_counts_files` puts this together.
-/
import Mathlib.Tactic
import StyleIndex.Proofs.Independence
import StyleIndex.Proofs.Walk

namespace StyleIndex

/-! ## Walks -/

namespace Walk

theorem nodup_files {d : Disk} (hd : d.WellFormed) (excludes : List IgnoreRule) (start : List Name) :
    (files d excludes start).Nodup := by
  have hnodes : d.nodes.Pairwise fun e e' => e.1 ≠ e'.1 := List.pairwise_map.1 hd.nodup
  refine (hnodes.filter fun e => e.2.isFile).filterMap _ ?_
  intro e e' hne names hnames names' hnames' heq
  subst heq
  have hplace := (relative?_eq_some_iff.1 (Option.filter_eq_some_iff.1 hnames).1).1
  have hplace' := (relative?_eq_some_iff.1 (Option.filter_eq_some_iff.1 hnames').1).1
  exact hne (hplace.trans hplace'.symm)

end Walk

namespace Disk

variable {d : Disk}

/-- The walk sees each path once. -/
theorem nodup_found (hd : d.WellFormed) (excludes : List IgnoreRule) (root : FilePath) :
    (d.walk excludes root).found.Nodup := by
  have hjoin : Function.Injective root.join := by
    intro names names' heq
    exact List.append_cancel_left (congrArg FilePath.pieces heq)
  unfold walk
  cases d.locate? root with
  | none => exact List.nodup_nil
  | some start =>
    by_cases hdir : d.isDirectory start = true
    · simp only [hdir, if_true]
      exact (Walk.nodup_files hd excludes start).map hjoin
    · simp only [hdir]
      exact List.nodup_singleton root

/-- What the walk sees are files, so there are bytes to read. -/
theorem exists_readBytes? (hd : d.WellFormed) {excludes : List IgnoreRule} {root path : FilePath}
    (hpath : path ∈ (d.walk excludes root).found) : ∃ bytes, d.readBytes? path = some bytes := by
  rcases root_cases hd root with hlost | ⟨start, content, hstart, hnode⟩ | ⟨start, hstart, hdir⟩
  · rw [found_of_lost hlost] at hpath
    cases hpath
  · rw [found_of_file hstart hnode, List.mem_singleton] at hpath
    subst hpath
    exact ⟨content, readBytes?_of_leads hstart hnode⟩
  · obtain ⟨names, rfl, hne, ⟨content, hnode⟩, _⟩ := (mem_found_iff hd hstart hdir).1 hpath
    exact ⟨content, readBytes?_of_leads (leads_join hd true hstart hne hnode) hnode⟩

end Disk

/-! ## Counting -/

/-- the identities of the files that some registry has -/
def Index.files (ix : Index) : Finset FileId :=
  (ix.registry .className).files.toFinset ∪ (ix.registry .mixin).files.toFinset

theorem Index.mem_files_iff (ix : Index) (file : FileId) :
    file ∈ ix.files ↔ ∃ kind symbols, (ix.registry kind).symbols? file = some symbols := by
  have hregistry : ∀ kind, file ∈ (ix.registry kind).files ↔ ∃ symbols, (ix.registry kind).symbols? file = some symbols :=
    fun kind => (Registry.mem_files_iff _ _).trans Option.isSome_iff_exists
  rw [files, Finset.mem_union, List.mem_toFinset, List.mem_toFinset, hregistry, hregistry, Kind.exists_iff]

/-- the registries that take a file -/
def Load.takers (l : Load) (settings : Settings) : List Kind :=
  ([.className, .mixin] : List Kind).filter (l.isWanted settings)

/-- the summary with one more file -/
def ScanSummary.count (s : ScanSummary) (loaded : Bool) : ScanSummary :=
  if loaded then { s with files := s.files + 1 } else { s with failures := s.failures + 1 }

namespace Scan

/-- how far a scan has come -/
structure Progress where
  index : Index
  summary : ScanSummary

/-- the registry of a kind reads a file; the answer tells whether it could -/
def readBy (l : Load) (kind : Kind) (ix : Index) : Index × Bool :=
  (ix.map fun k r => if k = kind then r.load l.file l.content else r, l.content.isSome)

/-- registries read a file one after another; the file is loaded if one of them could read it -/
def readByAll (l : Load) (kinds : List Kind) (ix : Index) : Index × Bool :=
  kinds.foldl (fun (ix, loaded) kind => ((readBy l kind ix).1, loaded || (readBy l kind ix).2)) (ix, false)

/-- takes the next file; one that no registry takes is passed over -/
def visit (settings : Settings) (p : Progress) (l : Load) : Progress :=
  if l.takers settings = [] then p
  else
    let (index, loaded) := readByAll l (l.takers settings) p.index
    ⟨index, p.summary.count loaded⟩

/-- a scan that counts the files as it takes them -/
def counted (listing : FileId → String) (d : Disk) (settings : Settings) (root : FilePath) (ix : Index) : Progress :=
  (inOrder listing ((d.walk (excludeRules settings) root).found.filterMap (load? d))).foldl (visit settings) ⟨ix, ⟨0, 0⟩⟩

/-- Whether one registry or both take a file, they load it, and it counts once, by whether it could be read. -/
theorem visit_eq (settings : Settings) (p : Progress) (l : Load) :
    visit settings p l =
      if l.isStyle settings then ⟨l.into settings p.index, p.summary.count l.content.isSome⟩ else p := by
  unfold visit Load.takers Load.isStyle Load.into readByAll readBy
  -- who takes the file: nobody, one of the two registries, or both, and then the second read does not undo the first
  cases hclass : l.isWanted settings .className <;> cases hmixin : l.isWanted settings .mixin <;>
    simp [hclass, hmixin, Index.map]

theorem foldl_visit (settings : Settings) (loads : List Load) (p : Progress) :
    loads.foldl (visit settings) p =
      ⟨loadAll settings (loads.filter fun l => l.isStyle settings) p.index,
        (loads.filter fun l => l.isStyle settings).foldl (fun s l => s.count l.content.isSome) p.summary⟩ := by
  induction loads generalizing p with
  | nil => rfl
  | cons l loads ih =>
    rw [List.foldl_cons, ih, visit_eq]
    cases hstyle : l.isStyle settings <;> simp [hstyle, loadAll]

theorem foldl_count (loads : List Load) (s : ScanSummary) :
    loads.foldl (fun s l => s.count l.content.isSome) s =
      ⟨s.files + loads.countP fun l => l.content.isSome, s.failures + loads.countP fun l => l.content.isNone⟩ := by
  induction loads generalizing s with
  | nil => rfl
  | cons l loads ih =>
    rw [List.foldl_cons, ih, List.countP_cons, List.countP_cons]
    cases l.content <;> simp [ScanSummary.count] <;> omega

variable {d : Disk} {settings : Settings} {root : FilePath}

/-- **A scan that counts as it goes** comes to the index and the summary of a scan, whatever the index was before. -/
theorem counted_eq (listing : FileId → String) (d : Disk) (settings : Settings) (root : FilePath) (ix : Index) :
    counted listing d settings root ix = ⟨run listing d settings root ix, summary d settings root⟩ := by
  have hsorted : (inOrder listing (styleFiles d settings root)).Perm (styleFiles d settings root) :=
    List.mergeSort_perm _ _
  unfold counted
  rw [foldl_visit, filter_inOrder, foldl_count, summary, ← hsorted.countP_eq, ← hsorted.countP_eq]
  simp only [Nat.zero_add]
  rfl

/-! ## Paths -/

/-- the path has an extension that an enabled source handles -/
def isStylePath (settings : Settings) (path : FilePath) : Bool :=
  path.extension?.any fun extension =>
    settings.classNames.handlesExtension extension || settings.mixins.handlesExtension extension

/-- the walked files that some registry takes -/
def stylePaths (d : Disk) (settings : Settings) (root : FilePath) : List FilePath :=
  (d.walk (excludeRules settings) root).found.filter (isStylePath settings)

theorem isStylePath_iff {path : FilePath} :
    isStylePath settings path = true ↔
      ∃ extension, path.extension? = some extension ∧ ∃ kind, (settings.source kind).handlesExtension extension = true := by
  rw [isStylePath, Option.any_eq_true]
  refine exists_congr fun extension => and_congr_right fun _ => ?_
  rw [Bool.or_eq_true, Kind.exists_iff]
  rfl

/-- Style files are counted by their paths. -/
theorem countP_styleFiles (p : Option String → Bool) :
    (styleFiles d settings root).countP (fun l => p l.content) =
      (stylePaths d settings root).countP fun path => p (d.readText? path) := by
  rw [styleFiles, List.countP_filter, List.countP_filterMap, stylePaths, List.countP_filter]
  refine List.countP_congr fun path _ => ?_
  unfold load? isStylePath
  cases path.extension? with
  | none => simp
  | some extension => rfl

theorem files_add_failures (d : Disk) (settings : Settings) (root : FilePath) :
    (summary d settings root).files + (summary d settings root).failures = (stylePaths d settings root).length := by
  unfold summary
  rw [countP_styleFiles, countP_styleFiles, List.length_eq_countP_add_countP fun path => (d.readText? path).isSome]
  simp only [Bool.not_eq_true, Bool.decide_eq_false, Option.not_isSome]

/-- The files that could not be read are those with bytes that are no UTF-8. -/
theorem failures_eq (hd : d.WellFormed) :
    (summary d settings root).failures =
      (stylePaths d settings root).countP fun path => (d.readBytes? path).any fun bytes => (Utf8.string? bytes).isNone := by
  refine (countP_styleFiles Option.isNone).trans (List.countP_congr fun path hpath => ?_)
  obtain ⟨bytes, hbytes⟩ := Disk.exists_readBytes? hd (List.mem_filter.1 hpath).1
  rw [Disk.readText?, hbytes]
  rfl

/-! ## The index behind a scan -/

/-- Behind a first scan the index has the identities of the style files that could be read. -/
theorem mem_files_run_iff {listing : FileId → String} {file : FileId} :
    file ∈ (run listing d settings root .empty).files ↔
      ∃ path ∈ stylePaths d settings root, (d.readText? path).isSome = true ∧ path.id = file := by
  rw [Index.mem_files_iff]
  constructor
  · rintro ⟨kind, symbols, hsymbols⟩
    obtain ⟨path, extension, text, hfound, hid, hextension, htaken, hread, _⟩ := symbols?_run_iff.1 hsymbols
    have hstyle := isStylePath_iff.2 ⟨extension, hextension, kind, htaken⟩
    exact ⟨path, List.mem_filter.2 ⟨hfound, hstyle⟩, by rw [hread]; rfl, hid⟩
  · rintro ⟨path, hpath, hread, hid⟩
    obtain ⟨hfound, hstyle⟩ := List.mem_filter.1 hpath
    obtain ⟨extension, hextension, kind, htaken⟩ := isStylePath_iff.1 hstyle
    obtain ⟨text, htext⟩ := Option.isSome_iff_exists.1 hread
    exact ⟨kind, _, symbols?_run_iff.2 ⟨path, extension, text, hfound, hid, hextension, htaken, htext, rfl⟩⟩

/-- **As many files as identities**: two style files never share one, and a file in both registries counts once. -/
theorem card_files_run (hd : d.WellFormed) (listing : FileId → String) :
    (run listing d settings root .empty).files.card = (summary d settings root).files := by
  have hread : (run listing d settings root .empty).files =
      (((stylePaths d settings root).filter fun path => (d.readText? path).isSome).map FilePath.id).toFinset := by
    ext file
    rw [mem_files_run_iff, List.mem_toFinset, List.mem_map]
    simp only [List.mem_filter, and_assoc]
  have hnodup : (((stylePaths d settings root).filter fun path => (d.readText? path).isSome).map FilePath.id).Nodup := by
    refine List.Nodup.map_on ?_ (((Disk.nodup_found hd _ root).filter _).filter _)
    intro path hpath other hother hid
    have hfound := (List.mem_filter.1 (List.mem_filter.1 hpath).1).1
    have hfound' := (List.mem_filter.1 (List.mem_filter.1 hother).1).1
    exact Disk.eq_of_id_eq hd hfound hfound' hid
  rw [hread, List.toFinset_card_of_nodup hnodup, List.length_map, ← List.countP_eq_length_filter, summary,
    countP_styleFiles]

/-- The order of the files does not matter for the text that a scan gives one of them. -/
theorem lastText?_inOrder (listing again : FileId → String) (kind : Kind) (file : FileId) :
    lastText? settings kind file (inOrder again (styleFiles d settings root)) =
      lastText? settings kind file (inOrder listing (styleFiles d settings root)) := by
  ext text
  rw [lastText?_eq_some_iff (agree_inOrder again d settings root kind file),
    lastText?_eq_some_iff (agree_inOrder listing d settings root kind file)]
  simp only [mem_inOrder_iff]

/-- **A second scan changes no file**, in whatever order it takes them. -/
theorem symbols?_run_run (listing again : FileId → String) (kind : Kind) (file : FileId) :
    ((run again d settings root (run listing d settings root .empty)).registry kind).symbols? file =
      ((run listing d settings root .empty).registry kind).symbols? file := by
  have htyped : (run listing d settings root .empty).Typed := typed_loadAll Index.typed_empty settings _
  -- the text that the second scan gives a file is the one that the first has given it, if it has one at all
  calc ((run again d settings root (run listing d settings root .empty)).registry kind).symbols? file
      = ((lastText? settings kind file (inOrder listing (styleFiles d settings root))).map (Registry.symbolsOf kind)).or
          (((run listing d settings root .empty).registry kind).symbols? file) := by
        rw [run, symbols?_loadAll htyped, lastText?_inOrder listing again]
    _ = ((run listing d settings root .empty).registry kind).symbols? file := by
        rw [run, symbols?_loadAll Index.typed_empty, ← Option.or_assoc, Option.or_self]

/-- **A summary counts each file once.** The files that a scan loads and those it fails to read are together the walked
files whose extension an enabled source handles. It fails on those with bytes that are no UTF-8, and the files that it loads
are as many as the identities in the two registries, which were empty before. A scan that counts while it loads comes to the
same numbers and the same index whatever the registries held; so a second scan counts the same, and it leaves the symbols of
every file as they are. -/
theorem scan_counts_files (hd : d.WellFormed) (listing again : FileId → String) (settings : Settings) (root : FilePath) :
    let first := counted listing d settings root .empty
    let second := counted again d settings root first.index
    first = ⟨run listing d settings root .empty, summary d settings root⟩ ∧
      first.summary.files + first.summary.failures = (stylePaths d settings root).length ∧
      first.summary.files = first.index.files.card ∧
      first.summary.failures = ((stylePaths d settings root).filter fun path =>
        (d.readBytes? path).any fun bytes => (Utf8.string? bytes).isNone).length ∧
      second.summary = first.summary ∧
      ∀ kind file, (second.index.registry kind).symbols? file = (first.index.registry kind).symbols? file := by
  simp only [counted_eq, true_and]
  refine ⟨files_add_failures d settings root, (card_files_run hd listing).symm, ?_, ?_⟩
  · rw [failures_eq hd, List.countP_eq_length_filter]
  · intro kind file
    exact symbols?_run_run listing again kind file

/-- A sheet for both registries, one for class names only, one that is no UTF-8, and two files that do not count. -/
theorem scan_counts_unreadable_sheet :
    let root : FilePath := ⟨[Name.ofString "w"]⟩
    let file (names : List String) (bytes : List UInt8) : List Name × Node :=
      (root.pieces ++ names.map Name.ofString, .file bytes)
    let disk : Disk := ⟨[(root.pieces, .directory), (root.pieces ++ [Name.ofString "dist"], .directory),
      file ["a.css"] (Utf8.ofString ".a"), file ["b.SCSS"] (Utf8.ofString ".b"), file ["c.css"] [0x2E, 0x63, 0xE9],
      file ["notes.txt"] (Utf8.ofString ".d"), file ["dist", "e.css"] (Utf8.ofString ".e")]⟩
    let first := counted id disk .initial root .empty
    let second := counted (fun _ => "") disk .initial root first.index
    first.summary = ⟨2, 1⟩ ∧ (stylePaths disk .initial root).length = 3 ∧ first.index.files.card = 2 ∧
      second.summary = ⟨2, 1⟩ ∧
      (second.index.registry .className).symbols? "file:///w/b.SCSS" = some ["b"] := by
  intro root file disk first second
  have hdisk : disk.WellFormed := ⟨by decide, by decide⟩
  have h := scan_counts_files hdisk id (fun _ => "") .initial root
  change first = _ ∧ first.summary.files + _ = _ ∧ _ = first.index.files.card ∧ _ ∧ second.summary = first.summary ∧ _ at h
  obtain ⟨hfirst, hcounts, hcard, _, hagain, hsymbols⟩ := h
  have hsummary : first.summary = ⟨2, 1⟩ := by
    rw [hfirst]
    decide +kernel
  rw [hsummary] at hcounts hcard hagain
  refine ⟨hsummary, hcounts.symm, hcard.symm, hagain, (hsymbols _ _).trans ?_⟩
  rw [counted_eq]
  exact symbols?_run_iff.2 ⟨root.join [Name.ofString "b.SCSS"], "SCSS", ".b", by decide +kernel, by decide +kernel,
    by decide +kernel, by decide, by decide +kernel, by decide⟩

end Scan
end StyleIndex
