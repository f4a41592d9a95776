/-
Following the changes of single files keeps the index at what a scan would build.

A `DiskChange` writes or deletes one file; `Workspace.step` makes it on the disk and then tells the index of it, under the
URL that the identity of the file reads back as. It is `Eligible` if it is a change of a file that the walk sees while it is
there, and of nothing that decides what the walk sees.

The walk sees the disk as before, except at the path of the change (`Eligible.sees_onDisk_iff`), and the index changes only
at the identity of that path, by the same text and the same extension (`Eligible.symbols?_reported_self`). So an index that
holds what a scan would build (`Exact`) still does after the change (`Eligible.exact_reported`) and after any number of them
(`exact_run`).

All this is about well-formed disks, which every run of a world keeps (`World.run_disk_wellFormed`).
-/
import Mathlib.Tactic
import StyleIndex.Proofs.Extension
import StyleIndex.Proofs.Scan
import StyleIndex.Proofs.Session
import StyleIndex.Proofs.Walk

namespace StyleIndex

/-- a change of one file on disk: its new bytes, or nothing if it is deleted -/
structure DiskChange where
  path : FilePath
  content : Option (List UInt8)
deriving DecidableEq, Repr

namespace DiskChange

/-- the disk with the change made -/
def onDisk (c : DiskChange) (d : Disk) : Disk :=
  match c.content with
  | some bytes => d.write c.path (.file bytes)
  | none => d.delete c.path

/-- what the editor reports: a written file was created or changed -/
def report (c : DiskChange) : Change :=
  if c.content.isSome then .touched else .deleted

/-- the index once the change is reported, with the disk as it then is -/
def reported (c : DiskChange) (settings : Settings) (d : Disk) (ix : Index) : Index :=
  (Url.parse? c.path.id).elim ix fun url => ix.applyChange d settings url c.report

/-- the change is one of a file that the walk from a root sees while it is there, and of no rules -/
structure Eligible (settings : Settings) (root : FilePath) (d : Disk) (c : DiskChange) : Prop where
  written : ∀ bytes, c.content = some bytes →
    c.path ∈ ((c.onDisk d).walk (Scan.excludeRules settings) root).found ∧ (Utf8.string? bytes).isSome = true
  deleted : c.content = none → c.path ∈ (d.walk (Scan.excludeRules settings) root).found
  rules : Walk.SameRules d (c.onDisk d)
  extension : ∃ extension, c.path.HasPlainExtension extension
  readsBack : c.path.ReadsBack

/-- every change of a list is eligible on the disk that it finds -/
def AllEligible (settings : Settings) (root : FilePath) : Disk → List DiskChange → Prop
  | _, [] => True
  | d, c :: changes => c.Eligible settings root d ∧ AllEligible settings root (c.onDisk d) changes

end DiskChange

/-- a disk and the index that is kept of it -/
structure Workspace where
  disk : Disk
  index : Index

namespace Workspace

/-- a workspace as a scan finds it -/
def scanned (listing : FileId → String) (settings : Settings) (root : FilePath) (d : Disk) : Workspace :=
  ⟨d, Scan.run listing d settings root .empty⟩

/-- makes a change on disk and reports it -/
def step (settings : Settings) (w : Workspace) (c : DiskChange) : Workspace :=
  ⟨c.onDisk w.disk, c.reported settings (c.onDisk w.disk) w.index⟩

def run (settings : Settings) (w : Workspace) (changes : List DiskChange) : Workspace :=
  changes.foldl (step settings) w

@[simp] theorem disk_step (settings : Settings) (w : Workspace) (c : DiskChange) :
    (w.step settings c).disk = c.onDisk w.disk := by
  rw [step]

@[simp] theorem index_step (settings : Settings) (w : Workspace) (c : DiskChange) :
    (w.step settings c).index = c.reported settings (c.onDisk w.disk) w.index := by
  rw [step]

theorem disk_run (settings : Settings) (w : Workspace) (changes : List DiskChange) :
    (w.run settings changes).disk = changes.foldl (fun d c => c.onDisk d) w.disk := by
  induction changes generalizing w with
  | nil => rfl
  | cons c changes ih => exact ih (w.step settings c)

end Workspace

/-- what a scan of the disk would leave of a file -/
def Indexed (settings : Settings) (root : FilePath) (d : Disk) (kind : Kind) (file : FileId) (symbols : List String) :
    Prop :=
  ∃ path extension bytes text, d.Sees (Scan.excludeRules settings) root path bytes ∧ path.id = file ∧
    path.extension? = some extension ∧ (settings.source kind).handlesExtension extension = true ∧
    Utf8.string? bytes = some text ∧ Registry.symbolsOf kind text = symbols

theorem symbols?_scan_iff {listing : FileId → String} {settings : Settings} {root : FilePath} {d : Disk} {kind : Kind}
    {file : FileId} {symbols : List String} :
    ((Scan.run listing d settings root .empty).registry kind).symbols? file = some symbols ↔
      Indexed settings root d kind file symbols := by
  rw [Scan.symbols?_run_iff]
  constructor
  · rintro ⟨path, extension, text, hfound, hid, hextension, hhandles, hread, hsymbols⟩
    obtain ⟨bytes, hbytes, htext⟩ := Option.bind_eq_some_iff.1 hread
    exact ⟨path, extension, bytes, text, ⟨hfound, hbytes⟩, hid, hextension, hhandles, htext, hsymbols⟩
  · rintro ⟨path, extension, bytes, text, ⟨hfound, hbytes⟩, hid, hextension, hhandles, htext, hsymbols⟩
    exact ⟨path, extension, text, hfound, hid, hextension, hhandles, Option.bind_eq_some_iff.2 ⟨bytes, hbytes, htext⟩, hsymbols⟩

/-- the index holds of every file what a scan of the disk would leave of it -/
structure Exact (settings : Settings) (root : FilePath) (d : Disk) (ix : Index) : Prop where
  disk : d.WellFormed
  typed : ix.Typed
  symbols : ∀ kind file symbols, (ix.registry kind).symbols? file = some symbols ↔ Indexed settings root d kind file symbols

theorem exact_scan {d : Disk} (hd : d.WellFormed) (listing : FileId → String) (settings : Settings) (root : FilePath) :
    Exact settings root d (Scan.run listing d settings root .empty) where
  disk := hd
  typed := Scan.typed_loadAll Index.typed_empty settings _
  symbols _ _ _ := symbols?_scan_iff

namespace DiskChange.Eligible

variable {settings : Settings} {root : FilePath} {d : Disk} {c : DiskChange}

theorem wellFormed_onDisk (hd : d.WellFormed) (c : DiskChange) : (c.onDisk d).WellFormed := by
  unfold onDisk
  cases c.content with
  | none => exact Disk.wellFormed_delete hd c.path
  | some bytes => exact Disk.wellFormed_write hd c.path _

theorem names (h : c.Eligible settings root d) :
    Name.up ∉ c.path.components ∧ ∀ name ∈ c.path.components, Name.slash ∉ name := by
  obtain ⟨extension, hextension⟩ := h.extension
  exact h.readsBack.names hextension.components_ne_nil

/-- The change is reported under the URL of the file. -/
theorem parse?_id (h : c.Eligible settings root d) : Url.parse? c.path.id = some c.path.url := by
  obtain ⟨extension, hextension⟩ := h.extension
  exact Url.parse?_id_eq_url hextension.components_ne_nil h.names.1

/-! ## The disk -/

/-- **The walk sees the disk as before, except at the path of the change.** -/
theorem sees_onDisk_iff (h : c.Eligible settings root d) (hd : d.WellFormed) {path : FilePath} {bytes : List UInt8} :
    (c.onDisk d).Sees (Scan.excludeRules settings) root path bytes ↔
      path = c.path ∧ c.content = some bytes ∨ path ≠ c.path ∧ d.Sees (Scan.excludeRules settings) root path bytes := by
  cases hcontent : c.content with
  | none =>
    have honDisk : c.onDisk d = d.delete c.path := by rw [onDisk, hcontent]
    have hrules := h.rules
    rw [honDisk] at hrules
    rw [honDisk, Disk.sees_delete_iff hd hrules (h.deleted hcontent)]
    simp
  | some content =>
    have honDisk : c.onDisk d = d.write c.path (.file content) := by rw [onDisk, hcontent]
    have hrules := h.rules
    have hfound := (h.written content hcontent).1
    rw [honDisk] at hrules hfound
    rw [honDisk, Disk.sees_write_iff hd h.names.1 hrules hfound, Option.some.injEq, @eq_comm _ content]

/-- Only the path of the change has its identity. -/
theorem eq_path_of_sees (h : c.Eligible settings root d) (hd : d.WellFormed) {path : FilePath} {bytes : List UInt8}
    (hsees : (c.onDisk d).Sees (Scan.excludeRules settings) root path bytes) (hid : path.id = c.path.id) :
    path = c.path := by
  cases hcontent : c.content with
  | some content => exact Disk.eq_of_id_eq (wellFormed_onDisk hd c) hsees.1 (h.written content hcontent).1 hid
  | none =>
    rcases (h.sees_onDisk_iff hd).1 hsees with hsame | ⟨_, hsees⟩
    · exact hsame.1
    · exact Disk.eq_of_id_eq hd hsees.1 (h.deleted hcontent) hid

/-- Files with another identity are indexed as before. -/
theorem indexed_onDisk_iff_of_ne (h : c.Eligible settings root d) (hd : d.WellFormed) {kind : Kind} {file : FileId}
    (hfile : file ≠ c.path.id) {symbols : List String} :
    Indexed settings root (c.onDisk d) kind file symbols ↔ Indexed settings root d kind file symbols := by
  refine exists_congr fun path => exists_congr fun extension => exists_congr fun bytes => exists_congr fun text => ?_
  have hpath : path.id = file → path ≠ c.path := by
    rintro hid rfl
    exact hfile hid.symm
  rw [h.sees_onDisk_iff hd]
  constructor
  · rintro ⟨hsees, hid, hrest⟩
    exact ⟨(hsees.resolve_left fun hsame => hpath hid hsame.1).2, hid, hrest⟩
  · rintro ⟨hsees, hid, hrest⟩
    exact ⟨Or.inr ⟨hpath hid, hsees⟩, hid, hrest⟩

/-- The file of the change is indexed by its new text, if the settings want its extension. -/
theorem indexed_onDisk_self_iff (h : c.Eligible settings root d) (hd : d.WellFormed) {kind : Kind} {extension : String}
    (hextension : c.path.extension? = some extension) {symbols : List String} :
    Indexed settings root (c.onDisk d) kind c.path.id symbols ↔
      (settings.source kind).handlesExtension extension = true ∧
        ∃ text, c.content.bind Utf8.string? = some text ∧ Registry.symbolsOf kind text = symbols := by
  constructor
  · rintro ⟨path, extension', bytes, text, hsees, hid, hextension', hhandles, htext, hsymbols⟩
    obtain rfl := h.eq_path_of_sees hd hsees hid
    obtain rfl := Option.some.inj (hextension.symm.trans hextension')
    have hcontent : c.content = some bytes := by
      rcases (h.sees_onDisk_iff hd).1 hsees with hsame | hother
      · exact hsame.2
      · exact absurd rfl hother.1
    exact ⟨hhandles, text, by rw [hcontent]; exact htext, hsymbols⟩
  · rintro ⟨hhandles, text, htext, hsymbols⟩
    obtain ⟨bytes, hcontent, htext⟩ := Option.bind_eq_some_iff.1 htext
    exact ⟨c.path, extension, bytes, text, (h.sees_onDisk_iff hd).2 (Or.inl ⟨rfl, hcontent⟩), rfl, hextension, hhandles,
      htext, hsymbols⟩

/-! ## The index -/

/-- Files with another identity stay in the index as they are. -/
theorem symbols?_reported_of_ne (h : c.Eligible settings root d) {ix : Index} (hix : ix.Typed) (after : Disk) {kind : Kind}
    {file : FileId} (hfile : file ≠ c.path.id) :
    ((c.reported settings after ix).registry kind).symbols? file = (ix.registry kind).symbols? file := by
  rw [reported, h.parse?_id, Option.elim_some]
  exact Session.symbols?_applyChange_of_ne hix after settings c.path.url c.report kind hfile

/-- The text that the URL of a written file leads to is the one that was written. -/
theorem readText?_onDisk (h : c.Eligible settings root d) (hd : d.WellFormed) {bytes : List UInt8} {text : String}
    (hcontent : c.content = some bytes) (htext : Utf8.string? bytes = some text) :
    (c.onDisk d).readText? ⟨c.path.components⟩ = some text := by
  have hsees := (h.sees_onDisk_iff hd).2 (Or.inl ⟨rfl, hcontent⟩)
  exact Disk.readText?_components (Option.bind_eq_some_iff.2 ⟨bytes, hsees.2, htext⟩)

/-- A deleted file goes, and a written one has the symbols of its new text if the settings want its extension. -/
theorem symbols?_reported_self (h : c.Eligible settings root d) (hd : d.WellFormed) {ix : Index} (hix : ix.Typed)
    {kind : Kind} {extension : String} (hextension : c.path.HasPlainExtension extension) :
    ((c.reported settings (c.onDisk d) ix).registry kind).symbols? c.path.id =
      if c.content = none then none
      else if (settings.source kind).handlesExtension extension then
        (c.content.bind Utf8.string?).map (Registry.symbolsOf kind)
      else (ix.registry kind).symbols? c.path.id := by
  rw [reported, h.parse?_id, Option.elim_some, report]
  cases hcontent : c.content with
  | none =>
    simp only [Option.isSome_none, Bool.false_eq_true, if_false, if_true]
    rw [Index.applyChange, Index.symbols?_remove]
    exact if_pos rfl
  | some bytes =>
    obtain ⟨text, htext⟩ := Option.isSome_iff_exists.1 (h.written bytes hcontent).2
    have hsymbols : ∀ letter ∈ extension.toList, isSymbolChar letter = true := List.all_eq_true.1 hextension.2.2
    simp only [Option.isSome_some, if_true, reduceCtorEq, if_false]
    rw [Session.applyChange_touched, Url.load?_url hextension h.names.2, h.readText?_onDisk hd hcontent htext,
      Option.toList_some, Scan.symbols?_loadAll hix, Scan.lastText?_singleton, Load.text?, Load.isWanted,
      Source.handlesExtension_asciiLower _ hsymbols]
    cases (settings.source kind).handlesExtension extension with
    | false => simp
    | true => simp [htext]

end DiskChange.Eligible

theorem FilePath.extension?_eq_of_id_eq {path other : FilePath} (h : path.id = other.id) :
    path.extension? = other.extension? := by
  rw [extension?, extension?, components_eq_of_id_eq h]

theorem DiskChange.typed_reported (c : DiskChange) (settings : Settings) (d : Disk) {ix : Index} (h : ix.Typed) :
    (c.reported settings d ix).Typed := by
  unfold reported
  cases Url.parse? c.path.id with
  | none => exact h
  | some url => exact Session.typed_applyChange h d settings url c.report

/-- **One change.** An index that holds what a scan would build still does once the change is reported. -/
theorem DiskChange.Eligible.exact_reported {settings : Settings} {root : FilePath} {d : Disk} {ix : Index} {c : DiskChange}
    (h : c.Eligible settings root d) (hix : Exact settings root d ix) :
    Exact settings root (c.onDisk d) (c.reported settings (c.onDisk d) ix) := by
  refine ⟨wellFormed_onDisk hix.disk c, c.typed_reported settings _ hix.typed, fun kind file symbols => ?_⟩
  by_cases hfile : file = c.path.id
  · subst hfile
    obtain ⟨extension, hextension⟩ := h.extension
    rw [h.symbols?_reported_self hix.disk hix.typed hextension, h.indexed_onDisk_self_iff hix.disk hextension.1]
    cases hcontent : c.content with
    | none => simp
    | some bytes =>
      by_cases hhandles : (settings.source kind).handlesExtension extension = true
      · simp [hhandles]
      · -- a file with an unwanted extension is in no registry
        have hnone : (ix.registry kind).symbols? c.path.id = none := by
          rw [Option.eq_none_iff_forall_ne_some]
          intro old hold
          obtain ⟨path, extension', _, _, _, hid, hextension', hhandles', _⟩ := (hix.symbols _ _ _).1 hold
          rw [FilePath.extension?_eq_of_id_eq hid, hextension.1, Option.some.injEq] at hextension'
          exact hhandles (hextension' ▸ hhandles')
        simp [hhandles, hnone]
  · rw [h.symbols?_reported_of_ne hix.typed _ hfile, h.indexed_onDisk_iff_of_ne hix.disk hfile]
    exact hix.symbols kind file symbols

/-- **Any number of changes.** -/
theorem exact_run {settings : Settings} {root : FilePath} {w : Workspace} (hw : Exact settings root w.disk w.index)
    {changes : List DiskChange} (h : DiskChange.AllEligible settings root w.disk changes) :
    Exact settings root (w.run settings changes).disk (w.run settings changes).index := by
  induction changes generalizing w with
  | nil => exact hw
  | cons c changes ih =>
    obtain ⟨hc, hrest⟩ := h
    have hstep : Exact settings root (w.step settings c).disk (w.step settings c).index := by
      rw [Workspace.disk_step, Workspace.index_step]
      exact hc.exact_reported hw
    exact ih hstep hrest

/-- **Watching maintains what a scan would build.** From a scan of the workspace on, let files be written and deleted, and
each change be reported when it is made. Then both registries have of every file what a scan of the final disk leaves of it,
in whatever order the two scans list their files. -/
theorem watching_maintains_scan {settings : Settings} {root : FilePath} {d : Disk} (hd : d.WellFormed)
    {changes : List DiskChange} (h : DiskChange.AllEligible settings root d changes) (listing listing' : FileId → String)
    (kind : Kind) (file : FileId) :
    (((Workspace.scanned listing settings root d).run settings changes).index.registry kind).symbols? file =
      ((Scan.run listing' (changes.foldl (fun d c => c.onDisk d) d) settings root .empty).registry kind).symbols? file := by
  have hscanned : Exact settings root (Workspace.scanned listing settings root d).disk
      (Workspace.scanned listing settings root d).index := exact_scan hd listing settings root
  refine Option.ext fun symbols => ?_
  rw [(exact_run hscanned h).symbols, symbols?_scan_iff, Workspace.disk_run]
  rfl

/-- A sheet is written into a new directory, under an extension in upper case, and another one is deleted. -/
theorem watching_new_directory :
    let root : FilePath := ⟨[Name.ofString "w"]⟩
    let old : FilePath := root.join [Name.ofString "a.css"]
    let new : FilePath := root.join [Name.ofString "sub", Name.ofString "B.CSS"]
    let disk : Disk := ⟨[([Name.ofString "w"], .directory), (old.pieces, .file (Utf8.ofString ".old"))]⟩
    let changes : List DiskChange := [⟨new, some (Utf8.ofString ".new")⟩, ⟨old, none⟩]
    let r := ((Workspace.scanned id .initial root disk).run .initial changes).index.registry .className
    r.symbols? "file:///w/a.css" = none ∧ r.symbols? "file:///w/sub/B.CSS" = some ["new"] := by
  intro root old new disk changes r
  have hdisk : disk.WellFormed := ⟨by decide, by decide⟩
  have hold : old.HasPlainExtension "css" := ⟨by decide +kernel, by decide, by decide⟩
  have hnew : new.HasPlainExtension "CSS" := ⟨by decide +kernel, by decide, by decide⟩
  have hwrite : DiskChange.Eligible .initial root disk ⟨new, some (Utf8.ofString ".new")⟩ := by
    refine ⟨fun bytes hbytes => ?_, fun hnone => ?_, ?_, ⟨_, hnew⟩, (Url.readsBack_iff hnew).2 (by decide +kernel)⟩
    · obtain rfl := Option.some.inj hbytes
      decide +kernel
    · cases hnone
    · exact Walk.sameRules_of_untouched hdisk (by decide +kernel)
  have hdelete : DiskChange.Eligible .initial root (disk.write new (.file (Utf8.ofString ".new"))) ⟨old, none⟩ := by
    refine ⟨fun bytes hbytes => ?_, fun _ => by decide +kernel, ?_, ⟨_, hold⟩,
      (Url.readsBack_iff hold).2 (by decide +kernel)⟩
    · cases hbytes
    · exact Walk.sameRules_of_untouched (Disk.wellFormed_write hdisk _ _) (by decide +kernel)
  have hall : DiskChange.AllEligible .initial root disk changes := ⟨hwrite, hdelete, trivial⟩
  refine ⟨(watching_maintains_scan hdisk hall id id .className _).trans ?_,
    (watching_maintains_scan hdisk hall id id .className _).trans ?_⟩
  · rw [Option.eq_none_iff_forall_ne_some]
    intro symbols hsymbols
    obtain ⟨path, _, _, hfound, hid, _⟩ := Scan.symbols?_run_iff.1 hsymbols
    have hpaths : ∀ path ∈ ((changes.foldl (fun d c => c.onDisk d) disk).walk (Scan.excludeRules .initial) root).found,
        path.id ≠ "file:///w/a.css" := by decide +kernel
    exact hpaths path hfound hid
  · rw [Scan.symbols?_run_iff]
    exact ⟨new, "CSS", ".new", by decide +kernel, by decide +kernel, hnew.1, by decide, by decide +kernel, by decide⟩

end StyleIndex
