/-
A rescan rebuilds the index from nothing but the disk, the settings and the open documents.

`Rebuilt` says what a file is to have afterwards: the symbols of its open document, if the settings take it, and otherwise
those of its text on disk, if the walk of the workspace sees it and the settings want it. `symbols?_rescan_iff` is the law.
The loads of a rescan agree on every file, since a scan gives it one text (`diskLoads_agree`) and each document is open once
(`bufferLoads_gives_iff`).

`rescan_determines_index` states it of the two messages that rescan, of the order that results, and of two sessions with
different pasts.
-/
import Mathlib.Tactic
import StyleIndex.Proofs.Scan
import StyleIndex.Proofs.Session

namespace StyleIndex

/-- the document is open, and the registry of the kind takes it -/
def Reapplied (buffers : List (FileId × Buffer)) (settings : Settings) (kind : Kind) (file : FileId) (buffer : Buffer) :
    Prop :=
  buffers.lookup file = some buffer ∧ settings.takes kind file = true

/-- what a file has in the registry of a kind once the index is built again -/
inductive Rebuilt (disk : Disk) (root : Option FilePath) (buffers : List (FileId × Buffer)) (settings : Settings)
    (kind : Kind) (file : FileId) : List String → Prop where
  /-- an open document counts with its text -/
  | document {buffer : Buffer} (h : Reapplied buffers settings kind file buffer) :
    Rebuilt disk root buffers settings kind file (Registry.symbolsOf kind buffer.text)
  /-- any other file counts with its text on disk, if the walk from the root sees it -/
  | walked {start path : FilePath} {extension text : String} (hclosed : ∀ b, ¬ Reapplied buffers settings kind file b)
    (hroot : root = some start) (hfound : path ∈ (disk.walk (Scan.excludeRules settings) start).found)
    (hid : path.id = file) (hextension : path.extension? = some extension)
    (hhandles : (settings.source kind).handlesExtension extension = true) (hread : disk.readText? path = some text) :
    Rebuilt disk root buffers settings kind file (Registry.symbolsOf kind text)

/-- The order in which the documents are kept does not matter. -/
theorem Rebuilt.of_lookup_eq {disk : Disk} {root : Option FilePath} {buffers buffers' : List (FileId × Buffer)}
    {settings : Settings} {kind : Kind} {file : FileId} {symbols : List String}
    (hbuffers : ∀ file, buffers'.lookup file = buffers.lookup file)
    (h : Rebuilt disk root buffers settings kind file symbols) : Rebuilt disk root buffers' settings kind file symbols := by
  cases h with
  | document h => exact .document ⟨(hbuffers file).trans h.1, h.2⟩
  | walked hclosed hroot hfound hid hextension hhandles hread =>
    refine .walked (fun buffer hbuffer => ?_) hroot hfound hid hextension hhandles hread
    exact hclosed buffer ⟨(hbuffers file).symm.trans hbuffer.1, hbuffer.2⟩

namespace Session

/-! ## The loads of a rescan -/

theorem mem_diskLoads_iff {s : Session} {env : Env} {l : Load} :
    l ∈ s.diskLoads env ↔ ∃ start, s.root = some start ∧ l ∈ Scan.styleFiles env.disk s.settings start := by
  unfold diskLoads
  cases s.root with
  | none => simp
  | some start => simp [Scan.mem_inOrder_iff]

/-- The disk gives a file a text if a walked path with its identity and a wanted extension leads to that text. -/
theorem diskLoads_gives_iff {s : Session} {env : Env} {kind : Kind} {file : FileId} {text : String} :
    (∃ l ∈ s.diskLoads env, l.Gives s.settings kind file text) ↔
      ∃ start path extension, s.root = some start ∧ path ∈ (env.disk.walk (Scan.excludeRules s.settings) start).found ∧
        path.id = file ∧ path.extension? = some extension ∧
        (s.settings.source kind).handlesExtension extension = true ∧ env.disk.readText? path = some text := by
  constructor
  · rintro ⟨l, hl, hgives⟩
    obtain ⟨start, hroot, hl⟩ := mem_diskLoads_iff.1 hl
    obtain ⟨path, extension, hpath⟩ := Scan.styleFiles_gives_iff.1 ⟨l, hl, hgives⟩
    exact ⟨start, path, extension, hroot, hpath⟩
  · rintro ⟨start, path, extension, hroot, hpath⟩
    obtain ⟨l, hl, hgives⟩ := Scan.styleFiles_gives_iff.2 ⟨path, extension, hpath⟩
    exact ⟨l, mem_diskLoads_iff.2 ⟨start, hroot, hl⟩, hgives⟩

theorem diskLoads_agree (s : Session) (env : Env) (kind : Kind) (file : FileId) :
    Scan.Agree s.settings kind file (s.diskLoads env) := by
  unfold diskLoads
  cases s.root with
  | none => simp [Scan.Agree]
  | some start => exact Scan.agree_inOrder env.listing env.disk s.settings start kind file

theorem mem_buffersInOrder_iff {s : Session} {env : Env} {b : FileId × Buffer} :
    b ∈ s.buffersInOrder env ↔ b ∈ s.buffers :=
  List.mem_mergeSort

theorem bufferLoads_content {s : Session} {env : Env} : ∀ l ∈ s.bufferLoads env, l.content.isSome = true := by
  intro l hl
  obtain ⟨b, _, hl⟩ := List.mem_filterMap.1 hl
  obtain ⟨_, _, rfl⟩ := Option.map_eq_some_iff.1 hl
  rfl

/-- The open documents give a file a text if the settings take it and it is the text of its document. -/
theorem bufferLoads_gives_iff {s : Session} (hnodup : (s.buffers.map Prod.fst).Nodup) {env : Env} {kind : Kind}
    {file : FileId} {text : String} :
    (∃ l ∈ s.bufferLoads env, l.Gives s.settings kind file text) ↔
      ∃ buffer, Reapplied s.buffers s.settings kind file buffer ∧ buffer.text = text := by
  constructor
  · rintro ⟨l, hl, hgives⟩
    obtain ⟨⟨key, buffer⟩, hb, hload⟩ := List.mem_filterMap.1 hl
    obtain ⟨rfl, htakes, htext⟩ := bufferLoad?_gives_iff.1 ⟨l, hload, hgives⟩
    refine ⟨buffer, ⟨?_, htakes⟩, htext⟩
    exact (lookup_eq_some_iff_mem hnodup _ _).2 (mem_buffersInOrder_iff.1 hb)
  · rintro ⟨buffer, ⟨hopen, htakes⟩, htext⟩
    have hb : (file, buffer) ∈ s.buffersInOrder env :=
      mem_buffersInOrder_iff.2 ((lookup_eq_some_iff_mem hnodup _ _).1 hopen)
    obtain ⟨l, hload, hgives⟩ := bufferLoad?_gives_iff.2 ⟨rfl, htakes, htext⟩
    exact ⟨l, List.mem_filterMap.2 ⟨_, hb, hload⟩, hgives⟩

theorem bufferLoads_agree {s : Session} (hnodup : (s.buffers.map Prod.fst).Nodup) (env : Env) (kind : Kind)
    (file : FileId) : Scan.Agree s.settings kind file (s.bufferLoads env) := by
  intro l hl l' hl' text text' h h'
  obtain ⟨buffer, hbuffer, rfl⟩ := (bufferLoads_gives_iff hnodup).1 ⟨l, hl, h⟩
  obtain ⟨buffer', hbuffer', rfl⟩ := (bufferLoads_gives_iff hnodup).1 ⟨l', hl', h'⟩
  rw [Option.some.inj (hbuffer.1.symm.trans hbuffer'.1)]

/-! ## Symbols after a rescan -/

/-- **A rescan leaves what is to be rebuilt**, whatever the index held before. -/
theorem symbols?_rescan_iff {s : Session} (h : s.WellFormed) (env : Env) (kind : Kind) (file : FileId)
    (symbols : List String) :
    ((s.rescan env).index.registry kind).symbols? file = some symbols ↔
      Rebuilt env.disk s.root s.buffers s.settings kind file symbols := by
  have hbuffers := Scan.lastText?_eq_some_iff (bufferLoads_agree h.nodup env kind file)
  have hdisk := Scan.lastText?_eq_some_iff (diskLoads_agree s env kind file)
  rw [rescan_index, Scan.symbols?_loadAll (Scan.typed_loadAll h.typed.reset _ _), Scan.symbols?_loadAll h.typed.reset,
    Index.symbols?_reset, Option.or_none]
  -- the documents are loaded last, so the disk counts only where they give no text
  cases hlast : Scan.lastText? s.settings kind file (s.bufferLoads env) with
  | some text =>
    obtain ⟨buffer, hbuffer, rfl⟩ := (bufferLoads_gives_iff h.nodup).1 ((hbuffers text).1 hlast)
    simp only [Option.map_some, Option.some_or, Option.some.injEq]
    constructor
    · rintro rfl
      exact .document hbuffer
    · rintro (hother | ⟨hclosed, _⟩)
      · rw [Option.some.inj (hbuffer.1.symm.trans hother.1)]
      · exact absurd hbuffer (hclosed buffer)
  | none =>
    have hclosed : ∀ buffer, ¬ Reapplied s.buffers s.settings kind file buffer := by
      intro buffer hbuffer
      rw [(hbuffers buffer.text).2 ((bufferLoads_gives_iff h.nodup).2 ⟨buffer, hbuffer, rfl⟩)] at hlast
      cases hlast
    simp only [Option.map_none, Option.none_or, Option.map_eq_some_iff]
    constructor
    · rintro ⟨text, htext, rfl⟩
      obtain ⟨start, path, extension, hroot, hfound, hid, hextension, hhandles, hread⟩ :=
        diskLoads_gives_iff.1 ((hdisk text).1 htext)
      exact .walked hclosed hroot hfound hid hextension hhandles hread
    · rintro (hother | ⟨_, hroot, hfound, hid, hextension, hhandles, hread⟩)
      · exact absurd hother (hclosed _)
      · refine ⟨_, (hdisk _).2 (diskLoads_gives_iff.2 ?_), rfl⟩
        exact ⟨_, _, _, hroot, hfound, hid, hextension, hhandles, hread⟩

/-! ## Order after a rescan -/

/-- The documents behind a cut of their order that are taken end up behind all other files, with the symbols of their
texts. -/
theorem moreRecent_rescan_of_split {s : Session} (h : s.WellFormed) {env : Env} {front back : List (FileId × Buffer)}
    (hsplit : s.buffersInOrder env = front ++ back) (kind : Kind) :
    ∃ older newer, ((s.rescan env).index.registry kind).MoreRecent older newer ∧
      (∀ b ∈ back, s.settings.takes kind b.1 = true → b.1 ∈ newer.map Prod.fst) ∧
      ∀ e ∈ newer, ∃ b ∈ back, b.1 = e.1 ∧ s.settings.takes kind e.1 = true ∧ e.2 = Registry.symbolsOf kind b.2.text := by
  let loads (buffers : List (FileId × Buffer)) : List Load := buffers.filterMap fun b => bufferLoad? b.1 b.2.text
  have hloads : s.bufferLoads env = loads front ++ loads back := by rw [bufferLoads, hsplit, List.filterMap_append]
  have htyped := Scan.typed_loadAll (Scan.typed_loadAll h.typed.reset s.settings (s.diskLoads env)) s.settings (loads front)
  have hcontent : ∀ l ∈ loads back, l.content.isSome = true := by
    intro l hl
    have hmem : l ∈ s.bufferLoads env := hloads ▸ List.mem_append_right _ hl
    exact bufferLoads_content l hmem
  obtain ⟨older, newer, hrecent, hfiles, hnewer⟩ := Scan.moreRecent_loadAll htyped s.settings (loads back) hcontent kind
  rw [rescan_index, hloads, Scan.loadAll_append]
  refine ⟨older, newer, hrecent, fun b hb htakes => ?_, fun e he => ?_⟩
  · obtain ⟨l, hload, hfile, hwanted, _⟩ := bufferLoad?_gives_iff.2 ⟨rfl, htakes, rfl⟩
    rw [← hfile]
    exact hfiles l (List.mem_filterMap.2 ⟨b, hb, hload⟩) hwanted
  · obtain ⟨l, hl, text, hgives, heq⟩ := hnewer e he
    obtain ⟨b, hb, hload⟩ := List.mem_filterMap.1 hl
    obtain ⟨hfile, htakes, rfl⟩ := bufferLoad?_gives_iff.1 ⟨l, hload, hgives⟩
    exact ⟨b, hb, hfile, hfile ▸ htakes, heq⟩

/-- The open documents that are taken end up behind all other files, with the symbols of their texts. -/
theorem moreRecent_rescan {s : Session} (h : s.WellFormed) (env : Env) (kind : Kind) :
    ∃ older newer, ((s.rescan env).index.registry kind).MoreRecent older newer ∧
      (∀ file buffer, Reapplied s.buffers s.settings kind file buffer → file ∈ newer.map Prod.fst) ∧
      ∀ e ∈ newer, ∃ buffer, Reapplied s.buffers s.settings kind e.1 buffer ∧
        e.2 = Registry.symbolsOf kind buffer.text := by
  have hopen : ∀ file buffer, (file, buffer) ∈ s.buffersInOrder env ↔ s.buffers.lookup file = some buffer := by
    intro file buffer
    rw [mem_buffersInOrder_iff, lookup_eq_some_iff_mem h.nodup]
  obtain ⟨older, newer, hrecent, hfiles, hnewer⟩ := moreRecent_rescan_of_split h (List.nil_append _).symm kind
  refine ⟨older, newer, hrecent, fun file buffer hbuffer => ?_, fun e he => ?_⟩
  · exact hfiles (file, buffer) ((hopen file buffer).2 hbuffer.1) hbuffer.2
  · obtain ⟨⟨file, buffer⟩, hb, rfl, htakes, heq⟩ := hnewer e he
    exact ⟨buffer, ⟨(hopen e.1 buffer).1 hb, htakes⟩, heq⟩

theorem idxOf_files_rescan_lt {s : Session} (h : s.WellFormed) (env : Env) {kind : Kind} {file other : FileId}
    {buffer : Buffer} (hfile : Reapplied s.buffers s.settings kind file buffer)
    (hclosed : ∀ b, ¬ Reapplied s.buffers s.settings kind other b)
    (hother : other ∈ ((s.rescan env).index.registry kind).files) :
    ((s.rescan env).index.registry kind).files.idxOf other < ((s.rescan env).index.registry kind).files.idxOf file := by
  obtain ⟨older, newer, hrecent, hfiles, hnewer⟩ := moreRecent_rescan h env kind
  refine hrecent.idxOf_files_lt (hfiles file buffer hfile) ?_
  rw [Registry.files, hrecent.entries, List.map_append, List.mem_append] at hother
  refine hother.resolve_right fun hmem => ?_
  obtain ⟨e, he, rfl⟩ := List.mem_map.1 hmem
  obtain ⟨b, hb, _⟩ := hnewer e he
  exact hclosed b hb

theorem idxOf_items_rescan_lt {s : Session} (h : s.WellFormed) (env : Env) {kind : Kind} {file : FileId}
    {buffer : Buffer} (hfile : Reapplied s.buffers s.settings kind file buffer) {first second : String}
    (hfirst : first ∈ Registry.symbolsOf kind buffer.text)
    (hsecond : ∀ f b, Reapplied s.buffers s.settings kind f b → second ∉ Registry.symbolsOf kind b.text) :
    ((s.rescan env).index.registry kind).items.idxOf first <
      ((s.rescan env).index.registry kind).items.idxOf second := by
  obtain ⟨older, newer, hrecent, hfiles, hnewer⟩ := moreRecent_rescan h env kind
  refine hrecent.idxOf_items_lt ?_ fun e he => ?_
  · obtain ⟨e, he, rfl⟩ := List.mem_map.1 (hfiles file buffer hfile)
    obtain ⟨b, hb, heq⟩ := hnewer e he
    rw [Option.some.inj (hfile.1.symm.trans hb.1)] at hfirst
    exact ⟨e, he, heq ▸ hfirst⟩
  · obtain ⟨b, hb, heq⟩ := hnewer e he
    rw [heq]
    exact hsecond e.1 b hb

end Session

/-! ## Messages that rescan -/

/-- a message that ends with a rescan -/
def Request.rescans : Request → Bool
  | .initialized => true
  | .configure _ => true
  | _ => false

/-- Such a message may change the settings first, and nothing else. -/
theorem Session.outcome_eq_rescan {s : Session} (h : s.WellFormed) (env : Env) {request : Request}
    (hrescans : request.rescans = true) :
    ∃ configured : Session, configured.WellFormed ∧ configured.root = s.root ∧ configured.buffers = s.buffers ∧
      s.outcome env request = configured.rescan env := by
  cases request with
  | initialized => exact ⟨s, h, rfl, rfl, rfl⟩
  | configure settings =>
    refine ⟨_, ⟨?_, ?_⟩, ?_, ?_, outcome_configure s env settings⟩
    · simpa only [reload] using h.typed
    · simpa only [reload] using h.nodup
    · simp only [reload]
    · simp only [reload]
  | introduce | shutdown | didOpen | didChange | didClose | didChangeFiles | completion => cases hrescans

/-- a message that rescans gets through to a session and makes another one of it -/
structure Rescanned (w : World) (request : Request) (s : Session) : Prop where
  wellFormed : w.session.WellFormed
  rescans : request.rescans = true
  heard : w.refusal? request.isIntroduction = none
  session : (w.step (.message request)).1.session = s

theorem Rescanned.eq_rescan {w : World} {request : Request} {s : Session} (h : Rescanned w request s) :
    ∃ configured : Session, configured.WellFormed ∧ configured.root = w.session.root ∧
      configured.buffers = w.session.buffers ∧ configured.settings = s.settings ∧ s = configured.rescan w.env := by
  obtain ⟨configured, hform, hroot, hbuffers, houtcome⟩ := Session.outcome_eq_rescan h.wellFormed w.env h.rescans
  have hs := h.session
  rw [World.step_message h.heard] at hs
  obtain rfl : configured.rescan w.env = s := houtcome.symm.trans hs
  exact ⟨configured, hform, hroot, hbuffers, rfl, rfl⟩

theorem Rescanned.symbols?_iff {w : World} {request : Request} {s : Session} (h : Rescanned w request s) (kind : Kind)
    (file : FileId) (symbols : List String) :
    (s.index.registry kind).symbols? file = some symbols ↔
      Rebuilt w.env.disk w.session.root w.session.buffers s.settings kind file symbols := by
  obtain ⟨configured, hform, hroot, hbuffers, hsettings, rfl⟩ := h.eq_rescan
  rw [Session.symbols?_rescan_iff hform, hroot, hbuffers, hsettings]

/-- **A rescan is a function of the disk, the settings and the open documents.**
- A file has the symbols of its open document, or else of its text on disk, or else nothing (`Rebuilt`).
- The documents that count are more recent than all other files.
- In the merged list, what they define stands before what only other files define.
- Two sessions with different pasts, but the same disk, root, documents and resulting settings, agree on every file. -/
theorem rescan_determines_index {w : World} {request : Request} {s : Session} (h : Rescanned w request s) :
    (∀ kind file symbols, (s.index.registry kind).symbols? file = some symbols ↔
      Rebuilt w.env.disk w.session.root w.session.buffers s.settings kind file symbols) ∧
    (∀ kind file buffer other, Reapplied w.session.buffers s.settings kind file buffer →
      (∀ b, ¬ Reapplied w.session.buffers s.settings kind other b) → other ∈ (s.index.registry kind).files →
      (s.index.registry kind).files.idxOf other < (s.index.registry kind).files.idxOf file) ∧
    (∀ kind file buffer first second, Reapplied w.session.buffers s.settings kind file buffer →
      first ∈ Registry.symbolsOf kind buffer.text →
      (∀ f b, Reapplied w.session.buffers s.settings kind f b → second ∉ Registry.symbolsOf kind b.text) →
      (s.index.registry kind).items.idxOf first < (s.index.registry kind).items.idxOf second) ∧
    ∀ w' request' s', Rescanned w' request' s' → w'.env.disk = w.env.disk → w'.session.root = w.session.root →
      (∀ file, w'.session.buffers.lookup file = w.session.buffers.lookup file) → s'.settings = s.settings →
      ∀ kind file, (s'.index.registry kind).symbols? file = (s.index.registry kind).symbols? file := by
  refine ⟨h.symbols?_iff, ?_, ?_, ?_⟩
  · obtain ⟨configured, hform, _, hbuffers, hsettings, rfl⟩ := h.eq_rescan
    rw [← hbuffers, ← hsettings]
    intro kind file buffer other hfile hclosed hother
    exact Session.idxOf_files_rescan_lt hform w.env hfile hclosed hother
  · obtain ⟨configured, hform, _, hbuffers, hsettings, rfl⟩ := h.eq_rescan
    rw [← hbuffers, ← hsettings]
    intro kind file buffer first second hfile hfirst hsecond
    exact Session.idxOf_items_rescan_lt hform w.env hfile hfirst hsecond
  · intro w' request' s' h' hdisk hroot hbuffers hsettings kind file
    refine Option.ext fun symbols => ?_
    rw [h'.symbols?_iff, h.symbols?_iff, hdisk, hroot, hsettings]
    exact ⟨Rebuilt.of_lookup_eq fun file => (hbuffers file).symm, Rebuilt.of_lookup_eq hbuffers⟩

/-- Two sheets on disk, of which one is open with another text: the open text counts, and comes first. -/
theorem rescan_with_open_sheet :
    let root : FilePath := ⟨[Name.ofString "w"]⟩
    let sheet (name text : String) : List Name × Node :=
      ([Name.ofString "w", Name.ofString name], .file (Utf8.ofString text))
    let disk : Disk := ⟨[([Name.ofString "w"], .directory), sheet "a.css" ".old", sheet "b.css" ".kept"]⟩
    let url : Url := ⟨Url.fileScheme, some .here, "/w/a.css".toList, none, none⟩
    let w := (World.start ⟨disk, none, id, none, id⟩ (some root)).run [.message (.didOpen url "css" ".new")]
    let r := (w.step (.message .initialized)).1.session.index.registry .className
    r.symbols? "file:///w/a.css" = some ["new"] ∧ r.symbols? "file:///w/b.css" = some ["kept"] ∧
      r.items.idxOf "new" < r.items.idxOf "kept" := by
  intro root sheet disk url w r
  have h : Rescanned w .initialized (w.step (.message .initialized)).1.session :=
    ⟨World.run_wellFormed (World.start_wellFormed _ _) _, rfl, rfl, rfl⟩
  have hsettings : (w.step (.message .initialized)).1.session.settings = .initial := rfl
  obtain ⟨hsymbols, _, hitems, _⟩ := rescan_determines_index h
  rw [hsettings] at hsymbols hitems
  have hbuffers : w.session.buffers = [("file:///w/a.css", ⟨"css", ".new"⟩)] := by decide +kernel
  rw [hbuffers] at hsymbols hitems
  have hopen : Reapplied [("file:///w/a.css", ⟨"css", ".new"⟩)] .initial .className "file:///w/a.css"
      ⟨"css", ".new"⟩ := ⟨by decide, by decide⟩
  have hfound : root.join [Name.ofString "b.css"] ∈ (disk.walk (Scan.excludeRules .initial) root).found := by
    decide +kernel
  have hread : disk.readText? (root.join [Name.ofString "b.css"]) = some ".kept" := by decide +kernel
  have hextension : (root.join [Name.ofString "b.css"]).extension? = some "css" := by decide +kernel
  refine ⟨(hsymbols _ _ _).2 (.document hopen), (hsymbols _ _ _).2 ?_, hitems _ _ _ _ _ hopen (by decide) ?_⟩
  · refine Rebuilt.walked ?_ rfl hfound (by decide +kernel) hextension (by decide) hread
    rintro b ⟨hb, _⟩
    cases hb
  · intro f b hb
    obtain ⟨_, rfl⟩ : (f, b) = ("file:///w/a.css", ⟨"css", ".new"⟩) := by
      simpa using (lookup_eq_some_iff_mem (by decide) f b).1 hb.1
    decide

end StyleIndex
