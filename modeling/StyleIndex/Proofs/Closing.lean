/-
What a document leaves behind when it is closed.

A closed document should leave nothing of its own: its file has no entry any more, or the entry of the text that is on disk
(`OnDisk`). What closing does to the entry depends on two things. If the URL leads to nothing on disk the entry goes. If it
leads somewhere, the file is loaded again, and this gives it an entry if the path of the URL ends with an extension that the
settings take and a text can be read there (`isReread`); a load that fails leaves the entry as it is (`symbols?_didClose`).

So `closed_entry_onDisk_iff` has an exception, and there the text of the closed document stays. It is met by a file that is
not UTF-8 and by a URL with the extension behind its path (`closing_keeps_unread_text`).
-/
import Mathlib.Tactic
import StyleIndex.Proofs.Session

namespace StyleIndex

namespace Url

/-- the URL means a path that leads to something -/
def leads (url : Url) (d : Disk) : Bool :=
  url.filePath?.any d.pathExists

/-- the text of the file that a URL means -/
def textOn? (url : Url) (d : Disk) : Option String :=
  url.filePath?.bind d.readText?

/-- the path of the URL ends with an extension that the registry of a kind takes, and leads to a text -/
def isReread (url : Url) (d : Disk) (settings : Settings) (kind : Kind) : Bool :=
  settings.takes kind url.pathText && (url.textOn? d).isSome

end Url

/-- an entry for the file of a URL says no more than what is on disk -/
def OnDisk (d : Disk) (url : Url) (kind : Kind) (entry : Option (List String)) : Prop :=
  entry = none ∨ ∃ text, url.textOn? d = some text ∧ entry = some (Registry.symbolsOf kind text)

namespace Session

/-- What reading the file of a URL again gives it. -/
theorem lastText?_load? (url : Url) (d : Disk) (settings : Settings) (kind : Kind) :
    Scan.lastText? settings kind url.text (url.load? d).toList =
      if settings.takes kind url.pathText then url.textOn? d else none := by
  rw [Url.load?, Settings.takes, Url.textOn?]
  cases extensionOf? url.pathText with
  | none => rfl
  | some ext =>
    cases url.filePath? with
    | none => simp [Scan.lastText?]
    | some path =>
      rw [Option.bind_some, Option.map_some, Option.toList_some, Scan.lastText?_singleton, Load.text?]
      simp [Load.isWanted]

theorem symbols?_touched {ix : Index} (h : ix.Typed) (d : Disk) (settings : Settings) (url : Url) (kind : Kind) :
    ((ix.applyChange d settings url .touched).registry kind).symbols? url.text =
      if url.isReread d settings kind then (url.textOn? d).map (Registry.symbolsOf kind)
      else (ix.registry kind).symbols? url.text := by
  rw [applyChange_touched, Scan.symbols?_loadAll h, lastText?_load?, Url.isReread]
  cases settings.takes kind url.pathText with
  | false => rfl
  | true => cases url.textOn? d <;> rfl

theorem closingChange_eq (env : Env) (url : Url) :
    closingChange env url = if url.leads env.disk then .touched else .deleted := by
  rw [closingChange, Url.leads]
  cases url.filePath? <;> rfl

/-- **Closing a document.** Its entry goes, is that of the text on disk, or stays. -/
theorem symbols?_didClose {s : Session} (h : s.index.Typed) (env : Env) (url : Url) (kind : Kind) :
    ((s.outcome env (.didClose url)).index.registry kind).symbols? url.text =
      if url.leads env.disk = false then none
      else if url.isReread env.disk s.settings kind then (url.textOn? env.disk).map (Registry.symbolsOf kind)
      else (s.index.registry kind).symbols? url.text := by
  have hindex : (s.outcome env (.didClose url)).index =
      s.index.applyChange env.disk s.settings url (closingChange env url) := rfl
  rw [hindex, closingChange_eq]
  cases url.leads env.disk with
  | false => rw [if_neg Bool.false_ne_true, Index.applyChange, Index.symbols?_remove, if_pos rfl, if_pos rfl]
  | true => rw [if_pos rfl, symbols?_touched h, if_neg (Bool.false_ne_true ∘ Eq.symm)]

/-- The entry of a closed document is that of the disk if the document leads nowhere or is read again. -/
theorem onDisk_didClose {s : Session} (h : s.index.Typed) (env : Env) {url : Url} {kind : Kind}
    (hclosed : url.leads env.disk = false ∨ url.isReread env.disk s.settings kind = true) :
    OnDisk env.disk url kind (((s.outcome env (.didClose url)).index.registry kind).symbols? url.text) := by
  rw [symbols?_didClose h]
  by_cases hleads : url.leads env.disk = false
  · exact Or.inl (if_pos hleads)
  · have hreread := hclosed.resolve_left hleads
    rw [if_neg hleads, if_pos hreread]
    obtain ⟨text, htext⟩ := Option.isSome_iff_exists.1 (Bool.and_eq_true_iff.1 hreread).2
    exact Or.inr ⟨text, htext, by rw [htext]; rfl⟩

theorem symbols?_didClose_of_unread {s : Session} (h : s.index.Typed) (env : Env) {url : Url} {kind : Kind}
    (hleads : url.leads env.disk = true) (hreread : url.isReread env.disk s.settings kind = false) :
    ((s.outcome env (.didClose url)).index.registry kind).symbols? url.text =
      (s.index.registry kind).symbols? url.text := by
  rw [symbols?_didClose h, if_neg (by simp [hleads]), if_neg (by simp [hreread])]

end Session

/-- **A closed document.** After any run, closing a document leaves its file no entry or the entry of the text on disk
exactly if its URL leads nowhere, or the file is read again, or the entry was such a one before. Otherwise the entry stays
as it was, with whatever the document had put there. -/
theorem closed_entry_onDisk_iff (env : Env) (root : Option FilePath) (events : List Event) {w : World}
    (hw : (World.start env root).run events = w) (hheard : w.refusal? false = none) (url : Url) (kind : Kind) :
    let before := (w.session.index.registry kind).symbols? url.text
    let after := ((w.step (.message (.didClose url))).1.session.index.registry kind).symbols? url.text
    (OnDisk w.env.disk url kind after ↔
      url.leads w.env.disk = false ∨ url.isReread w.env.disk w.session.settings kind = true ∨
        OnDisk w.env.disk url kind before) ∧
    (url.leads w.env.disk = true → url.isReread w.env.disk w.session.settings kind = false → after = before) := by
  intro before after
  have htyped : w.session.index.Typed := by
    rw [← hw]
    exact (World.run_wellFormed (World.start_wellFormed env root) events).typed
  have hafter : after = ((w.session.outcome w.env (.didClose url)).index.registry kind).symbols? url.text := by
    simp only [after]
    rw [World.step_message hheard]
  by_cases hunread : url.leads w.env.disk = true ∧ url.isReread w.env.disk w.session.settings kind = false
  · have hsame : after = before := by
      rw [hafter]
      exact Session.symbols?_didClose_of_unread htyped w.env hunread.1 hunread.2
    refine ⟨?_, fun _ _ => hsame⟩
    rw [hsame, hunread.1, hunread.2]
    simp
  · have hclosed : url.leads w.env.disk = false ∨ url.isReread w.env.disk w.session.settings kind = true := by
      rw [not_and_or, Bool.not_eq_true, Bool.not_eq_false] at hunread
      exact hunread
    refine ⟨iff_of_true ?_ ?_, fun hleads hreread => absurd ⟨hleads, hreread⟩ hunread⟩
    · rw [hafter]
      exact Session.onDisk_didClose htyped w.env hclosed
    · exact hclosed.imp_right Or.inl

/-- Text that was not saved goes with its document, and the sheet on disk counts again. -/
theorem closing_drops_unsaved_text :
    let root : FilePath := ⟨[Name.ofString "w"]⟩
    let disk : Disk := ⟨[([Name.ofString "w"], .directory),
      ([Name.ofString "w", Name.ofString "a.css"], .file (Utf8.ofString ".saved"))]⟩
    let url : Url := ⟨Url.fileScheme, some .here, "/w/a.css".toList, none, none⟩
    let w := (World.start ⟨disk, none, id, none, id⟩ (some root)).run
      [.message .initialized, .message (.didOpen url "css" ".draft")]
    (w.session.index.registry .className).symbols? url.text = some ["draft"] ∧
      OnDisk disk url .className
        (((w.step (.message (.didClose url))).1.session.index.registry .className).symbols? url.text) := by
  intro root disk url w
  have hreread : url.isReread disk w.session.settings .className = true := by decide +kernel
  refine ⟨by decide +kernel, ?_⟩
  exact (closed_entry_onDisk_iff _ _ _ rfl rfl url .className).1.2 (Or.inr (Or.inl hreread))

/-- The exception is met twice: behind one document stands a file that is not UTF-8, and the URL of the other has its
extension behind the path. Both leave their text in the index when they are closed. -/
theorem closing_keeps_unread_text :
    let root : FilePath := ⟨[Name.ofString "w"]⟩
    let disk : Disk := ⟨[([Name.ofString "w"], .directory),
      ([Name.ofString "w", Name.ofString "latin.css"], .file (Utf8.ofString ".old" ++ [0xE9])),
      ([Name.ofString "w", Name.ofString "notes"], .file (Utf8.ofString "plain"))]⟩
    let latin : Url := ⟨Url.fileScheme, some .here, "/w/latin.css".toList, none, none⟩
    let notes : Url := ⟨Url.fileScheme, some .here, "/w/notes".toList, some ".css".toList, none⟩
    let r := ((World.start ⟨disk, none, id, none, id⟩ (some root)).run
      [.message .initialized, .message (.didOpen latin "css" ".draft"), .message (.didClose latin),
        .message (.didOpen notes "css" ".ghost"), .message (.didClose notes)]).session.index.registry .className
    r.symbols? latin.text = some ["draft"] ∧ ¬OnDisk disk latin .className (r.symbols? latin.text) ∧
      r.symbols? notes.text = some ["ghost"] ∧ ¬OnDisk disk notes .className (r.symbols? notes.text) := by
  intro root disk latin notes r
  have hlatin : r.symbols? latin.text = some ["draft"] := by decide +kernel
  have hnotes : r.symbols? notes.text = some ["ghost"] := by decide +kernel
  have hunreadable : latin.textOn? disk = none := by decide +kernel
  have hplain : notes.textOn? disk = some "plain" := by decide +kernel
  refine ⟨hlatin, ?_, hnotes, ?_⟩
  · rw [hlatin, OnDisk, hunreadable]
    simp
  · rw [hnotes, OnDisk, hplain]
    decide

end StyleIndex
