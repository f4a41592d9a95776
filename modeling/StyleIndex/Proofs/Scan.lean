/-
What a scan of the workspace loads.

A scan gives a file a text if a path that the walk sees has the identity of the file and an extension that the settings
want, and leads to that text (`styleFiles_gives_iff`). An identity leads to one text on disk (`agree_styleFiles`), so the
order in which the files are loaded does not matter for what each of them has in the end (`symbols?_run_iff`).
-/
import Mathlib.Tactic
import StyleIndex.Proofs.FileId
import StyleIndex.Proofs.Index

namespace StyleIndex

theorem Load.isStyle_of_isWanted {l : Load} {settings : Settings} (kind : Kind) (h : l.isWanted settings kind = true) :
    l.isStyle settings = true := by
  cases kind <;> simp [Load.isStyle, h]

namespace Scan

variable {d : Disk} {settings : Settings} {root : FilePath} {kind : Kind} {file : FileId} {text : String}

theorem mem_styleFiles_iff {l : Load} :
    l ∈ styleFiles d settings root ↔ l.isStyle settings = true ∧
      ∃ path ∈ (d.walk (excludeRules settings) root).found, ∃ extension, path.extension? = some extension ∧
        l = ⟨path.id, extension, d.readText? path⟩ := by
  rw [styleFiles, List.mem_filter, List.mem_filterMap, and_comm]
  refine and_congr_right fun _ => exists_congr fun path => and_congr_right fun _ => ?_
  rw [load?, Option.map_eq_some_iff]
  simp only [eq_comm]

/-- A scan gives a file a text if a walked path with its identity and a wanted extension leads to that text. -/
theorem styleFiles_gives_iff :
    (∃ l ∈ styleFiles d settings root, l.Gives settings kind file text) ↔
      ∃ path extension, path ∈ (d.walk (excludeRules settings) root).found ∧ path.id = file ∧
        path.extension? = some extension ∧ (settings.source kind).handlesExtension extension = true ∧
        d.readText? path = some text := by
  constructor
  · rintro ⟨l, hl, hfile, hwanted, hcontent⟩
    obtain ⟨_, path, hfound, extension, hextension, rfl⟩ := mem_styleFiles_iff.1 hl
    exact ⟨path, extension, hfound, hfile, hextension, hwanted, hcontent⟩
  · rintro ⟨path, extension, hfound, hfile, hextension, hhandles, hread⟩
    refine ⟨⟨path.id, extension, d.readText? path⟩, mem_styleFiles_iff.2 ⟨?_, path, hfound, extension, hextension, rfl⟩,
      hfile, hhandles, hread⟩
    exact Load.isStyle_of_isWanted kind hhandles

/-- An identity leads to one text on disk. -/
theorem agree_styleFiles (d : Disk) (settings : Settings) (root : FilePath) (kind : Kind) (file : FileId) :
    Agree settings kind file (styleFiles d settings root) := by
  intro l hl l' hl' text text' h h'
  obtain ⟨path, _, _, hid, _, _, hread⟩ := styleFiles_gives_iff.1 ⟨l, hl, h⟩
  obtain ⟨path', _, _, hid', _, _, hread'⟩ := styleFiles_gives_iff.1 ⟨l', hl', h'⟩
  exact Disk.readText?_eq_of_components (FilePath.components_eq_of_id_eq (hid.trans hid'.symm)) hread hread'

theorem mem_inOrder_iff {listing : FileId → String} {loads : List Load} {l : Load} :
    l ∈ inOrder listing loads ↔ l ∈ loads :=
  List.mem_mergeSort

theorem agree_inOrder (listing : FileId → String) (d : Disk) (settings : Settings) (root : FilePath) (kind : Kind)
    (file : FileId) : Agree settings kind file (inOrder listing (styleFiles d settings root)) :=
  fun l hl l' hl' => agree_styleFiles d settings root kind file l (mem_inOrder_iff.1 hl) l' (mem_inOrder_iff.1 hl')

/-- **What a scan leaves of a file**, in whatever order the files are listed. -/
theorem symbols?_run_iff {listing : FileId → String} {symbols : List String} :
    ((run listing d settings root .empty).registry kind).symbols? file = some symbols ↔
      ∃ path extension text, path ∈ (d.walk (excludeRules settings) root).found ∧ path.id = file ∧
        path.extension? = some extension ∧ (settings.source kind).handlesExtension extension = true ∧
        d.readText? path = some text ∧ Registry.symbolsOf kind text = symbols := by
  have hempty : (Index.empty.registry kind).symbols? file = none := by
    cases kind <;> rfl
  rw [run, symbols?_loadAll Index.typed_empty, hempty, Option.or_none, Option.map_eq_some_iff]
  constructor
  · rintro ⟨text, htext, hsymbols⟩
    obtain ⟨l, hl, hgives⟩ := exists_gives_of_lastText? htext
    obtain ⟨path, extension, hfound, hid, hextension, hhandles, hread⟩ :=
      styleFiles_gives_iff.1 ⟨l, mem_inOrder_iff.1 hl, hgives⟩
    exact ⟨path, extension, text, hfound, hid, hextension, hhandles, hread, hsymbols⟩
  · rintro ⟨path, extension, text, hfound, hid, hextension, hhandles, hread, hsymbols⟩
    refine ⟨text, (lastText?_eq_some_iff (agree_inOrder listing d settings root kind file) text).2 ?_, hsymbols⟩
    obtain ⟨l, hl, hgives⟩ := styleFiles_gives_iff.2 ⟨path, extension, hfound, hid, hextension, hhandles, hread⟩
    exact ⟨l, mem_inOrder_iff.2 hl, hgives⟩

end Scan
end StyleIndex
