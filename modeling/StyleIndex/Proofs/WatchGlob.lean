/-
What the glob of a client's watcher covers.

The glob lists the extensions of the enabled sources, each once and where it first occurs (`FirstOccurrences`). Whether a
source takes a file is another test, one that ignores the case of ASCII letters (`Text.SameText`). The two are in step:
some source takes a file exactly if the glob lists its extension up to case (`handles_iff_watched`).

`watchGlob_covers_handled` says this together with the form of the glob.
-/
import Mathlib.Tactic
import StyleIndex.Proofs.Recency
import StyleIndex.Settings

namespace StyleIndex

/-! ## The case of letters -/

namespace Text

/-- the characters are equal, or one is an ASCII capital and the other the small letter of it -/
def SameLetter (c d : Char) : Prop :=
  c = d ∨ (c.isUpper = true ∧ d.toNat = c.toNat + 32) ∨ (d.isUpper = true ∧ c.toNat = d.toNat + 32)

/-- the texts are equal up to the case of ASCII letters -/
def SameText (a b : String) : Prop :=
  List.Forall₂ SameLetter a.toList b.toList

theorem capital_iff (c : Char) : (c.val ≥ 'A'.val ∧ c.val ≤ 'Z'.val) ↔ 65 ≤ c.toNat ∧ c.toNat ≤ 90 :=
  and_congr UInt32.le_iff_toNat_le UInt32.le_iff_toNat_le

theorem isUpper_iff (c : Char) : c.isUpper = true ↔ 65 ≤ c.toNat ∧ c.toNat ≤ 90 :=
  decide_eq_true_iff.trans (capital_iff c)

theorem toNat_toLower (c : Char) :
    c.toLower.toNat = if 65 ≤ c.toNat ∧ c.toNat ≤ 90 then c.toNat + 32 else c.toNat := by
  unfold Char.toLower
  split_ifs with hupper hrange hrange
  · -- a capital is far below the bound of the sum, which does not wrap
    have hvalue : (c.val + ('a'.val - 'A'.val)).toNat = (c.toNat + 32) % 2 ^ 32 := UInt32.toNat_add _ _
    rw [Nat.mod_eq_of_lt (by omega)] at hvalue
    exact hvalue
  · exact absurd ((capital_iff c).1 hupper) hrange
  · exact absurd ((capital_iff c).2 hrange) hupper
  · rfl

theorem toLower_eq_iff (c d : Char) : c.toLower = d.toLower ↔ SameLetter c d := by
  unfold SameLetter
  rw [← Char.toNat_inj, toNat_toLower, toNat_toLower, ← Char.toNat_inj, isUpper_iff, isUpper_iff]
  split_ifs
  all_goals omega

/-- Lower-casing the ASCII letters of texts compares them up to case. -/
theorem asciiLower_eq_iff (a b : String) : asciiLower a = asciiLower b ↔ SameText a b := by
  unfold asciiLower SameText
  rw [String.ofList_inj, ← List.forall₂_eq_eq_eq, List.forall₂_map_left_iff, List.forall₂_map_right_iff]
  simp only [toLower_eq_iff]

theorem SameText.refl (a : String) : SameText a a :=
  (asciiLower_eq_iff a a).1 rfl

end Text

/-! ## First occurrences -/

/-- `listed` has the members of `written`, each once, in the order in which they first occur there -/
structure FirstOccurrences (written listed : List String) : Prop where
  nodup : listed.Nodup
  mem_iff : ∀ e, e ∈ listed ↔ e ∈ written
  order : ∀ a b, listed.idxOf a < listed.idxOf b ↔ written.idxOf a < written.idxOf b

theorem firstOccurrences_eraseDups (written : List String) : FirstOccurrences written written.eraseDups where
  nodup := Registry.nodup_eraseDups written
  mem_iff _ := List.mem_eraseDups
  order := idxOf_eraseDups_lt_iff written

/-! ## Extensions -/

theorem Source.handlesExtension_iff (source : Source) (extension : String) :
    source.handlesExtension extension = true ↔
      source.enabled = true ∧ ∃ e ∈ source.extensions, Text.SameText e extension := by
  simp only [handlesExtension, Bool.and_eq_true, List.any_eq_true, decide_eq_true_eq, Text.asciiLower_eq_iff]

namespace Settings

/-- what the enabled sources list, class names first -/
def writtenExtensions (s : Settings) : List String :=
  (if s.classNames.enabled then s.classNames.extensions else []) ++
    if s.mixins.enabled then s.mixins.extensions else []

theorem mem_writtenExtensions_iff (s : Settings) (e : String) :
    e ∈ s.writtenExtensions ↔ ∃ kind, (s.source kind).enabled = true ∧ e ∈ (s.source kind).extensions := by
  have hif : ∀ source : Source, (e ∈ if source.enabled then source.extensions else []) ↔
      source.enabled = true ∧ e ∈ source.extensions := by
    intro source
    split_ifs with h <;> simp [h]
  rw [writtenExtensions, List.mem_append, hif, hif, Kind.exists_iff]
  rfl

theorem watchedExtensions_eq (s : Settings) : s.watchedExtensions = s.writtenExtensions.eraseDups := by
  simp [watchedExtensions, writtenExtensions]

/-- **Taken is watched.** Some source takes files of an extension exactly if it is among the watched ones up to case. -/
theorem handles_iff_watched (s : Settings) (extension : String) :
    (∃ kind, (s.source kind).handlesExtension extension = true) ↔
      ∃ e ∈ s.watchedExtensions, Text.SameText e extension := by
  simp only [watchedExtensions_eq, List.mem_eraseDups, mem_writtenExtensions_iff, Source.handlesExtension_iff]
  constructor
  · rintro ⟨kind, henabled, e, he, hsame⟩
    exact ⟨e, ⟨kind, henabled, he⟩, hsame⟩
  · rintro ⟨e, ⟨kind, henabled, he⟩, hsame⟩
    exact ⟨kind, henabled, e, he, hsame⟩

theorem watchedExtensions_eq_nil_iff (s : Settings) :
    s.watchedExtensions = [] ↔ ∀ kind extension, (s.source kind).handlesExtension extension = false := by
  constructor
  · intro hnil kind extension
    by_contra htaken
    obtain ⟨e, he, _⟩ := (s.handles_iff_watched extension).1 ⟨kind, by simpa using htaken⟩
    rw [hnil] at he
    cases he
  · intro hnone
    rw [List.eq_nil_iff_forall_not_mem]
    intro e he
    obtain ⟨kind, htaken⟩ := (s.handles_iff_watched e).2 ⟨e, he, Text.SameText.refl e⟩
    rw [hnone kind e] at htaken
    cases htaken

theorem watchGlob_cases (s : Settings) :
    (s.watchedExtensions = [] ∧ s.watchGlob = none) ∨
      (∃ e, s.watchedExtensions = [e] ∧ s.watchGlob = some ("**/*." ++ e)) ∨
      (2 ≤ s.watchedExtensions.length ∧
        s.watchGlob = some ("**/*.\x7b" ++ ",".intercalate s.watchedExtensions ++ "\x7d")) := by
  unfold watchGlob
  match s.watchedExtensions with
  | [] => exact Or.inl ⟨rfl, rfl⟩
  | [e] => exact Or.inr (Or.inl ⟨e, rfl, rfl⟩)
  | e :: f :: rest => exact Or.inr (Or.inr ⟨by simp, rfl⟩)

theorem watchGlob_eq_none_iff (s : Settings) : s.watchGlob = none ↔ s.watchedExtensions = [] := by
  rcases s.watchGlob_cases with ⟨hnil, hglob⟩ | ⟨e, hone, hglob⟩ | ⟨hmany, hglob⟩
  · simp [hnil, hglob]
  · simp [hone, hglob]
  · have hne : s.watchedExtensions ≠ [] := List.ne_nil_of_length_pos (by omega)
    simp [hne, hglob]

/-- **The glob covers what the sources take.** There is no glob exactly if no source takes any extension. The extensions that
a glob lists are those of the enabled sources, class names first, each once and where it first occurs; a single one stands
alone, several stand in braces. And some source takes an extension exactly if one that is listed equals it up to the case of
ASCII letters. -/
theorem watchGlob_covers_handled (s : Settings) :
    (s.watchGlob = none ↔ ∀ kind extension, (s.source kind).handlesExtension extension = false) ∧
      ∃ listed,
        ((listed = [] ∧ s.watchGlob = none) ∨
          (∃ e, listed = [e] ∧ s.watchGlob = some ("**/*." ++ e)) ∨
          (2 ≤ listed.length ∧ s.watchGlob = some ("**/*.\x7b" ++ ",".intercalate listed ++ "\x7d"))) ∧
        FirstOccurrences s.writtenExtensions listed ∧
        ∀ extension, (∃ kind, (s.source kind).handlesExtension extension = true) ↔
          ∃ e ∈ listed, Text.SameText e extension := by
  refine ⟨?_, s.watchedExtensions, s.watchGlob_cases, ?_, s.handles_iff_watched⟩
  · rw [watchGlob_eq_none_iff, watchedExtensions_eq_nil_iff]
  · rw [watchedExtensions_eq]
    exact firstOccurrences_eraseDups _

end Settings
end StyleIndex
