/-
The identity of a file on disk.

`percentDecode_encodeBytes` reads an escaped name back, and so paths with one identity have the same components
(`components_eq_of_id_eq`). Two such paths may still differ in pieces that mean "stay here", which ask for a directory and
lead nowhere else. `readText?_eq_of_components` says that this is no difference for what is read: where both paths lead
to a text, it is the same text.
-/
import Mathlib.Tactic
import StyleIndex.Disk
import StyleIndex.FileUrl

namespace StyleIndex

/-! ## Escapes -/

namespace Url

theorem toNat_lt_of_keeps {escaped : List Char} {b : UInt8} (h : keeps escaped b = true) : b.toNat < 0x80 := by
  simp only [keeps, Bool.and_eq_true, decide_eq_true_eq, UInt8.le_iff_toNat_le] at h
  have : b.toNat ≤ 0x7E := h.1.2
  omega

theorem ne_of_keeps {escaped : List Char} {b : UInt8} (h : keeps escaped b = true) {c : Char} (hc : c ∈ escaped) :
    Char.ofNat b.toNat ≠ c := by
  simp only [keeps, Bool.and_eq_true, Bool.not_eq_true', List.contains_eq_mem, decide_eq_false_iff_not] at h
  rintro rfl
  exact h.2 hc

theorem encodeChar_ofNat {b : UInt8} (h : b.toNat < 0x80) : Utf8.encodeChar (Char.ofNat b.toNat) = [b] := by
  have hvalid : b.toNat.isValidChar := Or.inl (by omega)
  have hchar : (Char.ofNat b.toNat).toNat = b.toNat := by
    rw [Char.ofNat, dif_pos hvalid]
    rfl
  simp [Utf8.encodeChar, hchar, h, Utf8.byte]

theorem hexValue?_upperHex {n : Nat} (h : n < 16) : Text.hexValue? (upperHex n) = some n := by
  have hall : ∀ n : Fin 16, Text.hexValue? (upperHex n) = some n.val := by decide
  exact hall ⟨n, h⟩

theorem percentDecode_cons_of_ne {c : Char} (h : c ≠ '%') (rest : List Char) :
    percentDecode (c :: rest) = Utf8.encodeChar c ++ percentDecode rest := by
  rw [percentDecode]
  intro a b rest' hc
  exact absurd hc h

theorem percentDecode_escape_append (b : UInt8) (rest : List Char) :
    percentDecode (escape b ++ rest) = b :: percentDecode rest := by
  have hb : b.toNat < 256 := b.toNat_lt
  have hhigh : Text.hexValue? (upperHex (b.toNat / 16)) = some (b.toNat / 16) := hexValue?_upperHex (by omega)
  have hlow : Text.hexValue? (upperHex (b.toNat % 16)) = some (b.toNat % 16) := hexValue?_upperHex (by omega)
  have hvalue : b.toNat / 16 * 16 + b.toNat % 16 = b.toNat := by omega
  rw [escape, List.cons_append, List.cons_append, List.cons_append, List.nil_append, percentDecode, hhigh, hlow]
  simp only [hvalue, UInt8.ofNat_toNat]

/-- Escaped bytes read back as the bytes, where the kept characters leave out the percent sign. -/
theorem percentDecode_encodeBytes {escaped : List Char} (hpercent : '%' ∈ escaped) (bytes : List UInt8) :
    percentDecode (encodeBytes (keeps escaped) bytes) = bytes := by
  induction bytes with
  | nil => rfl
  | cons b bytes ih =>
    rw [encodeBytes, List.flatMap_cons]
    split_ifs with hkept
    · rw [List.singleton_append, percentDecode_cons_of_ne (ne_of_keeps hkept hpercent),
        encodeChar_ofNat (toNat_lt_of_keeps hkept)]
      exact congrArg (b :: ·) ih
    · rw [percentDecode_escape_append]
      exact congrArg (b :: ·) ih

theorem upperHex_ne_slash {n : Nat} (h : n < 16) : upperHex n ≠ '/' := by
  have hall : ∀ n : Fin 16, upperHex n ≠ '/' := by decide
  exact hall ⟨n, h⟩

theorem slash_notMem_encodeBytes {escaped : List Char} (hslash : '/' ∈ escaped) (bytes : List UInt8) :
    '/' ∉ encodeBytes (keeps escaped) bytes := by
  intro hmem
  obtain ⟨b, _, hb⟩ := List.mem_flatMap.1 hmem
  split_ifs at hb with hkept
  · exact ne_of_keeps hkept hslash (List.mem_singleton.1 hb).symm
  · have hlt : b.toNat < 256 := b.toNat_lt
    simp only [escape, List.mem_cons, List.not_mem_nil, or_false] at hb
    rcases hb with hb | hb | hb
    · exact absurd hb (by decide)
    · exact upperHex_ne_slash (by omega) hb.symm
    · exact upperHex_ne_slash (by omega) hb.symm

/-! ## Segments -/

/-- A path without slashes in its segments shows its first segment. -/
theorem takeWhile_joinSegments {segment : List Char} (h : '/' ∉ segment) (segments : List (List Char)) :
    (segment ++ joinSegments segments).takeWhile (· ≠ '/') = segment := by
  have hall : ∀ c ∈ segment, decide (c ≠ '/') = true := by
    intro c hc
    rw [decide_eq_true_eq]
    rintro rfl
    exact h hc
  rw [List.takeWhile_append_of_pos hall]
  cases segments <;> simp [joinSegments]

theorem joinSegments_inj {a b : List (List Char)} (ha : ∀ s ∈ a, '/' ∉ s) (hb : ∀ s ∈ b, '/' ∉ s)
    (h : joinSegments a = joinSegments b) : a = b := by
  induction a generalizing b with
  | nil =>
    cases b with
    | nil => rfl
    | cons s b => simp [joinSegments] at h
  | cons s a ih =>
    cases b with
    | nil => simp [joinSegments] at h
    | cons t b =>
      have h : s ++ joinSegments a = t ++ joinSegments b := by simpa [joinSegments] using h
      have hst : s = t := by
        rw [← takeWhile_joinSegments (ha s (by simp)) a, h, takeWhile_joinSegments (hb t (by simp)) b]
      subst hst
      rw [ih (fun x hx => ha x (by simp [hx])) (fun x hx => hb x (by simp [hx])) (List.append_cancel_left h)]

theorem joinSegments_ne_slash {segments : List (List Char)} (h : ∀ s ∈ segments, s ≠ []) :
    joinSegments segments ≠ ['/'] := by
  cases segments with
  | nil => simp [joinSegments]
  | cons s segments =>
    have hs : s ≠ [] := h s (by simp)
    simp [joinSegments, hs]

end Url

namespace FilePath

/-- the components of a path as they stand in its URL -/
def segments (p : FilePath) : List (List Char) :=
  p.components.map (Url.encodeBytes Url.keepsInName)

theorem decode_encode_name (name : Name) : Url.percentDecode (Url.encodeBytes Url.keepsInName name) = name :=
  Url.percentDecode_encodeBytes (by decide) name

theorem slash_notMem_segments (p : FilePath) : ∀ s ∈ p.segments, '/' ∉ s := by
  intro s hs
  obtain ⟨name, _, rfl⟩ := List.mem_map.1 hs
  exact Url.slash_notMem_encodeBytes (by decide) name

theorem segments_ne_nil (p : FilePath) : ∀ s ∈ p.segments, s ≠ [] := by
  intro s hs hnil
  obtain ⟨name, hname, rfl⟩ := List.mem_map.1 hs
  have hempty : name = [] := by rw [← decode_encode_name name, hnil, Url.percentDecode]
  have hkept := (List.mem_filter.1 hname).2
  simp [hempty] at hkept

theorem id_eq (p : FilePath) : p.id = String.ofList (Url.fileScheme ++ ':' :: '/' :: '/' :: p.url.path) := by
  simp [id, Url.text, Url.beforePath, url, Url.Authority.here, Url.Authority.text, Url.Host.text]

/-- Paths with one identity name the same things on their way. -/
theorem components_eq_of_id_eq {p q : FilePath} (h : p.id = q.id) : p.components = q.components := by
  have hpath : (if (Url.joinSegments p.segments).isEmpty then ['/'] else Url.joinSegments p.segments) =
      if (Url.joinSegments q.segments).isEmpty then ['/'] else Url.joinSegments q.segments := by
    rw [id_eq, id_eq, String.ofList_inj] at h
    have hurl : p.url.path = q.url.path := by simpa using h
    exact hurl
  -- a lone slash is what a path without components is written with, and no other path
  have hjoin : Url.joinSegments p.segments = Url.joinSegments q.segments := by
    split_ifs at hpath with hp hq hq
    · rw [List.isEmpty_iff.1 hp, List.isEmpty_iff.1 hq]
    · exact absurd hpath.symm (Url.joinSegments_ne_slash q.segments_ne_nil)
    · exact absurd hpath (Url.joinSegments_ne_slash p.segments_ne_nil)
    · exact hpath
  have hsegments := Url.joinSegments_inj p.slash_notMem_segments q.slash_notMem_segments hjoin
  have hinj : Function.Injective (Url.encodeBytes Url.keepsInName) :=
    Function.LeftInverse.injective decode_encode_name
  exact hinj.list_map hsegments

end FilePath

/-! ## Reading -/

namespace Disk

/-- the piece of a path means "stay here" -/
def Stays (piece : Name) : Prop :=
  piece = [] ∨ piece = Name.here

/-- the second path is the first without some pieces that mean "stay here" -/
inductive Thinned : List Name → List Name → Prop where
  | nil : Thinned [] []
  | keep {a b : List Name} (piece : Name) (h : Thinned a b) : Thinned (piece :: a) (piece :: b)
  | skip {a b : List Name} {piece : Name} (hstays : Stays piece) (h : Thinned a b) : Thinned (piece :: a) b

theorem Thinned.append_left {a b : List Name} (h : Thinned a b) (before : List Name) :
    Thinned (before ++ a) (before ++ b) := by
  induction before with
  | nil => exact h
  | cons piece before ih => exact .keep piece ih

theorem thinned_components (p : FilePath) : Thinned p.pieces p.components := by
  unfold FilePath.components
  induction p.pieces with
  | nil => exact .nil
  | cons piece pieces ih =>
    rw [List.filter_cons]
    split_ifs with hkept
    · exact .keep piece ih
    · refine .skip ?_ ih
      simp only [ne_eq, Bool.and_eq_true, decide_eq_true_eq, not_and_or, not_not] at hkept
      exact hkept

/-- the first step leads nowhere, or both lead to the same place or link -/
inductive Agrees : Step → Step → Prop where
  | arrived (place : List Name) : Agrees (.arrived place) (.arrived place)
  | vacant (place : List Name) : Agrees (.vacant place) (.vacant place)
  | missing (step : Step) : Agrees .missing step
  | link {rest rest' : List Name} (base : List Name) (target : List UInt8) (h : Thinned rest rest') :
    Agrees (.link base target rest) (.link base target rest')

theorem advance_of_not_isDirectory {d : Disk} {place : List Name} (hdir : d.isDirectory place = false) (piece : Name)
    (rest : List Name) : d.advance true place (piece :: rest) = .missing := by
  rw [advance, if_pos (by simp [hdir])]

theorem advance_stays {d : Disk} {place : List Name} (hdir : d.isDirectory place = true) {piece : Name}
    (hstays : Stays piece) (rest : List Name) : d.advance true place (piece :: rest) = d.advance true place rest := by
  rw [advance, if_neg (by simp [hdir]), if_pos (by simpa [Stays] using hstays)]

/-- Leaving out pieces that mean "stay here" takes a path to the same place, or the path led nowhere. -/
theorem advance_agrees (d : Disk) {a b : List Name} (h : Thinned a b) (place : List Name) :
    Agrees (d.advance true place a) (d.advance true place b) := by
  induction h generalizing place with
  | nil => exact .arrived place
  | skip hstays _ ih =>
    cases hdir : d.isDirectory place with
    | false =>
      rw [advance_of_not_isDirectory hdir]
      exact .missing _
    | true =>
      rw [advance_stays hdir hstays]
      exact ih place
  | @keep a b piece hthin ih =>
    cases hdir : d.isDirectory place with
    | false =>
      rw [advance_of_not_isDirectory hdir]
      exact .missing _
    | true =>
      by_cases hstays : Stays piece
      · rw [advance_stays hdir hstays, advance_stays hdir hstays]
        exact ih place
      · have hname : ¬ (decide (piece = []) || decide (piece = Name.here)) = true := by simpa [Stays] using hstays
        have hplace : ¬ (!d.isDirectory place) = true := by simp [hdir]
        rw [advance, advance, if_neg hplace, if_neg hplace, if_neg hname, if_neg hname]
        split
        · exact ih place.dropLast
        · cases d.node? (place ++ [piece]) with
          | none =>
            -- nothing stands there: the longer path is lost unless both end here
            cases hthin with
            | nil => exact .vacant _
            | keep | skip => exact .missing _
          | some node =>
            cases node with
            | link target =>
              simp only [Bool.not_true, Bool.and_false, Bool.false_eq_true, if_false]
              exact .link place target hthin
            | file | directory => exact ih (place ++ [piece])

theorem follow?_of_thinned (d : Disk) (links : Nat) {a b : List Name} (h : Thinned a b) (place : List Name)
    {found : List Name} (hfound : d.follow? true links place a = some found) :
    d.follow? true links place b = some found := by
  induction links generalizing a b place with
  | zero =>
    have hagrees := advance_agrees d h place
    unfold follow? at hfound ⊢
    generalize d.advance true place a = first at hfound hagrees
    generalize d.advance true place b = second at hagrees
    cases hagrees with
    | arrived | vacant => exact hfound
    | missing | link => cases hfound
  | succ links ih =>
    have hagrees := advance_agrees d h place
    unfold follow? at hfound ⊢
    generalize d.advance true place a = first at hfound hagrees
    generalize d.advance true place b = second at hagrees
    cases hagrees with
    | arrived | vacant => exact hfound
    | missing => cases hfound
    | link base target hrest => exact ih (hrest.append_left _) _ hfound

theorem readText?_components {d : Disk} {p : FilePath} {text : String} (h : d.readText? p = some text) :
    d.readText? ⟨p.components⟩ = some text := by
  obtain ⟨bytes, hbytes, hdecode⟩ := Option.bind_eq_some_iff.1 h
  obtain ⟨place, hplace⟩ : ∃ place, d.target? p = some place := by
    cases htarget : d.target? p with
    | none => simp [readBytes?, locate?, htarget] at hbytes
    | some place => exact ⟨place, rfl⟩
  have hsame : d.target? ⟨p.components⟩ = some place :=
    follow?_of_thinned d maxLinks (thinned_components p) [] hplace
  have hlocate : d.locate? ⟨p.components⟩ = d.locate? p := by rw [locate?, locate?, hsame, hplace]
  rw [readText?, readBytes?, hlocate]
  exact h

/-- **One identity, one text.** Paths with the same components do not lead to different texts. -/
theorem readText?_eq_of_components {d : Disk} {p q : FilePath} (h : p.components = q.components) {text text' : String}
    (hp : d.readText? p = some text) (hq : d.readText? q = some text') : text = text' := by
  have hp := readText?_components hp
  have hq := readText?_components hq
  rw [h, hq] at hp
  exact (Option.some.inj hp).symm

end Disk
end StyleIndex
