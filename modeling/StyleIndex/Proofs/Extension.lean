/-
The extension of a file, read off its path and off its URL.

A plain extension consists of ASCII letters, digits, `_` and `-`. It stands in the URL of a file as it stands in the path
(`extensionOf?_url`), and such a URL means the file and no directory (`filePath?_url`). So a change of the file loads what a
scan would load, with the extension in lower case (`load?_url`), which makes no difference to the settings
(`handlesExtension_asciiLower`).
-/
import Mathlib.Tactic
import StyleIndex.Index
import StyleIndex.Proofs.FileUrl

namespace StyleIndex

/-! ## Extensions of names -/

/-- Bytes that write an ASCII text are its encoding. -/
theorem Utf8.encode_of_decode?_eq {bytes : List UInt8} {chars : List Char} (h : Utf8.decode? bytes = some chars)
    (hascii : ∀ c ∈ chars, c.toNat < 0x80) : Utf8.encode chars = bytes := by
  -- a character that is read from several bytes is not ASCII
  have hlong : ∀ {n : Nat} {rest : Option (List Char)} {chars : List Char}, 0x80 ≤ n → n.isValidChar →
      rest.map (Char.ofNat n :: ·) = some chars → ¬ ∀ c ∈ chars, c.toNat < 0x80 := by
    intro n rest chars hn hvalid hrest hall
    obtain ⟨tail, _, rfl⟩ := Option.map_eq_some_iff.1 hrest
    have hchar : (Char.ofNat n).toNat = n := by
      rw [Char.ofNat, dif_pos hvalid]
      rfl
    have hlt := hall (Char.ofNat n) (by simp)
    omega
  fun_induction Utf8.decode? bytes generalizing chars with
  | case1 =>
    obtain rfl := Option.some.inj h
    rfl
  | case2 a rest ha ih =>
    obtain ⟨tail, htail, rfl⟩ := Option.map_eq_some_iff.1 h
    have hlt : a.toNat < 0x80 := UInt8.lt_iff_toNat_lt.1 ha
    rw [Utf8.encode, List.flatMap_cons, Url.encodeChar_ofNat hlt]
    exact congrArg (a :: ·) (ih htail fun c hc => hascii c (by simp [hc]))
  | case3 | case5 | case7 | case8 | case10 => cases h
  | case4 a ha b rest hlead =>
    simp only [Bool.and_eq_true, decide_eq_true_eq, UInt8.le_iff_toNat_le, UInt8.reduceToNat] at hlead
    have htail : Utf8.tailBits b < 0x40 := Nat.mod_lt _ (by decide)
    exact absurd hascii (hlong (by omega) (Or.inl (by omega)) h)
  | case6 a ha b hb c rest n hlead hrange =>
    simp only [Bool.and_eq_true, Bool.or_eq_true, decide_eq_true_eq] at hrange
    have hb : Utf8.tailBits b < 0x40 := Nat.mod_lt _ (by decide)
    have hc : Utf8.tailBits c < 0x40 := Nat.mod_lt _ (by decide)
    exact absurd hascii (hlong (by omega) (by unfold Nat.isValidChar; omega) h)
  | case9 a ha b hb c hc d rest n hlead =>
    simp only [Bool.and_eq_true, decide_eq_true_eq] at hlead
    exact absurd hascii (hlong (by omega) (by unfold Nat.isValidChar; omega) h)

theorem reverse_takeWhile_append_cons {α : Type} {p : α → Bool} {tail : List α} (htail : ∀ a ∈ tail, p a = true) {sep : α}
    (hsep : p sep = false) (before : List α) : ((before ++ sep :: tail).reverse.takeWhile p).reverse = tail := by
  rw [List.reverse_append, List.reverse_cons, List.append_assoc,
    List.takeWhile_append_of_pos fun a ha => htail a (List.mem_reverse.1 ha), List.singleton_append,
    List.takeWhile_cons_of_neg (by simp [hsep]), List.append_nil, List.reverse_reverse]

/-- A name with an extension ends with a dot and the extension. -/
theorem Name.exists_eq_append_of_extension? {name extension : Name} (h : name.extension? = some extension) :
    ∃ before, name = before ++ Name.dot :: extension := by
  unfold Name.extension? at h
  simp only at h
  split_ifs at h with hup hlength
  obtain rfl := Option.some.inj h
  have hcut : name.reverse.takeWhile (· ≠ Name.dot) ++ name.reverse.dropWhile (· ≠ Name.dot) = name.reverse :=
    List.takeWhile_append_dropWhile
  cases hrest : name.reverse.dropWhile (· ≠ Name.dot) with
  | nil =>
    -- without a dot the name would not be longer than what stands behind it
    rw [hrest, List.append_nil] at hcut
    rw [hcut, List.reverse_reverse] at hlength
    omega
  | cons first rest =>
    have hfirst : first = Name.dot := by
      have hhead := List.head?_dropWhile_not (· ≠ Name.dot) name.reverse
      rw [hrest] at hhead
      simpa using hhead
    refine ⟨rest.reverse, ?_⟩
    rw [hrest, hfirst] at hcut
    have hname := congrArg List.reverse hcut
    rw [List.reverse_reverse, List.reverse_append, List.reverse_cons, List.append_assoc] at hname
    exact hname.symm

theorem Utf8.string?_eq_some_iff {bytes : List UInt8} {text : String} :
    Utf8.string? bytes = some text ↔ Utf8.decode? bytes = some text.toList := by
  rw [Utf8.string?, Option.map_eq_some_iff]
  constructor
  · rintro ⟨chars, hchars, rfl⟩
    rw [String.toList_ofList, hchars]
  · intro h
    exact ⟨text.toList, h, String.ofList_toList⟩

namespace FilePath

/-- the extension of the path is made of ASCII letters, digits, `_` and `-` -/
def HasPlainExtension (p : FilePath) (extension : String) : Prop :=
  p.extension? = some extension ∧ extension ≠ "" ∧ extension.toList.all isSymbolChar = true

/-- The last name of a path with a plain extension. -/
theorem HasPlainExtension.exists_name {p : FilePath} {extension : String} (h : p.HasPlainExtension extension) :
    ∃ above before, p.components = above ++ [before ++ Name.dot :: Utf8.encode extension.toList] := by
  obtain ⟨hextension, _, hplain⟩ := h
  obtain ⟨bytes, hbytes, htext⟩ := Option.bind_eq_some_iff.1 hextension
  obtain ⟨name, hname, hbytes⟩ := Option.bind_eq_some_iff.1 hbytes
  obtain ⟨before, rfl⟩ := Name.exists_eq_append_of_extension? hbytes
  obtain ⟨above, habove⟩ := List.getLast?_eq_some_iff.1 hname
  refine ⟨above, before, ?_⟩
  rw [habove, Utf8.encode_of_decode?_eq (Utf8.string?_eq_some_iff.1 htext)]
  intro c hc
  exact toNat_lt_of_isSymbolChar (List.all_eq_true.1 hplain c hc)

theorem HasPlainExtension.components_ne_nil {p : FilePath} {extension : String} (h : p.HasPlainExtension extension) :
    p.components ≠ [] := by
  obtain ⟨above, before, hcomponents⟩ := h.exists_name
  simp [hcomponents]

/-- The last segment of the URL of a path with a plain extension. -/
theorem HasPlainExtension.exists_segments {p : FilePath} {extension : String} (h : p.HasPlainExtension extension) :
    ∃ above stem, p.segments = above ++ [stem ++ '.' :: extension.toList] := by
  obtain ⟨above, before, hcomponents⟩ := h.exists_name
  have hextension := Url.encodeText_of_isSymbolChar (List.all_eq_true.1 h.2.2)
  rw [Url.encodeText, Url.encodeBytes] at hextension
  refine ⟨above.map (Url.encodeBytes Url.keepsInName), Url.encodeBytes Url.keepsInName before, ?_⟩
  rw [segments, hcomponents, List.map_append, List.map_singleton, Url.encodeBytes, List.flatMap_append,
    List.flatMap_cons, hextension]
  rfl

end FilePath

/-- A path that ends with a plain extension shows it, in lower case. -/
theorem extensionOf?_ofList {stem : List Char} {extension : String} (hsegment : '/' ∉ stem ++ '.' :: extension.toList)
    (hne : extension ≠ "") (hplain : extension.toList.all isSymbolChar = true) (front : List Char) :
    extensionOf? (String.ofList (front ++ '/' :: (stem ++ '.' :: extension.toList))) =
      some (Text.asciiLower extension) := by
  have hdot : ∀ c ∈ extension.toList, decide (c ≠ '.') = true := by
    intro c hc
    rw [decide_eq_true_eq]
    rintro rfl
    exact absurd (List.all_eq_true.1 hplain _ hc) (by decide)
  have hne : extension.toList ≠ [] := fun hnil => hne (String.toList_inj.1 hnil)
  unfold extensionOf?
  rw [String.toList_ofList, reverse_takeWhile_append_cons (fun c hc => ?_) (by decide)]
  · simp only [reverse_takeWhile_append_cons hdot (by decide : decide ('.' ≠ '.') = false)]
    rw [if_pos, String.ofList_toList]
    rw [Bool.and_eq_true, decide_eq_true_eq, List.length_append, List.length_cons]
    exact ⟨by omega, by simpa using hne⟩
  · rw [decide_eq_true_eq]
    rintro rfl
    exact hsegment hc

/-- The URL of a file shows the same extension as its path, in lower case. -/
theorem FilePath.extensionOf?_url {p : FilePath} {extension : String} (h : p.HasPlainExtension extension) :
    extensionOf? p.url.pathText = some (Text.asciiLower extension) := by
  obtain ⟨above, stem, hsegments⟩ := h.exists_segments
  have hslash := p.slash_notMem_segments _ (by rw [hsegments]; exact List.mem_append_right _ (List.mem_singleton_self _))
  have hpath : p.url.path = Url.joinSegments above ++ '/' :: (stem ++ '.' :: extension.toList) := by
    rw [url_path p h.components_ne_nil, hsegments]
    simp [Url.joinSegments]
  rw [Url.pathText, hpath, extensionOf?_ofList hslash h.2.1 h.2.2]

namespace Url

theorem closeDrive_eq_self {pieces : List Name}
    (h : ∀ last ∈ pieces.getLast?, last.getLast? ≠ some 0x3A ∧ last.getLast? ≠ some 0x7C) : closeDrive pieces = pieces := by
  unfold closeDrive
  split
  · rename_i mark letter rest hlast
    obtain ⟨last, hmem, hreverse⟩ := Option.map_eq_some_iff.1 hlast
    have hmark : last.getLast? = some mark := by rw [← List.head?_reverse, hreverse, List.head?_cons]
    obtain ⟨hcolon, hbar⟩ := h last hmem
    rw [hmark] at hcolon hbar
    rw [if_neg]
    rintro hdrive
    simp only [Bool.and_eq_true, Bool.or_eq_true, decide_eq_true_eq] at hdrive
    rcases hdrive.1 with rfl | rfl
    · exact hcolon rfl
    · exact hbar rfl
  · rfl

/-- The URL of a file with a plain extension means the file. -/
theorem filePath?_url {p : FilePath} {extension : String} (h : p.HasPlainExtension extension)
    (hslash : ∀ name ∈ p.components, Name.slash ∉ name) : p.url.filePath? = some ⟨p.components⟩ := by
  have hdrive : closeDrive p.components = p.components := by
    have hbytes : ∀ c : Char, c.toNat < 0x80 → isSymbolChar c = true → ∀ b ∈ Utf8.encodeChar c, b ≠ 0x3A ∧ b ≠ 0x7C :=
      forall_ascii (by decide +kernel)
    have hend : ∀ b ∈ Name.dot :: Utf8.encode extension.toList, b ≠ 0x3A ∧ b ≠ 0x7C := by
      intro b hb
      rcases List.mem_cons.1 hb with rfl | hb
      · decide
      · obtain ⟨c, hc, hb⟩ := List.mem_flatMap.1 hb
        have hsymbol := List.all_eq_true.1 h.2.2 c hc
        exact hbytes c (toNat_lt_of_isSymbolChar hsymbol) hsymbol b hb
    obtain ⟨above, before, hcomponents⟩ := h.exists_name
    refine closeDrive_eq_self fun last hlast => ?_
    rw [hcomponents, List.getLast?_concat, Option.mem_some_iff] at hlast
    rw [← hlast, List.getLast?_append_of_ne_nil _ (by simp)]
    exact ⟨fun hcolon => (hend _ (List.mem_of_getLast? hcolon)).1 rfl,
      fun hbar => (hend _ (List.mem_of_getLast? hbar)).2 rfl⟩
  rw [filePath?_url_eq h.components_ne_nil hslash, hdrive]

/-- The identity of a file with a plain extension reads back unless its path goes up or a name has a slash. -/
theorem readsBack_iff {p : FilePath} {extension : String} (h : p.HasPlainExtension extension) :
    p.ReadsBack ↔ Name.up ∉ p.components ∧ ∀ name ∈ p.components, Name.slash ∉ name := by
  refine ⟨fun hreads => hreads.names h.components_ne_nil, fun ⟨hup, hslash⟩ => ?_⟩
  refine ⟨p.url, ⟨p.components⟩, parse?_id_eq_url h.components_ne_nil hup, filePath?_url h hslash, ?_⟩
  rw [FilePath.components, FilePath.components, List.filter_filter]
  simp only [Bool.and_self]

/-- **What a change of a file loads**, by its URL. -/
theorem load?_url {p : FilePath} {extension : String} (h : p.HasPlainExtension extension)
    (hslash : ∀ name ∈ p.components, Name.slash ∉ name) (d : Disk) :
    p.url.load? d = some ⟨p.id, Text.asciiLower extension, d.readText? ⟨p.components⟩⟩ := by
  rw [load?, FilePath.extensionOf?_url h, Option.bind_some, filePath?_url h hslash]
  rfl

end Url

/-- The case of a plain extension does not matter to the settings. -/
theorem Source.handlesExtension_asciiLower (source : Source) {extension : String}
    (h : ∀ c ∈ extension.toList, isSymbolChar c = true) :
    source.handlesExtension (Text.asciiLower extension) = source.handlesExtension extension := by
  have hchar : ∀ c : Char, c.toNat < 0x80 → c.toLower.toLower = c.toLower := Url.forall_ascii (by decide +kernel)
  have hlower : Text.asciiLower (Text.asciiLower extension) = Text.asciiLower extension := by
    rw [Text.asciiLower, Text.asciiLower, String.toList_ofList, List.map_map]
    exact congrArg String.ofList (List.map_congr_left fun c hc => hchar c (toNat_lt_of_isSymbolChar (h c hc)))
  simp only [handlesExtension, hlower]

end StyleIndex
