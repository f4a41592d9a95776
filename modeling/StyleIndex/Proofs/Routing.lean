/-
The three ways of a file into the index, and the registries they lead to.

A scan reads the extension of a file off its path, a change on disk off the path of its URL, and an open document off its
whole identity. For a visible file with a plain extension the three agree, whatever stands elsewhere in the path
(`routes_agree`). The URL of a change may have been read from the identity, without the dot segments; its last segment is
still the name of the file (`normalizeSegments_concat`, `exists_filePathOf_eq`).
-/
import Mathlib.Tactic
import StyleIndex.Proofs.Admission

namespace StyleIndex

/-- the kinds whose registries take a file that is on its way into the index -/
def routes (settings : Settings) (load? : Option Load) : Set Kind :=
  { kind | ∃ l, load? = some l ∧ l.isWanted settings kind = true }

/-! ## Names with plain extensions -/

theorem Utf8.decode?_encode_of_ascii {text : List Char} (h : ∀ c ∈ text, c.toNat < 0x80) :
    Utf8.decode? (Utf8.encode text) = some text := by
  induction text with
  | nil => rfl
  | cons c text ih =>
    have hc := h c (by simp)
    have hbyte : (UInt8.ofNat c.toNat).toNat = c.toNat := UInt8.toNat_ofNat_of_lt (Nat.lt_trans hc (by decide))
    have hlt : UInt8.ofNat c.toNat < 0x80 := UInt8.lt_iff_toNat_lt.2 (by rw [hbyte]; exact hc)
    have hencode : Utf8.encode (c :: text) = UInt8.ofNat c.toNat :: Utf8.encode text := by
      simp [Utf8.encode, Utf8.encodeChar, Utf8.byte, hc]
    rw [hencode, Utf8.decode?.eq_def]
    simp only [if_pos hlt, ih fun d hd => h d (by simp [hd]), hbyte, Char.ofNat_toNat, Option.map_some]

/-- What stands behind the last dot of a visible name is its extension. -/
theorem Name.extension?_append {stem extension : Name} (hvisible : Name.isHidden (stem ++ Name.dot :: extension) = false)
    (hdot : Name.dot ∉ extension) : Name.extension? (stem ++ Name.dot :: extension) = some extension := by
  have hstem : stem ≠ [] := by
    rintro rfl
    simp [isHidden] at hvisible
  have hup : stem ++ Name.dot :: extension ≠ Name.up := by
    intro hup
    rw [hup] at hvisible
    exact absurd hvisible (by decide)
  have hbytes : ∀ b ∈ extension, decide (b ≠ Name.dot) = true := by
    intro b hb
    rw [decide_eq_true_eq]
    rintro rfl
    exact hdot hb
  have hafter : ((stem ++ Name.dot :: extension).reverse.takeWhile (· ≠ Name.dot)).reverse = extension :=
    reverse_takeWhile_append_cons hbytes (by simp) stem
  have hlength := List.length_pos_iff.2 hstem
  simp only [extension?, if_neg hup, hafter]
  rw [if_pos]
  rw [List.length_append, List.length_cons]
  omega

theorem FilePath.hasPlainExtension_of_name {p : FilePath} {stem : Name} {extension : String}
    (hname : p.components.getLast? = some (stem ++ Name.dot :: Name.ofString extension))
    (hvisible : Name.isHidden (stem ++ Name.dot :: Name.ofString extension) = false) (hne : extension ≠ "")
    (hplain : extension.toList.all isSymbolChar = true) : p.HasPlainExtension extension := by
  have hsymbols := List.all_eq_true.1 hplain
  have hdot : Name.dot ∉ Name.ofString extension := by
    intro hmem
    obtain ⟨c, hc, hbyte⟩ := List.mem_flatMap.1 hmem
    have hall : ∀ c : Char, c.toNat < 0x80 → isSymbolChar c = true → Name.dot ∉ Utf8.encodeChar c :=
      Url.forall_ascii (by decide +kernel)
    exact hall c (toNat_lt_of_isSymbolChar (hsymbols c hc)) (hsymbols c hc) hbyte
  refine ⟨?_, hne, hplain⟩
  rw [extension?, hname, Option.bind_some, Name.extension?_append hvisible hdot, Option.bind_some,
    Utf8.string?_eq_some_iff]
  exact Utf8.decode?_encode_of_ascii fun c hc => toNat_lt_of_isSymbolChar (hsymbols c hc)

/-! ## URLs read from identities -/

namespace Url

/-- a segment that is neither dots nor a drive -/
structure IsOrdinary (segment : List Char) : Prop where
  not_up : plainDots segment ≠ ['.', '.']
  not_here : plainDots segment ≠ ['.']
  not_drive : isDriveLetter segment = false

theorem isOrdinary_of_getLast? {segment : List Char} (hplain : plainDots segment = segment) {c : Char}
    (hlast : segment.getLast? = some c) (hc : isSymbolChar c = true) : IsOrdinary segment := by
  have hne : ∀ mark : Char, isSymbolChar mark = false → segment.getLast? ≠ some mark := by
    intro mark hmark heq
    rw [hlast, Option.some.injEq] at heq
    rw [heq, hmark] at hc
    cases hc
  refine ⟨fun h => hne '.' (by decide) ?_, fun h => hne '.' (by decide) ?_, ?_⟩
  · rw [← hplain, h]
    rfl
  · rw [← hplain, h]
    rfl
  · by_contra hdrive
    match segment, hdrive with
    | [letter, mark], hdrive =>
      simp only [isDriveLetter, Bool.not_eq_false, Bool.and_eq_true, Bool.or_eq_true, decide_eq_true_eq] at hdrive
      rcases hdrive.2 with rfl | rfl
      · exact hne ':' (by decide) rfl
      · exact hne '|' (by decide) rfl

/-- An ordinary segment at the end stays there. -/
theorem normalizeSegments_concat {last : List Char} (h : IsOrdinary last) (isFile : Bool) (done above : List (List Char)) :
    ∃ front, normalizeSegments isFile done (above ++ [last]) = front ++ [last] := by
  induction above generalizing done with
  | nil =>
    have hstarts : startsDrive isFile done last = false := by simp [startsDrive, h.not_drive]
    refine ⟨done.reverse, ?_⟩
    rw [List.nil_append, normalizeSegments, if_neg h.not_up, if_neg h.not_here, hstarts, normalizeSegments]
    simp
  | cons segment above ih =>
    rw [List.cons_append, normalizeSegments]
    split_ifs
    all_goals exact ih _

theorem exists_filePathOf_eq {last : List Char} (h : IsOrdinary last) (hslash : '/' ∉ last) (above : List (List Char)) :
    ∃ front, filePathOf (above ++ [last]) = front ++ '/' :: last := by
  obtain ⟨front, hfront⟩ := normalizeSegments_concat h true [] above
  have hself : last.dropWhile (· = '/') = last := by
    cases last with
    | nil => rfl
    | cons c last =>
      have hc : c ≠ '/' := fun hc => hslash (by simp [hc])
      rw [List.dropWhile_cons_of_neg (by simpa using hc)]
  have hjoin : joinSegments (front ++ [last]) = joinSegments front ++ '/' :: last := by simp [joinSegments]
  rw [filePathOf, hfront, hjoin, List.dropWhile_append]
  split_ifs with hempty
  · exact ⟨[], by rw [List.dropWhile_cons_of_pos (by simp), hself, List.nil_append]⟩
  · exact ⟨'/' :: (joinSegments front).dropWhile (· = '/'), rfl⟩

/-- The URL that is read from the identity of a file shows the extension of its path, in lower case. -/
theorem extensionOf?_parse {p : FilePath} {extension : String} (h : p.HasPlainExtension extension) {url : Url}
    (hurl : parse? p.id = some url) : extensionOf? url.pathText = some (Text.asciiLower extension) := by
  obtain ⟨above, stem, hsegments⟩ := h.exists_segments
  have hmem : stem ++ '.' :: extension.toList ∈ p.segments := by simp [hsegments]
  have hplain : plainDots (stem ++ '.' :: extension.toList) = stem ++ '.' :: extension.toList := by
    obtain ⟨name, _, hname⟩ := List.mem_map.1 hmem
    rw [← hname, plainDots_encodeBytes]
  have hordinary : IsOrdinary (stem ++ '.' :: extension.toList) := by
    have hne : extension.toList ≠ [] := fun hnil => h.2.1 (String.toList_inj.1 hnil)
    have hlast : (stem ++ '.' :: extension.toList).getLast? = some (extension.toList.getLast hne) := by
      rw [List.append_cons, List.getLast?_append_of_ne_nil _ hne, List.getLast?_eq_some_getLast hne]
    exact isOrdinary_of_getLast? hplain hlast (List.all_eq_true.1 h.2.2 _ (List.getLast_mem hne))
  have hslash := p.slash_notMem_segments _ hmem
  obtain ⟨front, hfront⟩ := exists_filePathOf_eq hordinary hslash ([] :: above)
  rw [parse?_id h.components_ne_nil, Option.some.injEq] at hurl
  rw [← hurl, pathText, hsegments, ← List.cons_append, hfront, extensionOf?_ofList hslash h.2.1 h.2.2]

theorem exists_path_url (p : FilePath) : ∃ rest, p.url.path = '/' :: rest := by
  simp only [FilePath.url]
  cases hsegments : p.components.map (encodeBytes keepsInName) with
  | nil => exact ⟨[], rfl⟩
  | cons first rest => exact ⟨first ++ joinSegments rest, rfl⟩

/-- A URL with an extension that means a file is loaded with it. -/
theorem exists_load?_of_extensionOf? {url : Url} {extension : String} (hextension : extensionOf? url.pathText = some extension)
    (hlocal : url.authority = some .here) {rest : List Char} (hpath : url.path = '/' :: rest) (d : Disk) :
    ∃ l, url.load? d = some l ∧ l.extension = extension := by
  rw [load?, hextension, Option.bind_some, filePath?_eq hlocal hpath, Option.map_some]
  exact ⟨_, rfl, rfl⟩

end Url

/-! ## Routes -/

/-- the kinds whose enabled sources list an extension, in whatever case -/
def Settings.kindsOf (settings : Settings) (extension : String) : Set Kind :=
  { kind | (settings.source kind).enabled = true ∧
    ∃ listed ∈ (settings.source kind).extensions, Text.asciiLower listed = Text.asciiLower extension }

theorem Settings.mem_kindsOf_iff {settings : Settings} {extension : String} {kind : Kind} :
    kind ∈ settings.kindsOf extension ↔ (settings.source kind).handlesExtension extension = true := by
  simp [kindsOf, Source.handlesExtension]

/-- A file is led to the registries that want its extension, also where this is in lower case. -/
theorem routes_eq {settings : Settings} {load? : Option Load} {extension shown : String}
    (hplain : extension.toList.all isSymbolChar = true) (hload : ∃ l, load? = some l ∧ l.extension = shown)
    (hshown : shown = extension ∨ shown = Text.asciiLower extension) :
    routes settings load? = settings.kindsOf extension := by
  obtain ⟨l, rfl, rfl⟩ := hload
  ext kind
  have hsame : l.isWanted settings kind = (settings.source kind).handlesExtension extension := by
    rw [Load.isWanted]
    rcases hshown with hshown | hshown
    · rw [hshown]
    · rw [hshown, Source.handlesExtension_asciiLower _ (List.all_eq_true.1 hplain)]
  rw [Settings.mem_kindsOf_iff, ← hsame]
  simp [routes]

/-- **All routes agree.** A visible file whose name ends with a dot and a plain extension is led to the same registries by a
scan, by a change of its URL, also if that is read from the identity of the file, and by an open document with that identity:
to those of the enabled sources that list the extension, in whatever case either is written. -/
theorem routes_agree {p : FilePath} {stem : Name} {extension : String}
    (hname : p.components.getLast? = some (stem ++ Name.dot :: Name.ofString extension))
    (hvisible : Name.isHidden (stem ++ Name.dot :: Name.ofString extension) = false) (hne : extension ≠ "")
    (hplain : extension.toList.all isSymbolChar = true) (settings : Settings) (d : Disk) (text : String) :
    routes settings (Scan.load? d p) = settings.kindsOf extension ∧
      routes settings (p.url.load? d) = settings.kindsOf extension ∧
      (∃ url, Url.parse? p.id = some url ∧ routes settings (url.load? d) = settings.kindsOf extension) ∧
      routes settings (Session.bufferLoad? p.id text) = settings.kindsOf extension := by
  have h : p.HasPlainExtension extension := FilePath.hasPlainExtension_of_name hname hvisible hne hplain
  have hurl := FilePath.extensionOf?_url h
  refine ⟨?_, ?_, ?_, ?_⟩
  · have hload : ∃ l, Scan.load? d p = some l ∧ l.extension = extension := by
      rw [Scan.load?, h.1]
      exact ⟨_, rfl, rfl⟩
    exact routes_eq hplain hload (Or.inl rfl)
  · obtain ⟨rest, hpath⟩ := Url.exists_path_url p
    exact routes_eq hplain (Url.exists_load?_of_extensionOf? hurl rfl hpath d) (Or.inr rfl)
  · have hparse := Url.parse?_id h.components_ne_nil
    exact ⟨_, hparse, routes_eq hplain
      (Url.exists_load?_of_extensionOf? (Url.extensionOf?_parse h hparse) rfl rfl d) (Or.inr rfl)⟩
  · have hbare : p.url.IsBare := ⟨rfl, rfl⟩
    have hload : ∃ l, Session.bufferLoad? p.id text = some l ∧ l.extension = Text.asciiLower extension := by
      rw [Session.bufferLoad?, FilePath.id, hbare.extensionOf?_text hurl]
      exact ⟨_, rfl, rfl⟩
    exact routes_eq hplain hload (Or.inr rfl)

/-- A path that goes up, with a dot and a byte outside UTF-8 in a directory, an escaped name and an extension in mixed case. -/
theorem routes_of_mixed_case :
    let p : FilePath := ⟨[Name.ofString "ws", Name.up, [0x61, Name.dot, 0xFF], Name.ofString "50% off.v2.PCss"]⟩
    let settings : Settings :=
      { Settings.initial with
        classNames := { Settings.initial.classNames with enabled := false }
        mixins := { Settings.initial.mixins with extensions := ["Css", "pcsS"] } }
    p.id = "file:///ws/../a.%FF/50%25%20off.v2.PCss" ∧
      routes settings (Scan.load? .empty p) = {.mixin} ∧ routes settings (p.url.load? .empty) = {.mixin} ∧
      (∃ url, Url.parse? p.id = some url ∧ routes settings (url.load? .empty) = {.mixin}) ∧
      routes settings (Session.bufferLoad? p.id "x") = {.mixin} := by
  intro p settings
  have hkinds : settings.kindsOf "PCss" = {.mixin} := by
    ext kind
    rw [Settings.mem_kindsOf_iff, Set.mem_singleton_iff]
    cases kind <;> decide +kernel
  have hroutes := @routes_agree p (Name.ofString "50% off.v2") "PCss" (by decide +kernel) (by decide +kernel) (by decide)
    (by decide) settings .empty "x"
  rw [hkinds] at hroutes
  exact ⟨by decide +kernel, hroutes⟩

end StyleIndex
