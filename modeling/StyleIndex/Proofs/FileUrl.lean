/-
Reading the identity of a file back as a URL.

Nothing in the URL of a file needs to be escaped again (`isPlain_segments`), so what is read back is the URL with dot
segments removed (`parse?_id`). No segment that is left means "up" (`up_notMem_normalizeSegments`). So the identity of a file
means the file again only if its path does not go up (`ReadsBack.names`), and then nothing is removed
(`parse?_id_eq_url`).
-/
import Mathlib.Data.List.TakeWhile
import Mathlib.Tactic
import StyleIndex.Proofs.FileId

namespace StyleIndex

/-! ## Pieces between separators -/

section SplitOn

variable {α : Type} [BEq α] [LawfulBEq α]

theorem splitOn_append_flatMap (sep : α) (first : List α) (rest : List (List α)) :
    (first ++ rest.flatMap (sep :: ·)).splitOn sep = first.splitOn sep ++ rest.flatMap (·.splitOn sep) := by
  induction rest generalizing first with
  | nil => simp
  | cons part rest ih =>
    rw [List.flatMap_cons, List.flatMap_cons, List.cons_append, List.splitOn_append_cons_self, ih]

theorem flatMap_splitOn_eq_self {sep : α} {parts : List (List α)} (h : ∀ part ∈ parts, sep ∉ part) :
    parts.flatMap (·.splitOn sep) = parts := by
  induction parts with
  | nil => rfl
  | cons part parts ih =>
    rw [List.flatMap_cons, List.splitOn_eq_singleton (h part (by simp)), ih fun other hother => h other (by simp [hother])]
    rfl

theorem notMem_of_mem_splitOn {sep : α} {whole part : List α} (h : part ∈ whole.splitOn sep) : sep ∉ part := by
  induction whole generalizing part with
  | nil =>
    rw [List.splitOn_nil, List.mem_singleton] at h
    simp [h]
  | cons a whole ih =>
    rw [List.splitOn_cons_eq_if_modifyHead] at h
    split_ifs at h with ha
    · rcases List.mem_cons.1 h with rfl | h
      · simp
      · exact ih h
    · cases hsplit : whole.splitOn sep with
      | nil => exact absurd hsplit (List.splitOn_ne_nil _ _)
      | cons first rest =>
        rw [hsplit] at h ih
        rcases List.mem_cons.1 h with rfl | h
        · have hne : sep ≠ a := by
            rintro rfl
            simp at ha
          simp [hne, ih (List.mem_cons_self ..)]
        · exact ih (List.mem_cons_of_mem _ h)

theorem mem_splitOn_of_dropWhile [DecidableEq α] {sep : α} {whole part : List α}
    (h : part ∈ (whole.dropWhile (· = sep)).splitOn sep) : part ∈ whole.splitOn sep := by
  induction whole with
  | nil => exact h
  | cons a whole ih =>
    rw [List.dropWhile_cons] at h
    split_ifs at h with ha
    · rw [List.splitOn_cons_eq_if_modifyHead, if_pos (by simpa using ha)]
      exact List.mem_cons_of_mem _ (ih h)
    · exact h

end SplitOn

namespace Url

/-! ## Names in URLs -/

/-- a character that stands for itself in a segment of a path -/
def isPlain (c : Char) : Bool :=
  0x20 < c.toNat && c.toNat < 0x7F && !(escapedInPath ++ ['/', '\\']).contains c

theorem forall_byte {P : UInt8 → Prop} (h : ∀ n : Fin 256, P (UInt8.ofNat n)) (b : UInt8) : P b := by
  have hb := h ⟨b.toNat, b.toNat_lt⟩
  rwa [UInt8.ofNat_toNat] at hb

theorem forall_ascii {P : Char → Prop} (h : ∀ n : Fin 128, P (Char.ofNat n)) (c : Char) (hc : c.toNat < 0x80) : P c := by
  have hchar := h ⟨c.toNat, hc⟩
  rwa [Char.ofNat_toNat] at hchar

theorem isPlain_of_mem_encodeBytes {name : Name} : ∀ c ∈ encodeBytes keepsInName name, isPlain c = true := by
  intro c hc
  obtain ⟨b, _, hb⟩ := List.mem_flatMap.1 hc
  have hbyte : ∀ b : UInt8, (if keepsInName b then [Char.ofNat b.toNat] else escape b).all isPlain = true :=
    forall_byte (by decide +kernel)
  exact List.all_eq_true.1 (hbyte b) c hb

theorem toNat_lt_of_isPlain {c : Char} (h : isPlain c = true) : c.toNat < 0x80 := by
  simp only [isPlain, Bool.and_eq_true, decide_eq_true_eq] at h
  exact Nat.lt_trans h.1.2 (by decide)

theorem encodeText_eq_self {keep : UInt8 → Bool} {text : List Char}
    (h : ∀ c ∈ text, encodeBytes keep (Utf8.encodeChar c) = [c]) : encodeText keep text = text := by
  induction text with
  | nil => rfl
  | cons c text ih =>
    rw [encodeText, Utf8.encode, List.flatMap_cons, encodeBytes, List.flatMap_append]
    exact congrArg₂ (· ++ ·) (h c (by simp)) (ih fun other hother => h other (by simp [hother]))

theorem encodeText_of_isPlain {segment : List Char} (h : ∀ c ∈ segment, isPlain c = true) :
    encodeText keepsInPath segment = segment := by
  have hchar : ∀ c : Char, c.toNat < 0x80 → isPlain c = true → encodeBytes keepsInPath (Utf8.encodeChar c) = [c] :=
    forall_ascii (by decide +kernel)
  exact encodeText_eq_self fun c hc => hchar c (toNat_lt_of_isPlain (h c hc)) (h c hc)

theorem encodeText_of_isSymbolChar {text : List Char} (h : ∀ c ∈ text, isSymbolChar c = true) :
    encodeText keepsInName text = text := by
  have hchar : ∀ c : Char, c.toNat < 0x80 → isSymbolChar c = true → encodeBytes keepsInName (Utf8.encodeChar c) = [c] :=
    forall_ascii (by decide +kernel)
  exact encodeText_eq_self fun c hc => hchar c (toNat_lt_of_isSymbolChar (h c hc)) (h c hc)

theorem plainDots_cons_of_ne {c : Char} (h : c ≠ '%') (rest : List Char) : plainDots (c :: rest) = c :: plainDots rest := by
  rw [plainDots]
  intro e rest' hc
  exact absurd hc h

theorem upperHex_ne_percent {n : Nat} (h : n < 16) : upperHex n ≠ '%' := by
  have hall : ∀ n : Fin 16, upperHex n ≠ '%' := by decide
  exact hall ⟨n, h⟩

/-- A dot is not escaped in a name. -/
theorem not_dot_of_not_keepsInName {b : UInt8} (h : keepsInName b = false) :
    ¬ (upperHex (b.toNat / 16) = '2' ∧ (upperHex (b.toNat % 16) = 'e' ∨ upperHex (b.toNat % 16) = 'E')) := by
  have hall : ∀ b : UInt8, keepsInName b = false →
      ¬ (upperHex (b.toNat / 16) = '2' ∧ (upperHex (b.toNat % 16) = 'e' ∨ upperHex (b.toNat % 16) = 'E')) :=
    forall_byte (by decide +kernel)
  exact hall b h

theorem plainDots_escape_append {b : UInt8} (h : keepsInName b = false) (rest : List Char) :
    plainDots (escape b ++ rest) = escape b ++ plainDots rest := by
  have hb : b.toNat < 256 := b.toNat_lt
  have hhigh : upperHex (b.toNat / 16) ≠ '%' := upperHex_ne_percent (by omega)
  have hlow : upperHex (b.toNat % 16) ≠ '%' := upperHex_ne_percent (by omega)
  have hdot := not_dot_of_not_keepsInName h
  rw [escape, List.cons_append, List.cons_append, List.cons_append, List.nil_append]
  generalize upperHex (b.toNat / 16) = high at hhigh hdot
  generalize upperHex (b.toNat % 16) = low at hlow hdot
  by_cases htwo : high = '2'
  · subst htwo
    have hlow' : ¬ (decide (low = 'e') || decide (low = 'E')) = true := by simpa using hdot
    rw [plainDots, if_neg hlow', plainDots_cons_of_ne hlow]
    rfl
  · rw [plainDots, plainDots_cons_of_ne hhigh, plainDots_cons_of_ne hlow]
    · rfl
    · rintro e rest' _ ⟨⟩
      exact htwo rfl

/-- The dots of a name stand in its URL as they are. -/
theorem plainDots_encodeBytes (name : Name) :
    plainDots (encodeBytes keepsInName name) = encodeBytes keepsInName name := by
  induction name with
  | nil => rfl
  | cons b name ih =>
    rw [encodeBytes, List.flatMap_cons]
    split_ifs with hkept
    · rw [List.singleton_append, plainDots_cons_of_ne (ne_of_keeps hkept (by decide))]
      exact congrArg _ ih
    · rw [plainDots_escape_append (by simpa using hkept)]
      exact congrArg _ ih

/-! ## Dot segments -/

theorem normalizeSegments_eq_append {isFile : Bool} {done segments : List (List Char)} (hdone : done ≠ [])
    (h : ∀ s ∈ segments, plainDots s ≠ ['.', '.'] ∧ plainDots s ≠ ['.']) :
    normalizeSegments isFile done segments = done.reverse ++ segments := by
  induction segments generalizing done with
  | nil => simp [normalizeSegments]
  | cons s segments ih =>
    obtain ⟨hup, hhere⟩ := h s (by simp)
    have hdrive : startsDrive isFile done s = false := by simp [startsDrive, hdone]
    rw [normalizeSegments, if_neg hup, if_neg hhere, hdrive, ih (by simp) fun t ht => h t (by simp [ht])]
    simp

theorem mem_of_mem_goUp {done : List (List Char)} {s : List Char} (h : s ∈ goUp done) : s ∈ done := by
  cases done with
  | nil => exact h
  | cons last done =>
    rw [goUp] at h
    split_ifs at h
    · exact h
    · exact List.mem_cons_of_mem _ h

/-- What holds of an empty segment, of a closed drive letter and of all segments but the dots for "up" holds of all
segments that are left. -/
theorem forall_mem_normalizeSegments {P : List Char → Prop} (hnil : P [])
    (hdrive : ∀ t, isDriveLetter t = true → P (closeDriveLetter t)) (isFile : Bool) {done segments : List (List Char)}
    (hdone : ∀ s ∈ done, P s) (hsegments : ∀ s ∈ segments, plainDots s ≠ ['.', '.'] → P s) :
    ∀ s ∈ normalizeSegments isFile done segments, P s := by
  induction segments generalizing done with
  | nil =>
    intro s hs
    rw [normalizeSegments, List.mem_reverse] at hs
    exact hdone s hs
  | cons first segments ih =>
    have hrest : ∀ s ∈ segments, plainDots s ≠ ['.', '.'] → P s := fun s hs => hsegments s (by simp [hs])
    rw [normalizeSegments]
    split_ifs with hup hlast hhere hlast hletter
    · refine ih (fun s hs => ?_) hrest
      rcases List.mem_cons.1 hs with rfl | hs
      · exact hnil
      · exact hdone s (mem_of_mem_goUp hs)
    · exact ih (fun s hs => hdone s (mem_of_mem_goUp hs)) hrest
    · refine ih (fun s hs => ?_) hrest
      rcases List.mem_cons.1 hs with rfl | hs
      · exact hnil
      · exact hdone s hs
    · exact ih hdone hrest
    · refine ih (fun s hs => ?_) hrest
      rcases List.mem_cons.1 hs with rfl | hs
      · rw [startsDrive, Bool.and_eq_true] at hletter
        exact hdrive first hletter.2
      · exact hdone s hs
    · refine ih (fun s hs => ?_) hrest
      rcases List.mem_cons.1 hs with rfl | hs
      · exact hsegments s (by simp) hup
      · exact hdone s hs

end Url

/-! ## Reading an identity -/

namespace FilePath

theorem isPlain_segments (p : FilePath) : ∀ s ∈ p.segments, ∀ c ∈ s, Url.isPlain c = true := by
  intro s hs
  obtain ⟨name, _, rfl⟩ := List.mem_map.1 hs
  exact Url.isPlain_of_mem_encodeBytes

theorem url_path (p : FilePath) (h : p.components ≠ []) : p.url.path = Url.joinSegments p.segments := by
  have hne : Url.joinSegments p.segments ≠ [] := by
    cases hsegments : p.segments with
    | nil => exact absurd (List.map_eq_nil_iff.1 hsegments) h
    | cons => simp [Url.joinSegments]
  simp only [url]
  exact if_neg (by simpa [segments] using hne)

end FilePath

namespace Url

theorem clean_eq_self {text : List Char} (h : ∀ c ∈ text, 0x20 < c.toNat) : clean text = text := by
  have hedge : ∀ c ∈ text, ¬ (decide (c.toNat ≤ 0x20)) = true := fun c hc => by simpa using h c hc
  have hdrop : ∀ {l : List Char}, (∀ c ∈ l, ¬ (decide (c.toNat ≤ 0x20)) = true) →
      l.dropWhile (fun c => decide (c.toNat ≤ 0x20)) = l := by
    intro l hl
    cases l with
    | nil => rfl
    | cons c l => rw [List.dropWhile_cons, if_neg (hl c (by simp))]
  unfold clean
  simp only [Text.dropTrailing]
  rw [hdrop hedge, hdrop fun c hc => hedge c (List.mem_reverse.1 hc), List.reverse_reverse, List.filter_eq_self]
  intro c hc
  have hc := h c hc
  have hne : c ≠ '\t' ∧ c ≠ '\n' ∧ c ≠ '\r' := by
    refine ⟨?_, ?_, ?_⟩
    all_goals
      rintro rfl
      exact absurd hc (by decide)
  simp [hne]

theorem scheme?_file (rest : List Char) : scheme? (fileScheme ++ ':' :: rest) = some (fileScheme, rest) := by
  rfl

theorem cutAt_eq_self {p : Char → Bool} {text : List Char} (h : ∀ c ∈ text, p c = false) : cutAt p text = (text, none) := by
  have htake : (text.takeWhile fun c => !p c) = text := by
    refine List.takeWhile_eq_self_iff.2 fun c hc => ?_
    simp [h c hc]
  unfold cutAt
  simp [htake]

theorem parseFile?_slashes (path : List Char) :
    parseFile? ('/' :: '/' :: '/' :: path) = some (.here, filePathOf (segments true ('/' :: path))) := by
  rfl

theorem mem_joinSegments {parts : List (List Char)} (hplain : ∀ s ∈ parts, ∀ c ∈ s, isPlain c = true) {c : Char}
    (h : c ∈ joinSegments parts) : c = '/' ∨ isPlain c = true := by
  obtain ⟨s, hs, hc⟩ := List.mem_flatMap.1 h
  rcases List.mem_cons.1 hc with rfl | hc
  · exact Or.inl rfl
  · exact Or.inr (hplain s hs c hc)

/-- None of the marks that reading a path looks for is a plain character. -/
theorem ne_of_isPlain {c mark : Char} (h : isPlain c = true) (hmark : isPlain mark = false) : c ≠ mark := by
  rintro rfl
  rw [h] at hmark
  cases hmark

theorem segments_joinSegments {parts : List (List Char)} (hplain : ∀ s ∈ parts, ∀ c ∈ s, isPlain c = true) :
    segments true (joinSegments parts) = [] :: parts := by
  have hmap : ((joinSegments parts).map fun c => if isSlash true c then '/' else c) = joinSegments parts := by
    refine (List.map_congr_left fun c hc => ?_).trans (List.map_id _)
    rcases mem_joinSegments hplain hc with rfl | hc
    · rfl
    · have hslash : isSlash true c = false := by
        simp [isSlash, ne_of_isPlain hc (by decide : isPlain '/' = false), ne_of_isPlain hc (by decide : isPlain '\\' = false)]
      rw [hslash]
      rfl
  have hsplit : (joinSegments parts).splitOn '/' = [] :: parts := by
    have h := splitOn_append_flatMap '/' [] parts
    rw [flatMap_splitOn_eq_self fun s hs hslash => ne_of_isPlain (hplain s hs '/' hslash) (by decide) rfl] at h
    exact h
  have hencode : parts.map (encodeText keepsInPath) = parts :=
    (List.map_congr_left fun s hs => encodeText_of_isPlain (hplain s hs)).trans (List.map_id _)
  rw [segments, hmap, hsplit, List.map_cons, hencode]
  rfl

/-- **An identity reads back** as the URL of the file, without dot segments. -/
theorem parse?_id {p : FilePath} (h : p.components ≠ []) :
    parse? p.id = some { p.url with path := filePathOf ([] :: p.segments) } := by
  have hpath : ∀ {c : Char}, c ∈ joinSegments p.segments → c = '/' ∨ isPlain c = true := fun hc =>
    mem_joinSegments p.isPlain_segments hc
  have hclean : clean (fileScheme ++ ':' :: '/' :: '/' :: joinSegments p.segments) =
      fileScheme ++ ':' :: '/' :: '/' :: joinSegments p.segments := by
    refine clean_eq_self fun c hc => ?_
    have hmarks : (fileScheme ++ [':', '/', '/']).all (fun c => decide (0x20 < c.toNat)) = true := by decide
    rw [List.append_cons, List.append_cons, List.append_cons, List.mem_append] at hc
    rcases hc with hc | hc
    · exact of_decide_eq_true (List.all_eq_true.1 hmarks c (by simpa using hc))
    · rcases hpath hc with rfl | hc
      · decide
      · simp only [isPlain, Bool.and_eq_true, decide_eq_true_eq] at hc
        exact hc.1.1
  have hcut : ∀ mark : Char, isPlain mark = false → mark ≠ '/' →
      cutAt (· = mark) ('/' :: '/' :: joinSegments p.segments) = ('/' :: '/' :: joinSegments p.segments, none) := by
    intro mark hmark hslash
    refine cutAt_eq_self fun c hc => ?_
    rw [decide_eq_false_iff_not]
    rcases List.mem_cons.1 hc with rfl | hc
    · exact Ne.symm hslash
    rcases List.mem_cons.1 hc with rfl | hc
    · exact Ne.symm hslash
    rcases hpath hc with rfl | hc
    · exact Ne.symm hslash
    · exact ne_of_isPlain hc hmark
  have htail : splitTail ('/' :: '/' :: joinSegments p.segments) =
      ('/' :: '/' :: joinSegments p.segments, none, none) := by
    unfold splitTail
    simp only [hcut '#' (by decide) (by decide), hcut '?' (by decide) (by decide)]
  have hfile : parseFile? ('/' :: '/' :: joinSegments p.segments) = some (.here, filePathOf ([] :: p.segments)) := by
    rw [← segments_joinSegments p.isPlain_segments]
    cases hsegments : p.segments with
    | nil => exact absurd (List.map_eq_nil_iff.1 hsegments) h
    | cons first rest => exact parseFile?_slashes _
  rw [FilePath.id_eq, FilePath.url_path p h, parse?, String.toList_ofList, hclean, scheme?_file]
  simp only [Option.bind_eq_bind, Option.bind_some, htail, hfile, if_true]
  rfl

theorem plainDots_segment {p : FilePath} (hup : Name.up ∉ p.components) :
    ∀ s ∈ p.segments, plainDots s ≠ ['.', '.'] ∧ plainDots s ≠ ['.'] := by
  intro s hs
  obtain ⟨name, hname, rfl⟩ := List.mem_map.1 hs
  have hinj : Function.Injective (encodeBytes keepsInName) := Function.LeftInverse.injective FilePath.decode_encode_name
  rw [plainDots_encodeBytes]
  constructor
  · intro hdots
    have heq : name = Name.up := hinj (hdots.trans (by decide))
    exact hup (heq ▸ hname)
  · intro hdots
    have heq : name = Name.here := hinj (hdots.trans (by decide))
    have hkept := (List.mem_filter.1 hname).2
    simp [heq] at hkept

theorem filePathOf_segments {p : FilePath} (h : p.components ≠ []) (hup : Name.up ∉ p.components) :
    filePathOf ([] :: p.segments) = joinSegments p.segments := by
  have hrest : normalizeSegments true [[]] p.segments = [[]].reverse ++ p.segments :=
    normalizeSegments_eq_append (by simp) (plainDots_segment hup)
  have hnormal : normalizeSegments true [] ([] :: p.segments) = [] :: p.segments := hrest
  cases hsegments : p.segments with
  | nil => exact absurd (List.map_eq_nil_iff.1 hsegments) h
  | cons first rest =>
    have hfirst : first ≠ [] := p.segments_ne_nil first (by simp [hsegments])
    have hslash : '/' ∉ first := p.slash_notMem_segments first (by simp [hsegments])
    rw [filePathOf, ← hsegments, hnormal, hsegments]
    cases first with
    | nil => exact absurd rfl hfirst
    | cons c first =>
      have hc : c ≠ '/' := fun hc => hslash (by simp [hc])
      simp [joinSegments, hc]

/-- The identity of a path that does not go up reads back as the URL it was written from. -/
theorem parse?_id_eq_url {p : FilePath} (h : p.components ≠ []) (hup : Name.up ∉ p.components) :
    parse? p.id = some p.url := by
  rw [parse?_id h, filePathOf_segments h hup, ← FilePath.url_path p h]

/-! ## The file that a URL means -/

/-- The file of a local URL: the segments of its path with the escapes read. -/
theorem filePath?_eq {u : Url} (hlocal : u.authority = some .here) {rest : List Char} (hpath : u.path = '/' :: rest) :
    u.filePath? = some ⟨closeDrive ((rest.splitOn '/').flatMap fun s => (percentDecode s).splitOn Name.slash)⟩ := by
  have hbytes : ∀ parts : List (List Char), parts ≠ [] →
      FilePath.ofBytes? (parts.flatMap fun s => Name.slash :: percentDecode s) =
        some ⟨parts.flatMap fun s => (percentDecode s).splitOn Name.slash⟩ := by
    intro parts hparts
    cases parts with
    | nil => exact absurd rfl hparts
    | cons first parts =>
      have hsplit := splitOn_append_flatMap Name.slash (percentDecode first) (parts.map percentDecode)
      rw [List.flatMap_map, List.flatMap_map] at hsplit
      rw [List.flatMap_cons, List.flatMap_cons, ← hsplit]
      rfl
  simp only [filePath?, hlocal, hpath, Option.elim_some]
  exact congrArg (Option.map _) (hbytes _ (List.splitOn_ne_nil _ _))

/-- The URL of a file whose names have no slashes means the file, up to the mark of a drive. -/
theorem filePath?_url_eq {p : FilePath} (h : p.components ≠ []) (hslash : ∀ name ∈ p.components, Name.slash ∉ name) :
    p.url.filePath? = some ⟨closeDrive p.components⟩ := by
  cases hsegments : p.segments with
  | nil => exact absurd (List.map_eq_nil_iff.1 hsegments) h
  | cons first rest =>
    have hpath : p.url.path = '/' :: (first ++ rest.flatMap ('/' :: ·)) := by
      rw [p.url_path h, hsegments]
      rfl
    have hnames : p.segments.flatMap (fun s => (percentDecode s).splitOn Name.slash) = p.components := by
      rw [FilePath.segments, List.flatMap_map]
      simp only [FilePath.decode_encode_name]
      exact flatMap_splitOn_eq_self hslash
    have hsplit := splitOn_append_flatMap '/' first rest
    rw [List.splitOn_eq_singleton (p.slash_notMem_segments first (by simp [hsegments])),
      flatMap_splitOn_eq_self fun s hs => p.slash_notMem_segments s (by simp [hsegments, hs])] at hsplit
    rw [filePath?_eq rfl hpath, hsplit, List.singleton_append, ← hsegments, hnames]

theorem mem_closeDrive {pieces : List Name} {piece : Name} (h : piece ∈ closeDrive pieces) :
    piece ∈ pieces ∨ piece = [] := by
  unfold closeDrive at h
  split at h
  · split_ifs at h
    · simpa using h
    · exact Or.inl h
  · exact Or.inl h

theorem toNat_lt_of_isAlpha {c : Char} (h : c.isAlpha = true) : c.toNat < 0x80 :=
  toNat_lt_of_isSymbolChar (by simp [isSymbolChar, Char.isAlphanum, h])

/-- No segment that is left without the dots means "up". -/
theorem up_notMem_normalizeSegments {names : List Name} (hslash : ∀ name ∈ names, Name.slash ∉ name) :
    ∀ s ∈ normalizeSegments true [] ([] :: names.map (encodeBytes keepsInName)), ∀ t ∈ s.splitOn '/',
      Name.up ∉ (percentDecode t).splitOn Name.slash := by
  have hletters : ∀ c : Char, c.toNat < 0x80 → c.isAlpha = true → ∀ t ∈ [c, ':'].splitOn '/',
      Name.up ∉ (percentDecode t).splitOn Name.slash := forall_ascii (by decide +kernel)
  refine forall_mem_normalizeSegments (by decide) (fun drive hdrive => ?_) true (by simp) fun s hs hdots => ?_
  · match drive, hdrive with
    | [c, mark], hdrive =>
      rw [isDriveLetter, Bool.and_eq_true] at hdrive
      exact hletters c (toNat_lt_of_isAlpha hdrive.1) hdrive.1
  · rcases List.mem_cons.1 hs with rfl | hs
    · decide
    · obtain ⟨name, hname, rfl⟩ := List.mem_map.1 hs
      have hsegment : '/' ∉ encodeBytes keepsInName name := slash_notMem_encodeBytes (by decide) name
      rw [List.splitOn_eq_singleton hsegment]
      intro t ht
      rw [List.mem_singleton.1 ht, FilePath.decode_encode_name, List.splitOn_eq_singleton (hslash name hname),
        List.mem_singleton]
      rintro rfl
      exact hdots (by decide)

end Url

/-- the identity of the file reads back as a URL that means the file -/
def FilePath.ReadsBack (p : FilePath) : Prop :=
  ∃ url q, Url.parse? p.id = some url ∧ url.filePath? = some q ∧ q.components = p.components

/-- A path whose identity reads back does not go up, and its names have no slashes. -/
theorem FilePath.ReadsBack.names {p : FilePath} (h : p.ReadsBack) (hne : p.components ≠ []) :
    Name.up ∉ p.components ∧ ∀ name ∈ p.components, Name.slash ∉ name := by
  obtain ⟨url, q, hparse, hfile, hq⟩ := h
  rw [Url.parse?_id hne, Option.some.injEq] at hparse
  subst hparse
  rw [Url.filePath?_eq rfl rfl, Option.some.injEq] at hfile
  subst hfile
  have hpieces : ∀ name ∈ p.components, name ≠ [] →
      ∃ s ∈ ((Url.joinSegments (Url.normalizeSegments true [] ([] :: p.segments))).dropWhile (· = '/')).splitOn '/',
        name ∈ (Url.percentDecode s).splitOn Name.slash := by
    intro name hname hnil
    rw [← hq] at hname
    have hmem := (Url.mem_closeDrive (List.mem_filter.1 hname).1).resolve_right hnil
    exact List.mem_flatMap.1 hmem
  have hslash : ∀ name ∈ p.components, Name.slash ∉ name := by
    intro name hname
    by_cases hnil : name = []
    · simp [hnil]
    · obtain ⟨s, _, hs⟩ := hpieces name hname hnil
      exact notMem_of_mem_splitOn hs
  refine ⟨fun hup => ?_, hslash⟩
  obtain ⟨s, hs, hmem⟩ := hpieces Name.up hup (by decide)
  have hs := mem_splitOn_of_dropWhile hs
  have hsplit := splitOn_append_flatMap '/' [] (Url.normalizeSegments true [] ([] :: p.segments))
  rw [List.nil_append] at hsplit
  rw [Url.joinSegments, hsplit, List.splitOn_nil, List.singleton_append] at hs
  rcases List.mem_cons.1 hs with rfl | hs
  · exact absurd hmem (by decide)
  · obtain ⟨part, hpart, hs⟩ := List.mem_flatMap.1 hs
    exact Url.up_notMem_normalizeSegments hslash part hpart s hs hmem

end StyleIndex
