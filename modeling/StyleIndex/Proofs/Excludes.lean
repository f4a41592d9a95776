/-
Exclude patterns only ever take files away from a scan.

A pattern is read as a rule behind a mark, and so every rule of a pattern has the mark, whatever the pattern starts with
(`ofExclude?_cases`). Rules with and without marks override the ignore files in opposite ways, and a rule without a mark
would even hide what it does not match; `override?` is this reading. Where all rules have the mark it comes down to one law:
what a rule matches is skipped, and all else is walked as without rules (`isSkipped_eq_isOverridden`).

So a walk finds a file exactly if it finds it without rules and no rule meets it on the way (`mem_found_iff_removes`). One
more pattern takes away the files that it meets and no others, and the order of patterns does not matter.
-/
import Mathlib.Tactic
import StyleIndex.Proofs.Summary

namespace StyleIndex

/-! ## The rules of patterns -/

namespace IgnoreRule

/-- Trimming keeps the mark. -/
theorem trimLine_mark (pattern : List Char) : ∃ rest, trimLine ('!' :: pattern) = '!' :: rest := by
  rw [trimLine]
  split_ifs
  · exact ⟨pattern, rfl⟩
  · exact ⟨_, Text.dropTrailing_cons (by decide) pattern⟩

theorem leadingMarks_mark (rest : List Char) : (leadingMarks ('!' :: rest)).1 = true := by
  unfold leadingMarks
  split <;> simp_all

theorem ofLine_mark (lenient : Bool) (pattern : List Char) :
    ofLine lenient ('!' :: pattern) = .malformed ∨
      ∃ rule, ofLine lenient ('!' :: pattern) = .rule rule ∧ rule.restores = true := by
  obtain ⟨rest, hrest⟩ := trimLine_mark pattern
  rcases hleading : leadingMarks ('!' :: rest) with ⟨restores, tied, body⟩
  rcases htrailing : trailingMark body with ⟨directoriesOnly, glob⟩
  have hmark : restores = true := by
    have hleadingMark := leadingMarks_mark rest
    rwa [hleading] at hleadingMark
  cases hparse : Glob.parse? lenient (below (anchor tied glob)) with
  | none =>
    refine Or.inl ?_
    simp [ofLine, hrest, hleading, htrailing, hparse]
  | some parsed =>
    refine Or.inr ⟨⟨parsed, restores, directoriesOnly⟩, ?_, hmark⟩
    simp [ofLine, hrest, hleading, htrailing, hparse]

/-- **What a pattern is read as**: its glob is malformed, or it gives a rule with the mark. -/
theorem ofExclude?_cases (pattern : String) :
    (ofLine false ('!' :: pattern.toList) = .malformed ∧ ofExclude? pattern = none) ∨
      ∃ rule, ofLine false ('!' :: pattern.toList) = .rule rule ∧ ofExclude? pattern = some rule ∧
        rule.restores = true := by
  rcases ofLine_mark false pattern.toList with hmalformed | ⟨rule, hrule, hmark⟩
  · exact Or.inl ⟨hmalformed, by rw [ofExclude?, hmalformed]⟩
  · exact Or.inr ⟨rule, hrule, by rw [ofExclude?, hrule], hmark⟩

theorem restores_of_ofExclude? {pattern : String} {rule : IgnoreRule} (h : ofExclude? pattern = some rule) :
    rule.restores = true := by
  rcases ofExclude?_cases pattern with ⟨_, hnone⟩ | ⟨other, _, hother, hmark⟩
  · rw [hnone] at h
    cases h
  · rw [hother] at h
    rwa [← Option.some.inj h]

/-! ## Overriding ignore files -/

/-- what rules say of a path where they override the ignore files: marks count the other way round, and if some rule stands
without a mark, a file that no rule matches is ignored -/
def override? (rules : List IgnoreRule) (path : List UInt8) (isDirectory : Bool) : Option Verdict :=
  match verdict? rules path isDirectory with
  | some .restored => some .ignored
  | some .ignored => some .restored
  | none => if !isDirectory && rules.any fun rule => !rule.restores then some .ignored else none

/-- Rules that all have the mark ignore what they match, whichever comes last, and say nothing else. -/
theorem override?_eq {rules : List IgnoreRule} (h : ∀ rule ∈ rules, rule.restores = true) (path : List UInt8)
    (isDirectory : Bool) :
    override? rules path isDirectory =
      if rules.any fun rule => rule.applies path isDirectory then some .ignored else none := by
  have hunmarked : (rules.any fun rule => !rule.restores) = false := by
    rw [List.any_eq_false]
    intro rule hrule
    simp [h rule hrule]
  rw [override?, verdict?]
  cases hfind : rules.reverse.find? fun rule => rule.applies path isDirectory with
  | none =>
    have hnone : (rules.any fun rule => rule.applies path isDirectory) = false := by
      rw [List.any_eq_false]
      intro rule hrule
      exact List.find?_eq_none.1 hfind rule (List.mem_reverse.2 hrule)
    simp [hnone, hunmarked]
  | some rule =>
    have hrule : rule ∈ rules := List.mem_reverse.1 (List.mem_of_find?_eq_some hfind)
    have happlies : rule.applies path isDirectory = true := by
      simpa using List.find?_some hfind
    have hsome : (rules.any fun rule => rule.applies path isDirectory) = true :=
      List.any_eq_true.2 ⟨rule, hrule, happlies⟩
    simp [hsome, h rule hrule]

end IgnoreRule

namespace Walk

variable {d : Disk} {rules : List IgnoreRule} {start names : List Name}

/-- what a walk skips whose rules override the ignore files -/
def isOverridden (d : Disk) (rules : List IgnoreRule) (start names : List Name) : Bool :=
  match IgnoreRule.override? rules (joined names) (d.isDirectory (start ++ names)) with
  | some .ignored => true
  | some .restored => false
  | none => isSkipped d [] start names

theorem isSkipped_eq (d : Disk) (rules : List IgnoreRule) (start names : List Name) :
    isSkipped d rules start names =
      (isExcluded rules names (d.isDirectory (start ++ names)) || isSkipped d [] start names) := by
  simp only [isSkipped, isExcluded, List.any_nil, Bool.false_or]

theorem isSkipped_eq_isOverridden (h : ∀ rule ∈ rules, rule.restores = true) :
    isSkipped d rules start names = isOverridden d rules start names := by
  rw [isSkipped_eq, isOverridden, IgnoreRule.override?_eq h, isExcluded]
  split_ifs with happlies
  · rw [happlies, Bool.true_or]
  · rw [Bool.not_eq_true] at happlies
    rw [happlies, Bool.false_or]

/-! ## Rules on the way -/

/-- a rule applies to something on the way from the start, the end of the way included -/
def meets (d : Disk) (rule : IgnoreRule) (start names : List Name) : Bool :=
  ((initialParts names).drop 1).any fun onTheWay =>
    rule.applies (joined onTheWay) (d.isDirectory (start ++ onTheWay))

/-- **What a walk reaches**: what it reaches without rules and no rule meets. -/
theorem reaches_iff :
    reaches d rules start names = true ↔
      reaches d [] start names = true ∧ ∀ rule ∈ rules, meets d rule start names = false := by
  simp only [reaches, meets, List.all_eq_true, List.any_eq_false, Bool.not_eq_true', isSkipped_eq d rules, isExcluded,
    Bool.or_eq_false_iff]
  constructor
  · intro h
    exact ⟨fun part hpart => (h part hpart).2, fun rule hrule part hpart => (h part hpart).1 rule hrule⟩
  · intro h part hpart
    exact ⟨fun rule hrule => h.2 rule hrule part hpart, h.1 part hpart⟩

theorem mem_files_iff_meets :
    names ∈ files d rules start ↔ names ∈ files d [] start ∧ ∀ rule ∈ rules, meets d rule start names = false := by
  simp only [files, List.mem_filterMap, Option.filter_eq_some_iff]
  constructor
  · intro h
    rcases h with ⟨e, he, hnames, hreaches⟩
    obtain ⟨hfree, hrules⟩ := reaches_iff.1 hreaches
    exact ⟨⟨e, he, hnames, hfree⟩, hrules⟩
  · intro h
    rcases h with ⟨⟨e, he, hnames, hfree⟩, hrules⟩
    exact ⟨e, he, hnames, reaches_iff.2 ⟨hfree, hrules⟩⟩

end Walk

namespace Disk

variable {d : Disk} {rules : List IgnoreRule} {root path : FilePath}

/-- a rule takes a path away from the walk from a root: it meets it on the way from the directory the root leads to -/
def Removes (d : Disk) (rule : IgnoreRule) (root path : FilePath) : Prop :=
  ∃ start names, d.locate? root = some start ∧ d.isDirectory start = true ∧ path = root.join names ∧
    Walk.meets d rule start names = true

theorem removes_join_iff {rule : IgnoreRule} {start names : List Name} (hlocate : d.locate? root = some start)
    (hdir : d.isDirectory start = true) :
    d.Removes rule root (root.join names) ↔ Walk.meets d rule start names = true := by
  constructor
  · intro h
    rcases h with ⟨start', names', hlocate', _, hjoin, hmeets⟩
    obtain rfl : start = start' := Option.some.inj (hlocate.symm.trans hlocate')
    obtain rfl : names = names' := by simpa [FilePath.join] using hjoin
    exact hmeets
  · intro hmeets
    exact ⟨start, names, hlocate, hdir, rfl, hmeets⟩

/-- **What a walk finds**: what it finds without rules and no rule takes away. -/
theorem mem_found_iff_removes :
    path ∈ (d.walk rules root).found ↔
      path ∈ (d.walk [] root).found ∧ ∀ rule ∈ rules, ¬ d.Removes rule root path := by
  cases hlocate : d.locate? root with
  | none => simp [walk, hlocate]
  | some start =>
    cases hdir : d.isDirectory start with
    | false =>
      -- the rules do not count for a file that the walk starts from
      have hkept : ∀ rule ∈ rules, ¬ d.Removes rule root path := by
        intro rule _ hremoves
        rcases hremoves with ⟨start', _, hlocate', hdir', _⟩
        obtain rfl : start = start' := Option.some.inj (hlocate.symm.trans hlocate')
        rw [hdir] at hdir'
        cases hdir'
      simp only [walk, hlocate, hdir, Bool.false_eq_true, if_false, and_iff_left hkept]
    | true =>
      simp only [walk, hlocate, hdir, if_true, List.mem_map]
      constructor
      · intro h
        rcases h with ⟨names, hnames, rfl⟩
        obtain ⟨hfree, hrules⟩ := Walk.mem_files_iff_meets.1 hnames
        refine ⟨⟨names, hfree, rfl⟩, fun rule hrule hremoves => ?_⟩
        rw [removes_join_iff hlocate hdir, hrules rule hrule] at hremoves
        cases hremoves
      · intro h
        rcases h with ⟨⟨names, hfree, rfl⟩, hrules⟩
        refine ⟨names, Walk.mem_files_iff_meets.2 ⟨hfree, fun rule hrule => ?_⟩, rfl⟩
        have hkept := hrules rule hrule
        rwa [removes_join_iff hlocate hdir, Bool.not_eq_true] at hkept

theorem mem_found_append_iff {more : List IgnoreRule} :
    path ∈ (d.walk (rules ++ more) root).found ↔
      path ∈ (d.walk rules root).found ∧ ∀ rule ∈ more, ¬ d.Removes rule root path := by
  rw [mem_found_iff_removes, List.forall_mem_append, ← and_assoc, ← mem_found_iff_removes]

/-- The order of rules does not matter. -/
theorem mem_found_iff_of_perm {others : List IgnoreRule} (h : others.Perm rules) :
    path ∈ (d.walk others root).found ↔ path ∈ (d.walk rules root).found := by
  rw [mem_found_iff_removes]
  simp only [h.mem_iff]
  rw [← mem_found_iff_removes]

end Disk

/-! ## Scans -/

namespace Scan

variable {d : Disk} {settings : Settings} {root : FilePath}

/-- the settings with other exclude patterns -/
def excluding (settings : Settings) (patterns : List String) : Settings :=
  { settings with exclude := patterns }

/-- the identities of the files that a scan with these exclude patterns loads -/
def loaded (listing : FileId → String) (d : Disk) (settings : Settings) (root : FilePath) (patterns : List String) :
    Finset FileId :=
  (run listing d (excluding settings patterns) root .empty).files

/-- a style file that can be read, with its identity -/
structure Loadable (d : Disk) (settings : Settings) (path : FilePath) (file : FileId) : Prop where
  style : isStylePath settings path = true
  readable : (d.readText? path).isSome = true
  id : path.id = file

/-- What a scan loads: the style files that can be read, of those that the walk finds. -/
theorem mem_loaded_iff {listing : FileId → String} {patterns : List String} {file : FileId} :
    file ∈ loaded listing d settings root patterns ↔
      ∃ path ∈ (d.walk (excludeRules (excluding settings patterns)) root).found, Loadable d settings path file := by
  rw [loaded, mem_files_run_iff]
  constructor
  · intro h
    rcases h with ⟨path, hpath, hread, hid⟩
    obtain ⟨hfound, hstyle⟩ := List.mem_filter.1 hpath
    exact ⟨path, hfound, hstyle, hread, hid⟩
  · intro h
    rcases h with ⟨path, hfound, hloadable⟩
    exact ⟨path, List.mem_filter.2 ⟨hfound, hloadable.style⟩, hloadable.readable, hloadable.id⟩

theorem writtenRules_snoc (settings : Settings) (patterns : List String) (pattern : String) :
    writtenRules (excluding settings (patterns ++ [pattern])) =
      writtenRules (excluding settings patterns) ++ (IgnoreRule.ofExclude? pattern).toList := by
  rw [writtenRules, excluding, List.filterMap_append, writtenRules, excluding]
  cases hrule : IgnoreRule.ofExclude? pattern <;> simp [hrule]

/-- A pattern whose glob is malformed changes no rule. -/
theorem excludeRules_snoc_of_none {pattern : String} (h : IgnoreRule.ofExclude? pattern = none) (patterns : List String) :
    excludeRules (excluding settings (patterns ++ [pattern])) = excludeRules (excluding settings patterns) := by
  rw [excludeRules, writtenRules_snoc, h, Option.toList_none, List.append_nil, excludeRules]

/-- Where all rules can be used together, one more pattern adds its rule. -/
theorem excludeRules_snoc {patterns : List String} {pattern : String}
    (h : IgnoreRule.areUsable (writtenRules (excluding settings (patterns ++ [pattern]))) = true) :
    excludeRules (excluding settings (patterns ++ [pattern])) =
      excludeRules (excluding settings patterns) ++ (IgnoreRule.ofExclude? pattern).toList := by
  have hpatterns : IgnoreRule.areUsable (writtenRules (excluding settings patterns)) = true := by
    rw [writtenRules_snoc, IgnoreRule.areUsable, List.all_append, Bool.and_eq_true] at h
    exact h.1
  rw [excludeRules, if_pos h, excludeRules, if_pos hpatterns, writtenRules_snoc]

theorem excludeRules_perm {patterns reordered : List String} (h : reordered.Perm patterns) :
    (excludeRules (excluding settings reordered)).Perm (excludeRules (excluding settings patterns)) := by
  have hrules : (writtenRules (excluding settings reordered)).Perm (writtenRules (excluding settings patterns)) :=
    h.filterMap _
  have husable : IgnoreRule.areUsable (writtenRules (excluding settings reordered)) =
      IgnoreRule.areUsable (writtenRules (excluding settings patterns)) := hrules.all_eq
  rw [excludeRules, excludeRules, husable]
  split_ifs
  · exact hrules
  · exact List.Perm.refl []

theorem restores_of_mem_excludeRules {rule : IgnoreRule} (h : rule ∈ excludeRules settings) : rule.restores = true := by
  rw [excludeRules] at h
  split_ifs at h
  · obtain ⟨pattern, _, hrule⟩ := List.mem_filterMap.1 h
    exact IgnoreRule.restores_of_ofExclude? hrule
  · cases h

/-- **Exclude patterns only ever take files away.**
- One more pattern, whatever it starts with, leaves of the loaded files those that its rule does not meet on the way to them,
  and adds none.
- A pattern whose glob is malformed changes nothing.
- The order of the patterns does not matter.
- All this is so although rules override the ignore files: a walk skips exactly what it skips by that reading. -/
theorem excludes_only_remove (listing : FileId → String) (d : Disk) (settings : Settings) (root : FilePath)
    (excludes : List String) (pattern : String) :
    let loaded := loaded listing d settings root
    let rules := excludeRules (excluding settings excludes)
    (IgnoreRule.areUsable (writtenRules (excluding settings (excludes ++ [pattern]))) = true →
      loaded (excludes ++ [pattern]) ⊆ loaded excludes ∧
      ∀ file, file ∈ loaded (excludes ++ [pattern]) ↔
        ∃ path ∈ (d.walk rules root).found, Loadable d settings path file ∧
          ∀ rule, IgnoreRule.ofExclude? pattern = some rule → ¬ d.Removes rule root path) ∧
    (IgnoreRule.ofLine false ('!' :: pattern.toList) = .malformed → loaded (excludes ++ [pattern]) = loaded excludes) ∧
    (∀ reordered : List String, reordered.Perm excludes → loaded reordered = loaded excludes) ∧
    ∀ start names, Walk.isSkipped d rules start names = Walk.isOverridden d rules start names := by
  intro loaded rules
  refine ⟨fun husable => ?_, fun hmalformed => ?_, fun reordered hperm => ?_, fun start names => ?_⟩
  · have hexact : ∀ file, file ∈ loaded (excludes ++ [pattern]) ↔
        ∃ path ∈ (d.walk rules root).found, Loadable d settings path file ∧
          ∀ rule, IgnoreRule.ofExclude? pattern = some rule → ¬ d.Removes rule root path := by
      intro file
      simp only [loaded, rules, mem_loaded_iff, excludeRules_snoc husable, Disk.mem_found_append_iff, Option.mem_toList,
        and_assoc, and_comm (a := Loadable d settings _ file)]
    refine ⟨fun file hfile => ?_, hexact⟩
    obtain ⟨path, hfound, hloadable, _⟩ := (hexact file).1 hfile
    exact mem_loaded_iff.2 ⟨path, hfound, hloadable⟩
  · have hnone : IgnoreRule.ofExclude? pattern = none := by
      rw [IgnoreRule.ofExclude?, hmalformed]
    ext file
    rw [mem_loaded_iff, excludeRules_snoc_of_none hnone, mem_loaded_iff]
  · ext file
    simp only [loaded, mem_loaded_iff, Disk.mem_found_iff_of_perm (excludeRules_perm hperm)]
  · exact Walk.isSkipped_eq_isOverridden fun rule hrule => restores_of_mem_excludeRules hrule

/-- A pattern whose first character looks like another mark takes away its own directory only, and one with an open bracket
takes away nothing. -/
theorem excludes_only_remove_marked :
    let root : FilePath := ⟨[Name.ofString "w"]⟩
    let place (names : List String) : List Name := root.pieces ++ names.map Name.ofString
    let disk : Disk := ⟨[(place [], .directory), (place ["dist"], .directory), (place ["!x"], .directory),
      (place ["a.css"], .file (Utf8.ofString ".a")), (place ["dist", "b.css"], .file (Utf8.ofString ".b")),
      (place ["!x", "c.css"], .file (Utf8.ofString ".c"))]⟩
    let loaded := loaded id disk .initial root
    IgnoreRule.areUsable (writtenRules (excluding .initial ["dist", "!x"])) = true ∧
      loaded ["dist", "!x"] ⊆ loaded ["dist"] ∧ "file:///w/!x/c.css" ∈ loaded ["dist"] ∧
      "file:///w/!x/c.css" ∉ loaded ["dist", "!x"] ∧ "file:///w/a.css" ∈ loaded ["dist", "!x"] ∧
      IgnoreRule.ofLine false "!a[".toList = .malformed ∧ loaded ["dist", "a["] = loaded ["dist"] ∧
      loaded ["!x", "dist"] = loaded ["dist", "!x"] := by
  intro root place disk loaded
  have husable : IgnoreRule.areUsable (writtenRules (excluding .initial ["dist", "!x"])) = true := by decide +kernel
  have hmalformed : IgnoreRule.ofLine false "!a[".toList = .malformed := by
    rcases IgnoreRule.ofExclude?_cases "a[" with ⟨hmalformed, _⟩ | ⟨rule, _, hrule, _⟩
    · exact hmalformed
    · have hnone : (IgnoreRule.ofExclude? "a[").isSome = false := by decide +kernel
      rw [hrule] at hnone
      cases hnone
  have hfound : (disk.walk (excludeRules (excluding .initial ["dist", "!x"])) root).found = [⟨place ["a.css"]⟩] := by
    decide +kernel
  obtain ⟨hremoves, _⟩ := excludes_only_remove id disk .initial root ["dist"] "!x"
  obtain ⟨_, hbad, _⟩ := excludes_only_remove id disk .initial root ["dist"] "a["
  obtain ⟨_, _, hperm, _⟩ := excludes_only_remove id disk .initial root ["dist", "!x"] "a["
  refine ⟨husable, (hremoves husable).1, ?_, ?_, ?_, hmalformed, hbad hmalformed, hperm _ (List.Perm.swap _ _ _)⟩
  · exact mem_loaded_iff.2 ⟨⟨place ["!x", "c.css"]⟩, by decide +kernel, by decide +kernel, by decide +kernel,
      by decide +kernel⟩
  · intro hmem
    obtain ⟨path, hpath, hloadable⟩ := mem_loaded_iff.1 hmem
    rw [hfound, List.mem_singleton] at hpath
    subst hpath
    exact absurd hloadable.id (by decide +kernel)
  · exact mem_loaded_iff.2 ⟨⟨place ["a.css"]⟩, by decide +kernel, by decide +kernel, by decide +kernel,
      by decide +kernel⟩

end Scan
end StyleIndex
