/-
What a request for completions is answered with.

`Selects` says what is completed at a position of an open document: a mixin where the settings offer mixins in its language
and one fits, and otherwise a class name, under the same conditions. The answer is nothing if the document is not open or
nothing is selected. Otherwise it is the merged list of the registry of that kind, less the symbols that do not start with
what is typed.

`completions_exact` says this of every state that a run can lead to. It needs two facts about runs: all symbols are
identifiers, so that the comparison in lower case is one of ASCII letters, and the merged list has each symbol once.
-/
import Mathlib.Tactic
import StyleIndex.Proofs.Completion
import StyleIndex.Proofs.Entries

namespace StyleIndex

/-! ## Typed text -/

/-- What is typed of a symbol is made of symbol characters. -/
theorem Detector.isSymbolChar_of_find {detector : Detector} {source : LineSource} {pos : Position} {found : ContextMatch}
    (h : detector.find source pos = some found) : ∀ c ∈ found.typed.toList, isSymbolChar c = true := by
  obtain ⟨line, hline⟩ := exists_line_of_find h
  have hword := word_fragment (Columns.before pos.column line)
  obtain ⟨_, rfl⟩ := (find_eq_some_iff hline hword).1 h
  rw [String.toList_ofList]
  exact hword.symbols

namespace Session

/-! ## Selection -/

/-- what is completed at a position of a document -/
inductive Selects (settings : Settings) (buffer : Buffer) (pos : Position) : Kind → ContextMatch → Prop where
  | mixin {found : ContextMatch} (hlanguage : settings.mixins.handlesLanguage buffer.language = true)
      (hfound : detectMixin (sourceOf settings buffer.text) pos = some found) : Selects settings buffer pos .mixin found
  | className {found : ContextMatch}
      (hmixin : settings.mixins.handlesLanguage buffer.language = true →
        detectMixin (sourceOf settings buffer.text) pos = none)
      (hlanguage : settings.classNames.handlesLanguage buffer.language = true)
      (hfound : detect (sourceOf settings buffer.text) pos settings.context = some found) :
      Selects settings buffer pos .className found

variable {settings : Settings} {buffer : Buffer} {pos : Position} {kind : Kind} {found : ContextMatch}

theorem context?_eq_some_iff :
    context? settings (sourceOf settings buffer.text) buffer.language pos = some (kind, found) ↔
      Selects settings buffer pos kind found := by
  rw [context?]
  cases hmixin : (if settings.mixins.handlesLanguage buffer.language then
    detectMixin (sourceOf settings buffer.text) pos else none) with
  | some mixin =>
    obtain ⟨hlanguage, hdetected⟩ := Option.ite_none_right_eq_some.1 hmixin
    constructor
    · intro h
      cases h
      exact .mixin hlanguage hdetected
    · intro h
      cases h with
      | mixin _ hfound =>
        obtain rfl : mixin = found := Option.some.inj (hdetected.symm.trans hfound)
        rfl
      | className hnone => simp [hnone hlanguage] at hdetected
  | none =>
    have hnone : settings.mixins.handlesLanguage buffer.language = true →
        detectMixin (sourceOf settings buffer.text) pos = none := by
      intro hlanguage
      rwa [if_pos hlanguage] at hmixin
    simp only [Option.ite_none_right_eq_some, Option.map_eq_some_iff]
    constructor
    · rintro ⟨hlanguage, name, hfound, hname⟩
      cases hname
      exact .className hnone hlanguage hfound
    · intro h
      cases h with
      | mixin hlanguage hfound => simp [hnone hlanguage] at hfound
      | className _ hlanguage hfound => exact ⟨hlanguage, found, hfound, rfl⟩

theorem context?_eq_none_iff :
    context? settings (sourceOf settings buffer.text) buffer.language pos = none ↔
      ∀ kind found, ¬Selects settings buffer pos kind found := by
  rw [Option.eq_none_iff_forall_ne_some, Prod.forall]
  simp only [ne_eq, context?_eq_some_iff]

theorem Selects.isSymbolChar_typed (h : Selects settings buffer pos kind found) :
    ∀ c ∈ found.typed.toList, isSymbolChar c = true := by
  cases h with
  | mixin _ hfound =>
    have hfind : Detector.mixins.find (sourceOf settings buffer.text) pos = some found := hfound
    exact Detector.isSymbolChar_of_find hfind
  | className _ _ hfound =>
    have hfind : (Detector.classNames settings.context).find (sourceOf settings buffer.text) pos = some found := hfound
    exact Detector.isSymbolChar_of_find hfind

/-! ## Answers -/

theorem completions_eq_none_iff {s : Session} {file : FileId} :
    s.completions file pos = none ↔
      ∀ buffer, s.buffers.lookup file = some buffer → ∀ kind found, ¬Selects s.settings buffer pos kind found := by
  rw [completions]
  cases s.buffers.lookup file with
  | none => simp
  | some buffer =>
    -- a context always has a list of items, if only an empty one
    have hassemble : ∀ context : Kind × ContextMatch,
        Completion.assemble (some context.2) (s.index.registry context.1).items context.1 ≠ none := by
      intro context
      simp [Completion.assemble]
    simp only [Option.bind_some, Option.some.injEq, forall_eq', ← context?_eq_none_iff]
    constructor
    · intro h
      rw [Option.bind_eq_none_iff] at h
      rw [Option.eq_none_iff_forall_ne_some]
      exact fun context hcontext => hassemble context (h context hcontext)
    · intro h
      rw [h]
      rfl

/-- Where a kind is selected, the labels are the symbols of its registry that start with what is typed. -/
theorem completions_of_selects {s : Session} {file : FileId} (hopen : s.buffers.lookup file = some buffer)
    (h : Selects s.settings buffer pos kind found) (hextracted : (s.index.registry kind).Extracted) :
    ∃ items, s.completions file pos = some items ∧
      items.map Item.label =
        (s.index.registry kind).items.filter (Completion.startsIgnoringCase found.typed) ∧
      ∀ i ∈ items, i.kind = kind := by
  have hassemble : s.completions file pos = Completion.assemble (some found) (s.index.registry kind).items kind := by
    rw [completions, hopen, Option.bind_some, context?_eq_some_iff.2 h]
    rfl
  have hlabels := Completion.labels_some found (s.index.registry kind).items kind
  obtain ⟨items, hitems, hlabels⟩ := Option.map_eq_some_iff.1 hlabels
  refine ⟨items, hassemble.trans hitems, hlabels.trans ?_, fun i hi => ?_⟩
  · apply List.filter_congr
    intro symbol hsymbol
    apply Completion.fits_eq h.isSymbolChar_typed
    exact isSymbolChar_of_isIdentifier (hextracted.isIdentifier_of_mem_items hsymbol)
  · obtain ⟨_, _, rank, hitem⟩ := Completion.mem_assemble hitems hi
    rw [hitem]
    rfl

end Session

/-- **Completions are exact.** After any run, a request for completions changes nothing and is answered. The answer is
nothing if the document is not open or nothing is selected at the position. Otherwise the labels of the answer are the
symbols of the selected registry that start with what is typed, whatever the case of ASCII letters, in their order; they are
all different and identifiers, and a symbol that only the other registry has is not among them. -/
theorem completions_exact (env : Env) (root : Option FilePath) (events : List Event) {w : World}
    (hw : (World.start env root).run events = w) (hheard : w.refusal? false = none) (url : Url) (pos : Position) :
    (w.step (.message (.completion url pos))).1 = w ∧
    ∃ answer, (w.step (.message (.completion url pos))).2.answer = .items answer ∧
      (answer = none ↔ ∀ buffer, w.session.buffers.lookup url.text = some buffer →
        ∀ kind found, ¬Session.Selects w.session.settings buffer pos kind found) ∧
      ∀ buffer kind found, w.session.buffers.lookup url.text = some buffer →
        Session.Selects w.session.settings buffer pos kind found →
        ∃ items, answer = some items ∧
          items.map Item.label =
            (w.session.index.registry kind).items.filter (Completion.startsIgnoringCase found.typed) ∧
          (∀ i ∈ items, i.kind = kind) ∧ (items.map Item.label).Nodup ∧
          (∀ i ∈ items, isIdentifier i.label.toList = true) ∧
          ∀ other, ∀ symbol ∈ (w.session.index.registry other).items,
            symbol ∉ (w.session.index.registry kind).items → symbol ∉ items.map Item.label := by
  have hextracted : ∀ kind, (w.session.index.registry kind).Extracted := by
    intro kind
    rw [← hw]
    exact World.run_extracted env root events kind
  have hstep : w.step (.message (.completion url pos)) =
      (w, { answer := .items (w.session.completions url.text pos) }) := by
    rw [World.step, World.receive]
    have hrefusal : w.refusal? (Request.completion url pos).isIntroduction = none := hheard
    rw [hrefusal]
    rfl
  rw [hstep]
  refine ⟨rfl, _, rfl, Session.completions_eq_none_iff, ?_⟩
  intro buffer kind found hopen hselects
  obtain ⟨items, hitems, hlabels, hkind⟩ := Session.completions_of_selects hopen hselects (hextracted kind)
  have hmem : ∀ label ∈ items.map Item.label, label ∈ (w.session.index.registry kind).items := by
    intro label hlabel
    rw [hlabels] at hlabel
    exact (List.mem_filter.1 hlabel).1
  refine ⟨items, hitems, hlabels, hkind, ?_, ?_, ?_⟩
  · rw [hlabels]
    exact (Registry.nodup_items _).filter _
  · intro i hi
    exact (hextracted kind).isIdentifier_of_mem_items (hmem _ (List.mem_map_of_mem hi))
  · intro other symbol _ hsymbol hoffered
    exact hsymbol (hmem symbol hoffered)

/-- A sheet defines class names and a mixin that start alike; a page is offered the class names. -/
theorem completions_of_one_registry :
    let sheet : Url := ⟨Url.fileScheme, some .here, "/w/a.css".toList, none, none⟩
    let page : Url := ⟨Url.fileScheme, some .here, "/w/p.html".toList, none, none⟩
    let w := (World.start ⟨.empty, none, id, none, id⟩ none).run
      [.message (.didOpen sheet "css" ".Card .btn .cart .Card @define-mixin cabin"),
        .message (.didOpen page "html" "<b class=\"ca")]
    ∃ items, (w.step (.message (.completion page ⟨0, 12⟩))).2.answer = .items (some items) ∧
      items.map Item.label = ["Card", "cart"] ∧ "cabin" ∈ (w.session.index.registry .mixin).items ∧
      "cabin" ∉ items.map Item.label := by
  intro sheet page w
  have hopen : w.session.buffers.lookup page.text = some ⟨"html", "<b class=\"ca"⟩ := by decide +kernel
  have hselects : Session.Selects w.session.settings ⟨"html", "<b class=\"ca"⟩ ⟨0, 12⟩ .className
      ⟨"ca", some ⟨⟨0, 10⟩, ⟨0, 12⟩⟩⟩ := .className (by decide +kernel) (by decide +kernel) (by decide +kernel)
  have hitems : (w.session.index.registry .className).items = ["Card", "btn", "cart"] := by decide +kernel
  have hmixins : (w.session.index.registry .mixin).items = ["cabin"] := by decide +kernel
  have hheard : w.refusal? false = none := rfl
  obtain ⟨_, answer, hanswer, _, hexact⟩ := completions_exact _ _ _ rfl hheard page ⟨0, 12⟩
  obtain ⟨items, rfl, hlabels, _, _, _, hother⟩ := hexact _ _ _ hopen hselects
  rw [hitems] at hlabels hother
  refine ⟨items, hanswer, hlabels.trans (by decide), ?_, hother .mixin "cabin" ?_ (by decide)⟩
  · rw [hmixins]
    decide
  · rw [hmixins]
    decide

end StyleIndex
