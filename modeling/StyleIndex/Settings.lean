/-
Settings: which files feed a registry, which documents get its completions, where class names are completed and what a
scan of the workspace leaves out.
-/
import StyleIndex.Cursor.Context
import StyleIndex.Text.LowerCase

namespace StyleIndex

/-- a set of names as the sorted list of its members, each once -/
def nameSet (names : List String) : List String :=
  (names.mergeSort fun a b => decide (a ≤ b)).eraseDups

/-- where one kind of symbol comes from and where it is offered -/
structure Source where
  enabled : Bool
  /-- extensions of the style files, without the dot -/
  extensions : List String
  /-- language ids of the documents that get completions -/
  languages : List String
deriving DecidableEq, Repr

namespace Source

/-- the source wants files with this extension; the case of ASCII letters does not matter -/
def handlesExtension (s : Source) (ext : String) : Bool :=
  s.enabled && s.extensions.any fun e => Text.asciiLower e = Text.asciiLower ext

/-- the source offers its symbols in this language -/
def handlesLanguage (s : Source) (language : String) : Bool :=
  s.enabled && s.languages.contains language

end Source

structure Settings where
  classNames : Source
  mixins : Source
  context : ContextRules
  /-- globs of what a scan skips -/
  exclude : List String
  /-- an accepted completion replaces the typed word instead of extending it -/
  replaceTyped : Bool
deriving DecidableEq, Repr

namespace Settings

/-- the settings before any file or client says otherwise -/
def initial : Settings :=
  { classNames :=
      { enabled := true
        extensions := ["css", "scss", "sass", "less", "pcss", "postcss"]
        languages :=
          ["html", "vue", "svelte", "astro", "javascript", "javascriptreact", "typescript", "typescriptreact", "php",
            "erb", "handlebars", "markdown"] }
    mixins :=
      { enabled := true
        extensions := ["css", "pcss", "postcss", "sss"]
        languages := ["css", "postcss", "pcss", "sugarss"] }
    context :=
      { requireQuote := true
        attributes := ["class", "className", "styleName", "tw"]
        functions := ["classNames", "classnames", "clsx", "cn", "cx", "twMerge"]
        lookback := 10
        nesting := .innermost }
    exclude := ["**/node_modules/**", "**/dist/**"]
    replaceTyped := true }

/-- the source of a kind -/
def source (s : Settings) : Kind → Source
  | .className => s.classNames
  | .mixin => s.mixins

/-- the extensions that enabled sources list, class names first, each where it first occurs -/
def watchedExtensions (s : Settings) : List String :=
  ([s.classNames, s.mixins].flatMap fun source => if source.enabled then source.extensions else []).eraseDups

/-- the glob of the files a client should watch; there is none when no extension is wanted -/
def watchGlob (s : Settings) : Option String :=
  match s.watchedExtensions with
  | [] => none
  | [ext] => some ("**/*." ++ ext)
  | exts => some ("**/*.\x7b" ++ ",".intercalate exts ++ "\x7d")

end Settings
end StyleIndex
