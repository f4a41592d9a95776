/-
Settings layers. A layer is a patch: every field may be absent, and an absent field leaves the lower layers alone. Later
layers win field by field.
-/
import StyleIndex.Settings

namespace StyleIndex

structure SourcePatch where
  enabled : Option Bool := none
  extensions : Option (List String) := none
  languages : Option (List String) := none
deriving DecidableEq, Repr

structure ContextPatch where
  requireQuote : Option Bool := none
  attributes : Option (List String) := none
  functions : Option (List String) := none
  lookback : Option Nat := none
  nesting : Option Nesting := none
deriving DecidableEq, Repr

/-- one settings layer -/
structure Patch where
  classNames : Option SourcePatch := none
  mixins : Option SourcePatch := none
  context : Option ContextPatch := none
  exclude : Option (List String) := none
  replaceTyped : Option Bool := none
deriving DecidableEq, Repr

def Source.apply (s : Source) (p : SourcePatch) : Source :=
  { enabled := p.enabled.getD s.enabled
    extensions := p.extensions.getD s.extensions
    languages := p.languages.getD s.languages }

def ContextRules.apply (r : ContextRules) (p : ContextPatch) : ContextRules :=
  { requireQuote := p.requireQuote.getD r.requireQuote
    attributes := p.attributes.getD r.attributes
    functions := p.functions.getD r.functions
    lookback := p.lookback.getD r.lookback
    nesting := p.nesting.getD r.nesting }

/-- lays a patch over settings -/
def Settings.apply (s : Settings) (p : Patch) : Settings :=
  { classNames := s.classNames.apply (p.classNames.getD {})
    mixins := s.mixins.apply (p.mixins.getD {})
    context := s.context.apply (p.context.getD {})
    exclude := p.exclude.getD s.exclude
    replaceTyped := p.replaceTyped.getD s.replaceTyped }

end StyleIndex
