/-
Decoding of a settings layer from a value tree. A record is written as a table of its fields, in which unknown keys do not
matter, or as the list of all its fields in order. A single value of a wrong type makes the whole layer malformed.

Client settings and settings files follow the same rules up to a `Dialect`.
-/
import StyleIndex.Json
import StyleIndex.Settings.Patch

namespace StyleIndex.Decode

/-- the points in which client settings and settings files differ -/
structure Dialect where
  /-- a record written as a list has no items beyond its fields -/
  exactLength : Bool
  /-- the values that stand for "no payload" when a choice is written as a table with one key -/
  isUnit : Json → Bool

/-- settings sent by a client -/
def client : Dialect where
  exactLength := true
  isUnit
    | .null => true
    | _ => false

/-- settings read from a file -/
def file : Dialect where
  exactLength := false
  isUnit
    | .obj [] => true
    | .arr [] => true
    | _ => false

/-- a field that is null counts as absent -/
def nonNull : Json → Option Json
  | .null => none
  | value => some value

/-- the fields of a record in order -/
def fields? (d : Dialect) (names : List String) : Json → Option (List (Option Json))
  | .obj entries => some (names.map fun name => (entries.lookup name).bind nonNull)
  | .arr items =>
    if items.length < names.length || (d.exactLength && items.length ≠ names.length) then none
    else some ((items.take names.length).map nonNull)
  | _ => none

/-- an optional field: absent, or decoded by `decode` -/
def optional {α : Type} (decode : Json → Option α) : Option Json → Option (Option α)
  | none => some none
  | some value => (decode value).map some

def strings? : Json → Option (List String)
  | .arr items => items.mapM Json.str?
  | _ => none

def names? (value : Json) : Option (List String) :=
  (strings? value).map nameSet

/-- the first count that a 64-bit word cannot hold -/
def maxCount : Nat := 0x10000000000000000

/-- a count that fits a 64-bit word -/
def count? : Json → Option Nat
  | .int (.ofNat n) => if n < maxCount then some n else none
  | _ => none

def nestingOfName? (name : String) : Option Nesting :=
  if name = "innermost" then some .innermost
  else if name = "depthOne" then some .depthOne
  else none

def nesting? (d : Dialect) : Json → Option Nesting
  | .str name => nestingOfName? name
  | .obj [(name, payload)] => if d.isUnit payload then nestingOfName? name else none
  | _ => none

def sourcePatch? (d : Dialect) (value : Json) : Option SourcePatch :=
  match fields? d ["enabled", "extensions", "languages"] value with
  | some [enabled, extensions, languages] => do
    return {
      enabled := ← optional Json.bool? enabled
      extensions := ← optional strings? extensions
      languages := ← optional strings? languages }
  | _ => none

def contextPatch? (d : Dialect) (value : Json) : Option ContextPatch :=
  match fields? d ["requireQuote", "attributeNames", "functionNames", "lookbackLines", "nesting"] value with
  | some [requireQuote, attributes, functions, lookback, nesting] => do
    return {
      requireQuote := ← optional Json.bool? requireQuote
      attributes := ← optional names? attributes
      functions := ← optional names? functions
      lookback := ← optional count? lookback
      nesting := ← optional (nesting? d) nesting }
  | _ => none

/-- the layer that a value writes -/
def patch? (d : Dialect) (value : Json) : Option Patch :=
  match fields? d ["classNames", "mixins", "context", "exclude", "replaceTypedPrefix"] value with
  | some [classNames, mixins, context, exclude, replaceTyped] => do
    return {
      classNames := ← optional (sourcePatch? d) classNames
      mixins := ← optional (sourcePatch? d) mixins
      context := ← optional (contextPatch? d) context
      exclude := ← optional strings? exclude
      replaceTyped := ← optional Json.bool? replaceTyped }
  | _ => none

/-- the key under which a client may nest the settings of this server -/
def sectionKey : String := "classy"

/-- the part of a client's settings that is meant for this server -/
def clientSection (value : Json) : Json :=
  (value.get? sectionKey).getD value

end StyleIndex.Decode
