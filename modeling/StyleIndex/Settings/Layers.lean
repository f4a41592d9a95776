/-
Resolution of settings from layers: the built-in settings, then the user's file, the workspace's file and the client.

A layer that is absent, cannot be read or is malformed changes nothing. A malformed one leaves a warning.
-/
import StyleIndex.Settings.Decode
import StyleIndex.Toml.Reader
import StyleIndex.Warning

namespace StyleIndex

/-- one source of settings -/
inductive Layer where
  /-- the text of a settings file -/
  | file (text : String)
  /-- the value a client sent -/
  | client (value : Json)

namespace Layer

/-- the patch of a layer, if it is well formed -/
def patch? : Layer → Option Patch
  | file text => (Toml.parse? text).bind (Decode.patch? Decode.file)
  | client .null => none
  | client value => Decode.patch? Decode.client (Decode.clientSection value)

/-- the warning a malformed layer leaves; a client that sends null sends nothing -/
def warnings (layer : Layer) : List Warning :=
  match layer, layer.patch? with
  | _, some _ => []
  | file _, none => [.malformedFile]
  | client .null, none => []
  | client _, none => [.malformedClient]

end Layer

namespace Settings

/-- lays a layer over settings -/
def applyLayer (s : Settings) (layer : Layer) : Settings :=
  match layer.patch? with
  | some patch => s.apply patch
  | none => s

/-- the settings that layers give, later layers winning -/
def resolve (layers : List Layer) : Settings :=
  layers.foldl applyLayer initial

/-- the layers of a session: what could be read of the user's and the workspace's file, and what the client sent -/
def sessionLayers (user workspace : Option String) (client : Option Json) : List Layer :=
  user.toList.map .file ++ workspace.toList.map .file ++ client.toList.map .client

end Settings
end StyleIndex
