/-
What goes wrong without stopping the server. Each warning has one text, and the texts are all a log reader sees of it.
-/
namespace StyleIndex

inductive Warning where
  /-- a style file is missing, a directory, or not UTF-8 -/
  | unreadableFile
  /-- a settings file is no TOML or has a value of a wrong type -/
  | malformedFile
  /-- the client's settings have a value of a wrong type -/
  | malformedClient
  /-- an exclude pattern is no glob -/
  | badGlob
  /-- the exclude patterns cannot be used together, and none of them counts -/
  | unusableGlobs
  /-- a place in the workspace cannot be entered, or an ignore file above it holds a bad glob -/
  | unreadableEntry
  /-- the client answered a watcher registration with an error -/
  | watcherRefused
deriving DecidableEq, Repr

def Warning.message : Warning → String
  | unreadableFile => "failed to read style file, keeping previous symbols"
  | malformedFile => "ignoring malformed configuration file"
  | malformedClient => "ignoring malformed client settings"
  | badGlob => "ignoring invalid exclude glob"
  | unusableGlobs => "could not build exclude globs"
  | unreadableEntry => "skipping unreadable workspace entry"
  | watcherRefused => "client refused file watcher registration"

end StyleIndex
