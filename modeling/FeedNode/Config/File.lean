import FeedNode.Bytes
import FeedNode.Config.Document
import FeedNode.Text.Utf8

/-!
# The configuration file

Loading settings from the file that the environment names, and writing the file with the defaults
when there is none.
-/

namespace FeedNode.Config

/-- What there is at the path of the configuration file. -/
inductive FileState where
  | missing
  /-- Nothing, and nothing can be made there: what should be its folder is a file. -/
  | blocked
  | folder
  | file (content : Bytes)
deriving DecidableEq, Repr

/-- Why there are no settings. -/
inductive ConfigError where
  /-- The file could not be read, or is no text. -/
  | unreadable
  /-- The text of the file gives no settings. -/
  | invalid
  | unwritable
deriving DecidableEq, Repr

namespace Settings

/-- The settings that a file gives. -/
def ofFile (env : Environment) : FileState → Except ConfigError Settings
  | .missing | .blocked => .ok (default env)
  | .folder => .error .unreadable
  | .file content =>
    match Text.ofUtf8? content with
    | none => .error .unreadable
    | some text =>
      match (Toml.parse? text).bind (ofToml? (default env)) with
      | none => .error .invalid
      | some s => .ok s

/-- The settings that a file and the environment give. -/
def load (env : Environment) (f : FileState) : Except ConfigError Settings :=
  (ofFile env f).map fun s => s.override env

/-- Writes the default settings, unless there is something at the path of the file. -/
def writeDefault (env : Environment) : FileState → Except ConfigError FileState
  | .missing => .ok (.file (Text.utf8 (default env).text))
  | .blocked => .error .unwritable
  | f => .ok f

end Settings

end FeedNode.Config
