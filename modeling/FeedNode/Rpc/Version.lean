/-!
# Protocol versions and dialects

An envelope says which layout its params use. The versioned dialect gives the version under the
key `version`; the legacy dialect gives the fixed text `"2.0"` under the key `jsonrpc` and always
uses the layouts of version 1.0.
-/

namespace FeedNode.Rpc

/-- A protocol version. -/
inductive Version where
  | v1
  | v2
deriving DecidableEq, Repr, Inhabited

namespace Version

/-- The version stamped on envelopes that the node starts on its own. -/
def current : Version := .v2

/-- The text of a version. -/
def text : Version → String
  | .v1 => "1.0"
  | .v2 => "2.0"

/-- The version that a text names. -/
def ofText? (s : String) : Option Version :=
  if s = "1.0" then some .v1 else if s = "2.0" then some .v2 else none

/-- The version has the fields that 2.0 added. -/
def isExtended : Version → Bool
  | .v1 => false
  | .v2 => true

@[simp] theorem ofText?_text (v : Version) : ofText? v.text = some v := by
  cases v <;> rfl

end Version

/-- Which key of an envelope names the protocol. -/
inductive Dialect where
  /-- `version`, with the text of the version. -/
  | versioned
  /-- `jsonrpc`, with the text `"2.0"` and the layouts of 1.0. -/
  | legacy
deriving DecidableEq, Repr, Inhabited

/-- The text under `jsonrpc` that marks the legacy dialect. -/
def legacyMark : String := "2.0"

end FeedNode.Rpc
