import FeedNode.Rpc.Envelope

/-!
# Reading requests

A request is read in two passes. The first reads the octets as one MessagePack map and takes from
it what every call has, its `Head`; a later entry with the same key replaces an earlier one. What
is wrong here leaves nothing to answer to, except the identifier that `peekId` may still find. The
second pass reads the params in the layout of the method and the version.
-/

namespace FeedNode.Rpc

open MessagePack

/-- How deep the values of a request may nest; the envelope itself is the first level. -/
def maxLevels : Nat := 512

/-- Why octets could not be read as an envelope. -/
inductive WireError where
  /-- The octets do not start with a whole MessagePack value. -/
  | unreadable
  | notMap
  | incomplete (dialect : Dialect)
  | badParams (id : UInt64) (method : String)
  /-- The octets are no envelope at all, as a client sees it. -/
  | undecodable
deriving DecidableEq, Repr

namespace WireError

/-- The code that a peer is told. -/
def code (_ : WireError) : ErrorCode :=
  .unreadableRequest

/-- The identifier of the call that failed. -/
def id? : WireError → Option UInt64
  | .badParams id _ => some id
  | _ => none

/-- The text of the error, where it is fixed. -/
def message? : WireError → Option String
  | .notMap => some "malformed envelope: envelope is not a map"
  | .incomplete .versioned => some "malformed envelope: missing version, method or id"
  | .incomplete .legacy => some "malformed envelope: missing jsonrpc, method or id"
  | _ => none

end WireError

/-- What every call has. A key that is absent, or whose value is of the wrong type, gives none. -/
structure Head where
  version : Option String
  jsonrpc : Option String
  method : Option String
  id : Option UInt64
deriving DecidableEq, Repr

namespace Head

/-- The value of the last entry with a text key. -/
def last? (entries : List (Value × Value)) (key : String) : Option Value :=
  (entries.reverse.find? fun (k, _) => k.text? == some key).map (·.2)

/-- The head of an envelope. -/
def ofEntries (entries : List (Value × Value)) : Head where
  version := (last? entries "version").bind Value.text?
  jsonrpc := (last? entries "jsonrpc").bind Value.text?
  method := (last? entries "method").bind Value.text?
  id := (last? entries "id").bind Value.unsigned?

end Head

/-- The entries of the map that the octets start with. -/
def readEntries (s : Bytes) : Except WireError (List (Value × Value)) :=
  match Value.unpack? maxLevels s with
  | none => .error .unreadable
  | some (.map entries, _) => .ok entries
  | some _ => .error .notMap

/-- The identifier of a call, even of one that is otherwise unreadable. -/
def peekId (s : Bytes) : Option UInt64 :=
  match readEntries s with
  | .ok entries => (Head.ofEntries entries).id
  | .error _ => none

/-- How far a call could be typed. -/
inductive DecodeStatus where
  | processed
  | unknownMethod
  | unsupportedVersion
deriving DecidableEq, Repr

/-- A request and how far it could be typed. -/
structure Decoded where
  request : Request
  status : DecodeStatus

namespace Decoded

/-- The call was typed. -/
def isProcessed (d : Decoded) : Bool :=
  d.status == .processed

end Decoded

/-- The params of a method, read from the entries of an envelope. -/
def readParams? (v : Version) (m : Method) (entries : List (Value × Value)) : Option Params :=
  if m.takesNothing then some (.call m m.zeroArgs)
  else do
    let slots ← Value.slots? ["params"] (.map entries)
    Params.read? v m (slots.head?.join)

/-- Types a call whose version is known. -/
def decodeTyped (d : Dialect) (v : Version) (method : String) (id : UInt64)
    (entries : List (Value × Value)) : Except WireError Decoded :=
  match Method.ofName? method with
  | none => .ok { request := .untyped d v method id, status := .unknownMethod }
  | some m =>
    match readParams? v m entries with
    | none => .error (.badParams id method)
    | some params =>
      .ok { request := { dialect := d, version := v, method, id, params }, status := .processed }

/-- Reads a request of the versioned dialect. -/
def decode (s : Bytes) : Except WireError Decoded := do
  let entries ← readEntries s
  match Head.ofEntries entries with
  | { version := some version, method := some method, id := some id, .. } =>
    match Version.ofText? version with
    | some v => decodeTyped .versioned v method id entries
    | none =>
      .ok { request := .untyped .versioned .current method id, status := .unsupportedVersion }
  | _ => .error (.incomplete .versioned)

/-- Reads a request of the legacy dialect. -/
def decodeLegacy (s : Bytes) : Except WireError Decoded := do
  let entries ← readEntries s
  match Head.ofEntries entries with
  | { jsonrpc := some jsonrpc, method := some method, id := some id, .. } =>
    if jsonrpc = legacyMark then decodeTyped .legacy .v1 method id entries
    else .ok { request := .untyped .legacy .v1 method id, status := .unsupportedVersion }
  | _ => .error (.incomplete .legacy)

end FeedNode.Rpc
