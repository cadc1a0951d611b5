import FeedNode.Rpc.Decoding

/-!
# Envelopes as a client sees them

`decodeView` reads any envelope without knowing its method: every key is optional, and params and
results are kept as values.
-/

namespace FeedNode.Rpc

open MessagePack

/-- An envelope of any kind. -/
structure EnvelopeView where
  version : Option String
  jsonrpc : Option String
  method : Option String
  id : Option UInt64
  params : Option Value
  result : Option Value
  error : Option ErrorDetail

namespace EnvelopeView

/-- The first value under a text key of a map. -/
def field? (key : String) : Option Value → Option Value
  | some (.map entries) => (entries.find? fun (k, _) => k.text? == some key).map (·.2)
  | _ => none

/-- The keys of an envelope, in the order that field numbers count. -/
def names : List String :=
  ["version", "jsonrpc", "method", "id", "params", "result", "error"]

/-- How many arrays, maps and extensions may be open at once. -/
def maxNesting : Nat := 1023

/-- The fields of an error detail; both are required. -/
def readDetail? (v : Value) : Option ErrorDetail := do
  match ← v.slots? ["code", "message"] with
  | [some number, some message] =>
    return { number := ← number.signed?, message := ← FieldKind.readText? message }
  | _ => none

/-- Reads a field that may be absent or nil. -/
def optional? {α : Type} (read? : Value → Option α) : Option Value → Option (Option α)
  | none | some .nil => some none
  | some v => (read? v).map some

/-- Reads an envelope from a value. -/
def ofValue? (v : Value) : Option EnvelopeView := do
  if !v.wellFormed || v.nesting > maxNesting then none
  match ← v.slots? names with
  | [version, jsonrpc, method, id, params, result, error] =>
    return {
      version := ← optional? FieldKind.readText? version
      jsonrpc := ← optional? FieldKind.readText? jsonrpc
      method := ← optional? FieldKind.readText? method
      id := ← optional? Value.unsigned? id
      params := ← optional? some params
      result := ← optional? some result
      error := ← optional? readDetail? error }
  | _ => none

end EnvelopeView

/-- Reads any envelope. -/
def decodeView (s : Bytes) : Except WireError EnvelopeView :=
  match (Value.unpack? (EnvelopeView.maxNesting + 1) s).bind fun (v, _) =>
    EnvelopeView.ofValue? v with
  | some view => .ok view
  | none => .error .undecodable

end FeedNode.Rpc
