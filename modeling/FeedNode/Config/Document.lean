import FeedNode.Config.Settings
import FeedNode.Toml.Quoted
import FeedNode.Toml.Reader

/-!
# Settings as a document

Settings are kept in TOML, one section for each group. A section may be a table, or an array of its
fields in order; what a document leaves out has its default, and what it has too much is ignored.
-/

namespace FeedNode.Config

open Toml (Value)

namespace Settings

/-- Reads the fields of a section, if there is one, by `read?`. -/
def readSection? {α : Type} (names : List String) (read? : List (Option Value) → Option α)
    (default : α) (v : Option Value) : Option α :=
  match v with
  | none => some default
  | some v => (v.slots? names).bind read?

/-- Reads the section `network`. -/
def network? (d : Network) (v : Option Value) : Option Network :=
  readSection? ["listen_addr", "max_frame_bytes"]
    (fun
      | [address, maxFrame] => do
        return {
          address := ← Value.field? Value.text? d.address address
          maxFrame := ← Value.field? Value.count? d.maxFrame maxFrame }
      | _ => none)
    d v

/-- Reads the section `rpc`. -/
def calls? (d : Calls) (v : Option Value) : Option Calls :=
  readSection? ["max_envelope_bytes", "workers"]
    (fun
      | [ceiling, workers] => do
        return {
          ceiling := ← Value.field? Value.count? d.ceiling ceiling
          workers := ← Value.field? Value.count? d.workers workers }
      | _ => none)
    d v

/-- Reads the section `storage`. -/
def storage? (d : Storage) (v : Option Value) : Option Storage :=
  readSection? ["database_path"]
    (fun
      | [store] => do
        return { store := ← Value.field? Value.text? d.store store }
      | _ => none)
    d v

/-- Reads the section `auth`. -/
def access? (d : Access) (v : Option Value) : Option Access :=
  readSection? ["tokens_path", "owner_did", "ready"]
    (fun
      | [tokens, owner, ready] => do
        return {
          tokens := ← Value.field? Value.text? d.tokens tokens
          owner := ← Value.field? Value.text? d.owner owner
          ready := ← Value.field? Value.bool? d.ready ready }
      | _ => none)
    d v

/-- Reads the section `service`. -/
def service? (d : Service) (v : Option Value) : Option Service :=
  readSection? ["name", "version_code"]
    (fun
      | [name, versionCode] => do
        return {
          name := ← Value.field? Value.text? d.name name
          versionCode :=
            ← Value.field? (fun v => v.integer?.map Int64.ofInt) d.versionCode versionCode }
      | _ => none)
    d v

/-- Reads settings, with defaults for what is left out. -/
def ofToml? (d : Settings) (v : Value) : Option Settings := do
  match ← v.slots? ["network", "rpc", "storage", "auth", "service"] with
  | [network, calls, storage, access, service] =>
    return {
      network := ← network? d.network network
      calls := ← calls? d.calls calls
      storage := ← storage? d.storage storage
      access := ← access? d.access access
      service := ← service? d.service service }
  | _ => none

/-- A truth value as it is written. -/
def boolText (b : Bool) : String :=
  if b then "true" else "false"

/-- The document of some settings. -/
def text (s : Settings) : String :=
  let line (name value : String) : String := name ++ " = " ++ value ++ "\n"
  "[network]\n" ++
    line "listen_addr" (Toml.quoted s.network.address) ++
    line "max_frame_bytes" (toString s.network.maxFrame) ++
    "\n[rpc]\n" ++
    line "max_envelope_bytes" (toString s.calls.ceiling) ++
    line "workers" (toString s.calls.workers) ++
    "\n[storage]\n" ++
    line "database_path" (Toml.quoted s.storage.store) ++
    "\n[auth]\n" ++
    line "tokens_path" (Toml.quoted s.access.tokens) ++
    line "owner_did" (Toml.quoted s.access.owner) ++
    line "ready" (boolText s.access.ready) ++
    "\n[service]\n" ++
    line "name" (Toml.quoted s.service.name) ++
    line "version_code" (toString s.service.versionCode.toInt)

end Settings

end FeedNode.Config
