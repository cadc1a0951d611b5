import FeedNode.Config.Environment
import FeedNode.Text.Digits

/-!
# Settings

What can be set about a node, the defaults, and the variables that take precedence over a file.
-/

namespace FeedNode.Config

/-- Where the node listens, and the length of the longest frame that it takes. -/
structure Network where
  address : String
  maxFrame : Nat
deriving DecidableEq, Repr

/-- The size of a page and the number of calls served at the same time. -/
structure Calls where
  ceiling : Nat
  /-- Zero counts as one. -/
  workers : Nat
deriving DecidableEq, Repr

/-- Where the store is kept. -/
structure Storage where
  store : String
deriving DecidableEq, Repr

/-- Where the tokens are kept, and who owns the node. -/
structure Access where
  tokens : String
  /-- Empty if the owner is still to be declared. -/
  owner : String
  ready : Bool
deriving DecidableEq, Repr

/-- What the node says about itself. -/
structure Service where
  name : String
  versionCode : Int64
deriving DecidableEq, Repr

/-- All settings. -/
structure Settings where
  network : Network
  calls : Calls
  storage : Storage
  access : Access
  service : Service
deriving DecidableEq, Repr

namespace Settings

/-- The settings where none are given. -/
def default (env : Environment) : Settings where
  network := { address := "127.0.0.1:10018", maxFrame := 1048576 }
  calls := { ceiling := 4096, workers := 4 }
  storage := { store := Files.join env.dataFolder "feeds.sqlite3" }
  access := { tokens := Files.join env.configFolder "tokens.json", owner := "", ready := true }
  service := { name := "feedsd", versionCode := 10200 }

/-- The number of calls served at the same time, one at least. -/
def workerCount (s : Settings) : Nat :=
  max s.calls.workers 1

/-- The number that a variable gives, which must fit 64 bits. A plus sign may stand before it. -/
def count? (text : String) : Option Nat :=
  let digits := match text.toList with
    | '+' :: s => s
    | s => s
  if digits.isEmpty then none
  else (Text.number? 10 digits).filter fun n => decide (n < UInt64.size)

/-- The settings with those that variables give. A number that is none is passed over. -/
def override (s : Settings) (env : Environment) : Settings :=
  let text (name : String) (old : String) : String := (env.get? name).getD old
  let count (name : String) (old : Nat) : Nat := ((env.get? name).bind count?).getD old
  { s with
    network := { s.network with address := text "FEEDS_NETWORK__LISTEN_ADDR" s.network.address }
    calls :=
      { ceiling := count "FEEDS_RPC__MAX_ENVELOPE_BYTES" s.calls.ceiling
        workers := count "FEEDS_RPC__WORKERS" s.calls.workers }
    storage := { store := text "FEEDS_STORAGE__DATABASE_PATH" s.storage.store }
    access :=
      { s.access with
        tokens := text "FEEDS_AUTH__TOKENS_PATH" s.access.tokens
        owner := text "FEEDS_AUTH__OWNER_DID" s.access.owner } }

end Settings

end FeedNode.Config
