import FeedNode.Node.Node

/-!
# Identifiers

Whatever is made of some octets, a request or an error, the identifier that it has is the one that
`peekId` finds in them. A call is therefore never answered under another identifier than its own,
and octets without one give neither a request nor anything to answer to.

Main statement: `decodeAny_peekId`.
-/

namespace FeedNode

namespace Rpc

open MessagePack (Value)

/-- The identifier of what was read. -/
def readId? : Except WireError Decoded → Option UInt64
  | .ok d => some d.request.id
  | .error e => e.id?

variable {octets : Bytes} {id : UInt64}

/-- What was typed keeps the identifier that it was typed with. -/
theorem readId?_decodeTyped (dialect : Dialect) (v : Version) (method : String) (id : UInt64)
    (entries : List (Value × Value)) :
    readId? (decodeTyped dialect v method id entries) = some id := by
  rw [decodeTyped]
  split
  · rfl
  · split <;> rfl

/-- Octets that are no map are read as an error without an identifier. -/
theorem id?_of_readEntries {e : WireError} (h : readEntries octets = .error e) : e.id? = none := by
  rw [readEntries] at h
  split at h
  · -- octets that are no value
    rw [← Except.error.inj h]
    rfl
  · -- the entries of a map
    cases h
  · -- a value that is no map
    rw [← Except.error.inj h]
    rfl

/-- A reading that takes the identifier from the head has the one that is found there. -/
theorem peekId_of_bind {f : List (Value × Value) → Except WireError Decoded}
    (hf : ∀ entries, readId? (f entries) = some id → (Head.ofEntries entries).id = some id)
    (h : readId? (readEntries octets >>= f) = some id) : peekId octets = some id := by
  cases hread : readEntries octets with
  | error e =>
    have hnone := id?_of_readEntries hread
    rw [hread] at h
    exact absurd (hnone.symm.trans h) (by simp)
  | ok entries =>
    rw [hread] at h
    rw [peekId, hread]
    exact hf entries h

/-- What the versioned dialect reads has the identifier of the head. -/
theorem decode_peekId (h : readId? (decode octets) = some id) : peekId octets = some id := by
  refine peekId_of_bind (fun entries hentries => ?_) h
  split at hentries
  · rename_i version method i hhead
    rw [hhead]
    -- a version that is not known leaves the call untyped
    split at hentries
    · rwa [readId?_decodeTyped] at hentries
    · exact hentries
  · -- without a version, a method and an identifier there is no call
    cases hentries

/-- What the legacy dialect reads has the identifier of the head. -/
theorem decodeLegacy_peekId (h : readId? (decodeLegacy octets) = some id) :
    peekId octets = some id := by
  refine peekId_of_bind (fun entries hentries => ?_) h
  split at hentries
  · rename_i jsonrpc method i hhead
    rw [hhead]
    split at hentries
    · rwa [readId?_decodeTyped] at hentries
    · -- a mark that is not known
      exact hentries
  · -- without a mark, a method and an identifier there is no call
    cases hentries

end Rpc

namespace Node

open Rpc (peekId readId?)

/-- In whatever dialect octets are read, the identifier is the one that is found in them. -/
theorem decodeAny_peekId {octets : Bytes} {id : UInt64}
    (h : readId? ((decodeAny octets).mapError Prod.snd) = some id) : peekId octets = some id := by
  rw [decodeAny] at h
  split at h
  · rename_i d hd
    have hversioned : readId? (.ok d) = some id → peekId octets = some id := fun hid =>
      Rpc.decode_peekId (by rw [hd]; exact hid)
    -- a method that the versioned dialect does not know may be one of the legacy one
    split at h
    · split at h
      · rename_i legacy hlegacy
        split at h
        · -- the legacy one knows it
          exact Rpc.decodeLegacy_peekId (by rw [hlegacy]; exact h)
        · -- it does not know it either
          exact hversioned h
      · exact hversioned h
    · exact hversioned h
  · -- the params are not readable
    rename_i i method he
    exact Rpc.decode_peekId (by rw [he]; exact h)
  · -- the head is not that of a versioned call
    rename_i e hbad he
    split at h
    · rename_i legacy hlegacy
      exact Rpc.decodeLegacy_peekId (by rw [hlegacy]; exact h)
    · rename_i i method hlegacy
      exact Rpc.decodeLegacy_peekId (by rw [hlegacy]; exact h)
    · -- nor that of a legacy one
      exact Rpc.decode_peekId (by rw [he]; exact h)

end Node

end FeedNode
