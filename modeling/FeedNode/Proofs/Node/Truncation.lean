import FeedNode.Proofs.MessagePack.SelfDelimiting
import FeedNode.Proofs.Node.Answers
import FeedNode.Proofs.Rpc.RequestRoundTrip

/-!
# Calls that are cut short, and calls with more behind them

The octets of a call say where it ends. A part of them is no call of either dialect and has no
identifier that it could be answered under, so that a node takes no notice of it; and octets that
follow a call have no part in what is read.

Main statement: `calls_delimited`.
-/

namespace FeedNode

namespace Rpc

open MessagePack

variable {r : Request}

/-- Whatever follows a call, the call is what is read. -/
theorem unpack?_encode_append (hr : r.value.Writable) (t : Bytes) :
    Value.unpack? maxLevels (r.encode ++ t) = some (r.value, t) :=
  Value.unpack?_pack r.value hr maxLevels r.height_value_le t

/-- A part of a call is not even a value. -/
theorem readEntries_of_strict (hr : r.value.Writable) {p : Bytes} (hp : p <+: r.encode)
    (hne : p ≠ r.encode) : readEntries p = .error .unreadable := by
  -- what is missing is not nothing
  obtain ⟨q, hq⟩ := hp
  have hnonempty : q ≠ [] := by
    rintro rfl
    exact hne (by simpa using hq)
  -- the whole call leaves nothing over, so that its last octets are all needed
  have hwhole : Value.unpack? maxLevels (p ++ q) = some (r.value, []) := by
    rw [hq]
    simpa using unpack?_encode_append hr []
  have hnone := (Value.selfDelimiting_unpack? maxLevels).eq_none hwhole hnonempty
  simp only [readEntries, hnone]

/-- What follows a call does not change the entries that are read. -/
theorem readEntries_encode_append (hr : r.value.Writable) (t : Bytes) :
    readEntries (r.encode ++ t) = readEntries r.encode := by
  have halone := unpack?_encode_append hr []
  rw [List.append_nil] at halone
  simp only [readEntries, unpack?_encode_append hr t, halone]
  rfl

end Rpc

namespace Node

open Delivery (Carrier Peer)
open Rpc (Request)

/-- No strict part of the octets of a call is a call: it is unreadable in both dialects and has no
identifier, and a node that is sent it stays as it is. And whatever follows the octets of a call,
the same is read in both dialects, and the same identifier is found. -/
theorem calls_delimited {r : Request} (hr : r.value.Writable) :
    (∀ p, p <+: r.encode → p ≠ r.encode →
        Rpc.decode p = .error .unreadable ∧ Rpc.decodeLegacy p = .error .unreadable ∧
          Rpc.peekId p = none ∧
          ∀ {σ : Type} [Carrier σ] (n : Node σ) (peer : Peer), n.receive peer p = n) ∧
      ∀ t, Rpc.decode (r.encode ++ t) = Rpc.decode r.encode ∧
        Rpc.decodeLegacy (r.encode ++ t) = Rpc.decodeLegacy r.encode ∧
        Rpc.peekId (r.encode ++ t) = Rpc.peekId r.encode := by
  refine ⟨fun p hp hne => ?_, fun t => ?_⟩
  · have hread := Rpc.readEntries_of_strict hr hp hne
    -- without entries there is no identifier
    have hpeek : Rpc.peekId p = none := by
      simp only [Rpc.peekId, hread]
    refine ⟨?_, ?_, hpeek, fun n peer => receive_dropped hpeek⟩
    · simp only [Rpc.decode, hread, bind, Except.bind]
    · simp only [Rpc.decodeLegacy, hread, bind, Except.bind]
  · -- all three readings start from the same entries
    have hread := Rpc.readEntries_encode_append hr t
    simp only [Rpc.decode, Rpc.decodeLegacy, Rpc.peekId, hread, and_self]

/-- A comment without its last octet, and with a reserved octet behind it. -/
theorem calls_delimited_comment :
    let r : Request := .makeLegacy 9 (.call .postComment
      { token := "m"
        channelId := 1
        postId := 18446744073709551615
        referId := 0
        content := [0, 0xc1]
        thumbnails := []
        hashId := ""
        proof := "" })
    r.value.Writable ∧ r.encode.dropLast <+: r.encode ∧ r.encode.dropLast ≠ r.encode ∧
      Rpc.decodeLegacy r.encode.dropLast = .error .unreadable ∧
      sampleNode.receive "member" r.encode.dropLast = sampleNode ∧
      Rpc.decodeLegacy (r.encode ++ [0xc1]) = Rpc.decodeLegacy r.encode := by
  intro r
  have hr : r.value.Writable := Request.writable_value (by decide) (by decide)
  have hpart : r.encode.dropLast <+: r.encode := List.dropLast_prefix _
  -- the last octet is needed
  have hne : r.encode.dropLast ≠ r.encode := by decide +kernel
  obtain ⟨hcut, hmore⟩ := calls_delimited hr
  obtain ⟨-, hlegacy, -, hsame⟩ := hcut _ hpart hne
  exact ⟨hr, hpart, hne, hlegacy, hsame sampleNode "member", (hmore [0xc1]).2.1⟩

end Node

end FeedNode
