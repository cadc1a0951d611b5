import FeedNode.Bytes

/-!
# Carriers

A carrier takes frames to peers. A send is answered by one receipt, either at once or later; which
of the two depends on the carrier. With every frame goes a note of who waits for its receipt.
-/

namespace FeedNode.Delivery

/-- The name of a peer. -/
abbrev Peer := String

/-- What became of one frame. -/
inductive Receipt where
  | delivered
  /-- The peer is not connected. -/
  | offline
  | failed
deriving DecidableEq, Repr

/-- Who waits for the receipt of a frame. -/
inductive Origin where
  /-- The queue of the peer that had this handle when the frame was sent. -/
  | queue (handle : Nat)
  /-- A handler that answered by itself and does not wait. -/
  | handler
  /-- The program that embeds the node. -/
  | program
deriving DecidableEq, Repr

/-- A way to take frames to peers. -/
class Carrier (σ : Type) where
  /-- Hands over a frame. `none` says that the receipt comes later. -/
  send : σ → Peer → Bytes → Origin → σ × Option Receipt

end FeedNode.Delivery
