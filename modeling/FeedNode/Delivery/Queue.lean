import FeedNode.Delivery.Memory
import FeedNode.Dict

/-!
# Delivery queues

A peer that is owed frames has a queue. Its first frame is in flight: it was handed to the carrier,
and the next one follows when the receipt of it comes. A queue lives from the first frame for a
peer that has none until it is empty or the peer is offline; each has a handle of its own, so that
a receipt that comes after its queue ended is recognised and ignored.
-/

namespace FeedNode.Delivery

/-- The frames owed to a peer; the first is in flight. -/
structure PeerQueue where
  handle : Nat
  pending : List Bytes
deriving Repr

/-- The queues of all peers over one carrier. -/
structure Queues (σ : Type) where
  carrier : σ
  queues : Dict Peer PeerQueue
  nextHandle : Nat
  /-- The receipts of the frames that the embedding program sent by itself. -/
  receipts : List (Peer × Receipt)

namespace Queues

/-- No queue at all. -/
def new {σ : Type} (carrier : σ) : Queues σ where
  carrier := carrier
  queues := .empty
  nextHandle := 0
  receipts := []

variable {σ : Type}

/-- The number of frames owed to a peer, the one in flight included. -/
def pending (d : Queues σ) (peer : Peer) : Nat :=
  ((d.queues.get? peer).map fun q => q.pending.length).getD 0

/-- Nothing is owed to the peer. -/
def isIdle (d : Queues σ) (peer : Peer) : Bool :=
  !d.queues.contains peer

/-- The peer is offline: what it was owed is dropped. -/
def peerOffline (d : Queues σ) (peer : Peer) : Queues σ :=
  { d with queues := d.queues.erase peer }

variable [Carrier σ]

/-- Hands over the first of some frames, and the following ones as long as their receipts come at
once. What is left is still owed; its first frame is in flight. -/
def pump (peer : Peer) (handle : Nat) : σ → List Bytes → σ × List Bytes
  | c, [] => (c, [])
  | c, frame :: rest =>
    match Carrier.send c peer frame (.queue handle) with
    -- the frame stays at the front while it is in flight
    | (c, none) => (c, frame :: rest)
    | (c, some .offline) => (c, [])
    | (c, some _) => pump peer handle c rest

/-- Hands over the frames of a peer's queue, which ends if nothing is left of them. -/
def run (d : Queues σ) (peer : Peer) (handle : Nat) (frames : List Bytes) : Queues σ :=
  match pump peer handle d.carrier frames with
  | (c, []) => { d with carrier := c, queues := d.queues.erase peer }
  | (c, pending) => { d with carrier := c, queues := d.queues.insert peer { handle, pending } }

/-- Owes a peer one more frame, and sends it at once if nothing else is owed. -/
def enqueue (d : Queues σ) (peer : Peer) (frame : Bytes) : Queues σ :=
  match d.queues.get? peer with
  | some q =>
    { d with queues := d.queues.insert peer { q with pending := q.pending ++ [frame] } }
  | none =>
    let handle := d.nextHandle
    { d with nextHandle := handle + 1 }.run peer handle [frame]

/-- The receipt of a frame came to the one who waits for it. -/
def onReceipt (d : Queues σ) (peer : Peer) (origin : Origin) (receipt : Receipt) : Queues σ :=
  match origin with
  | .handler => d
  | .program => { d with receipts := d.receipts ++ [(peer, receipt)] }
  | .queue handle =>
    match d.queues.get? peer with
    | none => d
    | some q =>
      -- a queue that has another handle did not send this frame
      if q.handle = handle then
        match receipt with
        | .offline => d.peerOffline peer
        | .delivered | .failed => d.run peer handle q.pending.tail
      else d

/-- Sends a frame past the queue. -/
def sendDirect (d : Queues σ) (peer : Peer) (frame : Bytes) (origin : Origin) : Queues σ :=
  match Carrier.send d.carrier peer frame origin with
  | (c, none) => { d with carrier := c }
  | (c, some receipt) => { d with carrier := c }.onReceipt peer origin receipt

/-- Fires the oldest receipt that a peer still owes; tells whether there was one. -/
def deliverNext (d : Queues Memory) (peer : Peer) (receipt : Receipt) : Bool × Queues Memory :=
  match d.carrier.takeHeld? peer with
  | none => (false, d)
  | some (h, m) => (true, { d with carrier := m }.onReceipt peer h.origin receipt)

end Queues

end FeedNode.Delivery
