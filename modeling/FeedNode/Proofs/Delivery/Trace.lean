import FeedNode.Proofs.Delivery.Carriers

/-!
# Runs and their traces

A run takes the queues over a carrier that holds receipts back through a list of events. The same
run over a `Traced` carrier leaves a record of everything that was handed over, each frame with the
handle of the queue it came from; without the record it is the run over the carrier itself.

Main statement: `Queues.after_plain`, a trace changes nothing.
-/

namespace FeedNode.Delivery

/-- A carrier in memory: peers can be marked offline, and receipts fired. -/
class Holding (σ : Type) [Carrier σ] where
  /-- Refuses all further frames to a peer. -/
  setOffline : σ → Peer → σ
  /-- The oldest frame of a peer whose receipt is still to come, and the carrier without it. -/
  takeHeld? : σ → Peer → Option (Held × σ)

instance : Holding Memory where
  setOffline := Memory.setOffline
  takeHeld? := Memory.takeHeld?

/-- What may happen to the queues and their carrier. -/
inductive Event where
  | enqueue (peer : Peer) (frame : Bytes)
  | peerOffline (peer : Peer)
  /-- A handler sends a frame past the queue and does not wait for the receipt. -/
  | reply (peer : Peer) (frame : Bytes)
  /-- The embedding program sends a frame past the queue. -/
  | send (peer : Peer) (frame : Bytes)
  | setOffline (peer : Peer)
  /-- The oldest receipt that the peer still owes is fired. -/
  | receipt (peer : Peer) (receipt : Receipt)
deriving DecidableEq

namespace Queues

variable {σ : Type} [Carrier σ] [Holding σ]

/-- Fires the oldest receipt that a peer still owes, if there is one. -/
def fire (d : Queues σ) (peer : Peer) (receipt : Receipt) : Queues σ :=
  match Holding.takeHeld? d.carrier peer with
  | none => d
  | some (h, c) => { d with carrier := c }.onReceipt peer h.origin receipt

/-- The queues after an event. -/
def step (d : Queues σ) : Event → Queues σ
  | .enqueue peer frame => d.enqueue peer frame
  | .peerOffline peer => d.peerOffline peer
  | .reply peer frame => d.sendDirect peer frame .handler
  | .send peer frame => d.sendDirect peer frame .program
  | .setOffline peer => { d with carrier := Holding.setOffline d.carrier peer }
  | .receipt peer receipt => d.fire peer receipt

/-- The queues after some events. -/
def after (d : Queues σ) (es : List Event) : Queues σ :=
  es.foldl step d

/-- To fire a receipt is to deliver the next one, without being told whether there was one. -/
theorem fire_eq_deliverNext (d : Queues Memory) (peer : Peer) (receipt : Receipt) :
    d.fire peer receipt = (d.deliverNext peer receipt).2 := by
  simp only [fire, deliverNext, Holding.takeHeld?]
  cases d.carrier.takeHeld? peer <;> rfl

end Queues

/-! ## Traces -/

/-- A frame that was handed over, and the receipt if it came at once. -/
structure HandOver where
  peer : Peer
  frame : Bytes
  origin : Origin
  answer : Option Receipt
deriving DecidableEq, Repr

/-- A carrier with a record of all that was handed over, in order. -/
structure Traced (σ : Type) where
  carrier : σ
  trace : List HandOver

instance {σ : Type} [Carrier σ] : Carrier (Traced σ) where
  send c peer frame origin :=
    let (carrier, answer) := Carrier.send c.carrier peer frame origin
    ({ carrier, trace := c.trace ++ [{ peer, frame, origin, answer }] }, answer)

instance {σ : Type} [Carrier σ] [Holding σ] : Holding (Traced σ) where
  setOffline c peer := { c with carrier := Holding.setOffline c.carrier peer }
  takeHeld? c peer := (Holding.takeHeld? c.carrier peer).map fun (h, carrier) =>
    (h, { c with carrier })

namespace Queues

variable {σ : Type}

/-- The queues without the record. -/
def plain (d : Queues (Traced σ)) : Queues σ :=
  { d with carrier := d.carrier.carrier }

variable [Carrier σ]

/-- A carrier answers the same with and without a record. -/
theorem answersAlike_traced : AnswersAlike (Traced.carrier : Traced σ → σ) :=
  fun _ _ _ _ => rfl

/-- Enqueueing does not depend on the record. -/
theorem enqueue_plain (d : Queues (Traced σ)) (peer : Peer) (frame : Bytes) :
    (d.enqueue peer frame).plain = d.plain.enqueue peer frame :=
  enqueue_view answersAlike_traced d peer frame

/-- A receipt does the same with and without the record. -/
theorem onReceipt_plain (d : Queues (Traced σ)) (peer : Peer) (origin : Origin)
    (receipt : Receipt) :
    (d.onReceipt peer origin receipt).plain = d.plain.onReceipt peer origin receipt :=
  onReceipt_view answersAlike_traced d peer origin receipt

/-- Sending past the queue does not depend on the record. -/
theorem sendDirect_plain (d : Queues (Traced σ)) (peer : Peer) (frame : Bytes)
    (origin : Origin) :
    (d.sendDirect peer frame origin).plain = d.plain.sendDirect peer frame origin :=
  sendDirect_view answersAlike_traced d peer frame origin

variable [Holding σ]

/-- Firing a receipt does not depend on the record. -/
theorem fire_plain (d : Queues (Traced σ)) (peer : Peer) (receipt : Receipt) :
    (d.fire peer receipt).plain = d.plain.fire peer receipt := by
  rw [fire, fire, show d.plain.carrier = d.carrier.carrier from rfl]
  -- the record does not change what is held back
  have htake : Holding.takeHeld? d.carrier peer =
      (Holding.takeHeld? d.carrier.carrier peer).map fun (h, carrier) =>
        (h, { d.carrier with carrier }) := rfl
  rw [htake]
  cases Holding.takeHeld? d.carrier.carrier peer with
  | none => rfl
  | some taken => exact onReceipt_plain _ _ _ _

/-- No event depends on the record. -/
theorem step_plain (d : Queues (Traced σ)) (e : Event) : (d.step e).plain = d.plain.step e := by
  cases e with
  | enqueue peer frame => exact enqueue_plain d peer frame
  | peerOffline peer => rfl
  | reply peer frame => exact sendDirect_plain d peer frame .handler
  | send peer frame => exact sendDirect_plain d peer frame .program
  | setOffline peer => rfl
  | receipt peer receipt => exact fire_plain d peer receipt

/-- A trace changes nothing. -/
theorem after_plain (d : Queues (Traced σ)) (es : List Event) :
    (d.after es).plain = d.plain.after es := by
  induction es generalizing d with
  | nil => rfl
  | cons e es ih =>
    rw [after, after, List.foldl_cons, List.foldl_cons, ← step_plain]
    exact ih (d.step e)

end Queues

end FeedNode.Delivery
