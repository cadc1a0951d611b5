import FeedNode.Proofs.Delivery.Trace

/-!
# Queues that never wait

Over a carrier in memory that confirms every frame at once no queue outlives the call that began it:
nothing is ever owed, and no receipt is still to come. Whatever is enqueued or sent past the queue
then arrives at once and in order, unless its peer is offline.

Main statements: `Settled.after`, no event leaves anything waiting, and `enqueue_delivers` and
`sendDirect_delivers`.
-/

namespace FeedNode.Delivery

/-- The frames that a carrier takes, of some that are handed over to it. -/
def Memory.accepted (m : Memory) (frames : List (Peer × Bytes)) : List (Peer × Bytes) :=
  frames.filter fun (peer, _) => peer ∉ m.offline

namespace Queues

variable {d d' d'' : Queues Memory}

/-- The carrier confirms every frame at once, and nothing waits. -/
structure Settled (d : Queues Memory) : Prop where
  automatic : d.carrier.automatic = true
  held : d.carrier.held = []
  queues : d.queues = .empty

/-- Some frames were sent and nothing else, except to peers that are offline. -/
structure Delivers (frames : List (Peer × Bytes)) (d d' : Queues Memory) : Prop where
  settled : d'.Settled
  offline : d'.carrier.offline = d.carrier.offline
  sent : d'.carrier.sent = d.carrier.sent ++ d.carrier.accepted frames

/-- Without frames nothing is delivered and nothing waits. -/
theorem Settled.delivers_nil (h : d.Settled) : d.Delivers [] d :=
  ⟨h, rfl, by simp [Memory.accepted]⟩

/-- What is delivered in two parts is delivered together. -/
theorem Delivers.trans {frames frames' : List (Peer × Bytes)} (h : d.Delivers frames d')
    (h' : d'.Delivers frames' d'') : d.Delivers (frames ++ frames') d'' := by
  refine ⟨h'.settled, h'.offline.trans h.offline, ?_⟩
  rw [h'.sent, h.sent, List.append_assoc]
  -- both parts meet the same peers offline
  simp only [Memory.accepted, h.offline, List.filter_append]

/-- A frame that is handed over is answered at once, and recorded unless its peer is offline. -/
theorem send_memory {m : Memory} (ha : m.automatic = true) (peer : Peer) (frame : Bytes)
    (origin : Origin) :
    ∃ receipt, Carrier.send m peer frame origin =
      ({ m with sent := m.sent ++ m.accepted [(peer, frame)] }, some receipt) := by
  by_cases hoff : peer ∈ m.offline
  · exact ⟨.offline, by simp [Carrier.send, Memory.accepted, hoff]⟩
  · exact ⟨.delivered, by simp [Carrier.send, Memory.accepted, hoff, ha]⟩

/-- A frame that is enqueued arrives at once, unless its peer is offline. -/
theorem enqueue_delivers (h : d.Settled) (peer : Peer) (frame : Bytes) :
    d.Delivers [(peer, frame)] (d.enqueue peer frame) := by
  obtain ⟨ha, hheld, hqueues⟩ := h
  obtain ⟨receipt, hsend⟩ := send_memory ha peer frame (.queue d.nextHandle)
  have hnone : d.queues.get? peer = none := by rw [hqueues, Dict.get?_empty]
  -- whatever the receipt says, nothing is left of the queue
  have hpump : pump peer d.nextHandle d.carrier [frame] =
      ({ d.carrier with sent := d.carrier.sent ++ d.carrier.accepted [(peer, frame)] }, []) := by
    rw [pump, hsend]
    cases receipt <;> rfl
  -- the queue that was begun is gone again
  have herase : d.queues.erase peer = .empty := by
    rw [hqueues]
    rfl
  simp only [enqueue, hnone, run, hpump]
  exact ⟨⟨ha, hheld, herase⟩, rfl, rfl⟩

/-- A receipt finds no queue, and leaves nothing waiting. -/
theorem onReceipt_settled (h : d.Settled) (peer : Peer) (origin : Origin) (receipt : Receipt) :
    (d.onReceipt peer origin receipt).Settled ∧
      (d.onReceipt peer origin receipt).carrier = d.carrier := by
  cases origin with
  | handler => exact ⟨h, rfl⟩
  | program => exact ⟨⟨h.automatic, h.held, h.queues⟩, rfl⟩
  | queue handle =>
    -- there is no queue that could wait for it
    have hnone : d.queues.get? peer = none := by rw [h.queues, Dict.get?_empty]
    simp only [onReceipt, hnone]
    exact ⟨h, trivial⟩

/-- A frame that is sent past the queue arrives at once, unless its peer is offline. -/
theorem sendDirect_delivers (h : d.Settled) (peer : Peer) (frame : Bytes) (origin : Origin) :
    d.Delivers [(peer, frame)] (d.sendDirect peer frame origin) := by
  obtain ⟨receipt, hsend⟩ := send_memory h.automatic peer frame origin
  -- the carrier after the frame, before its receipt is brought back
  let m : Memory := { d.carrier with sent := d.carrier.sent ++ d.carrier.accepted [(peer, frame)] }
  have hm : ({ d with carrier := m } : Queues Memory).Settled := ⟨h.automatic, h.held, h.queues⟩
  obtain ⟨hsettled, hcarrier⟩ := onReceipt_settled hm peer origin receipt
  simp only [sendDirect, hsend]
  exact ⟨hsettled, by rw [hcarrier], by rw [hcarrier]⟩

/-! ## Runs -/

/-- At first nothing waits. -/
theorem settled_new : (new (.new true) : Queues Memory).Settled :=
  ⟨rfl, rfl, rfl⟩

/-- A peer that goes offline leaves nothing waiting. -/
theorem Settled.peerOffline (h : d.Settled) (peer : Peer) : (d.peerOffline peer).Settled := by
  refine ⟨h.automatic, h.held, ?_⟩
  rw [Queues.peerOffline, h.queues]
  rfl

/-- No event leaves anything waiting. -/
theorem Settled.step (h : d.Settled) (e : Event) : (d.step e).Settled := by
  cases e with
  | enqueue peer frame => exact (enqueue_delivers h peer frame).settled
  | peerOffline peer => exact h.peerOffline peer
  | reply peer frame => exact (sendDirect_delivers h peer frame .handler).settled
  | send peer frame => exact (sendDirect_delivers h peer frame .program).settled
  | setOffline peer => exact ⟨h.automatic, h.held, h.queues⟩
  | receipt peer receipt =>
    -- nothing is held back, and so nothing can be fired
    have hnone : Holding.takeHeld? d.carrier peer = none := by
      simp [Holding.takeHeld?, Memory.takeHeld?, h.held]
    simp only [Queues.step, fire, hnone]
    exact h

/-- No run leaves anything waiting. -/
theorem Settled.after (h : d.Settled) (es : List Event) : (d.after es).Settled := by
  induction es generalizing d with
  | nil => exact h
  | cons e es ih => exact ih (h.step e)

end Queues

end FeedNode.Delivery
