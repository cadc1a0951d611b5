import FeedNode.Proofs.Delivery.Session

/-!
# Bystanders

Whatever is done for one peer, the other peers are bystanders: nothing is sent to them, and their
queues stay as they are. So a peer that has no queue gets no frame until something is enqueued for
it or sent past the queues to it. Receipts do not change that, not even those of the frames that it
was sent itself: whoever waited for them is gone.

Main statement: `Spares.step`.
-/

namespace FeedNode.Delivery

/-- The frames that were recorded for a peer, in order. -/
def Memory.sentTo (m : Memory) (peer : Peer) : List Bytes :=
  (m.sent.filter fun x => x.1 = peer).map Prod.snd

/-- The event hands over a frame for the peer. -/
def Event.isFor (peer : Peer) : Event → Prop
  | .enqueue p _ | .reply p _ | .send p _ => p = peer
  | .peerOffline _ | .setOffline _ | .receipt _ _ => False

namespace Queues

/-- Nothing was sent to the peer, and its queue is what it was. -/
structure Spares (peer : Peer) (d d' : Queues Memory) : Prop where
  queue : d'.queues.get? peer = d.queues.get? peer
  sentTo : d'.carrier.sentTo peer = d.carrier.sentTo peer

variable {d d' d'' : Queues Memory} {peer other : Peer}

theorem Spares.refl : d.Spares peer d := ⟨rfl, rfl⟩

theorem Spares.trans (h : Spares peer d d') (h' : Spares peer d' d'') : Spares peer d d'' :=
  ⟨h'.queue.trans h.queue, h'.sentTo.trans h.sentTo⟩

/-! ## Frames for others -/

/-- A frame that is sent to one peer is not recorded for another. -/
theorem sentTo_send (m : Memory) (h : other ≠ peer) (frame : Bytes) (origin : Origin) :
    (Carrier.send m other frame origin).1.sentTo peer = m.sentTo peer := by
  simp only [Carrier.send]
  split
  · -- refused
    rfl
  · -- recorded, at once or to be confirmed later, for the other peer
    split <;> simp [Memory.sentTo, h]

/-- A queue's frames for one peer are not recorded for another. -/
theorem keptBySends_sentTo (h : other ≠ peer) :
    KeptBySends other fun m m' : Memory => m'.sentTo peer = m.sentTo peer where
  refl _ := rfl
  trans h h' := h'.trans h
  send m frame handle := sentTo_send m h frame (.queue handle)

/-- A frame that is enqueued for one peer spares the others. -/
theorem enqueue_spares (d : Queues Memory) (h : other ≠ peer) (frame : Bytes) :
    d.Spares peer (d.enqueue other frame) :=
  ⟨enqueue_get?_of_ne d h.symm frame, (keptBySends_sentTo h).enqueue d frame⟩

/-- A peer that goes offline takes no other with it. -/
theorem peerOffline_spares (d : Queues Memory) (h : other ≠ peer) :
    d.Spares peer (d.peerOffline other) :=
  ⟨peerOffline_get?_of_ne d h.symm, rfl⟩

/-- A receipt of one peer spares the others. -/
theorem onReceipt_spares (d : Queues Memory) (h : other ≠ peer) (origin : Origin)
    (receipt : Receipt) : d.Spares peer (d.onReceipt other origin receipt) :=
  ⟨onReceipt_get?_of_ne d h.symm origin receipt,
    (keptBySends_sentTo h).onReceipt d origin receipt⟩

/-- A frame that is sent past the queue of one peer spares the others. -/
theorem sendDirect_spares (d : Queues Memory) (h : other ≠ peer) (frame : Bytes)
    (origin : Origin) : d.Spares peer (d.sendDirect other frame origin) :=
  ⟨sendDirect_get?_of_ne d h.symm frame origin,
    (keptBySends_sentTo h).sendDirect d frame origin (sentTo_send d.carrier h frame origin)⟩

/-! ## Peers without a queue -/

/-- No receipt that a peer without a queue still owes makes anything be sent to it. -/
theorem onReceipt_spares_gone (hgone : d.queues.get? peer = none) (p : Peer) (origin : Origin)
    (receipt : Receipt) : d.Spares peer (d.onReceipt p origin receipt) := by
  by_cases h : p = peer
  · subst h
    -- the receipt may well be of a frame of the peer, but no queue waits for it any more
    have hnobody : ∀ n, origin = .queue n → ∀ q, d.queues.get? p = some q → q.handle ≠ n := by
      intro n _ q hq
      rw [hgone] at hq
      cases hq
    obtain ⟨hqueues, -, hcarrier⟩ := onReceipt_stale d p receipt hnobody
    exact ⟨by rw [hqueues], by rw [hcarrier]⟩
  · exact onReceipt_spares d h origin receipt

/-- Firing a receipt of any peer spares a peer without a queue. -/
theorem fire_spares (hgone : d.queues.get? peer = none) (p : Peer) (receipt : Receipt) :
    d.Spares peer (d.fire p receipt) := by
  rw [fire]
  split
  · -- nobody owes one
    exact .refl
  · rename_i x m htake
    obtain ⟨before, behind, -, rfl, -, -⟩ := takeHeld?_eq_some htake
    -- the receipt is taken from the carrier first
    let taken : Queues Memory := { d with carrier := { d.carrier with held := before ++ behind } }
    have htaken : d.Spares peer taken := ⟨rfl, rfl⟩
    have hstill : taken.queues.get? peer = none := hgone
    exact htaken.trans (onReceipt_spares_gone hstill p x.origin receipt)

/-- An event that hands over nothing for a peer without a queue leaves the peer alone. -/
theorem Spares.step (hgone : d.queues.get? peer = none) {e : Event} (he : ¬ e.isFor peer) :
    d.Spares peer (d.step e) := by
  cases e with
  | enqueue p frame => exact enqueue_spares d he frame
  | reply p frame => exact sendDirect_spares d he frame .handler
  | send p frame => exact sendDirect_spares d he frame .program
  | setOffline p => exact ⟨rfl, rfl⟩
  | receipt p receipt => exact fire_spares hgone p receipt
  | peerOffline p =>
    by_cases h : p = peer
    · -- the peer itself has no queue to lose
      subst h
      exact ⟨by simp [Queues.step, peerOffline, Dict.get?_erase, hgone], rfl⟩
    · exact peerOffline_spares d h

end Queues

end FeedNode.Delivery
