import FeedNode.Proofs.Delivery.SessionInvariant

/-!
# One frame in flight

Of all receipts that a peer still owes, at most one is waited for: that of the front of its queue.
The others were asked for by handlers, by the embedding program, or by queues that are deprecated,
and whatever they say, they do nothing.

Main statement: `History.one_in_flight`.
-/

namespace FeedNode.Delivery

namespace History

variable {h : History}

instance (h : History) (handle : Nat) : Decidable (h.Deprecated handle) :=
  inferInstanceAs (Decidable (∃ s ∈ h.sessions, s.handle = handle ∧ s.ending = some .offline))

/-- A receipt that was asked for under a handle that is not deprecated. -/
def Awaited (h : History) (x : Held) : Prop :=
  match x.origin with
  | .queue handle => ¬ h.Deprecated handle
  | .handler | .program => False

instance (h : History) (x : Held) : Decidable (h.Awaited x) := by
  unfold Awaited
  split <;> infer_instance

/-- The receipts of a peer's queued frames that are still waited for. -/
def inFlight (h : History) (peer : Peer) : List Held :=
  h.delivery.carrier.carrier.held.filter fun x => x.peer = peer ∧ h.Awaited x

/-- The handle of a queue is not deprecated. -/
theorem Valid.not_deprecated (hv : h.Valid) {peer : Peer} {q : PeerQueue}
    (hq : h.delivery.queues.get? peer = some q) : ¬ h.Deprecated q.handle := by
  rintro ⟨s, hs, hhandle, hend⟩
  -- the session of the handle is the one of the queue, which is live
  obtain ⟨t, ht, -, hth, hlive⟩ := hv.covered peer q hq
  have hst : s = t := List.inj_on_of_nodup_map hv.nodup hs ht (hhandle.trans hth.symm)
  rw [hst, hlive] at hend
  cases hend

/-- The front of a queue is the one frame of it in flight. -/
theorem Valid.front_in_flight (hv : h.Valid) {peer : Peer} {q : PeerQueue}
    (hq : h.delivery.queues.get? peer = some q) :
    ∃ front rest, q.pending = front :: rest ∧
      h.delivery.plain.outstanding q.handle = [⟨peer, front, .queue q.handle⟩] := by
  obtain ⟨s, hs, rfl, hhandle, hlive⟩ := hv.covered peer q hq
  obtain ⟨front, rest, hget, -, hflight, -⟩ := (hv.sound s hs).live hlive
  rw [hq] at hget
  rw [hhandle] at hflight
  exact ⟨front, rest, by rw [Option.some.inj hget], hflight⟩

/-- Whoever waits for a receipt is the queue of its peer. -/
theorem Valid.get?_of_awaited (hv : h.Valid) {x : Held}
    (hx : x ∈ h.delivery.carrier.carrier.held) {n : Nat} (horigin : x.origin = .queue n)
    (hn : ¬ h.Deprecated n) : ∃ q, h.delivery.queues.get? x.peer = some q ∧ q.handle = n := by
  obtain ⟨s, hs, rfl, hpeer⟩ := hv.held x hx n horigin
  cases hend : s.ending with
  | none =>
    rw [← hpeer]
    exact hv.get?_of_live hs hend
  | some k =>
    cases k with
    | drained =>
      -- a drained session has all its receipts
      have hmem : x ∈ h.delivery.plain.outstanding s.handle :=
        List.mem_filter.2 ⟨hx, by simp [horigin]⟩
      rw [((hv.sound s hs).drained hend).2] at hmem
      cases hmem
    | offline => exact absurd ⟨s, hs, rfl, hend⟩ hn

/-- What is in flight to a peer is the front of its queue. -/
theorem Valid.inFlight_eq (hv : h.Valid) (peer : Peer) :
    h.inFlight peer =
      match h.delivery.queues.get? peer with
      | none => []
      | some q => h.delivery.plain.outstanding q.handle := by
  -- what is awaited was asked for by the queue that the peer has now
  have hawaited : ∀ x ∈ h.delivery.carrier.carrier.held, x.peer = peer ∧ h.Awaited x →
      ∃ q, h.delivery.queues.get? peer = some q ∧ x.origin = .queue q.handle := by
    rintro x hx ⟨rfl, ha⟩
    rw [Awaited] at ha
    split at ha
    · rename_i n horigin
      obtain ⟨q, hq, hhandle⟩ := hv.get?_of_awaited hx horigin ha
      exact ⟨q, hq, by rw [hhandle, horigin]⟩
    · exact ha.elim
    · exact ha.elim
  split
  · -- the peer has none, and so nothing of it is awaited
    rename_i hq
    refine List.filter_eq_nil_iff.2 fun x hx ha => ?_
    obtain ⟨q, hget, -⟩ := hawaited x hx (of_decide_eq_true ha)
    rw [hq] at hget
    cases hget
  · -- the peer has a queue, whose front is in flight
    rename_i q hq
    obtain ⟨front, rest, -, hflight⟩ := hv.front_in_flight hq
    refine List.filter_congr fun x hx => ?_
    rw [Bool.eq_iff_iff, decide_eq_true_iff, beq_iff_eq]
    constructor
    · -- awaited, and so asked for by the queue
      intro ha
      obtain ⟨q', hq', horigin⟩ := hawaited x hx ha
      rw [hq] at hq'
      rw [horigin, Option.some.inj hq']
    · -- asked for by the queue, and so awaited
      intro horigin
      have hmem : x ∈ h.delivery.plain.outstanding q.handle :=
        List.mem_filter.2 ⟨hx, by simp [horigin]⟩
      rw [hflight] at hmem
      refine ⟨by rw [List.mem_singleton.1 hmem], ?_⟩
      rw [Awaited, horigin]
      exact hv.not_deprecated hq

/-- A peer has a queue if and only if exactly one receipt that it owes was asked for under a handle
that is not deprecated. That handle is the queue's, no other receipt was asked for under it, and
the frame of the receipt is the queue's front. A receipt that was asked for under a deprecated
handle, or under another than that of the peer's queue, does nothing: no queue changes, and the
carrier, which fired it, is not used. -/
theorem one_in_flight (automatic : Bool) (es : List Event) :
    let h := (start automatic).after es
    h.delivery.plain = (Queues.new (.new automatic)).after es ∧
      (∀ peer, (h.delivery.queues.get? peer).isSome = true ↔ (h.inFlight peer).length = 1) ∧
      (∀ peer, (h.inFlight peer).length ≤ 1) ∧
      (∀ peer q, h.delivery.queues.get? peer = some q →
        ∃ front rest, q.pending = front :: rest ∧
          h.delivery.plain.outstanding q.handle = [⟨peer, front, .queue q.handle⟩] ∧
          h.inFlight peer = [⟨peer, front, .queue q.handle⟩]) ∧
      (∀ peer handle,
        (∃ q, h.delivery.queues.get? peer = some q ∧ q.handle = handle) ↔
          ¬ h.Deprecated handle ∧
            ∃ frame, h.delivery.plain.outstanding handle = [⟨peer, frame, .queue handle⟩]) ∧
      ∀ x ∈ h.delivery.carrier.carrier.held, ∀ handle, x.origin = .queue handle →
        (h.Deprecated handle ∨
          ∀ q, h.delivery.queues.get? x.peer = some q → q.handle ≠ handle) →
        ∀ (c : Memory) (receipt : Receipt),
          { h.delivery.plain with carrier := c }.onReceipt x.peer x.origin receipt =
            { h.delivery.plain with carrier := c } := by
  intro h
  have hv : h.Valid := valid_after automatic es
  -- the front, seen from the queue of the peer
  have hfront : ∀ peer q, h.delivery.queues.get? peer = some q →
      ∃ front rest, q.pending = front :: rest ∧
        h.delivery.plain.outstanding q.handle = [⟨peer, front, .queue q.handle⟩] ∧
        h.inFlight peer = [⟨peer, front, .queue q.handle⟩] := by
    intro peer q hq
    obtain ⟨front, rest, hpending, hflight⟩ := hv.front_in_flight hq
    refine ⟨front, rest, hpending, hflight, ?_⟩
    rw [hv.inFlight_eq, hq]
    exact hflight
  -- nothing is in flight without a queue
  have hidle : ∀ peer, h.delivery.queues.get? peer = none → h.inFlight peer = [] := by
    intro peer hq
    rw [hv.inFlight_eq, hq]
  refine ⟨?_, ?_, ?_, hfront, ?_, ?_⟩
  · -- the run over the plain carrier is the same
    rw [show h.delivery = (start automatic).delivery.after es from
      delivery_after (start automatic) es, Queues.after_plain]
    rfl
  · -- a queue is there exactly if one receipt is awaited
    intro peer
    cases hq : h.delivery.queues.get? peer with
    | none => simp [hidle peer hq]
    | some q =>
      obtain ⟨front, rest, -, -, hflight⟩ := hfront peer q hq
      simp [hflight]
  · -- and never are there two
    intro peer
    cases hq : h.delivery.queues.get? peer with
    | none => simp [hidle peer hq]
    | some q =>
      obtain ⟨front, rest, -, -, hflight⟩ := hfront peer q hq
      simp [hflight]
  · -- a handle is that of a queue exactly if it is not deprecated and has its receipt
    intro peer handle
    constructor
    · rintro ⟨q, hq, rfl⟩
      obtain ⟨front, rest, -, hflight, -⟩ := hfront peer q hq
      exact ⟨hv.not_deprecated hq, front, hflight⟩
    · rintro ⟨hn, frame, hflight⟩
      have hmem : (⟨peer, frame, .queue handle⟩ : Held) ∈
          h.delivery.plain.outstanding handle := by
        rw [hflight]
        exact List.mem_singleton_self _
      exact hv.get?_of_awaited (List.mem_filter.1 hmem).1 rfl hn
  · -- whatever else comes is of nobody's queue
    intro x _ handle horigin hstale c receipt
    have hother : ∀ q, h.delivery.queues.get? x.peer = some q → q.handle ≠ handle := by
      rcases hstale with hdeprecated | hother
      · intro q hq hhandle
        exact hv.not_deprecated hq (hhandle ▸ hdeprecated)
      · exact hother
    rw [horigin, Queues.onReceipt]
    split
    · rfl
    · rename_i q hq
      rw [if_neg (hother q hq)]

/-- The receipt of a queue that its peer left comes when the peer has the next one. -/
theorem one_in_flight_reconnected :
    let es : List Event := [.enqueue "p" [1], .peerOffline "p", .enqueue "p" [2]]
    let h := (start false).after es
    h.inFlight "p" = [⟨"p", [2], .queue 1⟩] ∧ h.Deprecated 0 ∧
      ({ h.delivery.plain with carrier := Memory.new false }.onReceipt "p" (.queue 0)
        .failed).pending "p" = 1 := by
  intro es h
  obtain ⟨-, -, -, -, -, hstale⟩ := one_in_flight false es
  -- the receipt under the handle of the first queue does nothing
  have hnothing := hstale ⟨"p", [1], .queue 0⟩ (by decide) 0 rfl (.inl (by decide))
    (Memory.new false) .failed
  refine ⟨by decide, by decide, ?_⟩
  rw [hnothing]
  decide

end History

end FeedNode.Delivery
