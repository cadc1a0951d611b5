import FeedNode.Delivery.Queue
import Mathlib.Data.List.Forall2

/-!
# What is in the frames

The queues and the carrier in memory pass frames on and do not look into them. So if two of them are
alike but for what is in their frames, and are given frames to pass on that correspond to one
another, then they go on alike: the same frames are recorded, held back, owed and dropped, whatever
is in them.

Main statements: `Queues.Alike.enqueue` and `Queues.Alike.sendDirect`.
-/

namespace FeedNode

/-! ## Dictionaries -/

namespace Dict

variable {κ β : Type}

/-- The same keys in the same order, with values that stand in a relation. -/
def Alike (R : κ → β → β → Prop) (d d' : Dict κ β) : Prop :=
  List.Forall₂ (fun e e' => e'.1 = e.1 ∧ R e.1 e.2 e'.2) d.entries d'.entries

variable {R : κ → β → β → Prop} {d d' : Dict κ β}

/-- A dictionary is like itself under a relation that is reflexive. -/
theorem Alike.refl (h : ∀ k v, R k v v) (d : Dict κ β) : d.Alike R d :=
  List.forall₂_same.2 fun e _ => ⟨rfl, h e.1 e.2⟩

variable [DecidableEq κ]

/-- Under one key alike dictionaries both have nothing, or values in the relation. -/
theorem Alike.get? (h : d.Alike R d') (key : κ) :
    Option.Rel (R key) (d.get? key) (d'.get? key) := by
  obtain ⟨es⟩ := d
  obtain ⟨es'⟩ := d'
  show Option.Rel (R key) (find? key es) (find? key es')
  replace h : List.Forall₂ (fun e e' => e'.1 = e.1 ∧ R e.1 e.2 e'.2) es es' := h
  induction h with
  | nil => exact .none
  | @cons e e' es es' he _ ih =>
    obtain ⟨k, v⟩ := e
    obtain ⟨k', v'⟩ := e'
    obtain ⟨rfl, hv⟩ : k' = k ∧ R k v v' := he
    rw [find?, find?]
    split
    · -- the key stands first in both
      rename_i hkey
      exact .some (hkey ▸ hv)
    · -- it stands further behind, or nowhere
      exact ih

/-- Alike dictionaries stay so when values in the relation are put under one key. -/
theorem Alike.insert (h : d.Alike R d') {key : κ} {value value' : β}
    (hvalue : R key value value') : (d.insert key value).Alike R (d'.insert key value') := by
  obtain ⟨es⟩ := d
  obtain ⟨es'⟩ := d'
  show List.Forall₂ _ (put key value es) (put key value' es')
  replace h : List.Forall₂ (fun e e' => e'.1 = e.1 ∧ R e.1 e.2 e'.2) es es' := h
  induction h with
  | nil => exact .cons ⟨rfl, hvalue⟩ .nil
  | @cons e e' es es' he hes ih =>
    obtain ⟨k, v⟩ := e
    obtain ⟨k', v'⟩ := e'
    obtain ⟨rfl, hv⟩ : k' = k ∧ R k v v' := he
    rw [put, put]
    split
    · -- the key is there, and its value is replaced
      exact .cons ⟨rfl, hvalue⟩ hes
    · -- the key is further behind, or is added at the end
      exact .cons ⟨rfl, hv⟩ ih

/-- Alike dictionaries stay so when one key is erased from both. -/
theorem Alike.erase (h : d.Alike R d') (key : κ) : (d.erase key).Alike R (d'.erase key) := by
  -- whether an entry is kept depends on its key
  refine List.rel_filter (fun e e' he => ?_) h
  show decide (e.1 ≠ key) = true ↔ decide (e'.1 ≠ key) = true
  rw [he.1]

end Dict

namespace Delivery

variable {R : Peer → Bytes → Bytes → Prop} {peer : Peer}

/-! ## The carrier in memory -/

/-- Two carriers that recorded the same frames but for what is in them; `R` says what may stand for
what in the frames of a peer. -/
structure Memory.Alike (R : Peer → Bytes → Bytes → Prop) (m m' : Memory) : Prop where
  automatic : m'.automatic = m.automatic
  offline : m'.offline = m.offline
  sent : List.Forall₂ (fun x x' => x'.1 = x.1 ∧ R x.1 x.2 x'.2) m.sent m'.sent
  held : List.Forall₂ (fun x x' => x'.peer = x.peer ∧ x'.origin = x.origin ∧
    R x.peer x.frame x'.frame) m.held m'.held

/-- A carrier is like itself. -/
theorem Memory.Alike.refl (hR : ∀ p b, R p b b) (m : Memory) : m.Alike R m :=
  ⟨rfl, rfl, List.forall₂_same.2 fun x _ => ⟨rfl, hR x.1 x.2⟩,
    List.forall₂_same.2 fun x _ => ⟨rfl, rfl, hR x.peer x.frame⟩⟩

/-- Carriers that are alike take frames that correspond and answer the same. -/
theorem Memory.Alike.send {m m' : Memory} (h : m.Alike R m') {frame frame' : Bytes}
    (hframe : R peer frame frame') (origin : Origin) :
    (Carrier.send m peer frame origin).1.Alike R (Carrier.send m' peer frame' origin).1 ∧
      (Carrier.send m' peer frame' origin).2 = (Carrier.send m peer frame origin).2 := by
  -- both record the frame at the same place
  have hsent : List.Forall₂ (fun x x' : Peer × Bytes => x'.1 = x.1 ∧ R x.1 x.2 x'.2)
      (m.sent ++ [(peer, frame)]) (m'.sent ++ [(peer, frame')]) :=
    List.rel_append h.sent (.cons ⟨rfl, hframe⟩ .nil)
  simp only [Carrier.send, h.offline, h.automatic]
  split
  · -- offline: nothing is recorded
    exact ⟨h, rfl⟩
  · split
    · -- confirmed at once
      exact ⟨⟨rfl, rfl, hsent, h.held⟩, rfl⟩
    · -- held back
      exact ⟨⟨rfl, rfl, hsent, List.rel_append h.held (.cons ⟨rfl, rfl, hframe⟩ .nil)⟩, rfl⟩

/-! ## Queues -/

/-- Two queues that differ in nothing but what is in their frames. -/
structure PeerQueue.Alike (R : Bytes → Bytes → Prop) (q q' : PeerQueue) : Prop where
  handle : q'.handle = q.handle
  pending : List.Forall₂ R q.pending q'.pending

namespace Queues

/-- The queues and their carriers differ in nothing but what is in the frames. -/
structure Alike (R : Peer → Bytes → Bytes → Prop) (d d' : Queues Memory) : Prop where
  carrier : d.carrier.Alike R d'.carrier
  queues : d.queues.Alike (fun p => PeerQueue.Alike (R p)) d'.queues
  nextHandle : d'.nextHandle = d.nextHandle
  receipts : d'.receipts = d.receipts

/-- The queues are like themselves. -/
theorem Alike.refl (hR : ∀ p b, R p b b) (d : Queues Memory) : d.Alike R d where
  carrier := .refl hR d.carrier
  queues := .refl (fun p _ => ⟨rfl, List.forall₂_same.2 fun b _ => hR p b⟩) d.queues
  nextHandle := rfl
  receipts := rfl

/-- A pump stops at the same place, whatever is in the frames. -/
theorem pump_alike {m m' : Memory} (hm : m.Alike R m') {frames frames' : List Bytes}
    (hframes : List.Forall₂ (R peer) frames frames') (handle : Nat) :
    (pump peer handle m frames).1.Alike R (pump peer handle m' frames').1 ∧
      List.Forall₂ (R peer) (pump peer handle m frames).2 (pump peer handle m' frames').2 := by
  induction hframes generalizing m m' with
  | nil => exact ⟨hm, .nil⟩
  | @cons frame frame' rest rest' hframe hrest ih =>
    -- the answers to the first frame are the same
    obtain ⟨hsend, hanswer⟩ := hm.send hframe (.queue handle)
    rw [pump, pump]
    generalize Carrier.send m peer frame (.queue handle) = x at hsend hanswer
    generalize Carrier.send m' peer frame' (.queue handle) = x' at hsend hanswer
    obtain ⟨c, answer⟩ := x
    obtain ⟨c', answer'⟩ := x'
    obtain rfl : answer' = answer := hanswer
    cases answer' with
    -- the receipt is to come, and the frames stay
    | none => exact ⟨hsend, .cons hframe hrest⟩
    | some receipt =>
      cases receipt with
      -- the peer is offline, and the frames are dropped
      | offline => exact ⟨hsend, .nil⟩
      | delivered => exact ih hsend
      | failed => exact ih hsend

variable {d d' : Queues Memory}

/-- Queues that are alike stay so when they hand over frames that correspond. -/
theorem Alike.run (h : d.Alike R d') {frames frames' : List Bytes}
    (hframes : List.Forall₂ (R peer) frames frames') (handle : Nat) :
    (d.run peer handle frames).Alike R (d'.run peer handle frames') := by
  obtain ⟨hcarrier, hleft⟩ := pump_alike h.carrier hframes handle
  rw [Queues.run, Queues.run]
  generalize pump peer handle d.carrier frames = x at hcarrier hleft
  generalize pump peer handle d'.carrier frames' = x' at hcarrier hleft
  obtain ⟨c, left⟩ := x
  obtain ⟨c', left'⟩ := x'
  -- the pumps leave as many frames as one another, so both queues are gone or neither is
  cases hleft with
  | nil => exact { h with carrier := hcarrier, queues := h.queues.erase peer }
  | cons hfirst hrest =>
    exact { h with
      carrier := hcarrier
      queues := h.queues.insert ⟨rfl, .cons hfirst hrest⟩ }

/-- Queues that are alike stay so when frames that correspond are enqueued. -/
theorem Alike.enqueue (h : d.Alike R d') {frame frame' : Bytes} (hframe : R peer frame frame') :
    (d.enqueue peer frame).Alike R (d'.enqueue peer frame') := by
  have hqueue := h.queues.get? peer
  rw [Queues.enqueue, Queues.enqueue]
  generalize d.queues.get? peer = q at hqueue
  generalize d'.queues.get? peer = q' at hqueue
  cases hqueue with
  | none =>
    -- a new queue, under the same handle in both
    rw [h.nextHandle]
    refine Alike.run ?_ (.cons hframe .nil) d.nextHandle
    exact { h with nextHandle := rfl }
  -- the frame waits behind others
  | some hq =>
    refine { h with queues := h.queues.insert ⟨hq.handle, ?_⟩ }
    exact List.rel_append hq.pending (.cons hframe .nil)

/-- Queues that are alike stay so when a peer goes offline. -/
theorem Alike.peerOffline (h : d.Alike R d') (peer : Peer) :
    (d.peerOffline peer).Alike R (d'.peerOffline peer) :=
  { h with queues := h.queues.erase peer }

/-- Queues that are alike stay so when the same receipt comes to both. -/
theorem Alike.onReceipt (h : d.Alike R d') (peer : Peer) (origin : Origin) (receipt : Receipt) :
    (d.onReceipt peer origin receipt).Alike R (d'.onReceipt peer origin receipt) := by
  cases origin with
  | handler => exact h
  | program => exact { h with receipts := congrArg (· ++ [(peer, receipt)]) h.receipts }
  | queue handle =>
    have hqueue := h.queues.get? peer
    rw [Queues.onReceipt, Queues.onReceipt]
    generalize d.queues.get? peer = q at hqueue
    generalize d'.queues.get? peer = q' at hqueue
    cases hqueue with
    -- nobody waits in either
    | none => exact h
    | some hq =>
      -- whether the receipt counts is up to the handle, and what follows to the receipt
      have htail := List.forall₂_drop 1 hq.pending
      rw [List.drop_one, List.drop_one] at htail
      dsimp only
      rw [hq.handle]
      split
      · -- the queue asked for the receipt
        cases receipt with
        | offline => exact h.peerOffline peer
        | delivered => exact h.run htail handle
        | failed => exact h.run htail handle
      · -- another queue did, which ended since
        exact h

/-- Queues that are alike stay so when frames that correspond are sent past them. -/
theorem Alike.sendDirect (h : d.Alike R d') {frame frame' : Bytes} (hframe : R peer frame frame')
    (origin : Origin) :
    (d.sendDirect peer frame origin).Alike R (d'.sendDirect peer frame' origin) := by
  -- the carriers give the same answer
  obtain ⟨hsend, hanswer⟩ := h.carrier.send hframe origin
  rw [Queues.sendDirect, Queues.sendDirect]
  generalize Carrier.send d.carrier peer frame origin = x at hsend hanswer
  generalize Carrier.send d'.carrier peer frame' origin = x' at hsend hanswer
  obtain ⟨c, answer⟩ := x
  obtain ⟨c', answer'⟩ := x'
  obtain rfl : answer' = answer := hanswer
  have htaken : Alike R { d with carrier := c } { d' with carrier := c' } :=
    { h with carrier := hsend }
  cases answer' with
  -- the receipt is to come
  | none => exact htaken
  -- the receipt came at once
  | some receipt => exact htaken.onReceipt peer origin receipt

end Queues

end Delivery

end FeedNode
