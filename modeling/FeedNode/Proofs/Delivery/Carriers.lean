import FeedNode.Delivery.Queue

/-!
# Queues over any carrier

All that queues do with a carrier is to send frames and to wait for the answers. So what holds of
each send holds of all that they do, and this is said here once for every carrier.

Main statements:

* `Queues.onReceipt_get?_of_ne` and its companions: what is done for a peer leaves the queues of the
  others as they are.
* `Queues.onReceipt_view` and its companions: over two carriers that answer alike the queues do the
  same.
* `KeptBySends.onReceipt` and its companions: a relation that every send keeps is kept by the
  queues.
-/

namespace FeedNode.Delivery

variable {σ τ : Type} [Carrier σ] [Carrier τ] {f : σ → τ} {peer : Peer}

/-! ## Carriers that answer alike -/

/-- A view of a carrier as another that takes the same frames and answers them alike. -/
def AnswersAlike (f : σ → τ) : Prop :=
  ∀ c peer frame origin, Carrier.send (f c) peer frame origin =
    (f (Carrier.send c peer frame origin).1, (Carrier.send c peer frame origin).2)

namespace Queues

omit [Carrier σ] [Carrier τ] in
/-- The queues over the other carrier. -/
def view (f : σ → τ) (d : Queues σ) : Queues τ :=
  { d with carrier := f d.carrier }

/-- Frames are handed over in the same way to carriers that answer alike. -/
theorem pump_view (hf : AnswersAlike f) (peer : Peer) (handle : Nat) (c : σ) (frames : List Bytes) :
    pump peer handle (f c) frames =
      (f (pump peer handle c frames).1, (pump peer handle c frames).2) := by
  induction frames generalizing c with
  | nil => rfl
  | cons frame rest ih =>
    rw [pump, pump, hf]
    generalize Carrier.send c peer frame (.queue handle) = sent
    obtain ⟨c', answer⟩ := sent
    -- the pump stops where no receipt came at once, or the peer was offline
    cases answer with
    | none => rfl
    | some receipt =>
      cases receipt with
      | offline => rfl
      | delivered => exact ih c'
      | failed => exact ih c'

/-- Running a queue looks the same through the view. -/
theorem run_view (hf : AnswersAlike f) (d : Queues σ) (peer : Peer) (handle : Nat)
    (frames : List Bytes) :
    (d.run peer handle frames).view f = (d.view f).run peer handle frames := by
  have hpump := pump_view hf peer handle d.carrier frames
  rw [run, run, show (d.view f).carrier = f d.carrier from rfl, hpump]
  generalize pump peer handle d.carrier frames = pumped
  -- the queue ends or goes on by what is left, which is the same on both sides
  obtain ⟨c, left⟩ := pumped
  cases left <;> rfl

/-- Enqueueing looks the same through the view. -/
theorem enqueue_view (hf : AnswersAlike f) (d : Queues σ) (peer : Peer) (frame : Bytes) :
    (d.enqueue peer frame).view f = (d.view f).enqueue peer frame := by
  rw [enqueue, enqueue, show (d.view f).queues = d.queues from rfl]
  -- behind a queue nothing is handed over
  cases d.queues.get? peer with
  | some q => rfl
  | none => exact run_view hf _ _ _ _

/-- A receipt does the same through the view. -/
theorem onReceipt_view (hf : AnswersAlike f) (d : Queues σ) (peer : Peer) (origin : Origin)
    (receipt : Receipt) :
    (d.onReceipt peer origin receipt).view f = (d.view f).onReceipt peer origin receipt := by
  cases origin with
  | handler => rfl
  | program => rfl
  | queue handle =>
    rw [onReceipt, onReceipt, show (d.view f).queues = d.queues from rfl]
    -- without a queue nobody waits for the receipt
    cases d.queues.get? peer with
    | none => rfl
    | some q =>
      -- with one, its handle decides
      by_cases hq : q.handle = handle
      · simp only [hq, if_true]
        cases receipt with
        | offline => rfl
        | delivered => exact run_view hf _ _ _ _
        | failed => exact run_view hf _ _ _ _
      · simp only [hq, if_false]

/-- Sending past the queue looks the same through the view. -/
theorem sendDirect_view (hf : AnswersAlike f) (d : Queues σ) (peer : Peer) (frame : Bytes)
    (origin : Origin) :
    (d.sendDirect peer frame origin).view f = (d.view f).sendDirect peer frame origin := by
  rw [sendDirect, sendDirect, show (d.view f).carrier = f d.carrier from rfl, hf]
  generalize Carrier.send d.carrier peer frame origin = sent
  obtain ⟨c, answer⟩ := sent
  cases answer with
  | none => rfl
  | some receipt => exact onReceipt_view hf _ _ _ _

end Queues

/-- A refused frame is the end of its queue, and the carrier is not used. -/
theorem Queues.onReceipt_offline_carrier (d : Queues σ) (peer : Peer) (origin : Origin) :
    (d.onReceipt peer origin .offline).carrier = d.carrier := by
  cases origin with
  | handler => rfl
  | program => rfl
  | queue handle =>
    rw [onReceipt]
    split
    · rfl
    · split <;> rfl

/-! ## Queues of other peers -/

namespace Queues

variable {other : Peer} (d : Queues σ)

/-- Running a queue leaves those of other peers as they are. -/
theorem run_get?_of_ne (h : peer ≠ other) (handle : Nat) (frames : List Bytes) :
    (d.run other handle frames).queues.get? peer = d.queues.get? peer := by
  rw [run]
  generalize pump other handle d.carrier frames = pumped
  obtain ⟨c, left⟩ := pumped
  cases left with
  -- the queue is gone
  | nil => simp [Dict.get?_erase, h]
  -- the queue goes on with what is left
  | cons frame rest => simp [Dict.get?_insert, h]

/-- Enqueueing leaves the queues of other peers as they are. -/
theorem enqueue_get?_of_ne (h : peer ≠ other) (frame : Bytes) :
    (d.enqueue other frame).queues.get? peer = d.queues.get? peer := by
  rw [enqueue]
  split
  · -- one more frame behind the others
    simp [Dict.get?_insert, h]
  · -- the first frame of a new queue
    exact run_get?_of_ne { d with nextHandle := d.nextHandle + 1 } h _ _

omit [Carrier σ] in
/-- A peer that goes offline loses its own queue only. -/
theorem peerOffline_get?_of_ne (h : peer ≠ other) :
    (d.peerOffline other).queues.get? peer = d.queues.get? peer := by
  simp [peerOffline, Dict.get?_erase, h]

/-- A receipt leaves the queues of other peers as they are. -/
theorem onReceipt_get?_of_ne (h : peer ≠ other) (origin : Origin) (receipt : Receipt) :
    (d.onReceipt other origin receipt).queues.get? peer = d.queues.get? peer := by
  cases origin with
  | handler => rfl
  | program => rfl
  | queue handle =>
    -- if anything moves it is the queue of the peer that the receipt is of
    rw [onReceipt]
    split
    · rfl
    · split
      · split
        · -- the queue ends
          exact peerOffline_get?_of_ne d h
        · -- or goes on with the frames behind the front
          exact run_get?_of_ne d h _ _
        · exact run_get?_of_ne d h _ _
      · rfl

/-- Sending past the queue leaves the queues of other peers as they are. -/
theorem sendDirect_get?_of_ne (h : peer ≠ other) (frame : Bytes) (origin : Origin) :
    (d.sendDirect other frame origin).queues.get? peer = d.queues.get? peer := by
  rw [sendDirect]
  split
  · rfl
  · exact onReceipt_get?_of_ne _ h _ _

end Queues

/-! ## What every send keeps -/

/-- A relation between what a carrier was and what it became, that every frame keeps which a queue
sends to the peer. -/
structure KeptBySends (peer : Peer) (R : σ → σ → Prop) : Prop where
  refl : ∀ c, R c c
  trans : ∀ {c c' c''}, R c c' → R c' c'' → R c c''
  send : ∀ c frame handle, R c (Carrier.send c peer frame (.queue handle)).1

namespace KeptBySends

variable {R : σ → σ → Prop} (h : KeptBySends peer R)
include h

/-- A pump hands over frames one by one, so it keeps what each send keeps. -/
theorem pump (handle : Nat) (c : σ) (frames : List Bytes) :
    R c (Queues.pump peer handle c frames).1 := by
  induction frames generalizing c with
  | nil => exact h.refl c
  | cons frame rest ih =>
    have hsend := h.send c frame handle
    rw [Queues.pump]
    -- the pump stops here, or goes on with the carrier that took the frame
    split <;> rename_i hanswer <;> rw [hanswer] at hsend
    · exact hsend
    · exact hsend
    · exact h.trans hsend (ih _)

/-- Running a queue keeps what each send keeps. -/
theorem run (d : Queues σ) (handle : Nat) (frames : List Bytes) :
    R d.carrier (d.run peer handle frames).carrier := by
  have hpump := h.pump handle d.carrier frames
  rw [Queues.run]
  generalize Queues.pump peer handle d.carrier frames = pumped at hpump
  obtain ⟨c, left⟩ := pumped
  cases left <;> exact hpump

/-- Enqueueing keeps what each send keeps. -/
theorem enqueue (d : Queues σ) (frame : Bytes) :
    R d.carrier (d.enqueue peer frame).carrier := by
  rw [Queues.enqueue]
  split
  · -- the frame waits, and the carrier is not used
    exact h.refl _
  · -- the frame is handed over under a new handle
    exact h.run { d with nextHandle := d.nextHandle + 1 } d.nextHandle [frame]

/-- A receipt keeps what each send keeps. -/
theorem onReceipt (d : Queues σ) (origin : Origin) (receipt : Receipt) :
    R d.carrier (d.onReceipt peer origin receipt).carrier := by
  cases origin with
  | handler => exact h.refl _
  | program => exact h.refl _
  | queue handle =>
    rw [Queues.onReceipt]
    -- no queue waits for it
    split
    · exact h.refl _
    · split
      · split
        · -- a refused frame ends the queue without another send
          exact h.refl _
        · -- the next frames follow
          exact h.run d handle _
        · exact h.run d handle _
      · -- the queue has another handle
        exact h.refl _

/-- Sending past the queue keeps what this send and those of a queue keep. -/
theorem sendDirect (d : Queues σ) (frame : Bytes) (origin : Origin)
    (hsend : R d.carrier (Carrier.send d.carrier peer frame origin).1) :
    R d.carrier (d.sendDirect peer frame origin).carrier := by
  rw [Queues.sendDirect]
  generalize Carrier.send d.carrier peer frame origin = sent at hsend
  obtain ⟨c, answer⟩ := sent
  cases answer with
  | none => exact hsend
  | some receipt => exact h.trans hsend (h.onReceipt { d with carrier := c } origin receipt)

end KeptBySends

end FeedNode.Delivery
