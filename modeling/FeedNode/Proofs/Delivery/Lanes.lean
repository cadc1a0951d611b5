import FeedNode.Proofs.Delivery.Bystanders
import FeedNode.Proofs.Delivery.SessionInvariant
import Mathlib.Data.List.Induction

/-!
# Lanes

The lane of a peer is all that the queues and their carrier hold for it: the frames that were
recorded, those that are owed, and the receipts still to come, each with who waits for it. Handles
are given out to the queues of all peers in turn, so a lane does not show them; of a handle it only
matters whether it is that of the queue which the peer has now.

An event of a peer moves the peer's lane by what is in the lane alone, and an event of another peer
leaves it as it is. So the peer fares as it would have fared alone.

Main statements: `Queues.lane_step`, `Queues.lane_step_of_ne` and `Queues.alone_after`.
-/

namespace FeedNode.Delivery

/-- The peer that an event is about. -/
def Event.peer : Event → Peer
  | .enqueue peer _ | .peerOffline peer | .reply peer _ | .send peer _ | .setOffline peer
  | .receipt peer _ => peer

/-! ## What a lane is -/

/-- Who waits for a receipt that a peer owes. -/
inductive Waiting where
  /-- The queue that the peer has now. -/
  | queue
  /-- The program that embeds the node. -/
  | program
  /-- A handler sent the frame, or a queue that ended since. -/
  | nobody
deriving DecidableEq

namespace Waiting

/-- Who still waits once the peer's queue has ended. -/
def lapse : Waiting → Waiting
  | .queue | .nobody => .nobody
  | .program => .program

end Waiting

/-- Who waits for a receipt while the peer has this queue, or none. -/
def Origin.waiting (queue? : Option PeerQueue) : Origin → Waiting
  | .handler => .nobody
  | .program => .program
  | .queue handle => if queue?.any fun q => q.handle == handle then .queue else .nobody

/-- All that is held for one peer. -/
structure Lane where
  automatic : Bool
  isOffline : Bool
  /-- The frames that were recorded, in order. -/
  sent : List Bytes
  /-- The frames that are owed, if the peer has a queue. -/
  pending? : Option (List Bytes)
  /-- The frames whose receipts are still to come, in order. -/
  held : List (Bytes × Waiting)
  /-- The receipts of the frames that the embedding program sent by itself. -/
  receipts : List Receipt
deriving DecidableEq

namespace Lane

variable (l : Lane)

/-- The queue ends, and nobody waits for its receipts any more. -/
def close : Lane :=
  { l with pending? := none, held := l.held.map fun (frame, w) => (frame, w.lapse) }

/-- The frames of the queue are handed over. -/
def run : List Bytes → Lane
  | [] => l.close
  | frame :: rest =>
    if l.isOffline then l.close
    else if l.automatic then { l.close with sent := l.sent ++ frame :: rest }
    else
      { l with
        sent := l.sent ++ [frame]
        held := l.held ++ [(frame, .queue)]
        pending? := some (frame :: rest) }

/-- One more frame is owed. -/
def enqueue (frame : Bytes) : Lane :=
  match l.pending? with
  | some frames => { l with pending? := some (frames ++ [frame]) }
  | none => l.run [frame]

/-- A receipt comes to the one who waits for it. -/
def answer (receipt : Receipt) : Waiting → Lane
  | .nobody => l
  | .program => { l with receipts := l.receipts ++ [receipt] }
  | .queue =>
    match receipt with
    | .offline => l.close
    | .delivered | .failed => l.run (l.pending?.getD []).tail

/-- A frame is sent past the queue. -/
def sendDirect (frame : Bytes) (w : Waiting) : Lane :=
  if l.isOffline then l.answer .offline w
  else if l.automatic then { l with sent := l.sent ++ [frame] }.answer .delivered w
  else { l with sent := l.sent ++ [frame], held := l.held ++ [(frame, w)] }

/-- The oldest receipt that is owed is fired. -/
def fire (receipt : Receipt) : Lane :=
  match l.held with
  | [] => l
  | (_, w) :: held => { l with held }.answer receipt w

/-- The lane after an event of its peer. -/
def step : Event → Lane
  | .enqueue _ frame => l.enqueue frame
  | .peerOffline _ => l.close
  | .reply _ frame => l.sendDirect frame .nobody
  | .send _ frame => l.sendDirect frame .program
  | .setOffline _ => { l with isOffline := true }
  | .receipt _ receipt => l.fire receipt

end Lane

namespace Queues

/-- The lane of a peer. -/
def lane (d : Queues Memory) (peer : Peer) : Lane where
  automatic := d.carrier.automatic
  isOffline := decide (peer ∈ d.carrier.offline)
  sent := d.carrier.sentTo peer
  pending? := (d.queues.get? peer).map PeerQueue.pending
  held := (d.carrier.held.filter fun x => x.peer = peer).map fun x =>
    (x.frame, x.origin.waiting (d.queues.get? peer))
  receipts := (d.receipts.filter fun x => x.1 = peer).map Prod.snd

variable {d d' : Queues Memory} {peer other : Peer}

/-! What a peer can be asked about is in its lane. -/

/-- What a peer is owed is what is pending in its lane. -/
theorem pending_eq_lane (d : Queues Memory) (peer : Peer) :
    d.pending peer = ((d.lane peer).pending?.map List.length).getD 0 := by
  rw [pending, lane, Option.map_map]
  rfl

/-- A peer is idle if nothing is pending in its lane. -/
theorem isIdle_eq_lane (d : Queues Memory) (peer : Peer) :
    d.isIdle peer = (d.lane peer).pending?.isNone := by
  rw [isIdle, Dict.contains, lane]
  cases d.queues.get? peer <;> rfl

/-- The receipts that a peer owes are those in its lane. -/
theorem owed_eq_lane (d : Queues Memory) (peer : Peer) :
    d.carrier.owed peer = (d.lane peer).held.length := by
  rw [Memory.owed, lane, List.length_map]
  rfl

/-! ## Events of other peers -/

/-- Nothing changed of what the carrier holds for the peer. -/
structure SameFor (peer : Peer) (m m' : Memory) : Prop where
  automatic : m'.automatic = m.automatic
  offline : peer ∈ m'.offline ↔ peer ∈ m.offline
  sentTo : m'.sentTo peer = m.sentTo peer
  held : (m'.held.filter fun x => x.peer = peer) = m.held.filter fun x => x.peer = peer

/-- A carrier holds the same for every peer as it does. -/
theorem SameFor.refl (m : Memory) : SameFor peer m m := ⟨rfl, .rfl, rfl, rfl⟩

/-- What two changes leave alone is left alone by both together. -/
theorem SameFor.trans {m m' m'' : Memory} (h : SameFor peer m m') (h' : SameFor peer m' m'') :
    SameFor peer m m'' :=
  ⟨h'.automatic.trans h.automatic, h'.offline.trans h.offline, h'.sentTo.trans h.sentTo,
    h'.held.trans h.held⟩

/-- A frame that is sent to one peer changes nothing of what the carrier holds for another. -/
theorem sameFor_send (m : Memory) (h : other ≠ peer) (frame : Bytes) (origin : Origin) :
    SameFor peer m (Carrier.send m other frame origin).1 := by
  refine ⟨?_, ?_, sentTo_send m h frame origin, ?_⟩
  all_goals
    simp only [Carrier.send]
    split
    · rfl
    · split <;> simp [h]

/-- So it is with all frames of another peer's queue. -/
theorem keptBySends_sameFor (h : other ≠ peer) : KeptBySends other (SameFor peer) where
  refl := .refl
  trans := .trans
  send m frame handle := sameFor_send m h frame (.queue handle)

/-- Handing over frames brings no receipt to the program. -/
theorem run_receipts (d : Queues Memory) (peer : Peer) (handle : Nat) (frames : List Bytes) :
    (d.run peer handle frames).receipts = d.receipts := by
  rw [run]
  split <;> rfl

/-- Enqueueing brings no receipt to the program. -/
theorem enqueue_receipts (d : Queues Memory) (peer : Peer) (frame : Bytes) :
    (d.enqueue peer frame).receipts = d.receipts := by
  rw [enqueue]
  split
  · rfl
  · exact run_receipts _ _ _ _

/-- A receipt of one peer adds none to those of another. -/
theorem onReceipt_receipts (d : Queues Memory) (h : other ≠ peer) (origin : Origin)
    (receipt : Receipt) :
    ((d.onReceipt other origin receipt).receipts.filter fun x => x.1 = peer) =
      d.receipts.filter fun x => x.1 = peer := by
  cases origin with
  | handler => rfl
  | program => simp [onReceipt, h]
  | queue handle =>
    rw [onReceipt]
    split
    · rfl
    · split
      · split
        · rfl
        · rw [run_receipts]
        · rw [run_receipts]
      · rfl

/-- A lane depends on the queue, the carrier and the receipts of its peer. -/
theorem lane_congr (hqueue : d'.queues.get? peer = d.queues.get? peer)
    (hcarrier : SameFor peer d.carrier d'.carrier)
    (hreceipts : (d'.receipts.filter fun x => x.1 = peer) = d.receipts.filter fun x => x.1 = peer) :
    d'.lane peer = d.lane peer := by
  simp only [lane, hqueue, hcarrier.automatic, hcarrier.offline, hcarrier.sentTo, hcarrier.held,
    hreceipts]

/-- A receipt of one peer leaves the lanes of the others as they are. -/
theorem lane_onReceipt_of_ne (d : Queues Memory) (h : other ≠ peer) (origin : Origin)
    (receipt : Receipt) : (d.onReceipt other origin receipt).lane peer = d.lane peer :=
  lane_congr (onReceipt_get?_of_ne d h.symm origin receipt)
    ((keptBySends_sameFor h).onReceipt d origin receipt) (onReceipt_receipts d h origin receipt)

/-- A frame sent past the queue of one peer leaves the lanes of the others as they are. -/
theorem lane_sendDirect_of_ne (d : Queues Memory) (h : other ≠ peer) (frame : Bytes)
    (origin : Origin) : (d.sendDirect other frame origin).lane peer = d.lane peer := by
  have hsend := sameFor_send d.carrier h frame origin
  rw [sendDirect]
  generalize Carrier.send d.carrier other frame origin = sent at hsend
  obtain ⟨m, answer⟩ := sent
  -- the frame itself, before its receipt comes
  have hsent : ({ d with carrier := m } : Queues Memory).lane peer = d.lane peer :=
    lane_congr rfl hsend rfl
  cases answer with
  | none => exact hsent
  | some receipt => exact (lane_onReceipt_of_ne _ h origin receipt).trans hsent

/-- What is done for one peer leaves the lanes of the others as they are. -/
theorem lane_step_of_ne (d : Queues Memory) {e : Event} (h : e.peer ≠ peer) :
    (d.step e).lane peer = d.lane peer := by
  cases e with
  | enqueue other frame =>
    exact lane_congr (enqueue_get?_of_ne d (Ne.symm h) frame)
      ((keptBySends_sameFor h).enqueue d frame) (by rw [Queues.step, enqueue_receipts])
  | peerOffline other => exact lane_congr (peerOffline_get?_of_ne d (Ne.symm h)) (.refl _) rfl
  | reply other frame => exact lane_sendDirect_of_ne d h frame .handler
  | send other frame => exact lane_sendDirect_of_ne d h frame .program
  | setOffline other =>
    refine lane_congr rfl ⟨rfl, ?_, rfl, rfl⟩ rfl
    -- another peer is marked offline
    have hne : ¬ peer = other := Ne.symm h
    simp [Queues.step, Holding.setOffline, Memory.setOffline, hne]
  | receipt other receipt =>
    show (d.fire other receipt).lane peer = d.lane peer
    rw [fire]
    split
    · -- the other peer owes none
      rfl
    · rename_i x m htake
      obtain ⟨before, behind, hheld, rfl, hpeer, -⟩ := takeHeld?_eq_some htake
      -- the receipt that goes away is one that the other peer owed
      have hx : x.peer ≠ peer := hpeer ▸ h
      refine (lane_onReceipt_of_ne _ h x.origin receipt).trans ?_
      exact lane_congr rfl ⟨rfl, .rfl, rfl, by simp [hheld, hx]⟩ rfl

/-! ## Events of the peer itself -/

/-- Without a queue those who waited for it wait no more. -/
theorem waiting_none (queue? : Option PeerQueue) (origin : Origin) :
    origin.waiting none = (origin.waiting queue?).lapse := by
  cases origin with
  | handler => rfl
  | program => rfl
  | queue handle =>
    rw [Origin.waiting, Origin.waiting]
    split <;> split <;> first | rfl | contradiction

/-- Where the queue of a peer ends. -/
theorem lane_erase (d : Queues Memory) (peer : Peer) :
    ({ d with queues := d.queues.erase peer } : Queues Memory).lane peer = (d.lane peer).close := by
  have hnone : (d.queues.erase peer).get? peer = none := by rw [Dict.get?_erase, if_pos rfl]
  simp only [lane, Lane.close, hnone, Option.map_none, List.map_map, Function.comp_def,
    waiting_none (d.queues.get? peer)]

/-- What happens to the first of some frames decides about them all. -/
theorem run_cons (d : Queues Memory) (peer : Peer) (handle : Nat) (frame : Bytes)
    (rest : List Bytes) :
    d.run peer handle (frame :: rest) =
      if peer ∈ d.carrier.offline then { d with queues := d.queues.erase peer }
      else if d.carrier.automatic then
        { d with
          carrier := { d.carrier with sent := d.carrier.sent ++ (frame :: rest).map (Prod.mk peer) }
          queues := d.queues.erase peer }
      else
        { d with
          carrier :=
            { d.carrier with
              sent := d.carrier.sent ++ [(peer, frame)]
              held := d.carrier.held ++ [⟨peer, frame, .queue handle⟩] }
          queues := d.queues.insert peer { handle, pending := frame :: rest } } := by
  -- over a carrier that keeps a trace this is known
  let t : Queues (Traced Memory) := { d with carrier := { carrier := d.carrier, trace := [] } }
  have hplain : d.run peer handle (frame :: rest) = (t.run peer handle (frame :: rest)).plain :=
    (run_view answersAlike_traced t peer handle (frame :: rest)).symm
  rw [hplain]
  split
  · rename_i hoff
    rw [run_refused (d := t) hoff]
    rfl
  · rename_i hoff
    split
    · rename_i hauto
      rw [run_automatic (d := t) hoff hauto]
      rfl
    · rename_i hauto
      rw [run_manual (d := t) hoff (by simpa using hauto)]
      rfl

/-- Frames that are sent to a peer are recorded for it in order. -/
theorem sentTo_own (m : Memory) (peer : Peer) (frames : List Bytes) :
    { m with sent := m.sent ++ frames.map (Prod.mk peer) }.sentTo peer =
      m.sentTo peer ++ frames := by
  have hown : ((frames.map (Prod.mk peer)).filter fun x => x.1 = peer) =
      frames.map (Prod.mk peer) :=
    List.filter_eq_self.2 fun x hx => by
      obtain ⟨frame, -, rfl⟩ := List.mem_map.1 hx
      simp
  simp only [Memory.sentTo, List.filter_append, List.map_append, hown, List.map_map]
  simp [Function.comp_def]

/-- Only the handle of a queue says who waits. -/
theorem waiting_congr {q q' : PeerQueue} (h : q'.handle = q.handle) (origin : Origin) :
    origin.waiting (some q') = origin.waiting (some q) := by
  cases origin with
  | handler => rfl
  | program => rfl
  | queue handle => simp only [Origin.waiting, Option.any_some, h]

/-- The frames of a queue are handed over. It is the queue that the peer has, or a new one, and
either way whoever waits for a receipt waits on. -/
theorem lane_run (d : Queues Memory) (peer : Peer) (handle : Nat) (frames : List Bytes)
    (h : ∀ x ∈ d.carrier.held, ∀ pending,
      x.origin.waiting (some { handle, pending }) = x.origin.waiting (d.queues.get? peer)) :
    (d.run peer handle frames).lane peer = (d.lane peer).run frames := by
  cases frames with
  | nil => exact lane_erase d peer
  | cons frame rest =>
    rw [run_cons, Lane.run]
    by_cases hoff : peer ∈ d.carrier.offline
    · -- refused, so that the queue ends
      have hlane : (d.lane peer).isOffline = true := decide_eq_true hoff
      rw [if_pos hoff, if_pos hlane]
      exact lane_erase d peer
    · -- the peer is connected, and the mode of the carrier decides
      have hlane : ¬ (d.lane peer).isOffline = true := by simpa [lane] using hoff
      rw [if_neg hoff, if_neg hlane]
      cases hauto : d.carrier.automatic with
      | true =>
        have hmode : (d.lane peer).automatic = true := hauto
        -- all frames arrive, and the queue ends
        rw [if_pos rfl, if_pos hmode, ← lane_erase]
        simp only [lane, sentTo_own]
      | false =>
        have hmode : ¬ (d.lane peer).automatic = true := by simp [lane, hauto]
        rw [if_neg (by decide), if_neg hmode]
        -- the first frame is held back, and the queue waits for it
        have hsent := sentTo_own d.carrier peer [frame]
        have hown : (Origin.queue handle).waiting (some { handle, pending := frame :: rest }) =
            .queue := by
          simp [Origin.waiting]
        -- the receipts that were held back before are waited for as they were
        have hwait : ∀ x ∈ d.carrier.held.filter fun x => x.peer = peer,
            (x.frame, x.origin.waiting (some { handle, pending := frame :: rest })) =
              (x.frame, x.origin.waiting (d.queues.get? peer)) := fun x hx => by
          rw [h x (List.mem_filter.1 hx).1]
        simp only [List.map_cons, List.map_nil] at hsent
        simp only [lane, Dict.get?_insert, if_true, Option.map_some, List.filter_append,
          List.map_append, List.map_congr_left hwait]
        simp [Memory.sentTo, hown]

/-- A receipt moves the lane of its peer as it moves the queue. -/
theorem lane_onReceipt (d : Queues Memory) (peer : Peer) (origin : Origin) (receipt : Receipt) :
    (d.onReceipt peer origin receipt).lane peer =
      (d.lane peer).answer receipt (origin.waiting (d.queues.get? peer)) := by
  cases origin with
  | handler => rfl
  | program =>
    -- the program is brought the receipt under the name of the peer
    have hown : (([(peer, receipt)] : List (Peer × Receipt)).filter fun x => x.1 = peer) =
        [(peer, receipt)] := by simp
    rw [Origin.waiting]
    simp only [onReceipt, lane, Lane.answer, List.filter_append, List.map_append, hown]
    rfl
  | queue handle =>
    rw [onReceipt]
    cases hq : d.queues.get? peer with
    | none => rfl
    | some q =>
      by_cases hhandle : q.handle = handle
      · -- the receipt of the queue that the peer has
        have hwaiting : (Origin.queue handle).waiting (some q) = .queue := by
          simp [Origin.waiting, hhandle]
        have hpending : (d.lane peer).pending? = some q.pending := by simp [lane, hq]
        -- after which the frames behind the front are handed over
        have hrun : (d.run peer handle q.pending.tail).lane peer =
            (d.lane peer).run q.pending.tail :=
          lane_run d peer handle _ fun x _ pending => by
            rw [hq]
            exact waiting_congr hhandle.symm x.origin
        simp only [hhandle, if_true, hwaiting, Lane.answer, hpending, Option.getD_some]
        cases receipt with
        | offline => exact lane_erase d peer
        | delivered => exact hrun
        | failed => exact hrun
      · -- the receipt of a queue that ended
        have hwaiting : (Origin.queue handle).waiting (some q) = .nobody := by
          simp [Origin.waiting, hhandle]
        simp only [hhandle, if_false, hwaiting]
        rfl

/-- A frame sent past the queue moves the lane of its peer. -/
theorem lane_sendDirect (d : Queues Memory) (peer : Peer) (frame : Bytes) (origin : Origin) :
    (d.sendDirect peer frame origin).lane peer =
      (d.lane peer).sendDirect frame (origin.waiting (d.queues.get? peer)) := by
  have hsent := sentTo_own d.carrier peer [frame]
  simp only [List.map_cons, List.map_nil] at hsent
  rw [sendDirect, Lane.sendDirect]
  by_cases hoff : peer ∈ d.carrier.offline
  · -- refused, and the receipt says so
    have hlane : (d.lane peer).isOffline = true := decide_eq_true hoff
    have hsend : Carrier.send d.carrier peer frame origin = (d.carrier, some .offline) :=
      if_pos (List.contains_iff_mem.2 hoff)
    rw [hsend, if_pos hlane]
    exact lane_onReceipt d peer origin .offline
  · have hlane : ¬ (d.lane peer).isOffline = true := by simpa [lane] using hoff
    rw [if_neg hlane]
    cases hauto : d.carrier.automatic with
    | true =>
      -- recorded and confirmed at once
      have hmode : (d.lane peer).automatic = true := hauto
      have hsend : Carrier.send d.carrier peer frame origin =
          ({ d.carrier with sent := d.carrier.sent ++ [(peer, frame)] }, some .delivered) := by
        simp [Carrier.send, hoff, hauto]
      rw [hsend, if_pos hmode]
      refine (lane_onReceipt _ peer origin .delivered).trans ?_
      simp only [lane, hsent]
    | false =>
      -- recorded, with the receipt held back
      have hmode : ¬ (d.lane peer).automatic = true := by simp [lane, hauto]
      have hsend : Carrier.send d.carrier peer frame origin =
          ({ d.carrier with
              sent := d.carrier.sent ++ [(peer, frame)]
              held := d.carrier.held ++ [⟨peer, frame, origin⟩] }, none) := by
        simp [Carrier.send, hoff, hauto]
      rw [hsend, if_neg hmode]
      simp [lane, Memory.sentTo]

/-- Firing a receipt moves the lane of its peer. -/
theorem lane_fire (d : Queues Memory) (peer : Peer) (receipt : Receipt) :
    (d.fire peer receipt).lane peer = (d.lane peer).fire receipt := by
  rw [fire, Lane.fire]
  cases htake : d.carrier.takeHeld? peer with
  | none =>
    -- the peer owes none, so that its lane has none
    have hnone : (d.carrier.held.filter fun x => x.peer = peer) = [] := by
      rw [Memory.takeHeld?, Option.map_eq_none_iff, List.find?_eq_none] at htake
      simpa [List.filter_eq_nil_iff] using htake
    have hheld : (d.lane peer).held = [] := by simp only [lane, hnone, List.map_nil]
    simp only [Holding.takeHeld?, htake, hheld]
  | some taken =>
    obtain ⟨x, m⟩ := taken
    obtain ⟨before, behind, hheld, rfl, hpeer, hbefore⟩ := takeHeld?_eq_some htake
    -- the first receipt of the peer in the carrier is the first one in its lane
    have hfirst : (before.filter fun x => x.peer = peer) = [] := by
      simpa [List.filter_eq_nil_iff] using hbefore
    have hlane : (d.lane peer).held =
        (x.frame, x.origin.waiting (d.queues.get? peer)) ::
          (behind.filter fun x => x.peer = peer).map fun x =>
            (x.frame, x.origin.waiting (d.queues.get? peer)) := by
      simp only [lane, hheld, List.filter_append, hfirst, List.nil_append]
      rw [List.filter_cons_of_pos (by simpa using hpeer), List.map_cons]
    simp only [Holding.takeHeld?, htake, hlane]
    refine (lane_onReceipt _ peer x.origin receipt).trans ?_
    simp only [lane, List.filter_append, hfirst, List.nil_append, Memory.sentTo]

/-- The handles of the frames whose receipts are still to come have been given out. -/
def Fresh (d : Queues Memory) : Prop :=
  ∀ x ∈ d.carrier.held, ∀ n, x.origin = .queue n → n < d.nextHandle

/-- A frame that is enqueued moves the lane of its peer, if no handle is given out twice. -/
theorem lane_enqueue (hd : d.Fresh) (peer : Peer) (frame : Bytes) :
    (d.enqueue peer frame).lane peer = (d.lane peer).enqueue frame := by
  rw [enqueue, Lane.enqueue]
  cases hq : d.queues.get? peer with
  | some q =>
    -- behind the queue that there is
    have hpending : (d.lane peer).pending? = some q.pending := by simp [lane, hq]
    have hwaiting : ∀ x : Held,
        x.origin.waiting (some { q with pending := q.pending ++ [frame] }) =
          x.origin.waiting (some q) := fun x => waiting_congr rfl x.origin
    simp only [hpending]
    simp only [lane, Dict.get?_insert, if_true, hq, hwaiting, Option.map_some]
  | none =>
    have hpending : (d.lane peer).pending? = none := by simp [lane, hq]
    simp only [hpending]
    -- nobody waits yet for a receipt under the new handle
    refine lane_run { d with nextHandle := d.nextHandle + 1 } peer d.nextHandle [frame]
      fun x hx pending => ?_
    show x.origin.waiting _ = x.origin.waiting (d.queues.get? peer)
    rw [hq]
    cases horigin : x.origin with
    | handler => rfl
    | program => rfl
    -- an older queue has an older handle
    | queue n =>
      have hlt := hd x hx n horigin
      have hne : ¬ d.nextHandle = n := by omega
      simp [Origin.waiting, hne]

/-- What is done for a peer moves its lane, by what is in the lane alone. -/
theorem lane_step (hd : d.Fresh) {e : Event} (h : e.peer = peer) :
    (d.step e).lane peer = (d.lane peer).step e := by
  subst h
  cases e with
  | enqueue peer frame => exact lane_enqueue hd peer frame
  | peerOffline peer => exact lane_erase d peer
  | reply peer frame => exact lane_sendDirect d peer frame .handler
  | send peer frame => exact lane_sendDirect d peer frame .program
  | setOffline peer =>
    simp [Queues.step, Lane.step, lane, Event.peer, Holding.setOffline, Memory.setOffline,
      Memory.sentTo]
  | receipt peer receipt => exact lane_fire d peer receipt

/-! ## Runs -/

/-- No run gives out a handle twice. -/
theorem fresh_after (automatic : Bool) (es : List Event) :
    ((new (.new automatic) : Queues Memory).after es).Fresh := by
  -- the handles that were given out are those of the sessions
  have hv := History.valid_after automatic es
  have hplain : (new (.new automatic) : Queues Memory).after es =
      ((History.start automatic).after es).delivery.plain := by
    rw [History.delivery_after, after_plain]
    rfl
  intro x hx n horigin
  rw [hplain] at hx ⊢
  obtain ⟨s, hs, rfl, -⟩ := hv.held x hx n horigin
  exact hv.lt s hs

/-- The last event of a run comes behind the others. -/
theorem after_concat (d : Queues Memory) (es : List Event) (e : Event) :
    d.after (es ++ [e]) = (d.after es).step e := by
  rw [after, after, List.foldl_append]
  rfl

/-- The lane of a peer is moved by the events of the peer and by no others. -/
theorem lane_after (automatic : Bool) (es : List Event) (peer : Peer) :
    ((new (.new automatic)).after es).lane peer =
      (es.filter fun e => e.peer = peer).foldl Lane.step
        ((new (.new automatic) : Queues Memory).lane peer) := by
  induction es using List.reverseRecOn with
  | nil => rfl
  | append_singleton es e ih =>
    rw [after_concat, List.filter_append, List.foldl_append, ← ih]
    by_cases he : e.peer = peer
    · -- an event of the peer
      rw [lane_step (fresh_after automatic es) he, List.filter_cons_of_pos (by simpa using he)]
      rfl
    · -- an event of another
      rw [lane_step_of_ne _ he, List.filter_cons_of_neg (by simpa using he)]
      rfl

/-- A peer fares as it would have fared alone. Of all that may happen to the queues of any peers,
take the events of one peer only: the same frames are sent to it, the same frames are owed, the same
receipts are still to come and wanted by the same, and its queue is there or not just as before. -/
theorem alone_after (automatic : Bool) (es : List Event) (peer : Peer) :
    let d := (new (.new automatic) : Queues Memory).after es
    let alone := (new (.new automatic) : Queues Memory).after (es.filter fun e => e.peer = peer)
    d.carrier.sentTo peer = alone.carrier.sentTo peer ∧
      d.pending peer = alone.pending peer ∧
      d.carrier.owed peer = alone.carrier.owed peer ∧
      d.isIdle peer = alone.isIdle peer ∧
      d.lane peer = alone.lane peer := by
  intro d alone
  -- the events of the peer are those of the peer among themselves
  have hlane : d.lane peer = alone.lane peer := by
    rw [lane_after, lane_after, List.filter_filter]
    simp only [Bool.and_self]
  refine ⟨congrArg Lane.sent hlane, ?_, ?_, ?_, hlane⟩
  · rw [pending_eq_lane, pending_eq_lane, hlane]
  · rw [owed_eq_lane, owed_eq_lane, hlane]
  · rw [isIdle_eq_lane, isIdle_eq_lane, hlane]

end Queues

end FeedNode.Delivery
