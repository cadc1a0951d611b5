import FeedNode.Proofs.Delivery.Trace

/-!
# Sessions

A session is the life of one queue, from the enqueue that found no queue for the peer to the removal
of the queue. A `History` follows a run over a traced carrier and writes down, for each session, the
frames that were enqueued in it and how it ended. What the queues do over such a carrier is said
here once, operation by operation, and not opened again.

Main statements: `Queues.run_cases` and `Queues.fire_cases`.
-/

namespace FeedNode.Delivery

/-! ## What belongs to a handle -/

namespace Queues

/-- All that the queue with a handle handed over, in order. -/
def handOvers (d : Queues (Traced Memory)) (handle : Nat) : List HandOver :=
  d.carrier.trace.filter fun x => x.origin == .queue handle

/-- The frames that the queue with a handle handed over, in order. -/
def handed (d : Queues (Traced Memory)) (handle : Nat) : List Bytes :=
  (d.handOvers handle).map HandOver.frame

/-- The receipts still to come that were asked for under a handle. -/
def outstanding (d : Queues Memory) (handle : Nat) : List Held :=
  d.carrier.held.filter fun x => x.origin == .queue handle

end Queues

/-! ## Histories -/

/-- How a session ended. -/
inductive Ending where
  /-- The receipt of its last frame came. -/
  | drained
  /-- The peer went offline. -/
  | offline
deriving DecidableEq, Repr

/-- The life of one queue. -/
structure Session where
  peer : Peer
  handle : Nat
  /-- The frames that were enqueued, in order. -/
  frames : List Bytes
  /-- How it ended; none while the queue lives. -/
  ending : Option Ending
deriving DecidableEq, Repr

namespace Session

/-- The queue of the session is there. -/
def hasQueue (s : Session) (d : Queues (Traced Memory)) : Bool :=
  (d.queues.get? s.peer).any fun q => q.handle == s.handle

/-- The receipt that a session came to its end with: the answer to what it handed over last or, if
that one was still to come, the receipt that was just fired. -/
def lastReceipt? (s : Session) (d : Queues (Traced Memory)) (e : Event) : Option Receipt :=
  match (d.handOvers s.handle).getLast?.bind HandOver.answer, e with
  | some receipt, _ => some receipt
  | none, .receipt _ receipt => some receipt
  | none, _ => none

/-- How a session ended that an event left without its queue. -/
def endingAt (s : Session) (d : Queues (Traced Memory)) (e : Event) : Ending :=
  match s.lastReceipt? d e with
  | some .delivered | some .failed => .drained
  | some .offline | none => .offline

/-- The session after an event, with its ending if the queue is gone. -/
def close (d : Queues (Traced Memory)) (e : Event) (s : Session) : Session :=
  if s.ending = none ∧ s.hasQueue d = false then { s with ending := some (s.endingAt d e) } else s

/-- The session with one more frame, if it is the live one of the peer. -/
def owe (peer : Peer) (frame : Bytes) (s : Session) : Session :=
  if s.peer = peer ∧ s.ending = none then { s with frames := s.frames ++ [frame] } else s

end Session

/-- A run over a traced carrier, and the sessions in it. -/
structure History where
  delivery : Queues (Traced Memory)
  /-- All sessions, in the order in which they began. -/
  sessions : List Session

namespace History

/-- Nothing has happened yet. -/
def start (automatic : Bool) : History where
  delivery := .new { carrier := .new automatic, trace := [] }
  sessions := []

/-- The sessions with the frame that an event enqueues. -/
def enlist (h : History) : Event → List Session
  | .enqueue peer frame =>
    if h.delivery.isIdle peer then
      h.sessions ++ [{ peer, handle := h.delivery.nextHandle, frames := [frame], ending := none }]
    else h.sessions.map (Session.owe peer frame)
  | _ => h.sessions

/-- The history after one more event. -/
def step (h : History) (e : Event) : History where
  delivery := h.delivery.step e
  sessions := (h.enlist e).map (Session.close (h.delivery.step e) e)

/-- The history of some events. -/
def after (h : History) (es : List Event) : History :=
  es.foldl step h

/-- The queue with a handle ended because its peer was offline. -/
def Deprecated (h : History) (handle : Nat) : Prop :=
  ∃ s ∈ h.sessions, s.handle = handle ∧ s.ending = some .offline

/-- A history follows the queues through the events. -/
theorem delivery_after (h : History) (es : List Event) :
    (h.after es).delivery = h.delivery.after es := by
  induction es generalizing h with
  | nil => rfl
  | cons e es ih => exact ih (h.step e)

end History

/-! ## What the queues hand over -/

namespace Traced

variable {c : Traced Memory} {peer : Peer}

/-- A carrier refuses a frame for a peer that is offline, and the trace says so. -/
theorem send_refused (h : peer ∈ c.carrier.offline) (frame : Bytes) (origin : Origin) :
    Carrier.send c peer frame origin =
      ({ c with trace := c.trace ++ [⟨peer, frame, origin, some .offline⟩] }, some .offline) := by
  have hsend : Carrier.send c.carrier peer frame origin = (c.carrier, some .offline) :=
    if_pos (List.contains_iff_mem.2 h)
  simp only [Carrier.send] at hsend ⊢
  rw [hsend]

/-- An automatic carrier records a frame and confirms it at once. -/
theorem send_automatic (h : peer ∉ c.carrier.offline) (ha : c.carrier.automatic = true)
    (frame : Bytes) (origin : Origin) :
    Carrier.send c peer frame origin =
      ({ carrier := { c.carrier with sent := c.carrier.sent ++ [(peer, frame)] }
         trace := c.trace ++ [⟨peer, frame, origin, some .delivered⟩] }, some .delivered) := by
  simp [Carrier.send, h, ha]

/-- A manual carrier records a frame and holds its receipt back. -/
theorem send_manual (h : peer ∉ c.carrier.offline) (ha : c.carrier.automatic = false)
    (frame : Bytes) (origin : Origin) :
    Carrier.send c peer frame origin =
      ({ carrier :=
           { c.carrier with
             sent := c.carrier.sent ++ [(peer, frame)]
             held := c.carrier.held ++ [⟨peer, frame, origin⟩] }
         trace := c.trace ++ [⟨peer, frame, origin, none⟩] }, none) := by
  simp [Carrier.send, h, ha]

end Traced

namespace Queues

variable {d : Queues (Traced Memory)} {peer : Peer}

/-- Without frames a queue ends. -/
theorem run_nil (handle : Nat) :
    d.run peer handle [] = { d with queues := d.queues.erase peer } := rfl

/-- A refused frame ends the queue. -/
theorem run_refused (h : peer ∈ d.carrier.carrier.offline) (handle : Nat) (frame : Bytes)
    (rest : List Bytes) :
    d.run peer handle (frame :: rest) =
      { d with
        carrier :=
          { d.carrier with
            trace := d.carrier.trace ++ [⟨peer, frame, .queue handle, some .offline⟩] }
        queues := d.queues.erase peer } := by
  rw [run, pump, Traced.send_refused h]

/-- A held receipt leaves the frame at the front. -/
theorem run_manual (h : peer ∉ d.carrier.carrier.offline)
    (ha : d.carrier.carrier.automatic = false) (handle : Nat) (frame : Bytes)
    (rest : List Bytes) :
    d.run peer handle (frame :: rest) =
      { d with
        carrier :=
          { carrier :=
              { d.carrier.carrier with
                sent := d.carrier.carrier.sent ++ [(peer, frame)]
                held := d.carrier.carrier.held ++ [⟨peer, frame, .queue handle⟩] }
            trace := d.carrier.trace ++ [⟨peer, frame, .queue handle, none⟩] }
        queues := d.queues.insert peer { handle, pending := frame :: rest } } := by
  rw [run, pump, Traced.send_manual h ha]

/-- An automatic carrier takes all frames of a queue, one after another. -/
theorem pump_automatic {c : Traced Memory} (h : peer ∉ c.carrier.offline)
    (ha : c.carrier.automatic = true) (handle : Nat) (frames : List Bytes) :
    pump peer handle c frames =
      ({ carrier :=
           { c.carrier with sent := c.carrier.sent ++ frames.map fun frame => (peer, frame) }
         trace :=
           c.trace ++ frames.map fun frame => ⟨peer, frame, .queue handle, some .delivered⟩ },
        []) := by
  induction frames generalizing c with
  | nil => simp [pump]
  | cons frame rest ih =>
    rw [pump, Traced.send_automatic h ha]
    simp [ih, h, ha]

/-- Receipts that come at once let all frames through. -/
theorem run_automatic (h : peer ∉ d.carrier.carrier.offline)
    (ha : d.carrier.carrier.automatic = true) (handle : Nat) (frames : List Bytes) :
    d.run peer handle frames =
      { d with
        carrier :=
          { carrier :=
              { d.carrier.carrier with
                sent := d.carrier.carrier.sent ++ frames.map fun frame => (peer, frame) }
            trace :=
              d.carrier.trace ++
                frames.map fun frame => ⟨peer, frame, .queue handle, some .delivered⟩ }
        queues := d.queues.erase peer } := by
  rw [run, pump_automatic h ha]

/-- Handing over frames of a queue added `xs` to the trace. -/
structure Ran (d d' : Queues (Traced Memory)) (peer : Peer) (handle : Nat)
    (xs : List HandOver) : Prop where
  trace : d'.carrier.trace = d.carrier.trace ++ xs
  own : ∀ x ∈ xs, x.peer = peer ∧ x.origin = .queue handle
  nextHandle : d'.nextHandle = d.nextHandle
  automatic : d'.carrier.carrier.automatic = d.carrier.carrier.automatic
  offline : d'.carrier.carrier.offline = d.carrier.carrier.offline

/-- Handing over the frames of a queue either lets all of them through, or is refused at the first,
or leaves the first in flight. -/
theorem run_cases (d : Queues (Traced Memory)) (peer : Peer) (handle : Nat)
    (frames : List Bytes) :
    ∃ xs d', d.run peer handle frames = d' ∧ Ran d d' peer handle xs ∧
      ((xs.map HandOver.frame = frames ∧
          (frames ≠ [] → xs.getLast?.bind HandOver.answer = some .delivered) ∧
          d'.queues = d.queues.erase peer ∧ d'.carrier.carrier.held = d.carrier.carrier.held) ∨
        (∃ frame rest, frames = frame :: rest ∧
          xs = [⟨peer, frame, .queue handle, some .offline⟩] ∧
          d'.queues = d.queues.erase peer ∧ d'.carrier.carrier.held = d.carrier.carrier.held) ∨
        (∃ frame rest, frames = frame :: rest ∧ xs = [⟨peer, frame, .queue handle, none⟩] ∧
          d'.queues = d.queues.insert peer { handle, pending := frame :: rest } ∧
          d'.carrier.carrier.held =
            d.carrier.carrier.held ++ [⟨peer, frame, .queue handle⟩])) := by
  -- the carrier decides at the first frame: it refuses, confirms at once, or holds the receipt
  cases frames with
  -- nothing to hand over
  | nil => exact ⟨[], _, run_nil handle, ⟨by simp, by simp, rfl, rfl, rfl⟩,
    .inl ⟨rfl, by simp, rfl, rfl⟩⟩
  | cons frame rest =>
    by_cases hoff : peer ∈ d.carrier.carrier.offline
    · -- refused
      exact ⟨_, _, run_refused hoff handle frame rest, ⟨rfl, by simp, rfl, rfl, rfl⟩,
        .inr (.inl ⟨frame, rest, rfl, rfl, rfl, rfl⟩)⟩
    · cases ha : d.carrier.carrier.automatic with
      -- confirmed at once, and all the others with it
      | true =>
        refine ⟨_, _, run_automatic hoff ha handle (frame :: rest), ⟨rfl, by simp, rfl, rfl, rfl⟩,
          .inl ⟨?_, fun _ => ?_, rfl, rfl⟩⟩
        · simp [Function.comp_def]
        · rw [List.getLast?_map, List.getLast?_cons]
          rfl
      -- held back
      | false =>
        exact ⟨_, _, run_manual hoff ha handle frame rest, ⟨rfl, by simp, rfl, rfl, rfl⟩,
          .inr (.inr ⟨frame, rest, rfl, rfl, rfl, rfl⟩)⟩

variable {handle : Nat} {frames : List Bytes}

@[simp] theorem run_nextHandle : (d.run peer handle frames).nextHandle = d.nextHandle := by
  obtain ⟨xs, d', hrun, hran, -⟩ := run_cases d peer handle frames
  rw [hrun, hran.nextHandle]

/-- A queue that was run has the handle under which it was run. -/
theorem handle_of_run {q : PeerQueue} (h : (d.run peer handle frames).queues.get? peer = some q) :
    q.handle = handle := by
  obtain ⟨xs, d', hrun, -, hcase⟩ := run_cases d peer handle frames
  rw [hrun] at h
  obtain ⟨-, -, hq, -⟩ | ⟨f, r, -, -, hq, -⟩ | ⟨f, r, -, -, hq, -⟩ := hcase
  · simp [hq, Dict.get?_erase] at h
  · simp [hq, Dict.get?_erase] at h
  · rw [hq, Dict.get?_insert, if_pos rfl] at h
    rw [← Option.some.inj h]

/-- What running a queue adds to the trace was handed over under its handle. -/
theorem mem_trace_of_run {x : HandOver} (h : x ∈ (d.run peer handle frames).carrier.trace) :
    x ∈ d.carrier.trace ∨ x.origin = .queue handle := by
  obtain ⟨xs, d', hrun, hran, -⟩ := run_cases d peer handle frames
  rw [hrun, hran.trace] at h
  rcases List.mem_append.1 h with hold | hnew
  · exact .inl hold
  · exact .inr (hran.own x hnew).2

/-- What running a queue adds to the receipts still to come was asked for under its handle. -/
theorem mem_held_of_run {x : Held} (h : x ∈ (d.run peer handle frames).carrier.carrier.held) :
    x ∈ d.carrier.carrier.held ∨ x.peer = peer ∧ x.origin = .queue handle := by
  obtain ⟨xs, d', hrun, -, hcase⟩ := run_cases d peer handle frames
  rw [hrun] at h
  obtain ⟨-, -, -, hheld⟩ | ⟨f, r, -, -, -, hheld⟩ | ⟨f, r, -, -, -, hheld⟩ := hcase
  · exact .inl (hheld ▸ h)
  · exact .inl (hheld ▸ h)
  · rw [hheld] at h
    rcases List.mem_append.1 h with hold | hnew
    · exact .inl hold
    · rw [List.mem_singleton.1 hnew]
      exact .inr ⟨rfl, rfl⟩

/-- A handler is not a queue. -/
theorem handler_ne_queue (n : Nat) : Origin.handler ≠ .queue n := nofun

/-- The program is not a queue. -/
theorem program_ne_queue (n : Nat) : Origin.program ≠ .queue n := nofun

/-- A frame sent past the queues leaves them as they are. -/
theorem sendDirect_cases (d : Queues (Traced Memory)) (peer : Peer) (frame : Bytes)
    {origin : Origin} (ho : ∀ n, origin ≠ .queue n) :
    ∃ d' answer, d.sendDirect peer frame origin = d' ∧ d'.queues = d.queues ∧
      d'.nextHandle = d.nextHandle ∧
      d'.carrier.carrier.automatic = d.carrier.carrier.automatic ∧
      d'.carrier.carrier.offline = d.carrier.carrier.offline ∧
      d'.carrier.trace = d.carrier.trace ++ [⟨peer, frame, origin, answer⟩] ∧
      (d'.carrier.carrier.held = d.carrier.carrier.held ∨
        d'.carrier.carrier.held = d.carrier.carrier.held ++ [⟨peer, frame, origin⟩]) := by
  by_cases hoff : peer ∈ d.carrier.carrier.offline
  · -- refused
    refine ⟨_, some .offline, rfl, ?_⟩
    rw [sendDirect, Traced.send_refused hoff]
    cases origin with
    | queue n => exact absurd rfl (ho n)
    | handler => exact ⟨rfl, rfl, rfl, rfl, rfl, .inl rfl⟩
    | program => exact ⟨rfl, rfl, rfl, rfl, rfl, .inl rfl⟩
  · cases ha : d.carrier.carrier.automatic with
    -- confirmed at once
    | true =>
      refine ⟨_, some .delivered, rfl, ?_⟩
      rw [sendDirect, Traced.send_automatic hoff ha]
      cases origin with
      | queue n => exact absurd rfl (ho n)
      | handler => exact ⟨rfl, rfl, ha, rfl, rfl, .inl rfl⟩
      | program => exact ⟨rfl, rfl, ha, rfl, rfl, .inl rfl⟩
    -- held back
    | false =>
      refine ⟨_, none, rfl, ?_⟩
      rw [sendDirect, Traced.send_manual hoff ha]
      exact ⟨rfl, rfl, ha, rfl, rfl, .inr rfl⟩

/-! ## Receipts that are fired -/

/-- The receipt that is fired is the oldest of the peer. -/
theorem takeHeld?_eq_some {m m' : Memory} {x : Held} (h : m.takeHeld? peer = some (x, m')) :
    ∃ before behind, m.held = before ++ x :: behind ∧
      m' = { m with held := before ++ behind } ∧ x.peer = peer ∧
        ∀ y ∈ before, y.peer ≠ peer := by
  rw [Memory.takeHeld?] at h
  obtain ⟨y, hfind, hy⟩ := Option.map_eq_some_iff.1 h
  obtain ⟨rfl, rfl⟩ := Prod.mk.inj hy
  obtain ⟨hpeer, before, behind, hheld, hbefore⟩ := List.find?_eq_some_iff_append.1 hfind
  -- what is erased is what was found: nothing before it is of the peer
  have hother : ∀ z ∈ before, ¬ (z.peer == peer) = true := by
    intro z hz
    simpa using hbefore z hz
  refine ⟨before, behind, hheld, ?_, eq_of_beq hpeer, fun z hz => by simpa using hother z hz⟩
  rw [hheld, List.eraseP_append_right _ hother,
    List.eraseP_cons_of_pos (p := fun z : Held => z.peer == peer) hpeer]

/-- The queues over the carrier that holds these receipts back instead. -/
def withHeld (d : Queues (Traced Memory)) (held : List Held) : Queues (Traced Memory) :=
  { d with carrier := { d.carrier with carrier := { d.carrier.carrier with held } } }

/-- To fire a receipt is to take it from the carrier and to bring it to who waits for it. -/
theorem fire_cases (d : Queues (Traced Memory)) (peer : Peer) (receipt : Receipt) :
    (d.fire peer receipt = d ∧ ∀ x ∈ d.carrier.carrier.held, x.peer ≠ peer) ∨
      ∃ x before behind, d.carrier.carrier.held = before ++ x :: behind ∧ x.peer = peer ∧
        (∀ y ∈ before, y.peer ≠ peer) ∧
        d.fire peer receipt =
          (d.withHeld (before ++ behind)).onReceipt peer x.origin receipt := by
  have htraced : Holding.takeHeld? d.carrier peer =
      (d.carrier.carrier.takeHeld? peer).map fun (x, carrier) =>
        (x, { d.carrier with carrier }) := rfl
  cases htake : d.carrier.carrier.takeHeld? peer with
  -- the peer owes no receipt
  | none =>
    rw [htake] at htraced
    refine .inl ⟨by rw [fire, htraced]; rfl, ?_⟩
    rw [Memory.takeHeld?, Option.map_eq_none_iff, List.find?_eq_none] at htake
    simpa using htake
  -- the oldest receipt that it owes is taken off the carrier
  | some taken =>
    obtain ⟨x, m⟩ := taken
    rw [htake] at htraced
    obtain ⟨before, behind, hheld, rfl, hpeer, hbefore⟩ := takeHeld?_eq_some htake
    exact .inr ⟨x, before, behind, hheld, hpeer, hbefore, by rw [fire, htraced]; rfl⟩

/-- The receipt of its front ends a queue, or lets it go on. -/
theorem onReceipt_front {d : Queues (Traced Memory)} {peer : Peer} {handle : Nat} {front : Bytes}
    {rest : List Bytes}
    (hq : d.queues.get? peer = some { handle, pending := front :: rest }) (receipt : Receipt) :
    d.onReceipt peer (.queue handle) receipt =
      if receipt = .offline then d.peerOffline peer else d.run peer handle rest := by
  simp only [onReceipt, hq, if_true]
  cases receipt <;> rfl

/-- A receipt that was not asked for under the handle of the peer's queue does nothing to it. -/
theorem onReceipt_stale {σ : Type} [Carrier σ] (d : Queues σ) (peer : Peer) {origin : Origin}
    (receipt : Receipt)
    (h : ∀ n, origin = .queue n → ∀ q, d.queues.get? peer = some q → q.handle ≠ n) :
    (d.onReceipt peer origin receipt).queues = d.queues ∧
      (d.onReceipt peer origin receipt).nextHandle = d.nextHandle ∧
      (d.onReceipt peer origin receipt).carrier = d.carrier := by
  -- nobody's receipt, or the program's
  cases origin with
  | handler => exact ⟨rfl, rfl, rfl⟩
  | program => exact ⟨rfl, rfl, rfl⟩
  | queue n =>
    rw [onReceipt]
    cases hq : d.queues.get? peer with
    -- the peer has no queue
    | none => exact ⟨rfl, rfl, rfl⟩
    | some q =>
      -- the peer has a queue, but not the one that asked
      have hne : q.handle ≠ n := h n rfl q hq
      simp only [hne, if_false]
      trivial

end Queues

end FeedNode.Delivery
