import FeedNode.Proofs.Delivery.Session
import Mathlib.Data.List.Nodup

/-!
# Sessions stand soundly

What a session says of the queues, while it lives and after it ended, is kept by every event.

The proof looks at one session at a time. An event touches at most one live session, the one of its
peer; for all others nothing changes but that receipts of ended sessions may still be fired
(`Session.Sound.keeps`). The touched session goes on with the frames that are left of it, and
`Session.sound_close_run` says where that leads, whether the carrier holds the receipt, confirms at
once or refuses.

Main statement: `History.valid_after`.
-/

namespace FeedNode.Delivery

/-- What a session says of the queues and the carrier. -/
def Session.Stands (s : Session) (d : Queues (Traced Memory)) : Prop :=
  match s.ending with
  | none =>
    -- the front is in flight, and only what is behind it was not handed over
    ∃ front rest,
      d.queues.get? s.peer = some { handle := s.handle, pending := front :: rest } ∧
        d.handed s.handle ++ rest = s.frames ∧
        d.plain.outstanding s.handle = [⟨s.peer, front, .queue s.handle⟩] ∧
        (d.handOvers s.handle).getLast?.bind HandOver.answer = none
  | some .drained => d.handed s.handle = s.frames ∧ d.plain.outstanding s.handle = []
  | some .offline => d.handed s.handle <+: s.frames

/-- A session stands, and all that was handed over in it was for its peer. -/
structure Session.Sound (s : Session) (d : Queues (Traced Memory)) : Prop where
  toPeer : ∀ x ∈ d.handOvers s.handle, x.peer = s.peer
  stands : s.Stands d

/-- Every queue is the queue of a session, and every session stands. -/
structure History.Valid (h : History) : Prop where
  nodup : (h.sessions.map Session.handle).Nodup
  lt : ∀ s ∈ h.sessions, s.handle < h.delivery.nextHandle
  sound : ∀ s ∈ h.sessions, s.Sound h.delivery
  covered : ∀ peer q, h.delivery.queues.get? peer = some q →
    ∃ s ∈ h.sessions, s.peer = peer ∧ s.handle = q.handle ∧ s.ending = none
  traced : ∀ x ∈ h.delivery.carrier.trace, ∀ n, x.origin = .queue n → n < h.delivery.nextHandle
  held : ∀ x ∈ h.delivery.carrier.carrier.held, ∀ n, x.origin = .queue n →
    ∃ s ∈ h.sessions, s.handle = n ∧ s.peer = x.peer

/-! ## Sessions that an event does not touch -/

namespace Session

variable {s : Session} {d d' : Queues (Traced Memory)} {e : Event}

@[simp] theorem close_peer : (s.close d e).peer = s.peer := by
  rw [close]
  split <;> rfl

@[simp] theorem close_handle : (s.close d e).handle = s.handle := by
  rw [close]
  split <;> rfl

@[simp] theorem owe_peer (peer : Peer) (frame : Bytes) : (s.owe peer frame).peer = s.peer := by
  rw [owe]
  split <;> rfl

@[simp] theorem owe_handle (peer : Peer) (frame : Bytes) :
    (s.owe peer frame).handle = s.handle := by
  rw [owe]
  split <;> rfl

@[simp] theorem owe_ending (peer : Peer) (frame : Bytes) :
    (s.owe peer frame).ending = s.ending := by
  rw [owe]
  split <;> rfl

/-- A session that has ended is not closed again. -/
theorem close_of_ending {k : Ending} (h : s.ending = some k) : s.close d e = s := by
  rw [close, if_neg (by simp [h])]

/-- A session that has its queue is not closed. -/
theorem close_of_hasQueue (h : s.hasQueue d = true) : s.close d e = s := by
  rw [close, if_neg (by simp [h])]

/-- A live session without a queue is closed. -/
theorem close_of_gone (h : s.ending = none) (hq : s.hasQueue d = false) :
    s.close d e = { s with ending := some (s.endingAt d e) } := by
  rw [close, if_pos ⟨h, hq⟩]

/-- What a live session says. -/
theorem Sound.live (hs : s.Sound d) (hl : s.ending = none) :
    ∃ front rest,
      d.queues.get? s.peer = some { handle := s.handle, pending := front :: rest } ∧
        d.handed s.handle ++ rest = s.frames ∧
        d.plain.outstanding s.handle = [⟨s.peer, front, .queue s.handle⟩] ∧
        (d.handOvers s.handle).getLast?.bind HandOver.answer = none := by
  have hstands := hs.stands
  rw [Stands, hl] at hstands
  exact hstands

/-- What a drained session says. -/
theorem Sound.drained (hs : s.Sound d) (hd : s.ending = some .drained) :
    d.handed s.handle = s.frames ∧ d.plain.outstanding s.handle = [] := by
  have hstands := hs.stands
  rw [Stands, hd] at hstands
  exact hstands

/-- What a session says that the peer left. -/
theorem Sound.offline (hs : s.Sound d) (ho : s.ending = some .offline) :
    d.handed s.handle <+: s.frames := by
  have hstands := hs.stands
  rw [Stands, ho] at hstands
  exact hstands

/-- What concerns a session is as before, but that receipts of an ended one may be gone. -/
structure Keeps (s : Session) (d d' : Queues (Traced Memory)) : Prop where
  handOvers : d'.handOvers s.handle = d.handOvers s.handle
  outstanding : (d'.plain.outstanding s.handle).Sublist (d.plain.outstanding s.handle)
  live : s.ending = none →
    d'.queues.get? s.peer = d.queues.get? s.peer ∧
      d'.plain.outstanding s.handle = d.plain.outstanding s.handle

/-- A session that is not touched stays as it is, and sound. -/
theorem Sound.keeps (hs : s.Sound d) (hk : s.Keeps d d') :
    s.close d' e = s ∧ s.Sound d' := by
  have hhanded : d'.handed s.handle = d.handed s.handle := congrArg _ hk.handOvers
  have htoPeer : ∀ x ∈ d'.handOvers s.handle, x.peer = s.peer := by
    rw [hk.handOvers]
    exact hs.toPeer
  cases hend : s.ending with
  | none =>
    -- the queue is there as before, so the session stays open
    obtain ⟨front, rest, hq, hframes, hout, hlast⟩ := hs.live hend
    obtain ⟨hsame, houtSame⟩ := hk.live hend
    rw [← hsame] at hq
    refine ⟨close_of_hasQueue ?_, htoPeer, ?_⟩
    · simp [hasQueue, hq]
    · rw [Stands, hend]
      exact ⟨front, rest, hq, hhanded ▸ hframes, houtSame ▸ hout, hk.handOvers ▸ hlast⟩
  -- an ended session says nothing of the queues
  | some k =>
    refine ⟨close_of_ending hend, htoPeer, ?_⟩
    rw [Stands, hend]
    cases k with
    | drained =>
      obtain ⟨hframes, hout⟩ := hs.drained hend
      -- receipts only went away, and there were none
      have hnone := hk.outstanding
      rw [hout] at hnone
      exact ⟨hhanded.trans hframes, List.sublist_nil.1 hnone⟩
    -- what was handed over is what it was
    | offline =>
      show d'.handed s.handle <+: s.frames
      rw [hhanded]
      exact hs.offline hend

end Session

/-! ## A session that goes on -/

namespace Queues

variable {d d' : Queues (Traced Memory)} {peer : Peer} {handle : Nat}

/-- A trace that grew by other hand-overs says the same of a handle. -/
theorem handOvers_of_other {xs : List HandOver}
    (htrace : d'.carrier.trace = d.carrier.trace ++ xs)
    (hxs : ∀ x ∈ xs, x.origin ≠ .queue handle) : d'.handOvers handle = d.handOvers handle := by
  have hnone : xs.filter (fun x => x.origin == .queue handle) = [] := by
    apply List.filter_eq_nil_iff.2
    intro x hx
    simpa using hxs x hx
  rw [handOvers, handOvers, htrace, List.filter_append, hnone, List.append_nil]

/-- A trace that grew by hand-overs of a handle says so. -/
theorem handOvers_of_own {xs : List HandOver}
    (htrace : d'.carrier.trace = d.carrier.trace ++ xs)
    (hxs : ∀ x ∈ xs, x.origin = .queue handle) :
    d'.handOvers handle = d.handOvers handle ++ xs := by
  have hall : xs.filter (fun x => x.origin == .queue handle) = xs := by
    apply List.filter_eq_self.2
    intro x hx
    simpa using hxs x hx
  rw [handOvers, handOvers, htrace, List.filter_append, hall]

/-- What is handed over under a handle is added behind what was. -/
theorem handed_of_own {xs : List HandOver} (htrace : d'.carrier.trace = d.carrier.trace ++ xs)
    (hxs : ∀ x ∈ xs, x.origin = .queue handle) :
    d'.handed handle = d.handed handle ++ xs.map HandOver.frame := by
  rw [handed, handed, handOvers_of_own htrace hxs, List.map_append]

/-- Handing frames over under one handle does not concern another session. -/
theorem keeps_run {s : Session} (hn : s.handle ≠ handle) (hp : s.ending = none → s.peer ≠ peer)
    (frames : List Bytes) : s.Keeps d (d.run peer handle frames) := by
  have hne : Origin.queue handle ≠ Origin.queue s.handle := fun h => hn (Origin.queue.inj h).symm
  obtain ⟨xs, d', hrun, hran, hcase⟩ := run_cases d peer handle frames
  have hover : d'.handOvers s.handle = d.handOvers s.handle :=
    handOvers_of_other hran.trace fun x hx => by
      rw [(hran.own x hx).2]
      exact hne
  have hother : d'.plain.outstanding s.handle = d.plain.outstanding s.handle := by
    obtain ⟨-, -, -, hheld⟩ | ⟨f, r, -, -, -, hheld⟩ | ⟨f, r, -, -, -, hheld⟩ := hcase <;>
      simp [outstanding, plain, hheld, hne]
  -- an ended session may be of the same peer, but it has no queue to lose
  have hqueue : s.ending = none → d'.queues.get? s.peer = d.queues.get? s.peer := by
    intro hl
    rw [← hrun, run_get?_of_ne _ (hp hl)]
  rw [hrun]
  exact ⟨hover, hother ▸ .refl _, fun hl => ⟨hqueue hl, hother⟩⟩

end Queues

namespace Session

variable {s : Session} {d d' : Queues (Traced Memory)} {e : Event}

/-- A session whose last frame was answered at once ends as the answer says. -/
theorem endingAt_of_answer (receipt : Receipt)
    (h : (d.handOvers s.handle).getLast?.bind HandOver.answer = some receipt) :
    s.endingAt d e = if receipt = .offline then .offline else .drained := by
  simp only [endingAt, lastReceipt?, h]
  cases receipt <;> rfl

/-- How a session ended depends on nothing but what was handed over. -/
theorem endingAt_congr (h : d'.handOvers s.handle = d.handOvers s.handle) :
    s.endingAt d' e = s.endingAt d e := by
  simp only [endingAt, lastReceipt?, h]

/-- A session that waited for a receipt ends as the receipt says. -/
theorem endingAt_of_waiting {peer : Peer} {receipt : Receipt}
    (h : (d.handOvers s.handle).getLast?.bind HandOver.answer = none) :
    s.endingAt d (.receipt peer receipt) = if receipt = .offline then .offline else .drained := by
  simp only [endingAt, lastReceipt?, h]
  cases receipt <;> rfl

/-- A session goes on with the frames that are left of it. -/
theorem sound_close_run {frames : List Bytes} (hl : s.ending = none)
    (hto : ∀ x ∈ d.handOvers s.handle, x.peer = s.peer)
    (hframes : d.handed s.handle ++ frames = s.frames)
    (hout : d.plain.outstanding s.handle = [])
    (hend : frames = [] → s.endingAt d e = .drained) :
    (s.close (d.run s.peer s.handle frames) e).Sound (d.run s.peer s.handle frames) := by
  obtain ⟨xs, d', hrun, hran, hcase⟩ := Queues.run_cases d s.peer s.handle frames
  have hover : d'.handOvers s.handle = d.handOvers s.handle ++ xs :=
    Queues.handOvers_of_own hran.trace fun x hx => (hran.own x hx).2
  have hhanded : d'.handed s.handle = d.handed s.handle ++ xs.map HandOver.frame :=
    Queues.handed_of_own hran.trace fun x hx => (hran.own x hx).2
  have hto' : ∀ x ∈ d'.handOvers s.handle, x.peer = s.peer := by
    rw [hover]
    intro x hx
    rcases List.mem_append.1 hx with hold | hnew
    · exact hto x hold
    · exact (hran.own x hnew).1
  rw [hrun]
  obtain ⟨hall, hanswer, hq, hheld⟩ | ⟨frame, rest, rfl, rfl, hq, -⟩ |
    ⟨frame, rest, rfl, rfl, hq, hheld⟩ := hcase
  · -- all of them went through
    have hout' : d'.plain.outstanding s.handle = [] := by
      rw [← hout]
      simp [Queues.outstanding, Queues.plain, hheld]
    -- with nothing left to hand over, the receipt that led here decides
    have hdrained : s.endingAt d' e = .drained := by
      cases frames with
      | nil =>
        rw [endingAt_congr (d := d), hend rfl]
        rw [hover, List.map_eq_nil_iff.1 hall, List.append_nil]
      | cons frame rest =>
        have hlast := hanswer (by simp)
        rw [endingAt_of_answer .delivered]
        · rfl
        · rw [hover, List.getLast?_append]
          cases hxs : xs.getLast? with
          | none => simp [hxs] at hlast
          | some x => simpa [hxs] using hlast
    rw [close_of_gone hl (by simp [hasQueue, hq, Dict.get?_erase]), hdrained]
    exact ⟨hto', by rw [← hframes, ← hall]; exact hhanded, hout'⟩
  · -- the first of them was refused
    have hoffline : s.endingAt d' e = .offline := by
      rw [endingAt_of_answer .offline]
      · rfl
      · simp [hover]
    rw [close_of_gone hl (by simp [hasQueue, hq, Dict.get?_erase]), hoffline]
    refine ⟨hto', ?_⟩
    show d'.handed s.handle <+: s.frames
    exact ⟨rest, by rw [hhanded, ← hframes]; simp⟩
  · -- the first of them is in flight
    have hget : d'.queues.get? s.peer = some { handle := s.handle, pending := frame :: rest } := by
      simp [hq, Dict.get?_insert]
    rw [close_of_hasQueue (by simp [hasQueue, hget])]
    refine ⟨hto', ?_⟩
    rw [Stands, hl]
    -- the first frame was handed over, and the rest was not
    refine ⟨frame, rest, hget, ?_, ?_, by simp [hover]⟩
    · rw [hhanded, ← hframes]
      simp
    · -- its receipt is the only one that is asked for under the handle
      have hsplit : d'.plain.outstanding s.handle =
          d.plain.outstanding s.handle ++ [⟨s.peer, frame, .queue s.handle⟩] := by
        simp [Queues.outstanding, Queues.plain, hheld]
      rw [hsplit, hout, List.nil_append]

/-- A live session is owed one frame more. -/
theorem Sound.owe {q : PeerQueue} {frame : Bytes} (hs : s.Sound d) (hl : s.ending = none)
    (hq : d.queues.get? s.peer = some q) (hcarrier : d'.carrier = d.carrier)
    (hq' : d'.queues.get? s.peer = some { q with pending := q.pending ++ [frame] }) :
    (s.owe s.peer frame).hasQueue d' = true ∧ (s.owe s.peer frame).Sound d' := by
  obtain ⟨front, rest, hfront, hframes, hflight, hlast⟩ := hs.live hl
  have hover : d'.handOvers s.handle = d.handOvers s.handle := by
    rw [Queues.handOvers, Queues.handOvers, hcarrier]
  have hback : d'.queues.get? s.peer =
      some { handle := s.handle, pending := front :: (rest ++ [frame]) } := by
    rw [hq] at hfront
    rw [hq', Option.some.inj hfront]
    rfl
  rw [Session.owe, if_pos ⟨rfl, hl⟩]
  refine ⟨by simp [hasQueue, hback], ?_, ?_⟩
  · -- all that was handed over was for the peer
    show ∀ x ∈ d'.handOvers s.handle, x.peer = s.peer
    rw [hover]
    exact hs.toPeer
  · simp only [Stands, hl]
    refine ⟨front, rest ++ [frame], hback, ?_, ?_, ?_⟩
    · -- the frames of the session, with the new one behind them
      rw [← hframes, Queues.handed, hover, List.append_assoc]
      rfl
    · -- the front is in flight as before
      rw [← hflight]
      simp only [Queues.outstanding, Queues.plain, hcarrier]
    · -- and its receipt is still to come
      rw [hover]
      exact hlast

end Session

/-! ## Histories that go on -/

namespace History

variable {h : History} {d' : Queues (Traced Memory)} {e : Event} {ss : List Session}

/-- What the sessions come to when all of them are sound in the end. -/
theorem valid_of_sound (hnodup : (ss.map Session.handle).Nodup)
    (hlt : ∀ s ∈ ss, s.handle < d'.nextHandle) (hsound : ∀ s ∈ ss, (s.close d' e).Sound d')
    (hcovered : ∀ peer q, d'.queues.get? peer = some q →
      ∃ s ∈ ss, s.peer = peer ∧ s.handle = q.handle ∧ s.ending = none)
    (htraced : ∀ x ∈ d'.carrier.trace, ∀ n, x.origin = .queue n → n < d'.nextHandle)
    (hheld : ∀ x ∈ d'.carrier.carrier.held, ∀ n, x.origin = .queue n →
      ∃ s ∈ ss, s.handle = n ∧ s.peer = x.peer) :
    Valid { delivery := d', sessions := ss.map (Session.close d' e) } where
  -- closing a session leaves its handle
  nodup := by
    rw [List.map_map]
    rw [show Session.handle ∘ Session.close d' e = Session.handle from
      funext fun s => Session.close_handle]
    exact hnodup
  -- the handles have been given out
  lt := by
    intro s hs
    obtain ⟨s₀, hs₀, rfl⟩ := List.mem_map.1 hs
    simpa using hlt s₀ hs₀
  sound := by
    intro s hs
    obtain ⟨s₀, hs₀, rfl⟩ := List.mem_map.1 hs
    exact hsound s₀ hs₀
  -- every queue has its session still
  covered := by
    intro peer q hq
    obtain ⟨s, hs, rfl, hhandle, hlive⟩ := hcovered peer q hq
    have hsame : s.close d' e = s :=
      Session.close_of_hasQueue (by simp [Session.hasQueue, hq, hhandle])
    exact ⟨s, List.mem_map.2 ⟨s, hs, hsame⟩, rfl, hhandle, hlive⟩
  traced := htraced
  -- every receipt has its session still
  held := by
    intro x hx n hn
    obtain ⟨s, hs, hhandle, hpeer⟩ := hheld x hx n hn
    exact ⟨s.close d' e, List.mem_map_of_mem hs, by simpa using hhandle, by simpa using hpeer⟩

/-- An event that touches no queue. -/
theorem Valid.of_keeps (hv : h.Valid) (hq : d'.queues = h.delivery.queues)
    (hnext : d'.nextHandle = h.delivery.nextHandle)
    (hkeeps : ∀ s ∈ h.sessions, s.Keeps h.delivery d')
    (htraced : ∀ x ∈ d'.carrier.trace, ∀ n, x.origin = .queue n → x ∈ h.delivery.carrier.trace)
    (hheld : ∀ x ∈ d'.carrier.carrier.held, ∀ n, x.origin = .queue n →
      x ∈ h.delivery.carrier.carrier.held) :
    Valid { delivery := d', sessions := h.sessions.map (Session.close d' e) } := by
  refine valid_of_sound hv.nodup ?_ ?_ ?_ ?_ ?_
  · -- no handle was given out
    rw [hnext]
    exact hv.lt
  · -- no session is touched
    intro s hs
    obtain ⟨hsame, hsound⟩ := (hv.sound s hs).keeps (e := e) (hkeeps s hs)
    rw [hsame]
    exact hsound
  · -- no queue changed
    rw [hq]
    exact hv.covered
  · -- nothing was handed over under a handle
    intro x hx n hn
    rw [hnext]
    exact hv.traced x (htraced x hx n hn) n hn
  · -- nothing was asked for under one
    intro x hx n hn
    exact hv.held x (hheld x hx n hn) n hn

/-- A live session is the only one of its peer. -/
theorem Valid.peer_ne (hv : h.Valid) {s t : Session} (hs : s ∈ h.sessions) (ht : t ∈ h.sessions)
    (hne : s.handle ≠ t.handle) (hlive : t.ending = none) : s.ending = none → s.peer ≠ t.peer := by
  intro hl hpeer
  -- both would have the one queue of the peer
  obtain ⟨f, r, hq, -⟩ := (hv.sound s hs).live hl
  obtain ⟨f', r', hq', -⟩ := (hv.sound t ht).live hlive
  rw [hpeer, hq'] at hq
  exact hne (congrArg PeerQueue.handle (Option.some.inj hq)).symm

/-- An event after which one session goes on with the frames that are left of it. -/
theorem valid_of_run {d : Queues (Traced Memory)} {s : Session} {frames : List Bytes}
    (hnodup : (ss.map Session.handle).Nodup) (hlt : ∀ t ∈ ss, t.handle < d.nextHandle)
    (hs : s ∈ ss) (hlive : s.ending = none)
    (hothers : ∀ t ∈ ss, t.handle ≠ s.handle →
      t.Sound d ∧ (t.ending = none → t.peer ≠ s.peer))
    (hcovered : ∀ peer, peer ≠ s.peer → ∀ q, d.queues.get? peer = some q →
      ∃ t ∈ ss, t.peer = peer ∧ t.handle = q.handle ∧ t.ending = none)
    (htraced : ∀ x ∈ d.carrier.trace, ∀ n, x.origin = .queue n → n < d.nextHandle)
    (hheld : ∀ x ∈ d.carrier.carrier.held, ∀ n, x.origin = .queue n →
      ∃ t ∈ ss, t.handle = n ∧ t.peer = x.peer)
    (hsound : (s.close (d.run s.peer s.handle frames) e).Sound (d.run s.peer s.handle frames)) :
    Valid
      { delivery := d.run s.peer s.handle frames
        sessions := ss.map (Session.close (d.run s.peer s.handle frames) e) } := by
  refine valid_of_sound hnodup ?_ ?_ ?_ ?_ ?_
  · simpa using hlt
  · intro t ht
    -- handles are distinct: either it is the session that goes on, or it is not touched
    by_cases hh : t.handle = s.handle
    · rw [List.inj_on_of_nodup_map hnodup ht hs hh]
      exact hsound
    · obtain ⟨htsound, hpeer⟩ := hothers t ht hh
      obtain ⟨hsame, hgoes⟩ := htsound.keeps (e := e) (Queues.keeps_run hh hpeer frames)
      rw [hsame]
      exact hgoes
  · intro peer q hq
    -- only the queue of the session's peer is new
    by_cases hp : peer = s.peer
    · subst hp
      exact ⟨s, hs, rfl, (Queues.handle_of_run hq).symm, hlive⟩
    · rw [Queues.run_get?_of_ne _ hp] at hq
      exact hcovered peer hp q hq
  · -- what was handed over
    intro x hx n hn
    rw [Queues.run_nextHandle]
    rcases Queues.mem_trace_of_run hx with hold | hown
    · exact htraced x hold n hn
    · rw [hown] at hn
      rw [← Origin.queue.inj hn]
      exact hlt s hs
  · -- what is still to come
    intro x hx n hn
    rcases Queues.mem_held_of_run hx with hold | ⟨hpeer, hown⟩
    · exact hheld x hold n hn
    · rw [hown] at hn
      exact ⟨s, hs, Origin.queue.inj hn, hpeer.symm⟩

/-- An event that takes the queue of a peer away. -/
theorem Valid.of_offline (hv : h.Valid) (peer : Peer)
    (hq : d'.queues = h.delivery.queues.erase peer)
    (hnext : d'.nextHandle = h.delivery.nextHandle)
    (htrace : d'.carrier.trace = h.delivery.carrier.trace)
    (hheld : d'.carrier.carrier.held.Sublist h.delivery.carrier.carrier.held)
    (hkeeps : ∀ s ∈ h.sessions, (s.ending = none → s.peer ≠ peer) →
      s.Keeps h.delivery d')
    (hend : ∀ s : Session, (d'.handOvers s.handle).getLast?.bind HandOver.answer = none →
      s.endingAt d' e = .offline) :
    Valid { delivery := d', sessions := h.sessions.map (Session.close d' e) } := by
  have hover : ∀ n, d'.handOvers n = h.delivery.handOvers n := by
    intro n
    rw [Queues.handOvers, Queues.handOvers, htrace]
  refine valid_of_sound hv.nodup ?_ ?_ ?_ ?_ ?_
  · rw [hnext]
    exact hv.lt
  · intro s hs
    by_cases hp : s.ending = none ∧ s.peer = peer
    · -- the session of the peer ends
      obtain ⟨hlive, rfl⟩ := hp
      obtain ⟨front, rest, -, hframes, -, hlast⟩ := (hv.sound s hs).live hlive
      rw [Session.close_of_gone hlive (by simp [Session.hasQueue, hq, Dict.get?_erase]),
        hend s (by rw [hover]; exact hlast)]
      refine ⟨?_, ?_⟩
      · show ∀ x ∈ d'.handOvers s.handle, x.peer = s.peer
        rw [hover]
        exact (hv.sound s hs).toPeer
      · -- what was handed over is what was, the rest was dropped
        show d'.handed s.handle <+: s.frames
        exact ⟨rest, by rw [← hframes, Queues.handed, hover]; rfl⟩
    · -- other sessions are not touched
      obtain ⟨hsame, hsound⟩ := (hv.sound s hs).keeps (e := e)
        (hkeeps s hs fun hl hpeer => hp ⟨hl, hpeer⟩)
      rw [hsame]
      exact hsound
  · -- the queues of other peers are as they were
    intro p q hget
    rw [hq, Dict.get?_erase] at hget
    split at hget
    · cases hget
    · exact hv.covered p q hget
  · rw [htrace, hnext]
    exact hv.traced
  · intro x hx n hn
    exact hv.held x (hheld.subset hx) n hn

/-! ## One more event -/

/-- What the live session of a peer says of its queue. -/
theorem Valid.get?_of_live (hv : h.Valid) {s : Session} (hs : s ∈ h.sessions)
    (hlive : s.ending = none) :
    ∃ q, h.delivery.queues.get? s.peer = some q ∧ q.handle = s.handle := by
  obtain ⟨front, rest, hq, -⟩ := (hv.sound s hs).live hlive
  exact ⟨_, hq, rfl⟩

/-- A frame for a peer whose queue is there waits behind the others. -/
theorem Valid.enqueue_behind (hv : h.Valid) {peer : Peer} {q : PeerQueue} (frame : Bytes)
    (hq : h.delivery.queues.get? peer = some q) : (h.step (.enqueue peer frame)).Valid := by
  have hbusy : h.delivery.isIdle peer = false := by
    simp [Queues.isIdle, Dict.contains, hq]
  have hstep : h.delivery.step (.enqueue peer frame) =
      { h.delivery with
        queues :=
          h.delivery.queues.insert peer { q with pending := q.pending ++ [frame] } } := by
    simp only [Queues.step, Queues.enqueue, hq]
  rw [step, enlist, hbusy, if_neg (by simp), hstep]
  generalize hd' : ({ h.delivery with
    queues := h.delivery.queues.insert peer { q with pending := q.pending ++ [frame] } } :
      Queues (Traced Memory)) = d'
  have hget : ∀ p, d'.queues.get? p =
      if p = peer then some { q with pending := q.pending ++ [frame] }
      else h.delivery.queues.get? p := by
    intro p
    rw [← hd', Dict.get?_insert]
  have hcarrier : d'.carrier = h.delivery.carrier := by rw [← hd']
  have hnext : d'.nextHandle = h.delivery.nextHandle := by rw [← hd']
  -- owing a frame leaves the handles
  have hhandles : (h.sessions.map (Session.owe peer frame)).map Session.handle =
      h.sessions.map Session.handle := by
    rw [List.map_map]
    exact List.map_congr_left fun s _ => Session.owe_handle peer frame
  have hsame : ∀ n, d'.handOvers n = h.delivery.handOvers n := by
    intro n
    rw [Queues.handOvers, Queues.handOvers, hcarrier]
  have hout : ∀ n, d'.plain.outstanding n = h.delivery.plain.outstanding n := by
    intro n
    simp only [Queues.outstanding, Queues.plain, hcarrier]
  refine valid_of_sound (by rw [hhandles]; exact hv.nodup) ?_ ?_ ?_ ?_ ?_
  · -- the handles
    intro s hs
    obtain ⟨t, ht, rfl⟩ := List.mem_map.1 hs
    rw [Session.owe_handle, hnext]
    exact hv.lt t ht
  · -- the sessions
    intro s hs
    obtain ⟨t, ht, rfl⟩ := List.mem_map.1 hs
    -- the frame is owed to the live session of the peer and to no other
    by_cases hp : t.peer = peer ∧ t.ending = none
    · obtain ⟨rfl, hlive⟩ := hp
      obtain ⟨hqueue, howed⟩ := (hv.sound t ht).owe hlive hq hcarrier
        (by rw [hget, if_pos rfl])
      rw [Session.close_of_hasQueue hqueue]
      exact howed
    · rw [Session.owe, if_neg hp]
      have hkeeps : t.Keeps h.delivery d' :=
        { handOvers := hsame t.handle
          outstanding := by rw [hout]
          live := fun hl => ⟨by rw [hget, if_neg fun hpeer => hp ⟨hpeer, hl⟩], hout t.handle⟩ }
      obtain ⟨hstays, hsound⟩ := (hv.sound t ht).keeps (e := .enqueue peer frame) hkeeps
      rw [hstays]
      exact hsound
  -- the queue of the peer has one frame more, and the handle that it had
  · intro p r hr
    have hold : ∃ r', h.delivery.queues.get? p = some r' ∧ r'.handle = r.handle := by
      rw [hget] at hr
      split at hr
      · rename_i hp
        rw [hp]
        exact ⟨q, hq, by rw [← Option.some.inj hr]⟩
      · exact ⟨r, hr, rfl⟩
    obtain ⟨r', hr', hhandle⟩ := hold
    obtain ⟨s, hs, hpeer, hshandle, hlive⟩ := hv.covered p r' hr'
    exact ⟨s.owe peer frame, List.mem_map_of_mem hs, by simpa using hpeer,
      by simpa [← hhandle] using hshandle, by simpa using hlive⟩
  · -- the trace and the receipts, which did not change
    rw [hcarrier, hnext]
    exact hv.traced
  · rw [hcarrier]
    intro x hx n hn
    obtain ⟨s, hs, hhandle, hpeer⟩ := hv.held x hx n hn
    exact ⟨s.owe peer frame, List.mem_map_of_mem hs, by simpa using hhandle, by simpa using hpeer⟩

/-- A frame for a peer that has no queue begins a session. -/
theorem Valid.enqueue_first (hv : h.Valid) {peer : Peer} (frame : Bytes)
    (hq : h.delivery.queues.get? peer = none) : (h.step (.enqueue peer frame)).Valid := by
  have hidle : h.delivery.isIdle peer = true := by
    simp [Queues.isIdle, Dict.contains, hq]
  generalize hd : ({ h.delivery with nextHandle := h.delivery.nextHandle + 1 } :
    Queues (Traced Memory)) = d
  generalize hs : ({ peer, handle := h.delivery.nextHandle, frames := [frame], ending := none } :
    Session) = s
  have hcarrier : d.carrier = h.delivery.carrier := by rw [← hd]
  have hqueues : d.queues = h.delivery.queues := by rw [← hd]
  have hnext : d.nextHandle = h.delivery.nextHandle + 1 := by rw [← hd]
  have hpeer : s.peer = peer := by rw [← hs]
  have hhandle : s.handle = h.delivery.nextHandle := by rw [← hs]
  have hlive : s.ending = none := by rw [← hs]
  have hstep : h.delivery.step (.enqueue peer frame) = d.run s.peer s.handle [frame] := by
    simp only [Queues.step, Queues.enqueue, hq, hd, hpeer, hhandle]
  rw [step, enlist, hidle, if_pos rfl, hs, hstep]
  -- the handle is fresh, so nothing was handed over or asked for under it
  have hover : d.handOvers s.handle = [] := by
    rw [Queues.handOvers, hcarrier]
    apply List.filter_eq_nil_iff.2
    intro x hx hown
    have hlt := hv.traced x hx s.handle (eq_of_beq hown)
    omega
  have hout : d.plain.outstanding s.handle = [] := by
    rw [Queues.outstanding, show d.plain.carrier = d.carrier.carrier from rfl, hcarrier]
    apply List.filter_eq_nil_iff.2
    intro x hx hown
    obtain ⟨t, ht, hth, -⟩ := hv.held x hx s.handle (eq_of_beq hown)
    have hlt := hv.lt t ht
    omega
  have hltold : ∀ t ∈ h.sessions, t.handle < s.handle := by
    intro t ht
    rw [hhandle]
    exact hv.lt t ht
  -- the handle of the new session is not among the old ones
  refine valid_of_run (s := s) ?_ ?_ (by simp) hlive ?_ ?_ ?_ ?_ ?_
  · rw [List.map_append, List.map_singleton]
    refine List.nodup_append.2 ⟨hv.nodup, by simp, ?_⟩
    intro n hn m hm
    obtain ⟨t, ht, rfl⟩ := List.mem_map.1 hn
    rw [List.mem_singleton.1 hm]
    exact Nat.ne_of_lt (hltold t ht)
  · -- all handles were given out
    intro t ht
    rcases List.mem_append.1 ht with hold | hnew
    · have hlt := hltold t hold
      omega
    · rw [List.mem_singleton.1 hnew]
      omega
  · -- the older sessions are of other peers, or have ended
    intro t ht hne
    rcases List.mem_append.1 ht with hold | hnew
    · refine ⟨?_, ?_⟩
      · rw [← hd]
        exact ⟨(hv.sound t hold).toPeer, (hv.sound t hold).stands⟩
      · intro hl htp
        obtain ⟨r, hr, -⟩ := hv.get?_of_live hold hl
        rw [htp, hpeer, hq] at hr
        cases hr
    · rw [List.mem_singleton.1 hnew] at hne
      exact absurd rfl hne
  · -- the queues of other peers have their sessions
    intro p _ r hr
    rw [hqueues] at hr
    obtain ⟨t, ht, hrest⟩ := hv.covered p r hr
    exact ⟨t, List.mem_append_left _ ht, hrest⟩
  · -- what was handed over before
    intro x hx n hn
    rw [hcarrier] at hx
    have hlt := hv.traced x hx n hn
    omega
  · -- what was still to come before
    intro x hx n hn
    rw [hcarrier] at hx
    obtain ⟨t, ht, hrest⟩ := hv.held x hx n hn
    exact ⟨t, List.mem_append_left _ ht, hrest⟩
  · -- and the new session, which begins with the frame
    refine Session.sound_close_run hlive (by simp [hover]) ?_ hout (by simp)
    rw [Queues.handed, hover, ← hs]
    rfl

/-- A peer that goes offline ends its session. -/
theorem Valid.peerOffline (hv : h.Valid) (peer : Peer) : (h.step (.peerOffline peer)).Valid := by
  refine hv.of_offline peer rfl rfl rfl (.refl _) ?_ ?_
  · intro s _ hp
    exact ⟨rfl, .refl _, fun hl =>
      ⟨by simp [Queues.step, Queues.peerOffline, Dict.get?_erase, hp hl], rfl⟩⟩
  · intro s hlast
    simp only [Session.endingAt, Session.lastReceipt?, hlast]

/-- A frame sent past the queues concerns no session. -/
theorem Valid.sendDirect (hv : h.Valid) (peer : Peer) (frame : Bytes) {origin : Origin}
    (ho : ∀ n, origin ≠ .queue n) :
    Valid
      { delivery := h.delivery.sendDirect peer frame origin
        sessions :=
          h.sessions.map (Session.close (h.delivery.sendDirect peer frame origin) e) } := by
  obtain ⟨d', answer, hd', hq, hnext, -, -, htrace, hheld⟩ :=
    Queues.sendDirect_cases h.delivery peer frame ho
  rw [hd']
  refine hv.of_keeps hq hnext ?_ ?_ ?_
  · -- no session asked for its receipt
    intro s _
    have hout : d'.plain.outstanding s.handle = h.delivery.plain.outstanding s.handle := by
      rcases hheld with hsame | hmore
      · simp [Queues.outstanding, Queues.plain, hsame]
      · simp [Queues.outstanding, Queues.plain, hmore, ho]
    exact ⟨Queues.handOvers_of_other htrace (by simp [ho]), by rw [hout],
      fun _ => ⟨by rw [hq], hout⟩⟩
  · -- the trace has one more hand-over, but of no queue
    intro x hx n hn
    rw [htrace] at hx
    rcases List.mem_append.1 hx with hold | hnew
    · exact hold
    · rw [List.mem_singleton.1 hnew] at hn
      exact absurd hn (ho n)
  · -- the carrier may hold one more receipt, but of no queue
    intro x hx n hn
    rcases hheld with hsame | hmore
    · rw [hsame] at hx
      exact hx
    · rw [hmore] at hx
      rcases List.mem_append.1 hx with hold | hnew
      · exact hold
      · rw [List.mem_singleton.1 hnew] at hn
        exact absurd hn (ho n)

/-! ## A receipt that is fired -/

section Receipt

variable {peer : Peer} {x : Held} {before behind : List Held}

/-- Taking a receipt is nothing to the sessions that did not ask for it. -/
theorem keeps_withHeld {s : Session}
    (hheld : h.delivery.carrier.carrier.held = before ++ x :: behind)
    (hs : s.ending = none → x.origin ≠ .queue s.handle) :
    s.Keeps h.delivery (h.delivery.withHeld (before ++ behind)) where
  handOvers := rfl
  outstanding := by
    simp only [Queues.outstanding, Queues.plain, Queues.withHeld, hheld]
    exact ((List.Sublist.refl before).append (List.sublist_cons_self x behind)).filter _
  live := by
    intro hl
    refine ⟨rfl, ?_⟩
    simp [Queues.outstanding, Queues.plain, Queues.withHeld, hheld, hs hl]

/-- The receipt of a live session's front is the only one that it waits for. -/
theorem Valid.of_asked (hv : h.Valid) {s : Session} (hs : s ∈ h.sessions)
    (hlive : s.ending = none)
    (hheld : h.delivery.carrier.carrier.held = before ++ x :: behind)
    (hx : x.origin = .queue s.handle) :
    x.peer = s.peer ∧
      (h.delivery.withHeld (before ++ behind)).plain.outstanding s.handle = [] := by
  obtain ⟨front, rest, -, -, hflight, -⟩ := (hv.sound s hs).live hlive
  simp only [Queues.outstanding, Queues.plain, hheld, List.filter_append] at hflight
  rw [List.filter_cons_of_pos (by simp [hx])] at hflight
  -- of a list with one receipt, `x` is that one
  obtain ⟨hbefore, hrest⟩ | ⟨_, hrest⟩ := List.append_eq_singleton_iff.1 hflight
  · obtain ⟨rfl, hbehind⟩ := List.cons.inj hrest
    refine ⟨rfl, ?_⟩
    simp only [Queues.outstanding, Queues.plain, Queues.withHeld, List.filter_append]
    rw [hbefore, hbehind, List.append_nil]
  · cases hrest

/-- A receipt that no live session waits for concerns none. -/
theorem Valid.of_stale (hv : h.Valid)
    (hheld : h.delivery.carrier.carrier.held = before ++ x :: behind)
    (hstale : ∀ s ∈ h.sessions, s.ending = none → x.origin ≠ .queue s.handle)
    (hq : d'.queues = h.delivery.queues) (hnext : d'.nextHandle = h.delivery.nextHandle)
    (hcarrier : d'.carrier = (h.delivery.withHeld (before ++ behind)).carrier) :
    Valid { delivery := d', sessions := h.sessions.map (Session.close d' e) } := by
  refine hv.of_keeps hq hnext ?_ ?_ ?_
  · -- no session is touched
    intro s hs
    have hkeeps := keeps_withHeld hheld (hstale s hs)
    have hout : d'.plain.outstanding s.handle =
        (h.delivery.withHeld (before ++ behind)).plain.outstanding s.handle := by
      simp only [Queues.outstanding, Queues.plain, hcarrier]
    have hover : d'.handOvers s.handle =
        (h.delivery.withHeld (before ++ behind)).handOvers s.handle := by
      simp only [Queues.handOvers, hcarrier]
    exact ⟨hover.trans hkeeps.handOvers, by rw [hout]; exact hkeeps.outstanding,
      fun hl => ⟨by rw [hq], hout.trans (hkeeps.live hl).2⟩⟩
  · -- what was handed over is the same
    intro y hy n _
    rw [hcarrier] at hy
    exact hy
  · -- one receipt less is to come
    intro y hy n _
    rw [hcarrier] at hy
    rw [hheld]
    rcases List.mem_append.1 hy with hb | hb
    · exact List.mem_append_left _ hb
    · exact List.mem_append_right _ (List.mem_cons_of_mem x hb)

/-- The front of a live queue has its receipt. -/
theorem Valid.of_answered (hv : h.Valid) {s : Session} (hs : s ∈ h.sessions)
    (hlive : s.ending = none) (receipt : Receipt)
    (hheld : h.delivery.carrier.carrier.held = before ++ x :: behind)
    (horigin : x.origin = .queue s.handle)
    (hd' : d' = (h.delivery.withHeld (before ++ behind)).onReceipt s.peer x.origin receipt) :
    Valid
      { delivery := d'
        sessions := h.sessions.map (Session.close d' (.receipt s.peer receipt)) } := by
  obtain ⟨-, hout⟩ := hv.of_asked hs hlive hheld horigin
  obtain ⟨front, rest, hget, hframes, -, hlast⟩ := (hv.sound s hs).live hlive
  have hq : (h.delivery.withHeld (before ++ behind)).queues.get? s.peer =
      some { handle := s.handle, pending := front :: rest } := hget
  have hothers : ∀ t ∈ h.sessions, t.handle ≠ s.handle →
      t.Keeps h.delivery (h.delivery.withHeld (before ++ behind)) := by
    intro t _ hne
    refine keeps_withHeld hheld fun _ horigin' => hne ?_
    rw [horigin] at horigin'
    exact (Origin.queue.inj horigin').symm
  rw [horigin, Queues.onReceipt_front hq] at hd'
  -- an offline receipt ends the queue, any other lets the frames behind the front follow
  by_cases hoff : receipt = .offline
  · -- the peer is offline
    subst hoff
    rw [if_pos rfl] at hd'
    rw [hd']
    -- the receipts that are left are fewer
    refine hv.of_offline s.peer rfl rfl rfl ?_ ?_ ?_
    · rw [hheld]
      exact (List.Sublist.refl before).append (List.sublist_cons_self x behind)
    · -- the others are not touched
      intro t ht hp
      have hne : t.handle ≠ s.handle := by
        intro hh
        rw [List.inj_on_of_nodup_map hv.nodup ht hs hh] at hp
        exact hp hlive rfl
      have hkeeps := hothers t ht hne
      exact ⟨hkeeps.handOvers, hkeeps.outstanding, fun hl =>
        ⟨by simp [Queues.peerOffline, Queues.withHeld, Dict.get?_erase, hp hl],
          (hkeeps.live hl).2⟩⟩
    · -- and this one ends as the receipt says
      intro t hwaits
      rw [Session.endingAt_of_waiting hwaits, if_pos rfl]
  · -- the next frames follow
    rw [if_neg hoff] at hd'
    rw [hd']
    refine valid_of_run hv.nodup hv.lt hs hlive ?_ ?_ hv.traced ?_ ?_
    · -- the others are sound over the carrier without the receipt
      intro t ht hne
      exact ⟨((hv.sound t ht).keeps (e := .receipt s.peer receipt) (hothers t ht hne)).2,
        hv.peer_ne ht hs hne hlive⟩
    · exact fun p _ q => hv.covered p q
    · -- the receipts that are left were there before
      intro y hy n hn
      refine hv.held y ?_ n hn
      rw [hheld]
      rcases List.mem_append.1 hy with hb | hb
      · exact List.mem_append_left _ hb
      · exact List.mem_append_right _ (List.mem_cons_of_mem x hb)
    · -- and this one goes on with the frames behind its front
      refine Session.sound_close_run hlive (hv.sound s hs).toPeer hframes hout fun _ => ?_
      rw [Session.endingAt_of_waiting, if_neg hoff]
      exact hlast

/-- A receipt that is fired is that of a live session's front, or nobody waits for it. -/
theorem Valid.fire_cases (hv : h.Valid) (peer : Peer) (receipt : Receipt) :
    (h.delivery.fire peer receipt = h.delivery ∧
        ∀ x ∈ h.delivery.carrier.carrier.held, x.peer ≠ peer) ∨
      ∃ x before behind, h.delivery.carrier.carrier.held = before ++ x :: behind ∧
        x.peer = peer ∧
        ((∃ s ∈ h.sessions, s.ending = none ∧ s.peer = peer ∧ x.origin = .queue s.handle ∧
            h.delivery.fire peer receipt =
              (h.delivery.withHeld (before ++ behind)).onReceipt s.peer x.origin receipt) ∨
          ((∀ s ∈ h.sessions, s.ending = none → x.origin ≠ .queue s.handle) ∧
            (h.delivery.fire peer receipt).queues = h.delivery.queues ∧
            (h.delivery.fire peer receipt).nextHandle = h.delivery.nextHandle ∧
            (h.delivery.fire peer receipt).carrier =
              (h.delivery.withHeld (before ++ behind)).carrier)) := by
  obtain hnone | ⟨x, before, behind, hheld, hpeer, -, hfire⟩ :=
    h.delivery.fire_cases peer receipt
  · exact .inl hnone
  · refine .inr ⟨x, before, behind, hheld, hpeer, ?_⟩
    -- either a live session asked for the receipt, or it finds no queue with its handle
    by_cases hasked : ∃ s ∈ h.sessions, s.ending = none ∧ x.origin = .queue s.handle
    · obtain ⟨s, hs, hlive, horigin⟩ := hasked
      obtain ⟨hsame, -⟩ := hv.of_asked hs hlive hheld horigin
      obtain rfl : s.peer = peer := hsame.symm.trans hpeer
      exact .inl ⟨s, hs, hlive, rfl, horigin, hfire⟩
    · have hstale : ∀ s ∈ h.sessions, s.ending = none → x.origin ≠ .queue s.handle :=
        fun s hs hl ho => hasked ⟨s, hs, hl, ho⟩
      have hother : ∀ n, x.origin = .queue n → ∀ q, h.delivery.queues.get? peer = some q →
          q.handle ≠ n := by
        intro n horigin q hq hn
        obtain ⟨s, hs, -, hhandle, hlive⟩ := hv.covered peer q hq
        exact hstale s hs hlive (by rw [horigin, hhandle, hn])
      have hnothing :=
        (h.delivery.withHeld (before ++ behind)).onReceipt_stale peer receipt hother
      rw [← hfire] at hnothing
      exact .inr ⟨hstale, hnothing⟩

/-- A receipt that is fired keeps the sessions sound. -/
theorem Valid.receipt (hv : h.Valid) (peer : Peer) (receipt : Receipt) :
    (h.step (.receipt peer receipt)).Valid := by
  show Valid
    { delivery := h.delivery.fire peer receipt
      sessions :=
        h.sessions.map (Session.close (h.delivery.fire peer receipt) (.receipt peer receipt)) }
  obtain ⟨hnone, -⟩ | ⟨x, before, behind, hheld, -, ⟨s, hs, hlive, rfl, horigin, hfire⟩ |
    ⟨hstale, hq, hnext, hcarrier⟩⟩ := hv.fire_cases peer receipt
  · -- nothing was fired
    rw [hnone]
    exact hv.of_keeps rfl rfl (fun s _ => ⟨rfl, .refl _, fun _ => ⟨rfl, rfl⟩⟩)
      (fun y hy _ _ => hy) (fun y hy _ _ => hy)
  · -- the front of a live queue was answered
    exact hv.of_answered hs hlive receipt hheld horigin hfire
  · -- nobody waited for the receipt
    exact hv.of_stale hheld hstale hq hnext hcarrier

end Receipt

/-- At first there are no sessions. -/
theorem valid_start (automatic : Bool) : (start automatic).Valid where
  nodup := List.nodup_nil
  lt _ hs := nomatch hs
  sound _ hs := nomatch hs
  covered _ _ hq := nomatch hq
  traced _ hx := nomatch hx
  held _ hx := nomatch hx

/-- Every event keeps the sessions sound. -/
theorem Valid.step (hv : h.Valid) (e : Event) : (h.step e).Valid := by
  cases e with
  | enqueue peer frame =>
    cases hq : h.delivery.queues.get? peer with
    | none => exact hv.enqueue_first frame hq
    | some q => exact hv.enqueue_behind frame hq
  | peerOffline peer => exact hv.peerOffline peer
  | reply peer frame => exact hv.sendDirect peer frame Queues.handler_ne_queue
  | send peer frame => exact hv.sendDirect peer frame Queues.program_ne_queue
  | setOffline peer =>
    exact hv.of_keeps rfl rfl (fun s _ => ⟨rfl, .refl _, fun _ => ⟨rfl, rfl⟩⟩)
      (fun y hy _ _ => hy) (fun y hy _ _ => hy)
  | receipt peer receipt => exact hv.receipt peer receipt

/-- Every run keeps the sessions sound. -/
theorem Valid.after (hv : h.Valid) (es : List Event) : (h.after es).Valid := by
  induction es generalizing h with
  | nil => exact hv
  | cons e es ih => exact ih (hv.step e)

/-- In every history every session is sound. -/
theorem valid_after (automatic : Bool) (es : List Event) :
    ((start automatic).after es).Valid :=
  (valid_start automatic).after es

end History

end FeedNode.Delivery
