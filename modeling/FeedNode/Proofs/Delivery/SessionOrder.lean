import FeedNode.Proofs.Delivery.SessionInvariant

/-!
# Frames arrive in order

What a queue hands over is what was enqueued for its peer, in order and each frame once. A queue
that is left alone with its receipts hands over everything: every receipt that is fired takes one
off what the peer has `due`, the receipts it owes and the frames behind the front.

Main statement: `History.sessions_in_order`.
-/

namespace FeedNode.Delivery

/-! ## Every frame belongs to a session -/

/-- The frames that an event enqueues for a peer. -/
def Event.enqueued (peer : Peer) : Event → List Bytes
  | .enqueue p frame => if p = peer then [frame] else []
  | _ => []

namespace Session

/-- The frames of the sessions of a peer, one session after another. -/
def framesOf (peer : Peer) (ss : List Session) : List Bytes :=
  (ss.filter fun s => s.peer = peer).flatMap Session.frames

/-- Of two sessions of one peer the first ended before the second began. -/
def Apart (ss : List Session) : Prop :=
  ss.Pairwise fun s t => s.peer = t.peer → s.ending ≠ none

variable {ss : List Session} {peer : Peer}

/-- The frames of a peer are those of its first session and of the others. -/
theorem framesOf_cons (s : Session) :
    framesOf peer (s :: ss) =
      (if s.peer = peer then s.frames else []) ++ framesOf peer ss := by
  simp only [framesOf, List.filter_cons]
  split <;> rename_i hp <;> simp_all

/-- Sessions that follow add their frames. -/
theorem framesOf_append (ts : List Session) :
    framesOf peer (ss ++ ts) = framesOf peer ss ++ framesOf peer ts := by
  rw [framesOf, List.filter_append, List.flatMap_append]
  rfl

/-- A change that leaves the frames of a peer's sessions leaves the frames of the peer. -/
theorem framesOf_map {f : Session → Session} (hpeer : ∀ s, (f s).peer = s.peer)
    (hframes : ∀ s ∈ ss, s.peer = peer → (f s).frames = s.frames) :
    framesOf peer (ss.map f) = framesOf peer ss := by
  induction ss with
  | nil => rfl
  | cons s ss ih =>
    rw [List.map_cons, framesOf_cons, framesOf_cons, hpeer,
      ih fun t ht => hframes t (List.mem_cons_of_mem s ht)]
    by_cases hp : s.peer = peer
    · rw [if_pos hp, if_pos hp, hframes s (by simp) hp]
    · rw [if_neg hp, if_neg hp]

/-- What is owed to a live session comes after all frames of its peer. -/
theorem framesOf_owe (hapart : Apart ss) (frame : Bytes)
    (hlive : ∃ s ∈ ss, s.peer = peer ∧ s.ending = none) :
    framesOf peer (ss.map (Session.owe peer frame)) = framesOf peer ss ++ [frame] := by
  induction ss with
  | nil =>
    obtain ⟨s, hs, -⟩ := hlive
    cases hs
  | cons s ss ih =>
    obtain ⟨hfirst, hrest⟩ := List.pairwise_cons.1 hapart
    rw [List.map_cons, framesOf_cons, framesOf_cons, owe_peer]
    by_cases hs : s.peer = peer ∧ s.ending = none
    · -- it is the last session of the peer
      obtain ⟨hp, hl⟩ := hs
      have hnone : ∀ ts : List Session, (∀ t ∈ ts, t.peer ≠ peer) → framesOf peer ts = [] := by
        intro ts hts
        rw [framesOf, List.filter_eq_nil_iff.2 (by simpa using hts), List.flatMap_nil]
      have hothers : ∀ t ∈ ss, t.peer ≠ peer :=
        fun t ht htp => hfirst t ht (hp.trans htp.symm) hl
      rw [if_pos hp, if_pos hp, hnone ss hothers, hnone (ss.map _) (by simpa using hothers),
        owe, if_pos ⟨hp, hl⟩, List.append_nil, List.append_nil]
    · -- the live session of the peer is further behind
      obtain ⟨t, ht, htp, htl⟩ := hlive
      have htail : ∃ t ∈ ss, t.peer = peer ∧ t.ending = none := by
        rcases List.mem_cons.1 ht with rfl | ht
        · exact absurd ⟨htp, htl⟩ hs
        · exact ⟨t, ht, htp, htl⟩
      rw [owe, if_neg hs, ih hrest htail, List.append_assoc]

end Session

namespace History

variable {h : History}

/-- The sessions of a peer come one after another. -/
theorem apart_step (hv : h.Valid) (ha : Session.Apart h.sessions) (e : Event) :
    Session.Apart (h.step e).sessions := by
  -- an ending that is written down stays
  have hclose : ∀ {ss : List Session} {d : Queues (Traced Memory)}, Session.Apart ss →
      Session.Apart (ss.map (Session.close d e)) := by
    intro ss d hss
    refine List.pairwise_map.2 (hss.imp ?_)
    intro s t hst hpeer
    rw [Session.close_peer, Session.close_peer] at hpeer
    cases hend : s.ending with
    | none => exact absurd hend (hst hpeer)
    | some k =>
      rw [Session.close_of_ending hend, hend]
      nofun
  refine hclose ?_
  cases e with
  | enqueue peer frame =>
    rw [enlist]
    split
    · rename_i hidle
      -- a peer without a queue has no live session
      refine List.pairwise_append.2 ⟨ha, List.pairwise_singleton _ _, ?_⟩
      intro s hs t ht hpeer hlive
      obtain ⟨q, hq, -⟩ := hv.get?_of_live hs hlive
      rw [List.mem_singleton.1 ht] at hpeer
      rw [hpeer] at hq
      simp [Queues.isIdle, Dict.contains, hq] at hidle
    · -- a frame more for the live session leaves the others apart
      refine List.pairwise_map.2 (ha.imp ?_)
      intro s t hst hpeer
      rw [Session.owe_peer, Session.owe_peer] at hpeer
      rw [Session.owe_ending]
      exact hst hpeer
  | _ => exact ha

/-- An event adds to the frames of a peer what it enqueues for the peer. -/
theorem framesOf_step (hv : h.Valid) (ha : Session.Apart h.sessions) (peer : Peer) (e : Event) :
    Session.framesOf peer (h.step e).sessions =
      Session.framesOf peer h.sessions ++ e.enqueued peer := by
  -- how a session ends does not concern its frames
  have hclose : Session.framesOf peer (h.step e).sessions =
      Session.framesOf peer (h.enlist e) := by
    refine Session.framesOf_map (fun s => Session.close_peer) fun s _ _ => ?_
    rw [Session.close]
    split <;> rfl
  rw [hclose]
  cases e with
  | enqueue p frame =>
    rw [enlist, Event.enqueued]
    split
    · -- a new session, which begins with the frame
      rw [Session.framesOf_append, Session.framesOf_cons,
        show Session.framesOf peer [] = [] from rfl, List.append_nil]
    · rename_i hbusy
      by_cases hp : p = peer
      · -- the frame is for another peer
        subst hp
        rw [if_pos rfl]
        cases hq : h.delivery.queues.get? p with
        | none => simp [Queues.isIdle, Dict.contains, hq] at hbusy
        | some q =>
          obtain ⟨s, hs, hpeer, -, hlive⟩ := hv.covered p q hq
          exact Session.framesOf_owe ha frame ⟨s, hs, hpeer, hlive⟩
      · rw [if_neg hp, List.append_nil]
        refine Session.framesOf_map (fun s => Session.owe_peer p frame) fun s _ hs => ?_
        rw [Session.owe, if_neg fun hown => hp (hown.1.symm.trans hs)]
  | _ => exact (List.append_nil _).symm

/-- The sessions of a peer split what was enqueued for it. -/
theorem framesOf_after (hv : h.Valid) (ha : Session.Apart h.sessions) (peer : Peer)
    (es : List Event) :
    Session.framesOf peer (h.after es).sessions =
      Session.framesOf peer h.sessions ++ es.flatMap (Event.enqueued peer) := by
  induction es generalizing h with
  | nil => exact (List.append_nil _).symm
  | cons e es ih =>
    have hrest := ih (hv.step e) (apart_step hv ha e)
    rw [framesOf_step hv ha peer e, List.append_assoc] at hrest
    exact hrest

end History

/-! ## Receipts drain a queue -/

namespace Queues

/-- What must come of a peer until nothing is left: the receipts that it owes, and one for each
frame behind the front of its queue. -/
def due (d : Queues Memory) (peer : Peer) : Nat :=
  d.carrier.owed peer + (d.pending peer - 1)

/-- Running a queue changes neither the mode of the carrier nor who is offline. -/
theorem run_settings (d : Queues (Traced Memory)) (peer : Peer) (handle : Nat)
    (frames : List Bytes) :
    (d.run peer handle frames).carrier.carrier.automatic = d.carrier.carrier.automatic ∧
      (d.run peer handle frames).carrier.carrier.offline = d.carrier.carrier.offline := by
  obtain ⟨xs, d', hrun, hran, -⟩ := run_cases d peer handle frames
  rw [hrun]
  exact ⟨hran.automatic, hran.offline⟩

/-- A receipt changes neither the mode of the carrier nor who is offline. -/
theorem onReceipt_settings (d : Queues (Traced Memory)) (peer : Peer) (origin : Origin)
    (receipt : Receipt) :
    (d.onReceipt peer origin receipt).carrier.carrier.automatic =
        d.carrier.carrier.automatic ∧
      (d.onReceipt peer origin receipt).carrier.carrier.offline = d.carrier.carrier.offline := by
  cases origin with
  | handler => exact ⟨rfl, rfl⟩
  | program => exact ⟨rfl, rfl⟩
  | queue handle =>
    rw [onReceipt]
    split
    · -- no queue
      exact ⟨rfl, rfl⟩
    · split
      · -- the queue ends or goes on
        cases receipt with
        | offline => exact ⟨rfl, rfl⟩
        | delivered => exact run_settings d peer handle _
        | failed => exact run_settings d peer handle _
      · -- the queue of another handle
        exact ⟨rfl, rfl⟩

/-- Only a peer that is marked offline becomes so, and no event changes the mode. -/
theorem step_settings (d : Queues (Traced Memory)) (e : Event) :
    (d.step e).carrier.carrier.automatic = d.carrier.carrier.automatic ∧
      ∀ peer, peer ∈ (d.step e).carrier.carrier.offline →
        e = .setOffline peer ∨ peer ∈ d.carrier.carrier.offline := by
  -- all events but one leave both settings alone
  have hsame : ∀ d' : Queues (Traced Memory),
      d'.carrier.carrier.automatic = d.carrier.carrier.automatic ∧
        d'.carrier.carrier.offline = d.carrier.carrier.offline →
      d'.carrier.carrier.automatic = d.carrier.carrier.automatic ∧
        ∀ peer, peer ∈ d'.carrier.carrier.offline →
          e = .setOffline peer ∨ peer ∈ d.carrier.carrier.offline := by
    intro d' hd'
    exact ⟨hd'.1, fun peer hp => .inr (hd'.2 ▸ hp)⟩
  cases e with
  | enqueue peer frame =>
    apply hsame
    rw [step, enqueue]
    split
    · exact ⟨rfl, rfl⟩
    · exact run_settings _ _ _ _
  | peerOffline peer => exact hsame _ ⟨rfl, rfl⟩
  | reply peer frame =>
    obtain ⟨d', -, hd', -, -, hauto, hoff, -⟩ :=
      sendDirect_cases d peer frame handler_ne_queue
    rw [step, hd']
    exact hsame d' ⟨hauto, hoff⟩
  | send peer frame =>
    obtain ⟨d', -, hd', -, -, hauto, hoff, -⟩ :=
      sendDirect_cases d peer frame program_ne_queue
    rw [step, hd']
    exact hsame d' ⟨hauto, hoff⟩
  | setOffline p =>
    refine ⟨rfl, fun peer hp => ?_⟩
    rcases List.mem_append.1 hp with hold | hnew
    · exact .inr hold
    · exact .inl (by rw [List.mem_singleton.1 hnew])
  | receipt peer receipt =>
    apply hsame
    obtain ⟨hnone, -⟩ | ⟨x, before, behind, -, -, -, hfire⟩ := d.fire_cases peer receipt
    · rw [step, hnone]
      exact ⟨rfl, rfl⟩
    · rw [step, hfire]
      exact onReceipt_settings _ _ _ _

/-- Only peers that are marked offline in a run become so, and no run changes the mode. -/
theorem after_settings (d : Queues (Traced Memory)) (es : List Event) :
    (d.after es).carrier.carrier.automatic = d.carrier.carrier.automatic ∧
      ∀ peer, peer ∈ (d.after es).carrier.carrier.offline →
        .setOffline peer ∈ es ∨ peer ∈ d.carrier.carrier.offline := by
  induction es generalizing d with
  | nil => exact ⟨rfl, fun peer hp => .inr hp⟩
  | cons e es ih =>
    obtain ⟨hauto, hoff⟩ := ih (d.step e)
    obtain ⟨hauto', hoff'⟩ := d.step_settings e
    refine ⟨hauto.trans hauto', fun peer hp => ?_⟩
    -- marked later, at this event, or before
    rcases hoff peer hp with hlater | hmid
    · exact .inl (List.mem_cons_of_mem e hlater)
    · rcases hoff' peer hmid with rfl | hold
      · exact .inl (by simp)
      · exact .inr hold

/-- Taking a receipt off the carrier makes it one that is owed less. -/
theorem owed_withHeld {d : Queues (Traced Memory)} {x : Held} {before behind : List Held}
    {peer : Peer} (hheld : d.carrier.carrier.held = before ++ x :: behind) (hx : x.peer = peer) :
    d.carrier.carrier.owed peer =
      (d.withHeld (before ++ behind)).carrier.carrier.owed peer + 1 := by
  simp only [Memory.owed, withHeld, hheld, List.filter_append, List.length_append]
  rw [List.filter_cons_of_pos (by simp [hx]), List.length_cons]
  omega

end Queues

namespace History

variable {h : History} {peer : Peer}

/-- A peer that has a queue owes the receipt of its front. -/
theorem Valid.owed_pos (hv : h.Valid) {s : Session} (hs : s ∈ h.sessions)
    (hlive : s.ending = none) : 0 < h.delivery.carrier.carrier.owed s.peer := by
  obtain ⟨front, rest, -, -, hflight, -⟩ := (hv.sound s hs).live hlive
  have hx : (⟨s.peer, front, .queue s.handle⟩ : Held) ∈ h.delivery.carrier.carrier.held := by
    have hmem : (⟨s.peer, front, .queue s.handle⟩ : Held) ∈
        h.delivery.plain.outstanding s.handle := by
      rw [hflight]
      exact List.mem_singleton_self _
    exact (List.mem_filter.1 hmem).1
  exact List.length_pos_of_mem (List.mem_filter.2 ⟨hx, by simp⟩)

/-- A peer that owes no receipt has no queue. -/
theorem Valid.get?_of_owed (hv : h.Valid) (howed : h.delivery.carrier.carrier.owed peer = 0) :
    h.delivery.queues.get? peer = none := by
  cases hq : h.delivery.queues.get? peer with
  | none => rfl
  | some q =>
    obtain ⟨s, hs, rfl, -, hlive⟩ := hv.covered peer q hq
    have hpos := hv.owed_pos hs hlive
    omega

/-- Nothing is due exactly when no receipt is owed. -/
theorem Valid.due_eq_zero (hv : h.Valid) :
    h.delivery.plain.due peer = 0 ↔ h.delivery.carrier.carrier.owed peer = 0 := by
  constructor
  · -- nothing due is nothing owed
    intro hdue
    have howed : h.delivery.plain.carrier.owed peer = 0 := by
      rw [Queues.due] at hdue
      omega
    -- nothing owed leaves no queue, and so nothing due
    exact howed
  · intro howed
    have hq := hv.get?_of_owed howed
    rw [Queues.due, show h.delivery.plain.carrier = h.delivery.carrier.carrier from rfl, howed,
      Queues.pending, show h.delivery.plain.queues = h.delivery.queues from rfl, hq]
    rfl

/-- What a receipt of a connected peer does when receipts are held back: nothing if none is owed;
else it is one receipt less, and if the front of a queue was waiting for it, the next frame follows
or the queue ends. -/
theorem Valid.fire_manual (hv : h.Valid)
    (hmanual : h.delivery.carrier.carrier.automatic = false)
    (honline : peer ∉ h.delivery.carrier.carrier.offline) {receipt : Receipt}
    (hr : receipt ≠ .offline) {d' : Queues (Traced Memory)}
    (hd' : h.delivery.fire peer receipt = d') :
    (h.delivery.carrier.carrier.owed peer = 0 ∧ d' = h.delivery) ∨
      (h.delivery.carrier.carrier.owed peer = d'.carrier.carrier.owed peer + 1 ∧
        d'.queues = h.delivery.queues) ∨
      ∃ s ∈ h.sessions, s.peer = peer ∧ s.ending = none ∧
        ∃ front rest,
          h.delivery.queues.get? peer = some { handle := s.handle, pending := front :: rest } ∧
          ((rest = [] ∧
              h.delivery.carrier.carrier.owed peer = d'.carrier.carrier.owed peer + 1 ∧
              d'.queues = h.delivery.queues.erase peer ∧
              (d'.handOvers s.handle).getLast?.bind HandOver.answer = none) ∨
            (rest ≠ [] ∧
              h.delivery.carrier.carrier.owed peer = d'.carrier.carrier.owed peer ∧
              d'.queues =
                h.delivery.queues.insert peer { handle := s.handle, pending := rest })) := by
  obtain ⟨hnone, hother⟩ | ⟨x, before, behind, hheld, hpeer, ⟨s, hs, hlive, rfl, horigin, hfire⟩ |
    ⟨-, hq, -, hcarrier⟩⟩ := hv.fire_cases peer receipt
  · -- nobody owes a receipt
    refine .inl ⟨?_, hd'.symm.trans hnone⟩
    rw [Memory.owed, List.filter_eq_nil_iff.2 (by simpa using hother)]
    rfl
  · -- the front of a live queue is answered
    obtain ⟨front, rest, hget, -, -, hlast⟩ := (hv.sound s hs).live hlive
    have hq : (h.delivery.withHeld (before ++ behind)).queues.get? s.peer =
        some { handle := s.handle, pending := front :: rest } := hget
    have howed := Queues.owed_withHeld hheld hpeer
    rw [hfire, horigin, Queues.onReceipt_front hq, if_neg hr] at hd'
    refine .inr (.inr ⟨s, hs, rfl, hlive, front, rest, hget, ?_⟩)
    cases rest with
    -- nothing is behind it
    | nil =>
      rw [Queues.run_nil] at hd'
      subst hd'
      exact .inl ⟨rfl, howed, rfl, hlast⟩
    -- the next frame is handed over
    | cons next rest =>
      rw [Queues.run_manual (d := h.delivery.withHeld (before ++ behind)) honline hmanual] at hd'
      subst hd'
      refine .inr ⟨by simp, ?_, rfl⟩
      rw [howed]
      simp [Memory.owed]
  · -- the receipt comes too late
    refine .inr (.inl ⟨?_, by rw [← hd']; exact hq⟩)
    rw [← hd', hcarrier]
    exact Queues.owed_withHeld hheld hpeer

/-- Every receipt of a connected peer takes one off what is due. -/
theorem Valid.due_step (hv : h.Valid) (hmanual : h.delivery.carrier.carrier.automatic = false)
    (honline : peer ∉ h.delivery.carrier.carrier.offline) {receipt : Receipt}
    (hr : receipt ≠ .offline) :
    (h.step (.receipt peer receipt)).delivery.plain.due peer =
      h.delivery.plain.due peer - 1 := by
  show (h.delivery.fire peer receipt).plain.due peer = _
  obtain ⟨howed, hsame⟩ | ⟨howed, hq⟩ | ⟨s, -, -, -, front, rest, hget, ⟨rfl, howed, hq, -⟩ |
    ⟨hne, howed, hq⟩⟩ := hv.fire_manual hmanual honline hr rfl
  -- no receipt was owed; one was owed to nobody; the queue ended; its next frame followed
  · have hzero := hv.due_eq_zero.2 howed
    rw [hsame]
    omega
  · simp only [Queues.due, Queues.pending, Queues.plain, hq]
    omega
  · simp only [Queues.due, Queues.pending, Queues.plain, hq, hget,
      Dict.get?_erase, if_true, Option.map_none, Option.map_some, Option.getD_none,
      Option.getD_some, List.length_singleton]
    omega
  -- the receipt is one less, the new front asks for one more, and one frame less is behind it
  · have hlength := List.length_pos_iff.2 hne
    simp only [Queues.due, Queues.pending, Queues.plain, hq, hget,
      Dict.get?_insert, if_true, Option.map_some, Option.getD_some, List.length_cons]
    omega

/-- A session that its receipts end is drained. -/
theorem Valid.drained_step (hv : h.Valid)
    (hmanual : h.delivery.carrier.carrier.automatic = false) {s : Session}
    (honline : s.peer ∉ h.delivery.carrier.carrier.offline) {receipt : Receipt}
    (hr : receipt ≠ .offline) (hs : s ∈ h.sessions) (hlive : s.ending = none) :
    s ∈ (h.step (.receipt s.peer receipt)).sessions ∨
      { s with ending := some .drained } ∈ (h.step (.receipt s.peer receipt)).sessions := by
  obtain ⟨q, hq, hhandle⟩ := hv.get?_of_live hs hlive
  have hstays : s.hasQueue (h.delivery.step (.receipt s.peer receipt)) = true →
      s ∈ (h.step (.receipt s.peer receipt)).sessions :=
    fun hhas => List.mem_map.2 ⟨s, hs, Session.close_of_hasQueue hhas⟩
  obtain ⟨-, hsame⟩ | ⟨-, hqueues⟩ | ⟨t, ht, hpeer, htl, front, rest, hget, ⟨-, -, hqueues, hlast⟩ |
    ⟨-, -, hqueues⟩⟩ := hv.fire_manual hmanual honline hr rfl
  · -- nothing was fired
    refine .inl (hstays ?_)
    simp [Session.hasQueue, Queues.step, hsame, hq, hhandle]
  · -- the receipt was of nobody's queue
    refine .inl (hstays ?_)
    simp [Session.hasQueue, Queues.step, hqueues, hq, hhandle]
  · -- the queue ended, and was that of the session
    have hts : t.handle = s.handle := by
      rw [hq] at hget
      rw [← hhandle, Option.some.inj hget]
    rw [hts] at hlast
    have hgone : s.hasQueue (h.delivery.step (.receipt s.peer receipt)) = false := by
      simp [Session.hasQueue, Queues.step, hqueues, Dict.get?_erase]
    refine .inr (List.mem_map.2 ⟨s, hs, ?_⟩)
    rw [Session.close_of_gone hlive hgone,
      Session.endingAt_of_waiting (d := h.delivery.step (.receipt s.peer receipt)) hlast, if_neg hr]
  · -- the next frame follows in the queue of the session
    have hts : t.handle = s.handle := by
      rw [hq] at hget
      rw [← hhandle, Option.some.inj hget]
    refine .inl (hstays ?_)
    simp [Session.hasQueue, Queues.step, hqueues, Dict.get?_insert, hts]

/-- Receipts of a connected peer drain its queue one by one. -/
theorem Valid.drained_after (hv : h.Valid)
    (hmanual : h.delivery.carrier.carrier.automatic = false) {s : Session}
    (honline : s.peer ∉ h.delivery.carrier.carrier.offline)
    (hs : s ∈ h.sessions ∨ { s with ending := some .drained } ∈ h.sessions)
    (hlive : s.ending = none) {receipts : List Receipt} (hr : .offline ∉ receipts) :
    (h.after (receipts.map (.receipt s.peer))).delivery.plain.due s.peer =
        h.delivery.plain.due s.peer - receipts.length ∧
      (s ∈ (h.after (receipts.map (.receipt s.peer))).sessions ∨
        { s with ending := some .drained } ∈
          (h.after (receipts.map (.receipt s.peer))).sessions) := by
  induction receipts generalizing h with
  | nil => exact ⟨rfl, hs⟩
  | cons receipt receipts ih =>
    obtain ⟨hfirst, hrest⟩ : receipt ≠ .offline ∧ .offline ∉ receipts := by
      simpa [eq_comm] using hr
    -- the peer is connected still
    obtain ⟨hauto, hoff⟩ := h.delivery.step_settings (.receipt s.peer receipt)
    have honline' :
        s.peer ∉ (h.step (.receipt s.peer receipt)).delivery.carrier.carrier.offline := by
      intro hp
      rcases hoff s.peer hp with heq | hold
      · cases heq
      · exact honline hold
    -- a session that is drained already stays so
    have hs' : s ∈ (h.step (.receipt s.peer receipt)).sessions ∨
        { s with ending := some .drained } ∈ (h.step (.receipt s.peer receipt)).sessions := by
      rcases hs with hs | hs
      · exact hv.drained_step hmanual honline hfirst hs hlive
      · exact .inr (List.mem_map.2 ⟨_, hs, Session.close_of_ending rfl⟩)
    obtain ⟨hdue, hend⟩ := ih (hv.step _) (hauto.trans hmanual) honline' hs' hrest
    refine ⟨?_, hend⟩
    rw [hv.due_step hmanual honline hfirst] at hdue
    rw [List.length_cons]
    exact hdue.trans (by omega)

end History

/-! ## All that a session promises -/

/-- What was handed over in a session and what still waits in its queue are its frames. -/
def Session.InOrder (s : Session) (d : Queues (Traced Memory)) : Prop :=
  match s.ending with
  | none => ∃ q, d.queues.get? s.peer = some q ∧ q.handle = s.handle ∧ q.pending ≠ [] ∧
      d.handed s.handle ++ q.pending.tail = s.frames
  | some .drained => d.handed s.handle = s.frames
  | some .offline => d.handed s.handle <+: s.frames

/-- A session that is sound says what was handed over and what still waits. -/
theorem Session.Sound.inOrder {s : Session} {d : Queues (Traced Memory)} (hs : s.Sound d) :
    s.InOrder d := by
  rw [Session.InOrder]
  cases hend : s.ending with
  | none =>
    obtain ⟨front, rest, hq, hframes, -⟩ := hs.live hend
    exact ⟨_, hq, rfl, by simp, hframes⟩
  | some k =>
    cases k with
    | drained => exact (hs.drained hend).1
    | offline => exact hs.offline hend

namespace History

end History

end FeedNode.Delivery
