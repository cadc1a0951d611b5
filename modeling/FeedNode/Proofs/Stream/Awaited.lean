import FeedNode.Proofs.Stream.Traffic

/-!
# What queues wait for

A queue over lines waits for one receipt, and the frame of it waits on a line of the queue's peer.
So when a line breaks, a queue that waited for one of its frames is told and ends; one that goes on
waits on another line of its peer. And a writer that goes on writing comes to an end: each frame
that it writes lowers what is outstanding.

Main statements: `Wired.Covered.step`, `Wired.isIdle_of_failed` and `Wired.waiting_after_writes`.
-/

namespace FeedNode.Stream

open Delivery (Carrier Origin Peer PeerQueue Queues Receipt)

namespace Wired

variable {σ : Type} [Carrier σ] [Wired σ] {d : Queues σ} {peer : Peer} {handle : Nat}

/-- Handing over frames of a queue ends it, if there are none or the peer has no open line; else the
first goes to the line and the queue waits for it. -/
theorem run_cases (d : Queues σ) (peer : Peer) (handle : Nat) (frames : List Bytes) :
    ((d.run peer handle frames).queues = d.queues.erase peer ∧
        lines (d.run peer handle frames).carrier = lines d.carrier) ∨
      ∃ first rest id line, frames = first :: rest ∧
        (lines d.carrier).open? peer = some (id, line) ∧
        (d.run peer handle frames).queues = d.queues.insert peer { handle, pending := frames } ∧
        lines (d.run peer handle frames).carrier =
          (lines d.carrier).put id (line.wait [{ frame := first, origin := .queue handle }]) := by
  cases frames with
  | nil => exact .inl ⟨rfl, rfl⟩
  | cons first rest =>
    have hsend := answersAlike d.carrier peer first (.queue handle)
    rw [Queues.run, Queues.pump]
    generalize Carrier.send d.carrier peer first (.queue handle) = sent at hsend
    obtain ⟨c, answer⟩ := sent
    -- a line answers later; without one the peer is offline
    cases hopen : (lines d.carrier).open? peer with
    | none =>
      rw [Lines.send_of_closed hopen, Prod.mk.injEq] at hsend
      obtain ⟨hlines, rfl⟩ := hsend
      exact .inl ⟨rfl, hlines.symm⟩
    | some found =>
      obtain ⟨id, line⟩ := found
      rw [Lines.send_of_open hopen, Prod.mk.injEq] at hsend
      obtain ⟨hlines, rfl⟩ := hsend
      exact .inr ⟨first, rest, id, line, rfl, rfl, rfl, hlines.symm⟩

/-! ## Queues that will be told -/

/-- The receipt that a queue waits for is among those that are just being given, or its frame waits
on a line of the peer. -/
def Awaits (c : Lines) (due : List (Peer × Origin)) (peer : Peer) (handle : Nat) : Prop :=
  (peer, .queue handle) ∈ due ∨
    ∃ id line, c.lines.get? id = some line ∧ line.peer = peer ∧
      ∃ x ∈ line.waiting, x.origin = .queue handle

/-- Every queue will be told what became of its first frame. -/
def Covered (d : Queues σ) (due : List (Peer × Origin)) : Prop :=
  ∀ peer q, d.queues.get? peer = some q → Awaits (lines d.carrier) due peer q.handle

variable {due : List (Peer × Origin)}

/-- A queue that waits for a receipt waits for it when more frames have come to the lines. -/
theorem Awaits.extends {c c' : Lines} {xs : Nat → List Waiting} (h : Awaits c due peer handle)
    (hxs : Lines.Extends xs c c') : Awaits c' due peer handle := by
  obtain hdue | ⟨id, line, hget, hpeer, x, hx, horigin⟩ := h
  · exact .inl hdue
  · refine .inr ⟨id, line.wait (xs id), by rw [hxs.get?, hget]; rfl, hpeer, x, ?_, horigin⟩
    exact List.mem_append_left _ hx

/-- A queue waits for its own receipt, whatever else is due. -/
theorem Awaits.due_of_mem {c : Lines} {due' : List (Peer × Origin)} (h : Awaits c due peer handle)
    (hsub : ∀ y ∈ due, y = (peer, .queue handle) → y ∈ due') : Awaits c due' peer handle := by
  obtain hdue | hline := h
  · exact .inl (hsub _ hdue rfl)
  · exact .inr hline

/-- Without queues nobody waits. -/
theorem covered_new (c : σ) (due : List (Peer × Origin)) : Covered (.new c) due := by
  intro peer q hq
  simp [Queues.new] at hq

/-- A queue that goes on waits for the frame that it handed over last. -/
theorem covered_run (hn : (lines d.carrier).Numbered)
    (h : ∀ other q, other ≠ peer → d.queues.get? other = some q →
      Awaits (lines d.carrier) due other q.handle) (frames : List Bytes) :
    Covered (d.run peer handle frames) due := by
  intro other q hq
  obtain ⟨hqueues, hlines⟩ | ⟨first, rest, id, line, -, hopen, hqueues, hlines⟩ :=
    run_cases d peer handle frames
  · -- the queue ended, and the others wait as before
    rw [hqueues, Dict.get?_erase] at hq
    rw [hlines]
    split at hq
    · cases hq
    · rename_i hne
      exact h other q hne hq
  · -- the queue waits on the line that is open
    obtain ⟨hid, hget, hlive⟩ := Lines.open?_eq_some_iff.1 hopen
    rw [hlines]
    rw [hqueues, Dict.get?_insert] at hq
    split at hq
    · rename_i hsame
      obtain rfl := Option.some.inj hq
      obtain ⟨line', hget', hpeer⟩ := hn.owned hid
      obtain rfl : line = line' := Option.some.inj (hget.symm.trans hget')
      let x : Waiting := { frame := first, origin := .queue handle }
      -- its frame is the last one there
      have hx : x ∈ (line.wait [x]).waiting := List.mem_append_right _ List.mem_cons_self
      exact .inr ⟨id, line.wait [x], by rw [Lines.get?_put, if_pos rfl], hpeer.trans hsame.symm,
        x, hx, rfl⟩
    · -- the frame of another queue is where it was
      rename_i hne
      have hextends := Lines.send_extends (lines d.carrier) peer first (.queue handle)
      rw [Lines.send_of_open hopen] at hextends
      exact (h other q hne hq).extends hextends

/-- A queue that is dropped waits for nothing more. -/
theorem Covered.peerOffline (h : Covered d due) (peer : Peer) :
    Covered (d.peerOffline peer) due := by
  intro other q hq
  simp only [Queues.peerOffline, Dict.get?_erase] at hq
  split at hq
  · cases hq
  · exact h other q hq

/-- A frame that is enqueued waits behind others, or is handed over. -/
theorem Covered.enqueue (hn : (lines d.carrier).Numbered) (h : Covered d due) (peer : Peer)
    (frame : Bytes) : Covered (d.enqueue peer frame) due := by
  rw [Queues.enqueue]
  split
  · -- behind others
    rename_i q hq
    intro other q' hq'
    simp only [Dict.get?_insert] at hq'
    split at hq'
    · rename_i hsame
      obtain rfl := Option.some.inj hq'
      exact hsame ▸ h peer q hq
    · exact h other q' hq'
  · -- the first of a new queue
    exact covered_run (d := { d with nextHandle := d.nextHandle + 1 }) hn
      (fun other q _ hq => h other q hq) [frame]

/-- A receipt that is given to a queue ends it or lets it wait for the next. -/
theorem Covered.onReceipt (hn : (lines d.carrier).Numbered) {origin : Origin}
    (h : Covered d ((peer, origin) :: due)) (receipt : Receipt) :
    Covered (d.onReceipt peer origin receipt) due := by
  -- the receipt is not due to the queues of other peers, nor to one with another handle
  have hother : ∀ other q, d.queues.get? other = some q →
      (other, Origin.queue q.handle) ≠ (peer, origin) →
      Awaits (lines d.carrier) due other q.handle := by
    intro other q hq hne
    refine (h other q hq).due_of_mem fun y hy hsame => ?_
    exact (List.mem_cons.1 hy).resolve_left fun heq => hne (hsame ▸ heq)
  cases origin with
  | handler => exact fun other q hq => hother other q hq (by simp)
  | program => exact fun other q hq => hother other q hq (by simp)
  | queue handle =>
    have hothers : ∀ other q, other ≠ peer → d.queues.get? other = some q →
        Awaits (lines d.carrier) due other q.handle :=
      -- the receipt is for the queue of one peer only
      fun other q hne hq => hother other q hq fun heq => hne (congrArg Prod.fst heq)
    rw [Queues.onReceipt]
    split
    · -- the peer has no queue
      rename_i hnone
      intro other q hq
      refine hothers other q ?_ hq
      rintro rfl
      rw [hnone] at hq
      cases hq
    · rename_i q hq
      split
      · split
        · -- offline, so the queue ends
          intro other q' hq'
          simp only [Queues.peerOffline, Dict.get?_erase] at hq'
          split at hq'
          · cases hq'
          · rename_i hne
            exact hothers other q' hne hq'
        · -- delivered or failed, so the next frame is handed over
          exact covered_run hn hothers _
        · exact covered_run hn hothers _
      · -- a receipt of an older queue is nobody's: the one that is there waits for another
        rename_i hhandle
        intro other q' hq'
        refine hother other q' hq' fun heq => hhandle ?_
        obtain ⟨rfl, hsame⟩ := Prod.mk.inj heq
        rw [hq] at hq'
        rw [Option.some.inj hq']
        exact Origin.queue.inj hsame

/-- A frame that goes past the queues leaves them to be told. -/
theorem Covered.sendDirect (hn : (lines d.carrier).Numbered) (h : Covered d due) (peer : Peer)
    (frame : Bytes) (origin : Origin) : Covered (d.sendDirect peer frame origin) due := by
  have hextends := lines_send_extends d.carrier peer frame origin
  rw [Queues.sendDirect]
  generalize Carrier.send d.carrier peer frame origin = sent at hextends
  obtain ⟨c, answer⟩ := sent
  have htaken : Covered { d with carrier := c } due :=
    fun other q hq => (h other q hq).extends hextends
  cases answer with
  | none => exact htaken
  | some receipt =>
    -- no line took the frame: its receipt is given here and now
    refine Covered.onReceipt (hn.sameSeats hextends.sameSeats) (fun other q hq => ?_) receipt
    exact (htaken other q hq).due_of_mem fun y hy _ => List.mem_cons_of_mem _ hy

/-- What is taken off a line is due. -/
theorem Covered.setLines {id : Nat} {line : Line} (h : Covered d due) (xs : List Waiting)
    (line' : Line)
    (hget : (lines d.carrier).lines.get? id = some line)
    (hwaiting : line.waiting = xs ++ line'.waiting)
    (hpeer : line'.peer = line.peer) :
    Covered (setLines d ((lines d.carrier).put id line'))
      (xs.map (fun x => (line.peer, x.origin)) ++ due) := by
  intro other q hq
  rw [lines_setLines]
  obtain hdue | ⟨i, l, hl, hp, x, hx, horigin⟩ := h other q hq
  · -- it was due before
    exact .inl (List.mem_append_right _ hdue)
  · by_cases hi : i = id
    · subst hi
      obtain rfl : line = l := Option.some.inj (hget.symm.trans hl)
      -- it waited on the line that was changed
      rw [hwaiting] at hx
      rcases List.mem_append.1 hx with hx | hx
      · -- it was taken off, and is due now
        exact .inl (List.mem_append_left _ (List.mem_map.2 ⟨x, hx, by rw [hp, horigin]⟩))
      · -- it still waits there
        exact .inr ⟨i, line', by rw [Lines.get?_put, if_pos rfl], hpeer.trans hp, x, hx, horigin⟩
    · -- it waits on another line
      exact .inr ⟨i, l, by rw [Lines.get?_put, if_neg hi, hl], hp, x, hx, horigin⟩

/-- A receipt that is given is due no more. -/
theorem Covered.answer (hn : (lines d.carrier).Numbered) {x : Waiting}
    (h : Covered d ((peer, x.origin) :: due)) (id : Nat) (receipt : Receipt) :
    Covered (answer d id peer x receipt) due := by
  refine Covered.onReceipt ?_ (fun other q hq => ?_) receipt
  · show (lines (note d.carrier id peer x receipt)).Numbered
    rwa [lines_note]
  · show Awaits (lines (note d.carrier id peer x receipt)) _ other q.handle
    rw [lines_note]
    exact h other q hq

/-- When all that was due is refused, every queue waits on a line again. -/
theorem Covered.refuse (hn : (lines d.carrier).Numbered) {xs : List Waiting}
    (h : Covered d (xs.map (fun x => (peer, x.origin)) ++ due)) (id : Nat) :
    Covered (xs.foldl (fun d x => Wired.answer d id peer x .offline) d) due := by
  induction xs generalizing d with
  | nil => exact h
  | cons x xs ih =>
    obtain ⟨ys, hys, -⟩ := answer_extends d id peer x .offline
    exact ih (hn.sameSeats hys.sameSeats) (Covered.answer hn h id .offline)

/-- A new line leaves the others and what waits on them. -/
theorem Covered.connect (hn : (lines d.carrier).Numbered) (h : Covered d due) (peer : Peer) :
    Covered (Wired.setLines d ((lines d.carrier).connect peer).2) due := by
  intro other q hq
  rw [lines_setLines]
  obtain hdue | ⟨id, line, hget, hpeer, hx⟩ := h other q hq
  · exact .inl hdue
  · refine .inr ⟨id, line, ?_, hpeer, hx⟩
    simp only [Lines.connect, Dict.get?_insert]
    rw [if_neg (Nat.ne_of_lt (hn.lt hget)), hget]

/-- Taking the next frame off a line makes its receipt due. -/
theorem Covered.written {id : Nat} {line : Line} {x : Waiting} {rest : List Waiting}
    (h : Covered d due) (hget : (lines d.carrier).lines.get? id = some line)
    (hwaiting : line.waiting = x :: rest) (octets : Bytes) :
    Covered (written d id line rest octets) ((line.peer, x.origin) :: due) :=
  h.setLines [x] { line with waiting := rest, output := line.output ++ octets } hget hwaiting rfl

/-- A line that is written to keeps its number and its peer. -/
theorem written_numbered (hn : (lines d.carrier).Numbered) {id : Nat} {line : Line}
    (hget : (lines d.carrier).lines.get? id = some line) (rest : List Waiting) (octets : Bytes) :
    (lines (written d id line rest octets).carrier).Numbered := by
  rw [written, lines_setLines]
  exact hn.sameSeats (Lines.sameSeats_put hget rfl)

/-- After a write every queue will be told. -/
theorem Covered.writeNext (hn : (lines d.carrier).Numbered) (h : Covered d due) (id : Nat)
    (w : Write) : Covered (writeNext d id w) due := by
  obtain ⟨hsame, -⟩ | ⟨line, x, rest, hget, hwaiting, ⟨-, hnext⟩ |
    ⟨octets, xs, d', -, hd', hxs, -, hnext⟩⟩ := writeNext_cases d id w
  · rwa [hsame]
  · -- the receipt of the frame that was written is given at once
    rw [hnext]
    exact (h.written hget hwaiting _).answer (written_numbered hn hget _ _) id .delivered
  · -- what the receipt of the failed frame puts on the line is refused with the rest
    have hn' := (written_numbered hn hget rest ((frame x.frame).take octets))
    have hcovered : Covered d' due := hd' ▸ (h.written hget hwaiting _).answer hn' id .failed
    have hline := hxs.get? id
    rw [Wired.written, lines_setLines, Lines.get?_put, if_pos rfl, Option.map_some] at hline
    let broken : Line := { line with
      waiting := []
      output := line.output ++ (frame x.frame).take octets
      isBroken := true }
    have hdue := hcovered.setLines _ broken hline (List.append_nil _).symm rfl
    rw [hnext]
    refine Covered.refuse ?_ hdue id
    rw [lines_setLines]
    exact (hn'.sameSeats hxs.sameSeats).sameSeats (Lines.sameSeats_put hline rfl)

/-- Every queue goes on to be told, whatever happens. -/
theorem Covered.step (hn : (lines d.carrier).Numbered) (h : Covered d due) (e : Traffic) :
    Covered (step d e) due := by
  cases e with
  | connect peer => exact h.connect hn peer
  | disconnect peer =>
    intro other q hq
    rw [Wired.step, lines_setLines]
    exact h other q hq
  | enqueue peer frame => exact h.enqueue hn peer frame
  | peerOffline peer => exact h.peerOffline peer
  | reply peer frame => exact h.sendDirect hn peer frame .handler
  | send peer frame => exact h.sendDirect hn peer frame .program
  | write id w => exact h.writeNext hn id w

/-- Lines stay numbered and queues go on to be told over a run. -/
theorem numbered_covered_after {d : Queues σ} (hn : (lines d.carrier).Numbered)
    (h : Covered d due) (es : List Traffic) :
    (lines (after d es).carrier).Numbered ∧ Covered (after d es) due := by
  induction es generalizing d with
  | nil => exact ⟨hn, h⟩
  | cons e es ih => exact ih (step_numbered hn e) (h.step hn e)

/-! ## Writers that fail -/

/-- A line that breaks keeps nothing. What comes of the failed frame goes to another line only if
that one is open for the peer. -/
theorem get?_writeNext_failed {id : Nat} {line : Line} {w : Write} {octets : Nat} {x : Waiting}
    {rest : List Waiting} (hget : (lines d.carrier).lines.get? id = some line)
    (hwaiting : line.waiting = x :: rest) (hw : w.of x.frame = .failed octets) :
    (lines (writeNext d id w).carrier).lines.get? id =
        some { line with
          waiting := []
          output := line.output ++ (frame x.frame).take octets
          isBroken := true } ∧
      ∀ i, i ≠ id → ∃ ys, (lines (writeNext d id w).carrier).lines.get? i =
          ((lines d.carrier).lines.get? i).map (fun l => l.wait ys) ∧
        (ys ≠ [] → (lines d.carrier).openId line.peer = some i) := by
  obtain ⟨-, hidle⟩ | ⟨line', x', rest', hget', hwaiting', hcase⟩ := writeNext_cases d id w
  · -- nothing waited, which is not so
    rw [hidle line hget] at hwaiting
    cases hwaiting
  · obtain rfl : line = line' := Option.some.inj (hget.symm.trans hget')
    obtain ⟨rfl, rfl⟩ := List.cons.inj (hwaiting.symm.trans hwaiting')
    obtain ⟨hwhole, -⟩ | ⟨octets', xs, d', hfailed, -, hxs, honly, hnext⟩ := hcase
    · rw [hw] at hwhole
      -- the write did not fail, which is not so
      cases hwhole
    · obtain rfl : octets = octets' := Write.failed.inj (hw.symm.trans hfailed)
      have hlines : lines (writeNext d id w).carrier = (lines d'.carrier).put id
          { line with
            waiting := []
            output := line.output ++ (frame x.frame).take octets
            isBroken := true } := by
        rw [hnext, refuse_carrier, lines_refuse, lines_setLines]
      rw [hlines]
      refine ⟨by rw [Lines.get?_put, if_pos rfl], fun i hi => ⟨xs i, ?_, honly i⟩⟩
      rw [Lines.get?_put, if_neg hi, hxs.get?, written, lines_setLines, Lines.get?_put, if_neg hi]

/-- When a line breaks and the peer has no other that takes frames or still has some, the peer is
idle: the queue waited for a frame on the line that broke. -/
theorem isIdle_of_failed (hn : (lines d.carrier).Numbered) (h : Covered d [])
    {id : Nat} {line : Line} {w : Write} {octets : Nat} {x : Waiting} {rest : List Waiting}
    (hget : (lines d.carrier).lines.get? id = some line) (hwaiting : line.waiting = x :: rest)
    (hw : w.of x.frame = .failed octets)
    (hopen : ∀ i, (lines d.carrier).openId line.peer = some i → i = id)
    (honly : ∀ i l, (lines d.carrier).lines.get? i = some l → l.peer = line.peer → i ≠ id →
      l.waiting = []) :
    (writeNext d id w).queues.get? line.peer = none := by
  obtain ⟨hbroken, hothers⟩ := get?_writeNext_failed hget hwaiting hw
  rw [Option.eq_none_iff_forall_ne_some]
  intro q hq
  -- the queue would wait for a frame on some line of the peer
  obtain hdue | ⟨i, l, hl, hpeer, y, hy, -⟩ := h.writeNext hn id w line.peer q hq
  · -- nothing is due after the write
    cases hdue
  · by_cases hi : i = id
    · -- a line that broke keeps nothing
      rw [hi, hbroken, Option.some.injEq] at hl
      rw [← hl] at hy
      cases hy
    · -- another line got something only if it is open for the peer
      obtain ⟨ys, hys, hlate⟩ := hothers i hi
      rw [hys, Option.map_eq_some_iff] at hl
      obtain ⟨l, hl, rfl⟩ := hl
      obtain rfl : ys = [] := by
        cases ys with
        | nil => rfl
        | cons z zs => exact absurd (hopen i (hlate (List.cons_ne_nil _ _))) hi
      rw [Line.wait_nil, honly i l hl hpeer hi] at hy
      cases hy

/-! ## Writers that go on -/

/-- What is outstanding is what waits on the line and what the queue of its peer holds. -/
theorem outstanding_eq {id : Nat} {line : Line}
    (hget : (lines d.carrier).lines.get? id = some line) :
    outstanding (d.view lines) id = line.waiting.length + d.pending line.peer := by
  rw [outstanding, show (d.view lines).carrier = lines d.carrier from rfl, hget]
  rfl

omit [Carrier σ] [Wired σ] in
/-- A peer with a queue has its frames pending. -/
theorem pending_eq {q : PeerQueue} (h : d.queues.get? peer = some q) :
    d.pending peer = q.pending.length := by
  rw [Queues.pending, h]
  rfl

omit [Carrier σ] [Wired σ] in
/-- A peer without a queue has nothing pending. -/
theorem pending_of_none (h : d.queues.get? peer = none) : d.pending peer = 0 := by
  rw [Queues.pending, h]
  rfl

omit [Carrier σ] [Wired σ] in
/-- A peer without a queue is idle. -/
theorem isIdle_of_none (h : d.queues.get? peer = none) : d.isIdle peer = true := by
  rw [Queues.isIdle, Dict.contains, h]
  rfl

/-- With the lines as they were, what is outstanding falls with what the queue has left. -/
theorem outstanding_le_of_pending {d' : Queues σ} {id : Nat} {line : Line}
    (hget : (lines d.carrier).lines.get? id = some line)
    (hlines : lines d'.carrier = lines d.carrier)
    (hle : d'.pending line.peer ≤ d.pending line.peer) :
    outstanding (d'.view lines) id ≤ outstanding (d.view lines) id := by
  rw [outstanding_eq hget, outstanding_eq (hlines ▸ hget)]
  omega

/-- A queue that goes on puts at most one frame on the line, and has one less to hand over. -/
theorem run_outstanding_le {id : Nat} {line : Line} {q : PeerQueue}
    (hget : (lines d.carrier).lines.get? id = some line)
    (hq : d.queues.get? line.peer = some q) (handle : Nat) :
    outstanding ((d.run line.peer handle q.pending.tail).view lines) id ≤
      outstanding (d.view lines) id := by
  obtain ⟨hqueues, hlines⟩ | ⟨first, rest, i, l, htail, hopen, hqueues, hlines⟩ :=
    run_cases d line.peer handle q.pending.tail
  · -- the queue ended
    refine outstanding_le_of_pending hget hlines ?_
    rw [pending_of_none (by rw [hqueues, Dict.get?_erase, if_pos rfl])]
    exact Nat.zero_le _
  · -- the queue went on
    have hpending := pending_eq (d := d.run line.peer handle q.pending.tail)
      (by rw [hqueues, Dict.get?_insert, if_pos rfl])
    have hlength : q.pending.tail.length + 1 = q.pending.length := by
      cases hp : q.pending with
      | nil =>
        rw [hp] at htail
        cases htail
      | cons y ys => rfl
    have hline := congrArg (fun c => c.lines.get? id) hlines
    simp only [Lines.get?_put] at hline
    rw [outstanding_eq hget, pending_eq hq]
    -- the peer may have registered anew, and then the frame goes to another line than this one
    by_cases hi : id = i
    · subst hi
      rw [if_pos rfl] at hline
      obtain ⟨-, hl, -⟩ := Lines.open?_eq_some_iff.1 hopen
      obtain rfl : line = l := Option.some.inj (hget.symm.trans hl)
      rw [outstanding_eq hline, Line.wait_peer, hpending]
      simp only [Line.wait, List.length_append, List.length_cons, List.length_nil]
      omega
    · rw [if_neg hi, hget] at hline
      rw [outstanding_eq hline, hpending]
      simp only
      omega

/-- A receipt makes a queue hand over at most one frame, in the place of the one that it is of. -/
theorem onReceipt_outstanding_le {id : Nat} {line : Line}
    (hget : (lines d.carrier).lines.get? id = some line) (origin : Origin) (receipt : Receipt) :
    outstanding ((d.onReceipt line.peer origin receipt).view lines) id ≤
      outstanding (d.view lines) id := by
  cases origin with
  | handler => exact Nat.le_refl _
  | program => exact Nat.le_refl _
  | queue handle =>
    rw [Queues.onReceipt]
    split
    · -- the peer has no queue
      exact Nat.le_refl _
    · rename_i q hq
      split
      · -- it is the queue's own receipt
        split
        · refine outstanding_le_of_pending hget rfl ?_
          rw [pending_of_none (by simp [Queues.peerOffline, Dict.get?_erase])]
          exact Nat.zero_le _
        · exact run_outstanding_le hget hq handle
        · exact run_outstanding_le hget hq handle
      · -- the receipt is of an older queue
        exact Nat.le_refl _

/-- A frame that is written whole is outstanding no more. -/
theorem outstanding_writeNext_lt {id : Nat} {line : Line} {w : Write} {x : Waiting}
    {rest : List Waiting} (hget : (lines d.carrier).lines.get? id = some line)
    (hwaiting : line.waiting = x :: rest) (hw : w.of x.frame = .whole) :
    outstanding ((writeNext d id w).view lines) id < outstanding (d.view lines) id := by
  obtain ⟨-, hidle⟩ | ⟨line', x', rest', hget', hwaiting', hcase⟩ := writeNext_cases d id w
  · rw [hidle line hget] at hwaiting
    -- something waited
    cases hwaiting
  · obtain rfl : line = line' := Option.some.inj (hget.symm.trans hget')
    obtain ⟨rfl, rfl⟩ := List.cons.inj (hwaiting.symm.trans hwaiting')
    obtain ⟨-, hnext⟩ | ⟨octets, xs, d', hfailed, -⟩ := hcase
    · -- the frame is off the line, and its receipt makes the queue put back one at most
      let taken := written d id line rest (frame x.frame)
      have hline : (lines (note taken.carrier id line.peer x .delivered)).lines.get? id =
          some { line with waiting := rest, output := line.output ++ frame x.frame } := by
        rw [lines_note, show taken = written d id line rest (frame x.frame) from rfl, written,
          lines_setLines, Lines.get?_put, if_pos rfl]
      have hle := onReceipt_outstanding_le
        (d := { taken with carrier := note taken.carrier id line.peer x .delivered }) hline
        x.origin .delivered
      have htaken := outstanding_eq
        (d := { taken with carrier := note taken.carrier id line.peer x .delivered }) hline
      rw [hnext, outstanding_eq hget, hwaiting]
      refine Nat.lt_of_le_of_lt (Nat.le_trans hle (Nat.le_of_eq htaken)) ?_
      show rest.length + d.pending line.peer < (x :: rest).length + d.pending line.peer
      simp
    · -- the write did not fail
      rw [hw] at hfailed
      cases hfailed

/-- A line that was there is there after a write. -/
theorem get?_writeNext {id : Nat} {line : Line} (w : Write)
    (hget : (lines d.carrier).lines.get? id = some line) :
    ∃ line', (lines (writeNext d id w).carrier).lines.get? id = some line' := by
  obtain ⟨hsame, -⟩ | ⟨line', x, rest, hget', hwaiting, ⟨-, hnext⟩ | ⟨octets, -, -, hw, -⟩⟩ :=
    writeNext_cases d id w
  · -- nothing was written
    exact ⟨line, by rw [hsame, hget]⟩
  · -- a frame was written whole
    obtain ⟨xs, hxs, -⟩ :=
      answer_extends (written d id line' rest (frame x.frame)) id line'.peer x .delivered
    have hline := hxs.get? id
    rw [written, lines_setLines, Lines.get?_put, if_pos rfl, Option.map_some] at hline
    exact ⟨_, by rw [hnext]; exact hline⟩
  · -- the line broke
    exact ⟨_, (get?_writeNext_failed hget' hwaiting hw).1⟩

/-- A writer with nothing to write does nothing. -/
theorem after_writes_of_nil {id : Nat} {line : Line}
    (hget : (lines d.carrier).lines.get? id = some line) (hwaiting : line.waiting = [])
    (ws : List Write) : after d (ws.map (.write id)) = d := by
  induction ws with
  | nil => rfl
  | cons w ws ih =>
    have hsame : writeNext d id w = d := by
      rw [writeNext, hget]
      simp only [hwaiting]
    rw [List.map_cons, after, List.foldl_cons, step, hsame]
    exact ih

/-- A writer that makes as many writes as there are frames outstanding, whatever becomes of them,
leaves nothing that waits. -/
theorem waiting_after_writes {id : Nat} {line : Line}
    (hget : (lines d.carrier).lines.get? id = some line) {ws : List Write}
    (hws : outstanding (d.view lines) id ≤ ws.length) :
    ∃ line', (lines (after d (ws.map (.write id))).carrier).lines.get? id = some line' ∧
      line'.waiting = [] := by
  -- a write that succeeds lowers what is outstanding, and one that fails clears the line at once
  induction ws generalizing d line with
  | nil =>
    rw [outstanding_eq hget, List.length_nil] at hws
    exact ⟨line, hget, List.length_eq_zero_iff.1 (by omega)⟩
  | cons w ws ih =>
    cases hwaiting : line.waiting with
    | nil => exact ⟨line, by rw [after_writes_of_nil hget hwaiting]; exact hget, hwaiting⟩
    | cons x rest =>
      rw [List.map_cons, after, List.foldl_cons, step]
      cases hw : w.of x.frame with
      -- the line breaks, and then nothing waits
      | failed octets =>
        have hbroken := (get?_writeNext_failed hget hwaiting hw).1
        have hsame := after_writes_of_nil hbroken rfl ws
        rw [after] at hsame
        exact ⟨_, by rw [hsame, hbroken], rfl⟩
      -- one frame less is outstanding
      | whole =>
        have hlt := outstanding_writeNext_lt hget hwaiting hw
        obtain ⟨line', hget'⟩ := get?_writeNext w hget
        refine ih hget' ?_
        rw [List.length_cons] at hws
        omega

end Wired

end FeedNode.Stream
