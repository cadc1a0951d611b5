import FeedNode.Proofs.Delivery.Carriers
import FeedNode.Stream.Line

/-!
# Traffic on lines

A run takes the queues over lines through peers that connect and disconnect, frames that are
enqueued or sent past the queues, and writers that write whole frames or fail. Sending only ever
puts frames at the end of lines that are not broken (`Lines.Extends`); what else happens to a line
is up to its writer.

Runs are defined for every carrier that holds its frames on lines (`Wired`), so that the lines can
be followed with a record beside them. Over the lines themselves the steps are those of the library
(`Wired.writeNext_eq`).

Main statements:

* `Lines.send_extends`: what sending a frame does to the lines.
* `Wired.writeNext_cases`: all that a writer can do.
* `Wired.after_view`: what is kept beside the lines does not change how they fare.
* `Wired.registered_after` and `Wired.step_sameSeats`: who is registered with which line depends on
  connecting and disconnecting alone.
-/

namespace FeedNode.Stream

open Delivery (AnswersAlike Carrier KeptBySends Origin Peer Queues Receipt)

/-! ## Runs -/

/-- What may happen to the queues and to the lines under them. -/
inductive Traffic where
  | connect (peer : Peer)
  | disconnect (peer : Peer)
  | enqueue (peer : Peer) (frame : Bytes)
  | peerOffline (peer : Peer)
  /-- A handler sends a frame past the queue and does not wait for the receipt. -/
  | reply (peer : Peer) (frame : Bytes)
  /-- The embedding program sends a frame past the queue. -/
  | send (peer : Peer) (frame : Bytes)
  /-- The writer of a line writes the frame that has waited longest. -/
  | write (id : Nat) (w : Write)
deriving DecidableEq

/-- The frame that goes past the queues, and its peer. -/
def Traffic.direct? : Traffic → Option (Peer × Waiting)
  | .reply peer frame => some (peer, { frame, origin := .handler })
  | .send peer frame => some (peer, { frame, origin := .program })
  | _ => none

/-- The line of a peer and the number of the next line, after an event. -/
def register (peer : Peer) (found : Option Nat × Nat) : Traffic → Option Nat × Nat
  | .connect p => (if peer = p then some found.2 else found.1, found.2 + 1)
  | .disconnect p => (if peer = p then none else found.1, found.2)
  | _ => found

/-- The line that was connected last for a peer, unless the peer disconnected since. -/
def registration (peer : Peer) (es : List Traffic) : Option Nat :=
  (es.foldl (register peer) (none, 0)).1

/-- The event gives a peer its seat on a line, or takes it. -/
def Traffic.Seats : Traffic → Prop
  | .connect _ | .disconnect _ => True
  | _ => False

/-- A carrier that holds its frames on lines. -/
class Wired (σ : Type) [Carrier σ] where
  lines : σ → Lines
  withLines : σ → Lines → σ
  /-- The receipt of a frame that waited on a line is given. -/
  note : σ → Nat → Peer → Waiting → Receipt → σ
  answersAlike : AnswersAlike lines
  lines_withLines : ∀ c l, lines (withLines c l) = l
  lines_note : ∀ c id peer x receipt, lines (note c id peer x receipt) = lines c

instance : Wired Lines where
  lines c := c
  withLines _ c := c
  note c _ _ _ _ := c
  answersAlike _ _ _ _ := rfl
  lines_withLines _ _ := rfl
  lines_note _ _ _ _ _ := rfl

namespace Wired

variable {σ : Type} [Carrier σ] [Wired σ]

/-- The queues with other lines. -/
def setLines (d : Queues σ) (c : Lines) : Queues σ :=
  { d with carrier := withLines d.carrier c }

/-- The receipt of a frame that waited on a line comes to the one who waits for it. -/
def answer (d : Queues σ) (id : Nat) (peer : Peer) (x : Waiting) (receipt : Receipt) : Queues σ :=
  { d with carrier := note d.carrier id peer x receipt }.onReceipt peer x.origin receipt

/-- A write failed on a line: all that still waits on it is refused. -/
def breakLine (d : Queues σ) (id : Nat) : Queues σ :=
  match (lines d.carrier).lines.get? id with
  | none => d
  | some line =>
    line.waiting.foldl (fun d x => answer d id line.peer x .offline)
      (setLines d ((lines d.carrier).put id { line with waiting := [], isBroken := true }))

/-- The writer of a line writes the frame that has waited longest. -/
def writeNext (d : Queues σ) (id : Nat) (w : Write) : Queues σ :=
  match (lines d.carrier).lines.get? id with
  | none => d
  | some line =>
    match line.waiting with
    | [] => d
    | x :: waiting =>
      match w.of x.frame with
      | .whole =>
        let line := { line with waiting, output := line.output ++ frame x.frame }
        answer (setLines d ((lines d.carrier).put id line)) id line.peer x .delivered
      | .failed octets =>
        let line := { line with waiting, output := line.output ++ (frame x.frame).take octets }
        breakLine
          (answer (setLines d ((lines d.carrier).put id line)) id line.peer x .failed) id

/-- The queues after an event. -/
def step (d : Queues σ) : Traffic → Queues σ
  | .connect peer => setLines d ((lines d.carrier).connect peer).2
  | .disconnect peer => setLines d ((lines d.carrier).disconnect peer)
  | .enqueue peer frame => d.enqueue peer frame
  | .peerOffline peer => d.peerOffline peer
  | .reply peer frame => d.sendDirect peer frame .handler
  | .send peer frame => d.sendDirect peer frame .program
  | .write id w => writeNext d id w

/-- The queues after some events. -/
def after (d : Queues σ) (es : List Traffic) : Queues σ :=
  es.foldl step d

/-- Over the lines themselves a writer does what it does in the library. -/
theorem writeNext_eq (d : Queues Lines) (id : Nat) (w : Write) :
    writeNext d id w = Stream.writeNext d id w := rfl

end Wired

/-! ## Lines -/

/-- The line with more frames that wait. -/
def Line.wait (line : Line) (xs : List Waiting) : Line :=
  { line with waiting := line.waiting ++ xs }

@[simp] theorem Line.wait_peer (line : Line) (xs : List Waiting) :
    (line.wait xs).peer = line.peer := rfl

@[simp] theorem Line.wait_isBroken (line : Line) (xs : List Waiting) :
    (line.wait xs).isBroken = line.isBroken := rfl

@[simp] theorem Line.wait_nil (line : Line) : line.wait [] = line := by simp [Line.wait]

/-- Frames that come to a line one after the other wait in their order. -/
theorem Line.wait_wait (line : Line) (xs ys : List Waiting) :
    (line.wait xs).wait ys = line.wait (xs ++ ys) := by simp [Line.wait]

namespace Lines

variable {c c' c'' : Lines} {peer : Peer} {id : Nat} {line : Line}

@[simp] theorem get?_put (c : Lines) (id i : Nat) (line : Line) :
    (c.put id line).lines.get? i = if i = id then some line else c.lines.get? i :=
  Dict.get?_insert c.lines i id line

@[simp] theorem registered_put (c : Lines) (id : Nat) (line : Line) :
    (c.put id line).registered = c.registered := rfl

/-- The frames of a peer go to the line that is registered for it, unless that is broken. -/
theorem open?_eq_some_iff :
    c.open? peer = some (id, line) ↔
      c.registered.get? peer = some id ∧ c.lines.get? id = some line ∧ line.isBroken = false := by
  constructor
  · intro h
    rw [open?] at h
    split at h
    · -- the peer is not registered
      cases h
    · rename_i hid
      split at h
      · -- the line is not there
        cases h
      · rename_i hget
        split at h
        · -- the line is broken
          cases h
        · -- the line takes frames
          rename_i hlive
          cases h
          exact ⟨hid, hget, by simpa using hlive⟩
  · rintro ⟨hid, hget, hlive⟩
    simp only [open?, hid, hget, hlive, Bool.false_eq_true, if_false]

/-- With an open line a frame waits on it, and its receipt comes later. -/
theorem send_of_open (h : c.open? peer = some (id, line)) (frame : Bytes) (origin : Origin) :
    Carrier.send c peer frame origin = (c.put id (line.wait [{ frame, origin }]), none) := by
  simp only [Carrier.send, h]
  rfl

/-- Without an open line a frame is refused at once. -/
theorem send_of_closed (h : c.open? peer = none) (frame : Bytes) (origin : Origin) :
    Carrier.send c peer frame origin = (c, some .offline) := by
  simp only [Carrier.send, h]

/-- The number of the line that takes a peer's frames. -/
def openId (c : Lines) (peer : Peer) : Option Nat :=
  (c.open? peer).map Prod.fst

/-- A line takes a peer's frames if the peer is registered with it and it is not broken. -/
theorem openId_eq_some_iff :
    c.openId peer = some id ↔
      c.registered.get? peer = some id ∧ ∃ line, c.lines.get? id = some line ∧
        line.isBroken = false := by
  rw [openId, Option.map_eq_some_iff]
  constructor
  · rintro ⟨⟨i, line⟩, hopen, rfl⟩
    obtain ⟨hid, hget, hlive⟩ := open?_eq_some_iff.1 hopen
    exact ⟨hid, line, hget, hlive⟩
  · rintro ⟨hid, line, hget, hlive⟩
    exact ⟨(id, line), open?_eq_some_iff.2 ⟨hid, hget, hlive⟩, rfl⟩

/-- What is open depends on the register and on what is broken. -/
theorem openId_put_of_isBroken_eq (hget : c.lines.get? id = some line) (line' : Line)
    (hbroken : line'.isBroken = line.isBroken) (peer : Peer) :
    (c.put id line').openId peer = c.openId peer := by
  refine Option.ext fun i => ?_
  rw [openId_eq_some_iff, openId_eq_some_iff, registered_put, get?_put]
  by_cases hi : i = id
  · -- the line that is put there is broken if the old one was
    simp [hi, hget, hbroken]
  · rw [if_neg hi]

/-- The peer of a line. -/
def owner? (c : Lines) (id : Nat) : Option Peer :=
  (c.lines.get? id).map Line.peer

/-- A line belongs to a peer if it is there with the name of the peer. -/
theorem owner?_eq_some_iff :
    c.owner? id = some peer ↔ ∃ line, c.lines.get? id = some line ∧ line.peer = peer := by
  rw [owner?, Option.map_eq_some_iff]

/-! ### What sending does to lines -/

/-- Frames were put on lines that are not broken, and nothing else happened. -/
structure Extends (xs : Nat → List Waiting) (c c' : Lines) : Prop where
  registered : c'.registered = c.registered
  nextLine : c'.nextLine = c.nextLine
  get? : ∀ id, c'.lines.get? id = (c.lines.get? id).map fun line => line.wait (xs id)
  live : ∀ id, xs id ≠ [] → ∃ line, c.lines.get? id = some line ∧ line.isBroken = false

/-- Lines with nothing more on them are the same lines. -/
theorem Extends.refl (c : Lines) : Extends (fun _ => []) c c := by
  refine ⟨rfl, rfl, fun id => ?_, fun id h => absurd rfl h⟩
  cases c.lines.get? id <;> simp

/-- Frames that are put on lines one after the other are put there in order. -/
theorem Extends.trans {xs ys : Nat → List Waiting} (h : Extends xs c c')
    (h' : Extends ys c' c'') : Extends (fun id => xs id ++ ys id) c c'' := by
  refine ⟨h'.registered.trans h.registered, h'.nextLine.trans h.nextLine, fun id => ?_,
    fun id hne => ?_⟩
  · rw [h'.get?, h.get?, Option.map_map]
    simp only [Function.comp_def, Line.wait_wait]
  · by_cases hxs : xs id = []
    · have hys : ys id ≠ [] := by simpa [hxs] using hne
      obtain ⟨line, hget, hopen⟩ := h'.live id hys
      -- a line that is there after the first frames was there before them
      rw [h.get?, Option.map_eq_some_iff] at hget
      obtain ⟨line, hget, rfl⟩ := hget
      exact ⟨line, hget, hopen⟩
    · exact h.live id hxs

/-- Frames that are added leave open what was open. -/
theorem Extends.openId {xs : Nat → List Waiting} (h : Extends xs c c') (peer : Peer) :
    c'.openId peer = c.openId peer := by
  refine Option.ext fun id => ?_
  rw [openId_eq_some_iff, openId_eq_some_iff, h.registered, h.get?]
  cases c.lines.get? id with
  | none => rfl
  | some line => simp

/-- What a frame for the peer adds to each line. -/
def taken (c : Lines) (peer : Peer) (x : Waiting) (id : Nat) : List Waiting :=
  if c.openId peer = some id then [x] else []

/-- What takes a frame is open for its peer. -/
theorem openId_of_taken_ne_nil {x : Waiting} (h : c.taken peer x id ≠ []) :
    c.openId peer = some id := by
  rw [taken] at h
  split at h
  · assumption
  · exact absurd rfl h

/-- A frame goes to the end of the line that is open for its peer, if there is one. -/
theorem send_extends (c : Lines) (peer : Peer) (frame : Bytes) (origin : Origin) :
    Extends (c.taken peer { frame, origin }) c (Carrier.send c peer frame origin).1 := by
  cases hopen : c.open? peer with
  | none =>
    have hnone : c.taken peer { frame, origin } = fun _ => [] := by
      funext id
      simp [taken, openId, hopen]
    rw [send_of_closed hopen, hnone]
    exact .refl c
  | some found =>
    obtain ⟨id, line⟩ := found
    obtain ⟨-, hget, hlive⟩ := open?_eq_some_iff.1 hopen
    rw [send_of_open hopen]
    refine ⟨rfl, rfl, fun i => ?_, fun i hne => ?_⟩
    · by_cases hi : i = id
      · -- the line that is open
        simp [hi, hget, taken, openId, hopen]
      · -- all other lines
        cases hother : c.lines.get? i <;> simp [hi, Ne.symm hi, hother, taken, openId, hopen]
    · by_cases hi : i = id
      · exact ⟨line, hi ▸ hget, hlive⟩
      · simp [taken, openId, hopen, Ne.symm hi] at hne

/-! ### Seats -/

/-- The same lines are registered for the same peers. -/
structure SameSeats (c c' : Lines) : Prop where
  registered : c'.registered = c.registered
  nextLine : c'.nextLine = c.nextLine
  owner? : ∀ id, c'.owner? id = c.owner? id

/-- Lines have the seats that they have. -/
theorem SameSeats.refl (c : Lines) : SameSeats c c := ⟨rfl, rfl, fun _ => rfl⟩

/-- Seats stay over several changes. -/
theorem SameSeats.trans (h : SameSeats c c') (h' : SameSeats c' c'') : SameSeats c c'' :=
  ⟨h'.registered.trans h.registered, h'.nextLine.trans h.nextLine,
    fun id => (h'.owner? id).trans (h.owner? id)⟩

/-- Frames that are added leave all seats. -/
theorem Extends.sameSeats {xs : Nat → List Waiting} (h : Extends xs c c') : SameSeats c c' := by
  refine ⟨h.registered, h.nextLine, fun id => ?_⟩
  rw [Lines.owner?, h.get?, Option.map_map]
  rfl

/-- A line that is changed and keeps its peer leaves all seats. -/
theorem sameSeats_put (hget : c.lines.get? id = some line) {line' : Line}
    (hpeer : line'.peer = line.peer) : SameSeats c (c.put id line') := by
  refine ⟨rfl, rfl, fun i => ?_⟩
  rw [owner?, owner?, get?_put]
  by_cases hi : i = id
  · rw [if_pos hi, hi, hget, Option.map_some, Option.map_some, hpeer]
  · rw [if_neg hi]

/-! ### Numbers of lines -/

/-- Lines have the numbers up to the next one, and a peer is registered with a line of its own. -/
structure Numbered (c : Lines) : Prop where
  lt : ∀ {id line}, c.lines.get? id = some line → id < c.nextLine
  owned : ∀ {peer id}, c.registered.get? peer = some id →
    ∃ line, c.lines.get? id = some line ∧ line.peer = peer

/-- There are no lines yet. -/
theorem numbered_empty : Numbered empty where
  lt h := by simp [empty] at h
  owned h := by simp [empty] at h

/-- The next number is free. -/
theorem Numbered.absent (hc : c.Numbered) : c.lines.get? c.nextLine = none := by
  rw [Option.eq_none_iff_forall_ne_some]
  exact fun line h => Nat.lt_irrefl _ (hc.lt h)

/-- Lines with the same seats are numbered in the same way. -/
theorem Numbered.sameSeats (hc : c.Numbered) (h : SameSeats c c') : c'.Numbered := by
  constructor
  · -- a line with an owner was there before
    intro id line hget
    have howner : c.owner? id = some line.peer := by
      rw [← h.owner?]
      exact owner?_eq_some_iff.2 ⟨line, hget, rfl⟩
    obtain ⟨line', hget', -⟩ := owner?_eq_some_iff.1 howner
    rw [h.nextLine]
    exact hc.lt hget'
  · -- who is registered was registered before
    intro peer id hid
    rw [h.registered] at hid
    rw [← owner?_eq_some_iff, h.owner?]
    exact owner?_eq_some_iff.2 (hc.owned hid)

/-- A new line has the next number and the peer that connects. -/
theorem Numbered.connect (hc : c.Numbered) (peer : Peer) : (c.connect peer).2.Numbered := by
  constructor
  · intro id line hget
    simp only [Lines.connect, Dict.get?_insert] at hget ⊢
    split at hget
    · -- the new line
      omega
    · -- an older one
      exact Nat.lt_succ_of_lt (hc.lt hget)
  · intro p id hid
    simp only [Lines.connect, Dict.get?_insert] at hid ⊢
    split at hid
    · rename_i heq
      cases hid
      -- the peer that connects has the new line
      exact ⟨_, if_pos rfl, heq.symm⟩
    · -- all others have the lines that they had
      obtain ⟨line, hget, hpeer⟩ := hc.owned hid
      exact ⟨line, by rw [if_neg (Nat.ne_of_lt (hc.lt hget)), hget], hpeer⟩

/-- A peer that is taken off the register leaves its line where it is. -/
theorem Numbered.disconnect (hc : c.Numbered) (peer : Peer) : (c.disconnect peer).Numbered := by
  refine ⟨hc.lt, fun {p id} hid => ?_⟩
  simp only [Lines.disconnect, Dict.get?_erase] at hid
  split at hid
  · cases hid
  · exact hc.owned hid

end Lines

/-! ## Steps -/

namespace Wired

variable {σ : Type} [Carrier σ] [Wired σ]

@[simp] theorem lines_setLines (d : Queues σ) (c : Lines) : lines (setLines d c).carrier = c :=
  lines_withLines d.carrier c

/-- A frame goes to the end of the open line, whatever is kept beside the lines. -/
theorem lines_send_extends (c : σ) (peer : Peer) (frame : Bytes) (origin : Origin) :
    Lines.Extends ((lines c).taken peer { frame, origin }) (lines c)
      (lines (Carrier.send c peer frame origin).1) := by
  have hsend := Lines.send_extends (lines c) peer frame origin
  rwa [answersAlike] at hsend

/-- Frames for the peer were put on the line that is open for it, and nothing else happened. -/
def ExtendsFor (peer : Peer) (c c' : Lines) : Prop :=
  ∃ xs, Lines.Extends xs c c' ∧ ∀ id, xs id ≠ [] → c.openId peer = some id

/-- What only sends frames to a peer extends the lines for it. -/
theorem keptBySends_extends (peer : Peer) :
    KeptBySends peer fun c c' : σ => ExtendsFor peer (lines c) (lines c') where
  refl c := ⟨_, .refl (lines c), fun _ h => absurd rfl h⟩
  trans := by
    rintro c c' c'' ⟨xs, h, honly⟩ ⟨ys, h', honly'⟩
    refine ⟨_, h.trans h', fun id hne => ?_⟩
    by_cases hxs : xs id = []
    · -- the second frames came over what was open before the first
      rw [← h.openId]
      exact honly' id (by simpa [hxs] using hne)
    · exact honly id hxs
  send c frame handle :=
    ⟨_, lines_send_extends c peer frame (.queue handle), fun _ => Lines.openId_of_taken_ne_nil⟩

/-- A frame past the queue extends the lines for its peer. -/
theorem sendDirect_extends (d : Queues σ) (peer : Peer) (frame : Bytes) (origin : Origin) :
    ExtendsFor peer (lines d.carrier) (lines (d.sendDirect peer frame origin).carrier) :=
  (keptBySends_extends peer).sendDirect d frame origin
    ⟨_, lines_send_extends d.carrier peer frame origin, fun _ => Lines.openId_of_taken_ne_nil⟩

/-- What comes of a receipt adds to the line that is open for the peer, and does nothing else. -/
theorem answer_extends (d : Queues σ) (id : Nat) (peer : Peer) (x : Waiting) (receipt : Receipt) :
    ExtendsFor peer (lines d.carrier) (lines (answer d id peer x receipt).carrier) := by
  have hkept := (keptBySends_extends peer).onReceipt
    { d with carrier := note d.carrier id peer x receipt } x.origin receipt
  rwa [show ({ d with carrier := note d.carrier id peer x receipt } : Queues σ).carrier =
    note d.carrier id peer x receipt from rfl, lines_note] at hkept

/-- Refusing what waits on a line gives receipts, and nothing is sent for them. -/
theorem refuse_carrier (d : Queues σ) (id : Nat) (peer : Peer) (xs : List Waiting) :
    (xs.foldl (fun d x => answer d id peer x .offline) d).carrier =
      xs.foldl (fun c x => note c id peer x .offline) d.carrier := by
  induction xs generalizing d with
  | nil => rfl
  | cons x xs ih =>
    rw [List.foldl_cons, List.foldl_cons, ih, answer, Queues.onReceipt_offline_carrier]

/-- Refusals change no line. -/
theorem lines_refuse (c : σ) (id : Nat) (peer : Peer) (xs : List Waiting) :
    lines (xs.foldl (fun c x => note c id peer x .offline) c) = lines c := by
  induction xs generalizing c with
  | nil => rfl
  | cons x xs ih => rw [List.foldl_cons, ih, lines_note]

/-- The queues when a writer has taken `x` off its line and put `octets` on the stream. -/
def written (d : Queues σ) (id : Nat) (line : Line) (waiting : List Waiting) (octets : Bytes) :
    Queues σ :=
  setLines d ((lines d.carrier).put id { line with waiting, output := line.output ++ octets })

/-- A write leaves open what was open. -/
theorem openId_written {d : Queues σ} {id : Nat} {line : Line}
    (hget : (lines d.carrier).lines.get? id = some line) (rest : List Waiting) (octets : Bytes)
    (peer : Peer) :
    (lines (written d id line rest octets).carrier).openId peer =
      (lines d.carrier).openId peer := by
  rw [written, lines_setLines]
  exact Lines.openId_put_of_isBroken_eq hget
    { line with waiting := rest, output := line.output ++ octets } rfl peer

/-- A writer has nothing to do, or writes a frame whole, or fails on it. When it fails, the receipt
of that frame may still put others on the line, and they are refused with those that wait. -/
theorem writeNext_cases (d : Queues σ) (id : Nat) (w : Write) :
    (writeNext d id w = d ∧
      ∀ line, (lines d.carrier).lines.get? id = some line → line.waiting = []) ∨
    ∃ line x rest, (lines d.carrier).lines.get? id = some line ∧ line.waiting = x :: rest ∧
      ((w.of x.frame = .whole ∧
          writeNext d id w =
            answer (written d id line rest (frame x.frame)) id line.peer x .delivered) ∨
        ∃ octets xs d', w.of x.frame = .failed octets ∧
          d' = answer (written d id line rest ((frame x.frame).take octets)) id line.peer x
            .failed ∧
          Lines.Extends xs
            (lines (written d id line rest ((frame x.frame).take octets)).carrier)
            (lines d'.carrier) ∧
          (∀ i, xs i ≠ [] → (lines d.carrier).openId line.peer = some i) ∧
          writeNext d id w =
            (rest ++ xs id).foldl (fun d x => answer d id line.peer x .offline)
              (setLines d' ((lines d'.carrier).put id
                { line with
                  waiting := []
                  output := line.output ++ (frame x.frame).take octets
                  isBroken := true }))) := by
  rw [writeNext]
  -- no line, nothing that waits on it, or a first frame that is written
  cases hget : (lines d.carrier).lines.get? id with
  | none => exact .inl ⟨rfl, nofun⟩
  | some line =>
    cases hwaiting : line.waiting with
    | nil =>
      refine .inl ⟨by simp only [hwaiting], fun line' h => ?_⟩
      rw [← Option.some.inj h, hwaiting]
    | cons x rest =>
      refine .inr ⟨line, x, rest, rfl, hwaiting, ?_⟩
      simp only [hwaiting]
      cases hw : w.of x.frame with
      | whole => exact .inl ⟨rfl, rfl⟩
      | failed octets =>
        obtain ⟨xs, hxs, honly⟩ := answer_extends
          (written d id line rest ((frame x.frame).take octets)) id line.peer x .failed
        refine .inr ⟨octets, xs, _, rfl, rfl, hxs, fun i hi => ?_, ?_⟩
        · rw [← openId_written hget rest ((frame x.frame).take octets)]
          exact honly i hi
        -- the line is still there, with what the receipt put on it
        have hline := hxs.get? id
        rw [written, lines_setLines, Lines.get?_put, if_pos rfl, Option.map_some] at hline
        show breakLine (answer (written d id line rest ((frame x.frame).take octets)) id line.peer
          x .failed) id = _
        rw [breakLine, written, hline]
        rfl

/-! ### The lines by themselves -/

/-- Lines that are set are set in the view. -/
theorem setLines_view (d : Queues σ) (c : Lines) :
    (setLines d c).view lines = setLines (d.view lines) c := by
  simp only [setLines, Queues.view, lines_withLines]
  rfl

/-- A receipt comes to the queues of the view. -/
theorem answer_view (d : Queues σ) (id : Nat) (peer : Peer) (x : Waiting) (receipt : Receipt) :
    (answer d id peer x receipt).view lines = answer (d.view lines) id peer x receipt := by
  rw [answer, answer, Queues.onReceipt_view answersAlike]
  simp only [Queues.view, lines_note]
  rfl

/-- Refusals come to the queues of the view. -/
theorem refuse_view (d : Queues σ) (id : Nat) (peer : Peer) (xs : List Waiting) :
    (xs.foldl (fun d x => answer d id peer x .offline) d).view lines =
      xs.foldl (fun d x => answer d id peer x .offline) (d.view lines) := by
  induction xs generalizing d with
  | nil => rfl
  | cons x xs ih => rw [List.foldl_cons, List.foldl_cons, ih, answer_view]

/-- A line that breaks, breaks in the view. -/
theorem breakLine_view (d : Queues σ) (id : Nat) :
    (breakLine d id).view lines = breakLine (d.view lines) id := by
  rw [breakLine, breakLine, show lines (d.view lines).carrier = lines d.carrier from rfl]
  cases (lines d.carrier).lines.get? id with
  | none => rfl
  | some line => rw [refuse_view, setLines_view]

/-- A write is made in the view. -/
theorem writeNext_view (d : Queues σ) (id : Nat) (w : Write) :
    (writeNext d id w).view lines = writeNext (d.view lines) id w := by
  rw [writeNext, writeNext, show lines (d.view lines).carrier = lines d.carrier from rfl]
  cases (lines d.carrier).lines.get? id with
  | none => rfl
  | some line =>
    cases hwaiting : line.waiting with
    | nil => simp only [hwaiting]
    | cons x rest =>
      simp only [hwaiting]
      cases w.of x.frame with
      | whole => simp only [answer_view, setLines_view]
      | failed octets => simp only [breakLine_view, answer_view, setLines_view]

/-- Whatever a carrier keeps beside its lines, they fare as they do by themselves. -/
theorem step_view (d : Queues σ) (e : Traffic) :
    (step d e).view lines = step (d.view lines) e := by
  cases e with
  | connect peer => exact setLines_view d _
  | disconnect peer => exact setLines_view d _
  | enqueue peer frame => exact Queues.enqueue_view answersAlike d peer frame
  | peerOffline peer => rfl
  | reply peer frame => exact Queues.sendDirect_view answersAlike d peer frame .handler
  | send peer frame => exact Queues.sendDirect_view answersAlike d peer frame .program
  | write id w => exact writeNext_view d id w

/-- Over a run lines fare as they do by themselves, whatever is kept beside them. -/
theorem after_view (d : Queues σ) (es : List Traffic) :
    (after d es).view lines = after (d.view lines) es := by
  induction es generalizing d with
  | nil => rfl
  | cons e es ih =>
    rw [after, after, List.foldl_cons, List.foldl_cons, ← step_view]
    exact ih (step d e)

/-! ### Properties that receipts keep -/

/-- A property that stays when lines change and when receipts are given. -/
structure Kept (Q : Queues σ → Prop) : Prop where
  setLines : ∀ {d} c, Q d → Q (Wired.setLines d c)
  answer : ∀ {d} id peer x receipt, Q d → Q (Wired.answer d id peer x receipt)
  enqueue : ∀ {d} peer frame, Q d → Q (d.enqueue peer frame)
  peerOffline : ∀ {d} peer, Q d → Q (d.peerOffline peer)

namespace Kept

variable {Q : Queues σ → Prop} (h : Kept Q) {d : Queues σ}
include h

/-- Refusals keep what receipts keep. -/
theorem refuse (hd : Q d) (id : Nat) (peer : Peer) (xs : List Waiting) :
    Q (xs.foldl (fun d x => Wired.answer d id peer x .offline) d) := by
  induction xs generalizing d with
  | nil => exact hd
  | cons x xs ih => exact ih (h.answer id peer x .offline hd)

/-- A write keeps what receipts keep. -/
theorem writeNext (hd : Q d) (id : Nat) (w : Write) : Q (Wired.writeNext d id w) := by
  obtain ⟨hsame, -⟩ | ⟨line, x, rest, -, -, ⟨-, hnext⟩ | ⟨octets, xs, d', -, hd', -, -, hnext⟩⟩ :=
    writeNext_cases d id w
  · -- nothing was written
    rwa [hsame]
  · -- a frame was written whole
    rw [hnext]
    exact h.answer id line.peer x .delivered (h.setLines _ hd)
  · -- a write failed
    rw [hnext, hd']
    exact h.refuse (h.setLines _ (h.answer id line.peer x .failed (h.setLines _ hd))) id _ _

/-- The property stays in every step that sends nothing past the queues. -/
theorem step (hd : Q d) (e : Traffic) (hdirect : e.direct? = none) : Q (Wired.step d e) := by
  cases e with
  | connect peer => exact h.setLines _ hd
  | disconnect peer => exact h.setLines _ hd
  | enqueue peer frame => exact h.enqueue peer frame hd
  | peerOffline peer => exact h.peerOffline peer hd
  | reply peer frame => cases hdirect
  | send peer frame => cases hdirect
  | write id w => exact h.writeNext hd id w

end Kept

/-- A step that sends past the queues does nothing else. -/
theorem step_of_direct {e : Traffic} {peer : Peer} {x : Waiting}
    (h : e.direct? = some (peer, x)) (d : Queues σ) :
    step d e = d.sendDirect peer x.frame x.origin := by
  cases e <;> cases h <;> rfl

/-- What sends and receipts keep is kept over a run. -/
theorem Kept.after {Q : Queues σ → Prop} (h : Kept Q)
    (hdirect : ∀ {d} peer frame origin, Q d → Q (d.sendDirect peer frame origin)) {d : Queues σ}
    (hd : Q d) (es : List Traffic) : Q (Wired.after d es) := by
  induction es generalizing d with
  | nil => exact hd
  | cons e es ih =>
    refine ih ?_
    cases he : e.direct? with
    | none => exact h.step hd e he
    | some sent => exact step_of_direct he d ▸ hdirect sent.1 sent.2.frame sent.2.origin hd

/-! ### The register -/

/-- The writer of a line gives and takes no seats. -/
theorem writeNext_sameSeats (d : Queues σ) (id : Nat) (w : Write) :
    Lines.SameSeats (lines d.carrier) (lines (writeNext d id w).carrier) := by
  have hwritten {line : Line} (hget : (lines d.carrier).lines.get? id = some line)
      (rest : List Waiting) (octets : Bytes) :
      Lines.SameSeats (lines d.carrier) (lines (written d id line rest octets).carrier) := by
    rw [written, lines_setLines]
    exact Lines.sameSeats_put hget rfl
  obtain ⟨hsame, -⟩ | ⟨line, x, rest, hget, -, ⟨-, hnext⟩ |
    ⟨octets, xs, d', -, -, hxs, -, hnext⟩⟩ := writeNext_cases d id w
  · -- nothing was written
    rw [hsame]
    exact .refl _
  · -- a frame was written whole, and its receipt only sent frames
    obtain ⟨xs, hxs, -⟩ :=
      answer_extends (written d id line rest (frame x.frame)) id line.peer x .delivered
    rw [hnext]
    exact (hwritten hget rest _).trans hxs.sameSeats
  · -- a write failed, and the line keeps its peer
    have hline := hxs.get? id
    rw [written, lines_setLines, Lines.get?_put, if_pos rfl, Option.map_some] at hline
    rw [hnext, refuse_carrier, lines_refuse, lines_setLines]
    exact ((hwritten hget rest _).trans hxs.sameSeats).trans (Lines.sameSeats_put hline rfl)

/-- Only peers that connect and disconnect change seats. -/
theorem step_sameSeats (d : Queues σ) {e : Traffic} (he : ¬ e.Seats) :
    Lines.SameSeats (lines d.carrier) (lines (step d e).carrier) := by
  have hkept {peer : Peer} {c c' : σ} (hR : ExtendsFor peer (lines c) (lines c')) :
      Lines.SameSeats (lines c) (lines c') :=
    hR.elim fun xs hxs => hxs.1.sameSeats
  cases e with
  | connect peer => exact absurd trivial he
  | disconnect peer => exact absurd trivial he
  | enqueue peer frame => exact hkept ((keptBySends_extends peer).enqueue d frame)
  | peerOffline peer => exact .refl _
  | reply peer frame => exact hkept (sendDirect_extends d peer frame .handler)
  | send peer frame => exact hkept (sendDirect_extends d peer frame .program)
  | write id w => exact writeNext_sameSeats d id w

/-- A step changes the register as its event says. -/
theorem register_step (d : Queues σ) (peer : Peer) (e : Traffic) :
    ((lines (step d e).carrier).registered.get? peer, (lines (step d e).carrier).nextLine) =
      register peer ((lines d.carrier).registered.get? peer, (lines d.carrier).nextLine) e := by
  have hseats := step_sameSeats d (e := e)
  cases e with
  | connect p => simp only [step, lines_setLines, Lines.connect, Dict.get?_insert, register]
  | disconnect p => simp only [step, lines_setLines, Lines.disconnect, Dict.get?_erase, register]
  -- all other events leave it
  | _ =>
    have hsame := hseats id
    rw [hsame.registered, hsame.nextLine]
    rfl

/-- A run changes the register as its events say. -/
theorem register_after (d : Queues σ) (peer : Peer) (es : List Traffic) :
    ((lines (after d es).carrier).registered.get? peer, (lines (after d es).carrier).nextLine) =
      es.foldl (register peer)
        ((lines d.carrier).registered.get? peer, (lines d.carrier).nextLine) := by
  induction es generalizing d with
  | nil => rfl
  | cons e es ih =>
    rw [List.foldl_cons, ← register_step]
    exact ih (step d e)

/-- Peers are registered with the lines that the history says. -/
theorem registered_after {c : σ} (hc : lines c = .empty) (peer : Peer) (es : List Traffic) :
    (lines (after (.new c) es).carrier).registered.get? peer = registration peer es := by
  have hafter := register_after (.new c) peer es
  rw [show (Queues.new c).carrier = c from rfl, hc] at hafter
  exact congrArg Prod.fst hafter

/-! ### Numbers -/

/-- Nothing that happens gives a number to two lines or a line to two peers. -/
theorem step_numbered {d : Queues σ} (h : (lines d.carrier).Numbered) (e : Traffic) :
    (lines (step d e).carrier).Numbered := by
  cases e with
  | connect peer =>
    simp only [step, lines_setLines]
    exact h.connect peer
  | disconnect peer =>
    simp only [step, lines_setLines]
    exact h.disconnect peer
  | _ => exact h.sameSeats (step_sameSeats d id)

end Wired

end FeedNode.Stream
