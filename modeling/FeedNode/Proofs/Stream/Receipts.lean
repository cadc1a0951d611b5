import FeedNode.Proofs.Stream.Awaited

/-!
# Receipts of lines

Beside the lines, a record keeps every frame that is sent and every receipt that is given (`Noted`).
It shows that every frame is answered once: at once, as offline, if its peer has no open line; else
it waits on that line, which answers its frames in the order in which they came. A line answers
with `delivered` until a write fails, with `failed` for that frame and with `offline` after it. What
it put on the stream is what it says it delivered, and behind that at most a part of the frame that
failed; only where the frame was written to its end and could not be brought out is it there as a
whole (`Told`).

Main statements: `sends_answered_once`, `failed_frame_written_whole`.
-/

namespace FeedNode.Stream

open Delivery (AnswersAlike Carrier KeptBySends Origin Peer Queues Receipt)

/-! ## A record of sends and receipts -/

/-- What is noted of a frame. -/
inductive Note where
  /-- It was sent: the line that was open for its peer, and the receipt if that came at once. -/
  | sent (peer : Peer) (x : Waiting) (line : Option Nat) (answer : Option Receipt)
  /-- Its receipt came, when it had waited on a line. -/
  | answered (id : Nat) (peer : Peer) (x : Waiting) (receipt : Receipt)
deriving DecidableEq

namespace Note

/-- The frame that was sent, if the line took it. -/
def handed? (id : Nat) : Note → Option Waiting
  | .sent _ x line _ => if line = some id then some x else none
  | .answered .. => none

/-- The frame that was answered, with its receipt, if it had waited on the line. -/
def answer? (id : Nat) : Note → Option (Waiting × Receipt)
  | .sent .. => none
  | .answered i _ x receipt => if i = id then some (x, receipt) else none

/-- The receipt, if the embedding program waits for it. -/
def programReceipt? : Note → Option (Peer × Receipt)
  | .sent peer x _ answer => if x.origin = .program then answer.map (Prod.mk peer) else none
  | .answered _ peer x receipt => if x.origin = .program then some (peer, receipt) else none

/-- The frame that was sent, if no queue sent it. -/
def direct? : Note → Option (Peer × Waiting)
  | .sent peer x _ _ =>
    match x.origin with
    | .queue _ => none
    | .handler | .program => some (peer, x)
  | .answered .. => none

/-- A frame that no line takes is refused at once, and no other is answered at once. -/
def Honest : Note → Prop
  | .sent _ _ line answer => answer = if line = none then some .offline else none
  | .answered .. => True

end Note

/-- Lines with a record of what was sent over them. -/
structure Noted where
  lines : Lines
  notes : List Note

instance : Carrier Noted where
  send c peer frame origin :=
    let (l, answer) := Carrier.send c.lines peer frame origin
    ({ lines := l
       notes := c.notes ++ [.sent peer { frame, origin } (c.lines.openId peer) answer] }, answer)

instance : Wired Noted where
  lines := Noted.lines
  withLines c l := { c with lines := l }
  note c id peer x receipt := { c with notes := c.notes ++ [.answered id peer x receipt] }
  answersAlike _ _ _ _ := rfl
  lines_withLines _ _ := rfl
  lines_note _ _ _ _ _ := rfl

namespace Noted

variable {c c' : Noted} {id : Nat}

/-- No line, and nothing sent. -/
def empty : Noted where
  lines := .empty
  notes := []

/-- The frames that a line took, in order. -/
def handed (c : Noted) (id : Nat) : List Waiting :=
  c.notes.filterMap (Note.handed? id)

/-- The receipts of a line, each with its frame, in order. -/
def answers (c : Noted) (id : Nat) : List (Waiting × Receipt) :=
  c.notes.filterMap (Note.answer? id)

/-! ## What became of the frames of a line -/

/-- The octets of whole frames. -/
def encoded (xs : List Waiting) : Bytes :=
  xs.flatMap fun x => frame x.frame

/-- The octets of one frame more. -/
theorem encoded_append_singleton (xs : List Waiting) (x : Waiting) :
    encoded (xs ++ [x]) = encoded xs ++ frame x.frame := by
  simp [encoded]

/-- A part that is too short is not the whole. -/
theorem take_ne_of_lt {octets : Nat} (bytes : Bytes) (h : octets < bytes.length) :
    bytes.take octets ≠ bytes := by
  intro heq
  have hlength := congrArg List.length heq
  rw [List.length_take] at hlength
  omega

/-- One of the writes `W` failed on a frame after some octets, and the line was given up. -/
structure Fell (W : Write → Prop) (line : Line) (x : Waiting) (octets : Nat) : Prop where
  made : ∃ w, W w ∧ w.of x.frame = .failed octets
  broken : line.isBroken = true
  waiting : line.waiting = []

/-- The receipts of a line whose writer made the writes `W` agree with what is on the stream. -/
inductive Told (W : Write → Prop) (line : Line) : List (Waiting × Receipt) → Prop where
  /-- No write failed. -/
  | writing (done : List Waiting)
      (works : line.isBroken = false)
      (output : line.output = encoded done) :
      Told W line (done.map (·, .delivered))
  /-- A write broke off within its frame, of which a part is on the stream and not the whole. -/
  | cut (done : List Waiting) (x : Waiting) (rest : List Waiting) (octets : Nat) (part : Bytes)
      (fell : Fell W line x octets)
      (short : octets < (frame x.frame).length)
      (begins : part <+: frame x.frame)
      (strict : part ≠ frame x.frame)
      (output : line.output = encoded done ++ part) :
      Told W line (done.map (·, .delivered) ++ (x, .failed) :: rest.map (·, .offline))
  /-- A frame was written to its end, and then it could not be brought out. -/
  | unflushed (done : List Waiting) (x : Waiting) (rest : List Waiting) (octets : Nat)
      (fell : Fell W line x octets)
      (all : (frame x.frame).length ≤ octets)
      (output : line.output = encoded done ++ frame x.frame) :
      Told W line (done.map (·, .delivered) ++ (x, .failed) :: rest.map (·, .offline))

/-- The line answered the first frames that it took, and the others wait on it. -/
structure Answers (W : Write → Prop) (line : Line) (handed : List Waiting)
    (answers : List (Waiting × Receipt)) : Prop where
  once : handed = answers.map Prod.fst ++ line.waiting
  told : Told W line answers

/-- The record fits the lines: of a line that is not there nothing is noted. -/
def Accounts (W : Nat → Write → Prop) (c : Noted) (id : Nat) : Prop :=
  match c.lines.lines.get? id with
  | none => c.handed id = [] ∧ c.answers id = []
  | some line => Answers (W id) line (c.handed id) (c.answers id)

variable {W : Nat → Write → Prop} {line : Line} {peer : Peer} {x : Waiting} {receipt : Receipt}
  {xs : List Waiting} {as : List (Waiting × Receipt)}

/-- A broken line takes no frames. -/
theorem Fell.wait {W : Write → Prop} {octets : Nat} (h : Fell W line x octets)
    (hxs : xs ≠ [] → line.isBroken = false) : Fell W (line.wait xs) x octets := by
  have hnil : xs = [] := by
    by_cases hne : xs = []
    · exact hne
    · -- a frame was taken, so the line would not be broken
      have hworks := hxs hne
      rw [h.broken] at hworks
      cases hworks
  rw [hnil, Line.wait_nil]
  exact h

/-- Frames that come to a line leave its receipts true. -/
theorem Told.wait {W : Write → Prop} (h : Told W line as) (hxs : xs ≠ [] → line.isBroken = false) :
    Told W (line.wait xs) as := by
  cases h with
  -- what was written and refused does not say what waits
  | writing done works output => exact .writing done works output
  | cut done x rest octets part fell short begins strict output =>
    exact .cut done x rest octets part (fell.wait hxs) short begins strict output
  | unflushed done x rest octets fell all output =>
    exact .unflushed done x rest octets (fell.wait hxs) all output

/-- A write that fails on the frame behind those that were written leaves a part of it, or all. -/
theorem Told.of_fell {W : Write → Prop} {octets : Nat} (done rest : List Waiting)
    (h : Fell W line x octets)
    (houtput : line.output = encoded done ++ (frame x.frame).take octets) :
    Told W line (done.map (·, .delivered) ++ (x, .failed) :: rest.map (·, .offline)) := by
  by_cases hshort : octets < (frame x.frame).length
  · exact .cut done x rest octets _ h hshort (List.take_prefix _ _) (take_ne_of_lt _ hshort) houtput
  · -- all octets were written before the write failed
    have hall : (frame x.frame).length ≤ octets := Nat.le_of_not_lt hshort
    rw [List.take_of_length_le hall] at houtput
    exact .unflushed done x rest octets h hall houtput

/-- While frames wait, all that were answered were written whole. -/
theorem Told.writing_of_waiting {W : Write → Prop} (h : Told W line as)
    (hwaiting : line.waiting ≠ []) :
    ∃ done, as = done.map (·, .delivered) ∧ line.isBroken = false ∧
      line.output = encoded done := by
  cases h with
  | writing done works output => exact ⟨done, rfl, works, output⟩
  | cut done x rest octets part fell => exact absurd fell.waiting hwaiting
  | unflushed done x rest octets fell => exact absurd fell.waiting hwaiting

/-! ## What is noted by sends -/

/-- Frames were sent: the lines hold them that the notes name. -/
def Grown (c c' : Noted) : Prop :=
  ∃ ns, c'.notes = c.notes ++ ns ∧ (∀ id, ns.filterMap (Note.answer? id) = []) ∧
    Lines.Extends (fun id => ns.filterMap (Note.handed? id)) c.lines c'.lines

/-- A send is noted with what was open and what was answered. -/
theorem notes_send (c : Noted) (peer : Peer) (frame : Bytes) (origin : Origin) :
    (Carrier.send c peer frame origin).1.notes = c.notes ++
      [.sent peer { frame, origin } (c.lines.openId peer)
        (Carrier.send c peer frame origin).2] := rfl

/-- A frame that is sent is on the line that its note names. -/
theorem send_grown (c : Noted) (peer : Peer) (frame : Bytes) (origin : Origin) :
    Grown c (Carrier.send c peer frame origin).1 := by
  refine ⟨_, rfl, fun id => rfl, ?_⟩
  have hextends := Lines.send_extends c.lines peer frame origin
  have htaken : c.lines.taken peer { frame, origin } = fun id =>
      [Note.sent peer { frame, origin } (c.lines.openId peer)
        (Carrier.send c.lines peer frame origin).2].filterMap (Note.handed? id) := by
    funext id
    simp only [Lines.taken, List.filterMap_cons, List.filterMap_nil, Note.handed?]
    by_cases hid : c.lines.openId peer = some id
    · simp only [hid, if_true]
    · simp only [hid, if_false]
  rwa [htaken] at hextends

/-- What only sends frames lets the record grow. -/
theorem keptBySends_grown (peer : Peer) : KeptBySends peer Grown where
  refl c := ⟨[], by simp, fun _ => rfl, .refl c.lines⟩
  trans := by
    rintro c c' c'' ⟨ns, hns, hanswers, hlines⟩ ⟨ms, hms, hanswers', hlines'⟩
    refine ⟨ns ++ ms, by rw [hms, hns, List.append_assoc], fun id => ?_, ?_⟩
    · rw [List.filterMap_append, hanswers, hanswers', List.append_nil]
    · simp only [List.filterMap_append]
      exact hlines.trans hlines'
  send c frame handle := send_grown c peer frame (.queue handle)

/-- Frames that are sent give no receipts on lines. -/
theorem Grown.answers (h : Grown c c') (id : Nat) : c'.answers id = c.answers id := by
  obtain ⟨ns, hns, hanswers, -⟩ := h
  rw [Noted.answers, hns, List.filterMap_append, hanswers, List.append_nil]
  rfl

/-- A line that takes frames notes them. -/
theorem Grown.handed (h : Grown c c') (id : Nat) :
    ∃ xs, c'.handed id = c.handed id ++ xs ∧
      c'.lines.lines.get? id = (c.lines.lines.get? id).map (fun line => line.wait xs) ∧
      (xs ≠ [] → ∃ line, c.lines.lines.get? id = some line ∧ line.isBroken = false) := by
  obtain ⟨ns, hns, -, hlines⟩ := h
  refine ⟨ns.filterMap (Note.handed? id), ?_, hlines.get? id, hlines.live id⟩
  rw [Noted.handed, hns, List.filterMap_append]
  rfl

/-! ## The record fits the lines -/

/-- What is not touched still fits. -/
theorem Accounts.congr (h : Accounts W c id)
    (hget : c'.lines.lines.get? id = c.lines.lines.get? id) (hhanded : c'.handed id = c.handed id)
    (hanswers : c'.answers id = c.answers id) : Accounts W c' id := by
  rw [Accounts, hget, hhanded, hanswers]
  exact h

/-- A record that fits goes on to fit when frames are sent. -/
theorem Accounts.grown (h : Accounts W c id) (hc : Grown c c') : Accounts W c' id := by
  obtain ⟨xs, hhanded, hget, hlive⟩ := hc.handed id
  have hanswers := hc.answers id
  rw [Accounts] at h ⊢
  rw [hhanded, hget, hanswers]
  cases hline : c.lines.lines.get? id with
  | none =>
    -- nothing is put on a line that is not there
    have hnil : xs = [] := by
      by_cases hne : xs = []
      · exact hne
      · obtain ⟨line, hsome, -⟩ := hlive hne
        rw [hline] at hsome
        cases hsome
    simp only [hline] at h
    simpa only [Option.map_none, hnil, List.append_nil] using h
  -- what a line takes waits on it
  | some line =>
    simp only [hline] at h
    refine ⟨?_, h.told.wait fun hne => ?_⟩
    · rw [h.once, List.append_assoc]
      rfl
    · obtain ⟨line', hsome, hopen⟩ := hlive hne
      rwa [Option.some.inj (hline.symm.trans hsome)]

/-! ### Receipts that are given -/

/-- A receipt takes no frame. -/
theorem handed_note (c : Noted) (id i : Nat) (peer : Peer) (x : Waiting) (receipt : Receipt) :
    (Wired.note c id peer x receipt).handed i = c.handed i := by
  show (c.notes ++ [Note.answered id peer x receipt]).filterMap (Note.handed? i) = _
  simp [handed, Note.handed?]

/-- A receipt is one more answer of its line. -/
theorem answers_note (c : Noted) (id i : Nat) (peer : Peer) (x : Waiting) (receipt : Receipt) :
    (Wired.note c id peer x receipt).answers i =
      c.answers i ++ if id = i then [(x, receipt)] else [] := by
  show (c.notes ++ [Note.answered id peer x receipt]).filterMap (Note.answer? i) = _
  rw [List.filterMap_append, answers]
  split <;> rename_i hid <;> simp [Note.answer?, hid]

/-- Refusals take no frames. -/
theorem handed_refuse (c : Noted) (id i : Nat) (peer : Peer) (xs : List Waiting) :
    (xs.foldl (fun c x => Wired.note c id peer x .offline) c).handed i = c.handed i := by
  induction xs generalizing c with
  | nil => rfl
  | cons x xs ih => rw [List.foldl_cons, ih, handed_note]

/-- Refusals are answers of their line, in order. -/
theorem answers_refuse (c : Noted) (id i : Nat) (peer : Peer) (xs : List Waiting) :
    (xs.foldl (fun c x => Wired.note c id peer x .offline) c).answers i =
      c.answers i ++ if id = i then xs.map (·, .offline) else [] := by
  induction xs generalizing c with
  | nil => split <;> simp
  | cons x xs ih =>
    rw [List.foldl_cons, ih, answers_note, List.append_assoc]
    split <;> simp

/-- What comes of a receipt is that frames are sent. -/
theorem answer_grown (d : Queues Noted) (id : Nat) (peer : Peer) (x : Waiting)
    (receipt : Receipt) :
    Grown (Wired.note d.carrier id peer x receipt) (Wired.answer d id peer x receipt).carrier :=
  (keptBySends_grown peer).onReceipt
    { d with carrier := Wired.note d.carrier id peer x receipt } x.origin receipt

variable {d : Queues Noted} {rest : List Waiting}

section Views

variable (d : Queues Noted) (l : Lines) (i : Nat)

@[simp] theorem lines_note (c : Noted) (id : Nat) (peer : Peer) (x : Waiting)
    (receipt : Receipt) : (Wired.note c id peer x receipt).lines = c.lines := rfl

@[simp] theorem lines_setLines : (Wired.setLines d l).carrier.lines = l := rfl

@[simp] theorem handed_setLines :
    (Wired.setLines d l).carrier.handed i = d.carrier.handed i := rfl

@[simp] theorem answers_setLines :
    (Wired.setLines d l).carrier.answers i = d.carrier.answers i := rfl

@[simp] theorem handed_written (id : Nat) (line : Line) (rest : List Waiting) (octets : Bytes) :
    (Wired.written d id line rest octets).carrier.handed i = d.carrier.handed i := rfl

@[simp] theorem answers_written (id : Nat) (line : Line) (rest : List Waiting) (octets : Bytes) :
    (Wired.written d id line rest octets).carrier.answers i = d.carrier.answers i := rfl

@[simp] theorem get?_written (id : Nat) (line : Line) (rest : List Waiting) (octets : Bytes) :
    (Wired.written d id line rest octets).carrier.lines.lines.get? i =
      if i = id then some { line with waiting := rest, output := line.output ++ octets }
      else d.carrier.lines.lines.get? i :=
  Lines.get?_put d.carrier.lines id i _

end Views

/-- A frame that is taken off another line is no matter of this one. -/
theorem Accounts.written_of_ne {i : Nat} (h : Accounts W d.carrier i) (hi : i ≠ id)
    (octets : Bytes) (receipt : Receipt) :
    Accounts W (Wired.note (Wired.written d id line rest octets).carrier id line.peer x receipt)
      i := by
  refine h.congr ?_ ?_ ?_
  · rw [lines_note, get?_written, if_neg hi]
  · rw [handed_note, handed_written]
  · rw [answers_note, if_neg (Ne.symm hi), List.append_nil, answers_written]

/-- The writer of a line writes its first frame whole. -/
theorem Accounts.writeNext_whole {i : Nat} (h : Accounts W d.carrier i)
    (hget : d.carrier.lines.lines.get? id = some line) (hwaiting : line.waiting = x :: rest) :
    Accounts W (Wired.answer (Wired.written d id line rest (frame x.frame)) id line.peer x
      .delivered).carrier i := by
  refine Accounts.grown ?_ (answer_grown _ _ _ _ _)
  by_cases hi : i = id
  · subst hi
    simp only [Accounts, hget] at h
    -- a frame still waits, so nothing was refused so far
    obtain ⟨done, hdone, hopen, houtput⟩ := h.told.writing_of_waiting (by simp [hwaiting])
    rw [Accounts, lines_note, get?_written, if_pos rfl, handed_note, answers_note, if_pos rfl,
      handed_written, answers_written]
    refine ⟨?_, ?_⟩
    · -- the frame that was first is answered now
      rw [h.once, hwaiting, List.map_append, List.append_assoc]
      rfl
    · -- and it is on the stream as a whole
      have htold : Told (W i) { line with waiting := rest, output := line.output ++ frame x.frame }
          ((done ++ [x]).map (·, .delivered)) :=
        .writing _ hopen (by rw [encoded_append_singleton, ← houtput])
      rwa [List.map_append, ← hdone] at htold
  · -- the frame is of another line
    exact h.written_of_ne hi _ _

/-- The writer of a line fails on its first frame. What waits behind it is refused, and so is what
came to the line for the receipt of the frame. -/
theorem Accounts.writeNext_failed {i octets : Nat} {w : Write} {d' : Queues Noted}
    {xs : Nat → List Waiting} (h : Accounts W d.carrier i)
    (hget : d.carrier.lines.lines.get? id = some line) (hwaiting : line.waiting = x :: rest)
    (hmade : W id w) (hw : w.of x.frame = .failed octets)
    (hd' : d' = Wired.answer (Wired.written d id line rest ((frame x.frame).take octets)) id
      line.peer x .failed)
    (hxs : Lines.Extends xs
      (Wired.written d id line rest ((frame x.frame).take octets)).carrier.lines d'.carrier.lines)
    (hnext : Wired.writeNext d id w =
      (rest ++ xs id).foldl (fun d x => Wired.answer d id line.peer x .offline)
        (Wired.setLines d' (d'.carrier.lines.put id
          { line with
            waiting := []
            output := line.output ++ (frame x.frame).take octets
            isBroken := true }))) :
    Accounts W (Wired.writeNext d id w).carrier i := by
  have hgrown := hd' ▸ answer_grown (Wired.written d id line rest ((frame x.frame).take octets)) id
    line.peer x .failed
  have hlines (c : Noted) : ((rest ++ xs id).foldl
      (fun c x => Wired.note c id line.peer x .offline) c).lines = c.lines :=
    Wired.lines_refuse c id line.peer (rest ++ xs id)
  rw [hnext, Wired.refuse_carrier]
  by_cases hi : i = id
  · subst hi
    simp only [Accounts, hget] at h
    obtain ⟨done, hdone, hopen, houtput⟩ := h.told.writing_of_waiting (by simp [hwaiting])
    obtain ⟨ys, hhanded, hline, -⟩ := hgrown.handed i
    -- the notes and the lines agree on what came to the line for the receipt
    obtain rfl : xs i = ys := by
      have hsame := (hxs.get? i).symm.trans hline
      rw [lines_note, get?_written, if_pos rfl] at hsame
      exact List.append_cancel_left (congrArg Line.waiting (Option.some.inj hsame))
    have hanswers := hgrown.answers i
    rw [handed_note, handed_written] at hhanded
    rw [answers_note, if_pos rfl, answers_written] at hanswers
    rw [Accounts, hlines, lines_setLines, Lines.get?_put, if_pos rfl, handed_refuse,
      answers_refuse, if_pos rfl, handed_setLines, answers_setLines, hhanded, hanswers]
    refine ⟨?_, ?_⟩
    · -- the frame, what waited behind it and what came for its receipt are answered
      rw [h.once, hwaiting]
      simp [Function.comp_def]
    · -- and a part of the frame is on the stream, or all of it
      have htold : Told (W i)
          { line with
            waiting := []
            output := line.output ++ (frame x.frame).take octets
            isBroken := true }
          (done.map (·, .delivered) ++ (x, .failed) :: (rest ++ xs i).map (·, .offline)) :=
        .of_fell done _ ⟨⟨w, hmade, hw⟩, rfl, rfl⟩ (by rw [← houtput])
      rw [hdone]
      simpa using htold
  · -- another line may only have got what came of the receipt
    refine ((h.written_of_ne hi _ _).grown hgrown).congr ?_ ?_ ?_
    · rw [hlines, lines_setLines, Lines.get?_put, if_neg hi]
    · rw [handed_refuse, handed_setLines]
    · rw [answers_refuse, if_neg (Ne.symm hi), List.append_nil, answers_setLines]

/-- A line that opens takes no frames yet. -/
theorem Accounts.connect {i : Nat} (h : Accounts W d.carrier i)
    (hn : d.carrier.lines.Numbered) (peer : Peer) :
    Accounts W (Wired.setLines d (d.carrier.lines.connect peer).2).carrier i := by
  by_cases hi : i = d.carrier.lines.nextLine
  · -- a new line has nothing behind it
    subst hi
    rw [Accounts, hn.absent] at h
    rw [Accounts, lines_setLines, Lines.connect, Dict.get?_insert, if_pos rfl, handed_setLines,
      answers_setLines, h.1, h.2]
    exact ⟨rfl, .writing [] rfl rfl⟩
  · -- all other lines are as they were
    refine h.congr ?_ rfl rfl
    rw [lines_setLines, Lines.connect, Dict.get?_insert, if_neg hi]

/-- The record goes on to fit the lines, whatever happens. -/
theorem Accounts.step {i : Nat} (h : Accounts W d.carrier i) (hn : d.carrier.lines.Numbered)
    (e : Traffic) (hmade : ∀ id w, e = .write id w → W id w) :
    Accounts W (Wired.step d e).carrier i := by
  cases e with
  | connect peer => exact h.connect hn peer
  | disconnect peer => exact h.congr rfl rfl rfl
  | enqueue peer frame => exact h.grown ((keptBySends_grown peer).enqueue d frame)
  | peerOffline peer => exact h
  | reply peer frame =>
    exact h.grown ((keptBySends_grown peer).sendDirect d frame .handler (send_grown _ _ _ _))
  | send peer frame =>
    exact h.grown ((keptBySends_grown peer).sendDirect d frame .program (send_grown _ _ _ _))
  | write id w =>
    obtain ⟨hsame, -⟩ | ⟨line, x, rest, hget, hwaiting, ⟨-, hnext⟩ |
      ⟨octets, xs, d', hw, hd', hxs, -, hnext⟩⟩ := Wired.writeNext_cases d id w
    · -- nothing was there to write
      rw [Wired.step, hsame]
      exact h
    · -- a frame was written whole
      rw [Wired.step, hnext]
      exact h.writeNext_whole hget hwaiting
    · -- a write failed
      exact h.writeNext_failed hget hwaiting (hmade id w rfl) hw hd' hxs hnext

/-- The record fits the lines after a run. -/
theorem Accounts.after {i : Nat} (h : Accounts W d.carrier i) (hn : d.carrier.lines.Numbered)
    (es : List Traffic) (hmade : ∀ id w, .write id w ∈ es → W id w) :
    Accounts W (Wired.after d es).carrier i := by
  induction es generalizing d with
  | nil => exact h
  | cons e es ih =>
    have hstep := h.step hn e fun id w he => hmade id w (he ▸ List.mem_cons_self)
    exact ih hstep (Wired.step_numbered (d := d) hn e) fun id w hmem =>
      hmade id w (List.mem_cons_of_mem _ hmem)

/-! ## Receipts at once -/

/-- Every note is honest. -/
def AllHonest (c : Noted) : Prop :=
  ∀ n ∈ c.notes, n.Honest

/-- A frame is refused at once if and only if no line is open for its peer. -/
theorem send_answer (c : Lines) (peer : Peer) (frame : Bytes) (origin : Origin) :
    (Carrier.send c peer frame origin).2 =
      if c.openId peer = none then some .offline else none := by
  cases hopen : c.open? peer with
  | none => rw [Lines.send_of_closed hopen, Lines.openId, hopen, Option.map_none, if_pos rfl]
  | some found =>
    rw [Lines.send_of_open hopen, Lines.openId, hopen, Option.map_some, if_neg (by simp)]

/-- A send is noted honestly. -/
theorem AllHonest.send (h : AllHonest c) (peer : Peer) (frame : Bytes) (origin : Origin) :
    AllHonest (Carrier.send c peer frame origin).1 := by
  intro n hn
  rcases List.mem_append.1 hn with hold | hnew
  · exact h n hold
  · rw [List.mem_singleton.1 hnew]
    exact send_answer c.lines peer frame origin

/-- What only sends frames keeps the record honest. -/
theorem keptBySends_allHonest (peer : Peer) :
    KeptBySends peer fun c c' => AllHonest c → AllHonest c' where
  refl _ h := h
  trans h h' := h' ∘ h
  send _ frame handle h := h.send peer frame (.queue handle)

/-- A receipt that came later is noted as it is. -/
theorem AllHonest.note (h : AllHonest c) (id : Nat) (peer : Peer) (x : Waiting)
    (receipt : Receipt) : AllHonest (Wired.note c id peer x receipt) := by
  intro n hn
  rcases List.mem_append.1 hn with hold | hnew
  · exact h n hold
  · rw [List.mem_singleton.1 hnew]
    trivial

/-- Every note is honest, whatever happens to queues and lines. -/
theorem kept_allHonest : Wired.Kept fun d : Queues Noted => AllHonest d.carrier where
  setLines _ h := h
  answer id peer x receipt h :=
    (keptBySends_allHonest peer).onReceipt _ x.origin receipt (h.note id peer x receipt)
  enqueue {d} peer frame h := (keptBySends_allHonest peer).enqueue d frame h
  peerOffline _ h := h

/-! ## Receipts of the embedding program -/

/-- The receipts that the embedding program waits for. -/
def programReceipts (c : Noted) : List (Peer × Receipt) :=
  c.notes.filterMap Note.programReceipt?

/-- The embedding program has got the receipts that it waits for. -/
def ProgramTold (d : Queues Noted) : Prop :=
  d.receipts = d.carrier.programReceipts

/-- What queues send gives the program no receipts. -/
theorem keptBySends_programReceipts (peer : Peer) :
    KeptBySends peer fun c c' : Noted => c'.programReceipts = c.programReceipts where
  refl _ := rfl
  trans h h' := h'.trans h
  send c frame handle := by
    show (c.notes ++ [_]).filterMap Note.programReceipt? = _
    simp [programReceipts, Note.programReceipt?]

/-- A queue that goes on gives the program no receipts. -/
theorem run_receipts (d : Queues Noted) (peer : Peer) (handle : Nat) (frames : List Bytes) :
    (d.run peer handle frames).receipts = d.receipts := by
  rw [Queues.run]
  generalize Queues.pump peer handle d.carrier frames = pumped
  obtain ⟨c, left⟩ := pumped
  cases left <;> rfl

/-- The program hears nothing of a frame that is enqueued. -/
theorem ProgramTold.enqueue (h : ProgramTold d) (peer : Peer) (frame : Bytes) :
    ProgramTold (d.enqueue peer frame) := by
  have hsame := (keptBySends_programReceipts peer).enqueue d frame
  rw [ProgramTold, hsame, ← h, Queues.enqueue]
  split
  · rfl
  · exact run_receipts { d with nextHandle := d.nextHandle + 1 } _ _ _

/-- A receipt is passed on to the program if it waits for it. -/
theorem programTold_onReceipt (origin : Origin) (receipt : Receipt) (peer : Peer)
    (h : d.carrier.programReceipts =
      d.receipts ++ if origin = .program then [(peer, receipt)] else []) :
    ProgramTold (d.onReceipt peer origin receipt) := by
  have hsame := (keptBySends_programReceipts peer).onReceipt d origin receipt
  rw [ProgramTold, hsame, h]
  cases origin with
  | handler => simp [Queues.onReceipt]
  | program => simp [Queues.onReceipt]
  | queue handle =>
    -- the queue ends or hands over its next frame, and the program hears of neither
    rw [Queues.onReceipt]
    split
    · simp
    · split
      · split
        · simp [Queues.peerOffline]
        · simp [run_receipts]
        · simp [run_receipts]
      · simp

/-- The program hears of a receipt that it waits for. -/
theorem ProgramTold.answer (h : ProgramTold d) (id : Nat) (peer : Peer) (x : Waiting)
    (receipt : Receipt) : ProgramTold (Wired.answer d id peer x receipt) := by
  refine programTold_onReceipt x.origin receipt peer ?_
  show (d.carrier.notes ++ [Note.answered id peer x receipt]).filterMap Note.programReceipt? = _
  rw [List.filterMap_append, show d.receipts = d.carrier.programReceipts from h]
  split <;> rename_i horigin <;> simp [programReceipts, Note.programReceipt?, horigin]

/-- The program hears of a frame that is refused at once. -/
theorem ProgramTold.sendDirect (h : ProgramTold d) (peer : Peer) (frame : Bytes)
    (origin : Origin) : ProgramTold (d.sendDirect peer frame origin) := by
  have hsend : (Carrier.send d.carrier peer frame origin).1.programReceipts = d.receipts ++
      if origin = .program then
        (Carrier.send d.carrier peer frame origin).2.toList.map (Prod.mk peer)
      else [] := by
    rw [programReceipts, notes_send, List.filterMap_append,
      show d.receipts = d.carrier.programReceipts from h]
    generalize (Carrier.send d.carrier peer frame origin).2 = answer
    by_cases horigin : origin = .program
    · cases answer <;> simp [programReceipts, Note.programReceipt?, horigin]
    · simp [programReceipts, Note.programReceipt?, horigin]
  rw [Queues.sendDirect]
  generalize Carrier.send d.carrier peer frame origin = sent at hsend
  obtain ⟨c, answer⟩ := sent
  -- without an answer the frame waits, and its receipt is noted when it comes
  cases answer with
  | none =>
    show d.receipts = c.programReceipts
    simpa using hsend.symm
  | some receipt => exact programTold_onReceipt origin receipt peer (by simpa using hsend)

/-- The program is told whatever happens to queues and lines. -/
theorem kept_programTold : Wired.Kept ProgramTold where
  setLines _ h := h
  answer id peer x receipt h := h.answer id peer x receipt
  enqueue peer frame h := h.enqueue peer frame
  peerOffline _ h := h

/-! ## Frames that went past the queues -/

/-- The frames that were sent past the queues, in order. -/
def directSends (c : Noted) : List (Peer × Waiting) :=
  c.notes.filterMap Note.direct?

/-- What queues send does not go past them. -/
theorem keptBySends_directSends (peer : Peer) :
    KeptBySends peer fun c c' : Noted => c'.directSends = c.directSends where
  refl _ := rfl
  trans h h' := h'.trans h
  send c frame handle := by
    rw [directSends, notes_send, List.filterMap_append]
    simp [directSends, Note.direct?]

/-- Receipts, queues and writers send nothing past the queues. -/
theorem kept_directSends (sends : List (Peer × Waiting)) :
    Wired.Kept fun d : Queues Noted => d.carrier.directSends = sends where
  setLines _ h := h
  answer {d} id peer x receipt h := by
    refine ((keptBySends_directSends peer).onReceipt
      { d with carrier := Wired.note d.carrier id peer x receipt } x.origin receipt).trans ?_
    show (d.carrier.notes ++ [Note.answered id peer x receipt]).filterMap Note.direct? = sends
    simpa [directSends, Note.direct?, List.filterMap_cons] using h
  enqueue {d} peer frame h := ((keptBySends_directSends peer).enqueue d frame).trans h
  peerOffline _ h := h

/-- No queue waits for the receipt of a frame that went past it. -/
theorem carrier_step_of_direct {e : Traffic} {peer : Peer} {x : Waiting}
    (h : e.direct? = some (peer, x)) (d : Queues Noted) :
    (Wired.step d e).carrier = (Carrier.send d.carrier peer x.frame x.origin).1 := by
  rw [Wired.step_of_direct h, Queues.sendDirect]
  generalize Carrier.send d.carrier peer x.frame x.origin = sent
  obtain ⟨c, answer⟩ := sent
  cases answer with
  | none => rfl
  | some receipt => cases e <;> cases h <;> rfl

/-- Every frame that is sent past the queues is noted. -/
theorem directSends_step (d : Queues Noted) (e : Traffic) :
    (Wired.step d e).carrier.directSends = d.carrier.directSends ++ e.direct?.toList := by
  cases he : e.direct? with
  -- nothing is sent past the queues
  | none =>
    rw [Option.toList_none, List.append_nil]
    exact (kept_directSends d.carrier.directSends).step rfl e he
  -- one frame is, and it is noted
  | some sent =>
    obtain ⟨peer, x⟩ := sent
    have hnote : Note.direct? (.sent peer x (d.carrier.lines.openId peer)
        (Carrier.send d.carrier peer x.frame x.origin).2) = some (peer, x) := by
      cases e <;> cases he <;> rfl
    rw [carrier_step_of_direct he, directSends, notes_send, List.filterMap_append]
    simp [directSends, hnote]

/-- All that is sent past the queues is on record after a run. -/
theorem directSends_after (d : Queues Noted) (es : List Traffic) :
    (Wired.after d es).carrier.directSends =
      d.carrier.directSends ++ es.filterMap Traffic.direct? := by
  induction es generalizing d with
  | nil => simp [Wired.after]
  | cons e es ih =>
    refine (ih (Wired.step d e)).trans ?_
    rw [directSends_step, List.append_assoc]
    cases he : e.direct? <;> simp [he]

end Noted

/-! ## Every send -/

/-- A line is open for a peer if it is the one that the peer connected last and it is not broken. -/
theorem openId_iff_registration (es : List Traffic) (peer : Peer) (id : Nat) :
    (Wired.after (.new Noted.empty) es).carrier.lines.openId peer = some id ↔
      registration peer es = some id ∧
        ∃ line, (Wired.after (.new Noted.empty) es).carrier.lines.lines.get? id = some line ∧
          line.isBroken = false := by
  rw [← Wired.registered_after (c := Noted.empty) rfl peer es]
  exact Lines.openId_eq_some_iff

/-- Frames are sent to peers that connect and disconnect, and writers write them or fail, one thing
after the other. Then every frame gets one receipt, and the receipts are true. -/
theorem sends_answered_once (es : List Traffic) :
    let d := Wired.after (.new Noted.empty) es
    let c := d.carrier
    -- the record is beside the lines and changes nothing
    d.view Noted.lines = Wired.after (.new .empty) es ∧
    -- every frame that is sent past the queues is on record
    c.directSends = es.filterMap Traffic.direct? ∧
    -- a frame is refused at once, unless its peer is registered with a line that is not broken
    (∀ n ∈ c.notes, n.Honest) ∧
    (∀ peer id, c.lines.openId peer = some id ↔ registration peer es = some id ∧
      ∃ line, c.lines.lines.get? id = some line ∧ line.isBroken = false) ∧
    -- the program has got the receipts that it waits for, and only these
    d.receipts = c.programReceipts ∧
    -- a line answers its frames in order, and truly
    (∀ id line, c.lines.lines.get? id = some line →
      Noted.Answers (fun w => .write id w ∈ es) line (c.handed id) (c.answers id)) ∧
    -- a line whose writer goes on leaves no frame without an answer
    (∀ id line, c.lines.lines.get? id = some line →
      ∀ ws : List Write, outstanding (d.view Noted.lines) id ≤ ws.length →
        ∃ line', (Wired.after d (ws.map (.write id))).carrier.lines.lines.get? id = some line' ∧
          line'.waiting = []) ∧
    -- when the line of a peer fails, its queue ends with all that it held
    ∀ id line x rest w octets, c.lines.lines.get? id = some line → line.waiting = x :: rest →
      w.of x.frame = .failed octets →
      (∀ i, c.lines.openId line.peer = some i → i = id) →
      (∀ i l, c.lines.lines.get? i = some l → l.peer = line.peer → i ≠ id → l.waiting = []) →
      (Wired.step d (.write id w)).isIdle line.peer = true ∧
        (Wired.step d (.write id w)).pending line.peer = 0 := by
  intro d c
  have hnew : Wired.lines (Queues.new Noted.empty).carrier = .empty := rfl
  have hnumbered : (Wired.lines (Queues.new Noted.empty).carrier).Numbered :=
    hnew ▸ Lines.numbered_empty
  obtain ⟨hn, hcovered⟩ := Wired.numbered_covered_after hnumbered
    (Wired.covered_new Noted.empty []) es
  refine ⟨Wired.after_view _ es, ?_, ?_, openId_iff_registration es, ?_, fun id line hget => ?_,
    fun id line hget ws hws => Wired.waiting_after_writes hget hws,
    fun id line x rest w octets hget hwaiting hw hopen honly => ?_⟩
  · -- the record of what went past the queues
    exact (Noted.directSends_after (.new Noted.empty) es).trans (List.nil_append _)
  · -- honest notes
    exact Noted.kept_allHonest.after (d := .new Noted.empty)
      (fun peer frame origin h => (Noted.keptBySends_allHonest peer).sendDirect _ frame origin
        (fun h => h.send peer frame origin) h) (fun n hn => nomatch hn) es
  · -- the receipts of the program
    exact Noted.kept_programTold.after (d := .new Noted.empty)
      (fun peer frame origin h => h.sendDirect peer frame origin) rfl es
  · -- the receipts of a line
    have hfits : Noted.Accounts (fun id w => .write id w ∈ es) c id :=
      Noted.Accounts.after (d := .new Noted.empty) ⟨rfl, rfl⟩ hnumbered es fun _ _ h => h
    rw [Noted.Accounts, hget] at hfits
    exact hfits
  · -- the queue of a line that fails
    have hidle := Wired.isIdle_of_failed hn hcovered hget hwaiting hw hopen honly
    exact ⟨Wired.isIdle_of_none hidle, Wired.pending_of_none hidle⟩

/-- A frame that is sent too early is refused, and one that waits when the line fails is dropped
with its queue. -/
theorem sends_answered_once_failing :
    let es : List Traffic := [.send "p" [1], .connect "p", .enqueue "p" [2], .enqueue "p" [3],
      .write 0 .whole]
    let d := Wired.after (.new Noted.empty) es
    d.receipts = [("p", .offline)] ∧
    d.carrier.answers 0 = [({ frame := [2], origin := .queue 0 }, .delivered)] ∧
    (Wired.step d (.write 0 (.failed 2))).isIdle "p" = true := by
  intro es d
  let line : Line :=
    { peer := "p"
      waiting := [{ frame := [3], origin := .queue 0 }]
      output := frame [2]
      isBroken := false }
  have hline : d.carrier.lines.lines = ⟨[(0, line)]⟩ := by rfl
  have hget : d.carrier.lines.lines.get? 0 = some line := by rw [hline]; rfl
  obtain ⟨-, -, -, -, hprogram, -, -, hidle⟩ := sends_answered_once es
  refine ⟨hprogram.trans rfl, rfl, (hidle 0 line _ _ (.failed 2) 2 hget rfl rfl ?_ ?_).1⟩
  · -- the line is the only one that is open
    intro i hi
    have hopen : d.carrier.lines.openId "p" = some 0 := rfl
    exact Option.some.inj (hi.symm.trans hopen)
  · -- and the only one that there is
    intro i l hl _ hi
    exact absurd ((Wired.numbered_covered_after Lines.numbered_empty
      (Wired.covered_new Noted.empty []) es).1.lt hl) (by
        show ¬ i < 1
        omega)

/-- A frame whose receipt is `failed` can be on the stream as a whole: not every run leaves less of
it than that. -/
theorem failed_frame_written_whole :
    ¬ ∀ (es : List Traffic) (id : Nat) (line : Line) (done : List Waiting) (x : Waiting)
      (rest : List Waiting),
      let c := (Wired.after (.new Noted.empty) es).carrier
      c.lines.lines.get? id = some line →
      c.answers id = done.map (·, .delivered) ++ (x, .failed) :: rest.map (·, .offline) →
      ∃ part, line.output = Noted.encoded done ++ part ∧ part <+: frame x.frame ∧
        part ≠ frame x.frame := by
  intro hstrict
  -- four octets of length and one of the message, and then the write fails
  let line : Line := { peer := "p", waiting := [], output := [0, 0, 0, 1, 7], isBroken := true }
  obtain ⟨part, houtput, -, hne⟩ := hstrict [.connect "p", .send "p" [7], .write 0 (.failed 5)] 0
    line [] { frame := [7], origin := .program } [] rfl rfl
  exact hne (houtput.symm.trans rfl)

end FeedNode.Stream
