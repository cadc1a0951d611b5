import FeedNode.Node.Server
import FeedNode.Proofs.Node.FanOut
import FeedNode.Proofs.Stream.Traffic

/-!
# Connections of one peer

A peer may connect again before an earlier connection of it came to its end. The frames for the peer
then go to the line that connected last. But a connection ends under the name of its peer: the end
of an earlier one takes the peer off the register, drops the queue and the binding of it, and leaves
the later connection open and without frames.

A run takes a node through the turns of its connections, one after the other (`Turn`). The end of a
connection is two turns, so that others may come between them. Whatever a server does is such a run
(`Server.turns_of_run`).

Main statement: `last_connection_reached`.
-/

namespace FeedNode.Node

open Delivery (Binding Carrier Origin Peer Queues)
open FeedNode.Stream (Line Lines Traffic Wired Write)

/-! ## Turns -/

/-- What a connection, a writer or the embedding program does at once. -/
inductive Turn where
  | connect (peer : Peer)
  /-- A frame of the connection is handled. -/
  | frame (id : Nat) (octets : Bytes)
  /-- The connection ended: its peer is taken off the register. -/
  | unregister (id : Nat)
  /-- The connection ended: the node is told that its peer is offline. -/
  | depart (id : Nat)
  | write (id : Nat) (w : Write)
  | send (peer : Peer) (frame : Bytes)
deriving DecidableEq

/-- The peer that connects. -/
def Turn.caller? : Turn → Option Peer
  | .connect peer => some peer
  | _ => none

/-- The peers of the connections, each at the number of its connection. -/
def callers (ts : List Turn) : List Peer :=
  ts.filterMap Turn.caller?

/-- The lines that a node sends over. -/
def lines (n : Node Lines) : Lines :=
  n.delivery.carrier

/-- Something happens to the queues and the lines of a node. -/
def carry (n : Node Lines) (e : Traffic) : Node Lines :=
  { n with delivery := Wired.step n.delivery e }

/-- Something is done for the peer of a connection. -/
def forOwner (n : Node Lines) (id : Nat) (f : Peer → Node Lines) : Node Lines :=
  match n.lines.owner? id with
  | none => n
  | some peer => f peer

/-- The node after a turn. -/
def turn (n : Node Lines) : Turn → Node Lines
  | .connect peer => n.carry (.connect peer)
  | .frame id octets => n.forOwner id fun peer => n.receive peer octets
  | .unregister id => n.forOwner id fun peer => n.carry (.disconnect peer)
  | .depart id => n.forOwner id fun peer => n.peerOffline peer
  | .write id w => n.carry (.write id w)
  | .send peer frame => n.carry (.send peer frame)

/-- The node after some turns. -/
def turns (n : Node Lines) (ts : List Turn) : Node Lines :=
  ts.foldl turn n

/-- Turns go on where others ended. -/
theorem turns_append (n : Node Lines) (ts us : List Turn) :
    n.turns (ts ++ us) = (n.turns ts).turns us :=
  List.foldl_append

variable {n : Node Lines} {peer : Peer} {peers : List Peer} {id : Nat}

/-- What is done for the peer of a connection is done for the one that it belongs to. -/
theorem forOwner_of_owner (h : n.lines.owner? id = some peer) (f : Peer → Node Lines) :
    n.forOwner id f = f peer := by
  rw [forOwner, h]

/-- A turn of a connection that there is not does nothing. -/
theorem forOwner_cases (P : Node Lines → Prop) {f : Peer → Node Lines} (hnone : P n)
    (hsome : ∀ peer, n.lines.owner? id = some peer → P (f peer)) : P (n.forOwner id f) := by
  rw [forOwner]
  cases howner : n.lines.owner? id with
  | none => exact hnone
  | some peer => exact hsome peer howner

/-! ## Seats -/

/-- A message gives and takes no seats. -/
theorem receive_sameSeats (n : Node Lines) (peer : Peer) (octets : Bytes) :
    Lines.SameSeats n.lines (n.receive peer octets).lines := by
  show Lines.SameSeats n.delivery.carrier
    ((respond n.services peer octets).2.foldl (send peer) n.delivery).carrier
  generalize n.delivery = d
  -- the carrier of the queues is looked at after each output
  induction (respond n.services peer octets).2 generalizing d with
  | nil => exact .refl _
  | cons o out ih =>
    refine Lines.SameSeats.trans ?_ (ih (send peer d o))
    cases o with
    | reply r => exact Wired.step_sameSeats d (e := .reply peer r.encode) not_false
    | enqueue r => exact Wired.step_sameSeats d (e := .enqueue peer r.encode) not_false
    | notify p news => exact Wired.step_sameSeats d (e := .enqueue p news.encode) not_false

/-- The lines are those of the connections, under the same numbers. -/
structure Callers (c : Lines) (peers : List Peer) : Prop where
  nextLine : c.nextLine = peers.length
  owner? : ∀ id, c.owner? id = peers[id]?

/-- A new server has no connections. -/
theorem callers_new (services : Services) (limit : Nat) :
    Callers (Server.new services limit).node.lines [] :=
  ⟨rfl, fun _ => rfl⟩

/-- What gives and takes no seats leaves the lines to their peers. -/
theorem Callers.sameSeats {c c' : Lines} (h : Callers c peers) (hsame : Lines.SameSeats c c') :
    Callers c' peers :=
  ⟨hsame.nextLine.trans h.nextLine, fun id => (hsame.owner? id).trans (h.owner? id)⟩

/-- A peer that connects gets the next number. -/
theorem Callers.connect {c : Lines} (h : Callers c peers) (peer : Peer) :
    Callers (c.connect peer).2 (peers ++ [peer]) := by
  refine ⟨by rw [List.length_append, ← h.nextLine]; rfl, fun id => ?_⟩
  have howner := h.owner? id
  rw [Lines.owner?] at howner
  rw [Lines.owner?, Lines.connect, Dict.get?_insert, h.nextLine]
  -- an earlier number, the new one, or one that is still free
  rcases Nat.lt_trichotomy id peers.length with hlt | heq | hgt
  · -- an earlier one
    rw [if_neg (Nat.ne_of_lt hlt), howner, List.getElem?_append_left hlt]
  · -- the new one
    rw [if_pos heq, heq, List.getElem?_concat_length]
    rfl
  · -- one that is still free
    rw [if_neg (Nat.ne_of_gt hgt), howner, List.getElem?_eq_none (Nat.le_of_lt hgt),
      List.getElem?_eq_none (by rw [List.length_append]; exact hgt)]

/-- Only a peer that connects changes whose lines there are. -/
theorem Callers.turn (h : Callers n.lines peers) (t : Turn) :
    Callers (n.turn t).lines (peers ++ t.caller?.toList) := by
  have hsame {n' : Node Lines} (hn' : Callers n'.lines peers) : Callers n'.lines (peers ++ []) := by
    rwa [List.append_nil]
  cases t with
  -- a new connection has the next number
  | connect peer => exact h.connect peer
  | frame id octets =>
    exact hsame (forOwner_cases (fun n => Callers n.lines peers) h
      fun p _ => h.sameSeats (receive_sameSeats n p octets))
  | unregister id =>
    exact hsame (forOwner_cases (fun n => Callers n.lines peers) h
      fun p _ => ⟨h.nextLine, h.owner?⟩)
  | depart id => exact hsame (forOwner_cases (fun n => Callers n.lines peers) h fun p _ => h)
  | write id w => exact hsame (h.sameSeats (Wired.writeNext_sameSeats n.delivery id w))
  | send p frame =>
    exact hsame (h.sameSeats (Wired.step_sameSeats n.delivery (e := .send p frame) not_false))

/-- The peers of the connections are those that connected, in their order. -/
theorem Callers.turns (h : Callers n.lines peers) (ts : List Turn) :
    Callers (n.turns ts).lines (peers ++ callers ts) := by
  induction ts generalizing n peers with
  | nil =>
    rw [callers, List.filterMap_nil, List.append_nil]
    exact h
  | cons t ts ih =>
    -- what connects first stands first
    have hcallers : peers ++ callers (t :: ts) = (peers ++ t.caller?.toList) ++ callers ts := by
      rw [List.append_assoc, callers, List.filterMap_cons]
      cases t.caller? <;> rfl
    rw [hcallers]
    exact ih (h.turn t)

/-- Who has a connection is who connected. -/
theorem mem_callers {ts : List Turn} : peer ∈ callers ts ↔ .connect peer ∈ ts := by
  rw [callers, List.mem_filterMap]
  constructor
  · rintro ⟨t, ht, hcaller⟩
    cases t <;> cases hcaller
    exact ht
  · exact fun h => ⟨_, h, rfl⟩

/-- A connection has the number of connections before it. -/
theorem callers_connect (before since : List Turn) (peer : Peer) :
    callers (before ++ .connect peer :: since) = (callers before ++ [peer]) ++ callers since := by
  simp [callers, Turn.caller?]

/-! ## The register -/

/-- A peer stays where it is registered until it connects again or a connection of it is taken off
the register. -/
theorem registered_turn {t : Turn} (hconnect : t ≠ .connect peer)
    (hleft : ∀ id, t = .unregister id → n.lines.owner? id ≠ some peer) :
    (n.turn t).lines.registered.get? peer = n.lines.registered.get? peer := by
  let Same (n' : Node Lines) : Prop :=
    n'.lines.registered.get? peer = n.lines.registered.get? peer
  have hsame {n' : Node Lines} (h : n'.lines.registered = n.lines.registered) : Same n' :=
    congrArg (fun r => r.get? peer) h
  -- what is done for another peer is done under its own name
  cases t with
  -- a connection of another peer
  | connect p =>
    have hne : peer ≠ p := fun heq => hconnect (heq ▸ rfl)
    show (n.lines.registered.insert p _).get? peer = _
    rw [Dict.get?_insert, if_neg hne]
  | frame id octets =>
    exact forOwner_cases Same rfl fun p _ => hsame (receive_sameSeats n p octets).registered
  -- another peer is taken off
  | unregister id =>
    refine forOwner_cases Same rfl fun p howner => ?_
    have hne : peer ≠ p := fun heq => hleft id rfl (heq ▸ howner)
    show (n.lines.registered.erase p).get? peer = _
    rw [Dict.get?_erase, if_neg hne]
  | depart id => exact forOwner_cases Same rfl fun p _ => rfl
  | write id w => exact hsame (Wired.writeNext_sameSeats n.delivery id w).registered
  | send p frame =>
    exact hsame (Wired.step_sameSeats n.delivery (e := .send p frame) not_false).registered

/-- A peer that is taken off the register is not on it. -/
theorem registered_unregister (h : n.lines.owner? id = some peer) :
    (n.turn (.unregister id)).lines.registered.get? peer = none := by
  rw [turn, forOwner_of_owner h]
  show (n.lines.registered.erase peer).get? peer = none
  rw [Dict.get?_erase, if_pos rfl]

/-- A peer that is not registered has to connect again. -/
theorem registered_turn_none {t : Turn} (h : n.lines.registered.get? peer = none)
    (hconnect : t ≠ .connect peer) : (n.turn t).lines.registered.get? peer = none := by
  -- it can only be taken off again
  by_cases hleft : ∃ id, t = .unregister id ∧ n.lines.owner? id = some peer
  · obtain ⟨id, rfl, howner⟩ := hleft
    exact registered_unregister howner
  · rw [registered_turn hconnect fun id ht howner => hleft ⟨id, ht, howner⟩, h]

/-- A peer that is not registered stays so until it connects. -/
theorem registered_turns_none {ts : List Turn} (h : n.lines.registered.get? peer = none)
    (hconnect : .connect peer ∉ ts) : (n.turns ts).lines.registered.get? peer = none := by
  induction ts generalizing n with
  | nil => exact h
  | cons t ts ih =>
    rw [List.mem_cons, not_or] at hconnect
    exact ih (registered_turn_none h (Ne.symm hconnect.1)) hconnect.2

/-- While a peer does not connect, its connections are those that it has. -/
theorem getElem?_append_iff {later : List Peer} (h : peer ∉ later) (id : Nat) :
    (peers ++ later)[id]? = some peer ↔ peers[id]? = some peer := by
  rcases Nat.lt_or_ge id peers.length with hlt | hge
  · -- a connection that there was
    rw [List.getElem?_append_left hlt]
  · -- a later one, which is another peer's
    rw [List.getElem?_append_right hge, List.getElem?_eq_none hge]
    exact ⟨fun hlater => absurd (List.mem_of_getElem? hlater) h, nofun⟩

/-- A turn that is no connection of a peer gives it no number. -/
theorem not_mem_caller? {t : Turn} (h : t ≠ .connect peer) : peer ∉ t.caller?.toList := by
  cases t with
  | connect p => simpa [Turn.caller?, eq_comm] using h
  | _ => exact List.not_mem_nil

/-- What a peer keeps in all turns but those that end its connections, it keeps while none ends. -/
theorem turns_keep {P : Node Lines → Prop} {ends : Nat → Turn}
    (hturn : ∀ {n t}, P n → t ≠ .connect peer →
      (∀ id, t = ends id → n.lines.owner? id ≠ some peer) → P (n.turn t))
    {ts : List Turn} (h : P n) (hcallers : Callers n.lines peers) (hconnect : .connect peer ∉ ts)
    (hleft : ∀ id, ends id ∈ ts → peers[id]? ≠ some peer) : P (n.turns ts) := by
  induction ts generalizing n peers with
  | nil => exact h
  | cons t ts ih =>
    rw [List.mem_cons, not_or] at hconnect
    have hne := Ne.symm hconnect.1
    -- what the turn ends belongs to somebody else
    have hnext : P (n.turn t) := hturn h hne fun id ht => by
      rw [hcallers.owner?]
      exact hleft id (ht ▸ List.mem_cons_self)
    -- the turn gave the peer no connection
    refine ih hnext (hcallers.turn t) hconnect.2 fun id hid => ?_
    rw [ne_eq, getElem?_append_iff (not_mem_caller? hne)]
    exact hleft id (List.mem_cons_of_mem _ hid)

/-- A peer stays where it is registered as long as no connection of it ends. -/
theorem registered_turns {ts : List Turn} (hcallers : Callers n.lines peers)
    (hconnect : .connect peer ∉ ts) (hleft : ∀ id, .unregister id ∈ ts → peers[id]? ≠ some peer) :
    (n.turns ts).lines.registered.get? peer = n.lines.registered.get? peer :=
  turns_keep (P := fun n' => n'.lines.registered.get? peer = n.lines.registered.get? peer)
    (fun h hne hends => (registered_turn hne hends).trans h) rfl hcallers hconnect hleft

/-- The end of any connection of a peer takes it off the register until it connects again. -/
theorem registered_turns_left {ts : List Turn} (hcallers : Callers n.lines peers)
    (hconnect : .connect peer ∉ ts) {id : Nat} (hid : .unregister id ∈ ts)
    (hpeer : peers[id]? = some peer) : (n.turns ts).lines.registered.get? peer = none := by
  -- the turn that took the peer off the register parts the run
  obtain ⟨early, late, rfl⟩ := List.append_of_mem hid
  rw [List.mem_append, List.mem_cons, not_or, not_or] at hconnect
  have howner : (n.turns early).lines.owner? id = some peer := by
    rw [(hcallers.turns early).owner?, getElem?_append_iff (fun h => hconnect.1 (mem_callers.1 h))]
    exact hpeer
  rw [turns_append]
  show (((n.turns early).turn (.unregister id)).turns late).lines.registered.get? peer = none
  exact registered_turns_none (registered_unregister howner) hconnect.2.2

/-! ## Bindings -/

/-- The binding of a peer in the audience of a node. -/
def binding? (n : Node Lines) (peer : Peer) : Option Binding :=
  n.services.audience.binding? peer

/-- A peer stays bound until a connection of it tells that it departs. -/
theorem binding?_turn {b : Binding} (h : n.binding? peer = some b) {t : Turn}
    (hleft : ∀ id, t = .depart id → n.lines.owner? id ≠ some peer) :
    (n.turn t).binding? peer = some b := by
  cases t with
  | frame id octets =>
    -- a message binds its peer or leaves all bindings as they are
    refine forOwner_cases (fun n => n.binding? peer = some b) h fun p _ => ?_
    exact (binding?_respond n.services p octets peer b).2 (.inr h)
  | unregister id => exact forOwner_cases (fun n => n.binding? peer = some b) h fun p _ => h
  | depart id =>
    refine forOwner_cases (fun n => n.binding? peer = some b) h fun p howner => ?_
    -- another peer departs
    have hne : peer ≠ p := fun heq => hleft id rfl (heq ▸ howner)
    show (n.services.audience.deactivate p).binding? peer = some b
    rw [Delivery.Audience.binding?_deactivate, if_neg hne]
    exact h
  | connect p => exact h
  | write id w => exact h
  | send p frame => exact h

/-- A peer stays bound as long as no connection of it departs. -/
theorem binding?_turns {b : Binding} {ts : List Turn} (h : n.binding? peer = some b)
    (hcallers : Callers n.lines peers) (hconnect : .connect peer ∉ ts)
    (hleft : ∀ id, .depart id ∈ ts → peers[id]? ≠ some peer) :
    (n.turns ts).binding? peer = some b :=
  turns_keep (P := fun n => n.binding? peer = some b) (fun h _ hends => binding?_turn h hends) h
    hcallers hconnect hleft

/-! ## The end of a connection -/

/-- What the end of a connection does, it does to the peer of the connection and to nobody else. -/
structure EndsFor (n : Node Lines) (id : Nat) (owner : Peer) : Prop where
  /-- Off the register, the peer keeps its queue and its binding. -/
  queues : (n.turn (.unregister id)).delivery.queues = n.delivery.queues
  services : (n.turn (.unregister id)).services = n.services
  registered : ∀ peer, (n.turn (.unregister id)).lines.registered.get? peer =
    if peer = owner then none else n.lines.registered.get? peer
  /-- Departed, it has neither. -/
  lines : (n.turn (.depart id)).lines = n.lines
  queue : ∀ peer, (n.turn (.depart id)).delivery.queues.get? peer =
    if peer = owner then none else n.delivery.queues.get? peer
  binding : ∀ peer, (n.turn (.depart id)).binding? peer =
    if peer = owner then none else n.binding? peer

/-- What the end of a connection does, it does to its owner. -/
theorem endsFor_of_owner {owner : Peer} (h : n.lines.owner? id = some owner) :
    n.EndsFor id owner := by
  have hunregister : n.turn (.unregister id) = n.carry (.disconnect owner) := forOwner_of_owner h _
  have hdepart : n.turn (.depart id) = n.peerOffline owner := forOwner_of_owner h _
  constructor
  · -- off the register, the queues are as they were
    rw [hunregister]
    rfl
  · rw [hunregister]
    rfl
  · intro peer
    rw [hunregister]
    exact Dict.get?_erase n.lines.registered peer owner
  · -- and departed, the lines are as they were
    rw [hdepart]
    rfl
  · intro peer
    rw [hdepart]
    exact Dict.get?_erase n.delivery.queues peer owner
  · intro peer
    rw [hdepart]
    exact Delivery.Audience.binding?_deactivate n.services.audience owner peer

/-- Peers connect under any names, one after another or several at once under one, and the steps of
their connections come in any order. The frames for a peer go to the connection that came last, as
long as its writer has not failed and no connection of the peer ended since then; else the peer is
offline. It stays bound as long as no connection of it departs. And a connection ends for its peer:
off goes what stands under that name, whoever brought it there, and nothing under another. -/
theorem last_connection_reached (services : Services) (limit : Nat) (before since : List Turn)
    (peer : Peer) (hlast : .connect peer ∉ since) :
    let ts := before ++ .connect peer :: since
    let n := (Server.new services limit).node.turns ts
    let last := (callers before).length
    ∃ line, n.lines.lines.get? last = some line ∧ line.peer = peer ∧
      (∀ frame origin, line.isBroken = false →
        (∀ id, .unregister id ∈ since → (callers ts)[id]? ≠ some peer) →
        Carrier.send n.lines peer frame origin =
          (n.lines.put last (line.wait [{ frame, origin }]), none)) ∧
      (∀ frame origin, line.isBroken = true ∨
        (∃ id, .unregister id ∈ since ∧ (callers ts)[id]? = some peer) →
        Carrier.send n.lines peer frame origin = (n.lines, some .offline)) ∧
      (∀ early late binding, since = early ++ late →
        ((Server.new services limit).node.turns (before ++ .connect peer :: early)).binding? peer =
          some binding →
        (∀ id, .depart id ∈ late → (callers ts)[id]? ≠ some peer) →
        n.binding? peer = some binding) ∧
      ∀ id owner, (callers ts)[id]? = some owner → n.EndsFor id owner := by
  intro ts n last
  have hts : callers ts = (callers before ++ [peer]) ++ callers since :=
    callers_connect before since peer
  have hbefore :
      Callers ((Server.new services limit).node.turns before).lines (callers before) := by
    have hturns := (callers_new services limit).turns before
    rwa [List.nil_append] at hturns
  -- the node when the peer connected last
  let start := ((Server.new services limit).node.turns before).turn (.connect peer)
  have hstart : Callers start.lines (callers before ++ [peer]) := hbefore.turn (.connect peer)
  have hn : n = start.turns since := turns_append _ _ _
  have hcallers : Callers n.lines (callers ts) := by
    rw [hn, hts]
    exact hstart.turns since
  have hsince : peer ∉ callers since := fun h => hlast (mem_callers.1 h)
  have hregistered : start.lines.registered.get? peer = some last := by
    show (Dict.insert _ _ _).get? peer = _
    rw [Dict.get?_insert, if_pos rfl]
    exact congrArg some hbefore.nextLine
  -- a connection of the peer is one that there was then
  have howns (id : Nat) : (callers ts)[id]? = some peer ↔
      (callers before ++ [peer])[id]? = some peer := by
    rw [hts]
    exact getElem?_append_iff hsince id
  have hstays (hleft : ∀ id, .unregister id ∈ since → (callers ts)[id]? ≠ some peer) :
      n.lines.registered.get? peer = some last := by
    rw [hn, registered_turns hstart hlast fun id hid h => hleft id hid ((howns id).2 h),
      hregistered]
  -- the line of the last connection is still there, since lines are never taken away
  obtain ⟨line, hget, hpeer⟩ : ∃ line, n.lines.lines.get? last = some line ∧ line.peer = peer := by
    rw [← Lines.owner?_eq_some_iff, hcallers.owner?, hts, getElem?_append_iff hsince]
    exact List.getElem?_concat_length
  refine ⟨line, hget, hpeer, fun frame origin hopen hleft => ?_, fun frame origin hlost => ?_,
    fun early late binding hsplit hbound hleft => ?_, fun id owner howner => ?_⟩
  · -- no connection of the peer ended, so it is registered with its last line
    exact Lines.send_of_open (Lines.open?_eq_some_iff.2 ⟨hstays hleft, hget, hopen⟩) frame origin
  · -- the peer is not on the register, or its line is broken
    refine Lines.send_of_closed ?_ frame origin
    rw [Option.eq_none_iff_forall_ne_some]
    rintro ⟨id, line'⟩ hfound
    obtain ⟨hid, hget', hlive⟩ := Lines.open?_eq_some_iff.1 hfound
    by_cases hleft : ∃ id, .unregister id ∈ since ∧ (callers ts)[id]? = some peer
    · obtain ⟨i, hi, howner⟩ := hleft
      rw [hn, registered_turns_left hstart hlast hi ((howns i).1 howner)] at hid
      cases hid
    · -- the line that the peer is registered with is the last, which is broken
      rw [hstays fun i hi howner => hleft ⟨i, hi, howner⟩] at hid
      obtain rfl := Option.some.inj hid
      rw [hget, Option.some.injEq] at hget'
      rw [← hget', hlost.resolve_right hleft] at hlive
      cases hlive
  · -- it was bound when it had connected last, and has not departed since
    subst hsplit
    rw [List.mem_append, not_or] at hlast
    have hearly : n = ((Server.new services limit).node.turns
        (before ++ .connect peer :: early)).turns late := by
      rw [← turns_append, List.append_assoc]
      rfl
    rw [hearly]
    refine binding?_turns hbound ((callers_new services limit).turns _) hlast.2 fun id hid h => ?_
    rw [List.nil_append, callers_connect,
      getElem?_append_iff fun hmem => hlast.1 (mem_callers.1 hmem)] at h
    exact hleft id hid ((howns id).2 h)
  · -- whose connections end is read off their numbers
    exact endsFor_of_owner ((hcallers.owner? id).trans howner)

/-- A peer whose first connection came to its end before the second began is reached over the
second, also when another peer leaves. -/
theorem last_connection_reached_again :
    let n := (Server.new sampleStart.services 64).node.turns
      [.connect "p", .unregister 0, .depart 0, .connect "p", .connect "q", .unregister 2, .depart 2]
    (Carrier.send n.lines "p" [1] .program).2 = none ∧ n.EndsFor 1 "p" := by
  intro n
  let before : List Turn := [.connect "p", .unregister 0, .depart 0]
  let since : List Turn := [.connect "q", .unregister 2, .depart 2]
  obtain ⟨line, hget, -, hreached, -, -, hends⟩ :=
    last_connection_reached sampleStart.services 64 before since "p" (by decide)
  -- the writer of the second connection has not failed
  have hline : n.lines.lines.get? 1 =
      some { peer := "p", waiting := [], output := [], isBroken := false } := rfl
  have hopen : line.isBroken = false := by
    rw [← Option.some.inj (hline.symm.trans hget)]
  have hothers : ∀ id, .unregister id ∈ since →
      (callers (before ++ .connect "p" :: since))[id]? ≠ some "p" := by
    intro id hid
    obtain rfl : id = 2 := by simpa [since] using hid
    decide
  exact ⟨congrArg Prod.snd (hreached [1] .program hopen hothers), hends 1 "p" (by decide)⟩

/-- A peer connects twice. Over the second connection it asks for notices and for a channel that is
not there. When the first one ends, the peer is off the register, its binding is gone and so is the
queue with the answer, although the second connection has not ended and its writer works. -/
theorem later_connection_lost :
    let call (m : Rpc.Method) (args : m.Args) : Bytes :=
      (Rpc.Request.make .v1 1 (.call m args)).encode
    let n := (Server.new sampleStart.services 64).node.turns
      [.connect "p", .connect "p", .frame 1 (call .enableNotification { token := "m" }),
        .frame 1 (call .subscribeChannel { token := "m", channelId := 1 })]
    let n' := n.turns [.unregister 0, .depart 0]
    n'.lines.lines.get? 1 = n.lines.lines.get? 1 ∧
      (n'.lines.lines.get? 1).map Line.isBroken = some false ∧
      (Carrier.send n.lines "p" [1] .program).2 = none ∧
      (Carrier.send n'.lines "p" [1] .program).2 = some .offline ∧
      (n.binding? "p").isSome ∧ n'.binding? "p" = none ∧
      n.delivery.isIdle "p" = false ∧ n'.delivery.isIdle "p" = true := by
  decide +kernel

/-! ## Servers -/

/-- No peer connects and no connection ends. -/
def Turn.IsInner : Turn → Prop
  | .frame _ _ | .write _ _ | .send _ _ => True
  | .connect _ | .unregister _ | .depart _ => False

/-- What does not connect or end a connection gives and takes no seats. -/
theorem sameSeats_of_isInner {t : Turn} (n : Node Lines) (h : t.IsInner) :
    Lines.SameSeats n.lines (n.turn t).lines := by
  cases t with
  | connect p => exact h.elim
  | frame id octets =>
    exact forOwner_cases (fun n' => Lines.SameSeats n.lines n'.lines) (.refl _)
      fun p _ => receive_sameSeats n p octets
  | unregister id => exact h.elim
  | depart id => exact h.elim
  | write id w => exact Wired.writeNext_sameSeats n.delivery id w
  | send p frame => exact Wired.step_sameSeats n.delivery (e := .send p frame) not_false

/-- A node got from one state to another by turns within its connections. -/
def Within (n n' : Node Lines) : Prop :=
  ∃ ts : List Turn, (∀ t ∈ ts, t.IsInner) ∧ n' = n.turns ts

/-- A node is within its connections where it is. -/
theorem Within.refl (n : Node Lines) : n.Within n := ⟨[], by simp, rfl⟩

/-- Turns within connections go on with others. -/
theorem Within.trans {n n' n'' : Node Lines} (h : n.Within n') (h' : n'.Within n'') :
    n.Within n'' := by
  obtain ⟨ts, hts, rfl⟩ := h
  obtain ⟨us, hus, rfl⟩ := h'
  exact ⟨ts ++ us, fun t ht => (List.mem_append.1 ht).elim (hts t) (hus t),
    (turns_append n ts us).symm⟩

/-- One turn within a connection is a run of them. -/
theorem within_turn (n : Node Lines) {t : Turn} (h : t.IsInner) : n.Within (n.turn t) :=
  ⟨[t], by simpa using h, rfl⟩

/-- Within connections seats are neither given nor taken. -/
theorem Within.sameSeats {n n' : Node Lines} (h : n.Within n') :
    Lines.SameSeats n.lines n'.lines := by
  obtain ⟨ts, hts, rfl⟩ := h
  induction ts generalizing n with
  | nil => exact .refl _
  | cons t ts ih =>
    obtain ⟨ht, hts⟩ := List.forall_mem_cons.1 hts
    exact (sameSeats_of_isInner n ht).trans (ih hts)

namespace Server

variable {s : Server} {id : Nat}

/-- Some writing at a line is a matter of its writer. -/
theorem within_writeMany (n : Node Lines) (id count : Nat) :
    n.Within { n with delivery := Stream.writeMany n.delivery id count } := by
  induction count generalizing n with
  | zero => exact .refl n
  | succ count ih => exact (within_turn n (t := .write id .whole) trivial).trans (ih _)

/-- Writing all that waits is a matter of the writers. -/
theorem within_settle (s : Server) : s.node.Within s.settle.node := by
  show s.node.Within { s.node with delivery := Stream.writeAll s.node.delivery }
  rw [Stream.writeAll]
  generalize s.node.delivery.carrier.lines.keys = ids
  generalize s.node = n
  induction ids generalizing n with
  | nil => exact .refl n
  | cons id ids ih => exact (within_writeMany n id _).trans (ih _)

/-- The node takes a frame in a turn of the connection. -/
theorem within_take (howner : s.lines.owner? id = some peer) (frame : Bytes) :
    s.node.Within (take peer s frame).node := by
  have hframe : s.node.turn (.frame id frame) = s.node.receive peer frame :=
    forOwner_of_owner howner _
  refine Within.trans ?_ (within_settle { s with node := s.node.receive peer frame })
  rw [← hframe]
  exact within_turn s.node (t := .frame id frame) trivial

/-- The node takes frames in turns of the connection. -/
theorem within_takes (howner : s.lines.owner? id = some peer) (frames : List Bytes) :
    s.node.Within (frames.foldl (take peer) s).node := by
  induction frames generalizing s with
  | nil => exact .refl _
  | cons frame frames ih =>
    -- the connection belongs to the same peer afterwards
    have htake := within_take howner frame
    exact htake.trans (ih (s := take peer s frame) ((htake.sameSeats.owner? id).trans howner))

/-- What a server did was done in turns, and it waits for no connection that ended in them. -/
def TurnsTo (s s' : Server) : Prop :=
  ∃ ts, s'.node = s.node.turns ts ∧
    ∀ id, .unregister id ∈ ts ∨ .depart id ∈ ts → s'.isOpen id = false

/-- What a server does within its connections, it does in turns that end none. -/
theorem turnsTo_of_within {s' : Server} (h : s.node.Within s'.node) : s.TurnsTo s' := by
  obtain ⟨ts, hts, hnode⟩ := h
  exact ⟨ts, hnode, fun id hid => (hid.elim (hts _) (hts _)).elim⟩

/-- A connection ends in two turns, and then all that waits is written. -/
theorem disconnect_turnsTo (s : Server) (id : Nat) : s.TurnsTo (s.disconnect id) := by
  rw [disconnect]
  cases hget : s.lines.lines.get? id with
  | none => exact turnsTo_of_within (.refl _)
  | some line =>
    by_cases hopen : s.isOpen id = true
    · -- it is open, and ends now
      simp only [hopen, if_true]
      have howner : s.node.lines.owner? id = some line.peer :=
        Lines.owner?_eq_some_iff.2 ⟨line, hget, rfl⟩
      have hends : (s.node.turn (.unregister id)).turn (.depart id) =
          ((s.withLines (s.lines.disconnect line.peer)).node.peerOffline line.peer) := by
        rw [show s.node.turn (.unregister id) = s.node.carry (.disconnect line.peer) from
          forOwner_of_owner howner _]
        exact forOwner_of_owner (n := s.node.carry (.disconnect line.peer)) howner _
      obtain ⟨ts, hts, hnode⟩ := within_settle
        { s.withLines (s.lines.disconnect line.peer) with
          node := (s.withLines (s.lines.disconnect line.peer)).node.peerOffline line.peer
          readers := s.readers.erase id }
      refine ⟨.unregister id :: .depart id :: ts,
        hnode.trans (congrArg (fun n => turns n ts) hends.symm), fun i hi => ?_⟩
      · -- it is the connection that the server waits for no more
        have hid : i = id := by
          rcases hi with hi | hi <;> simp only [List.mem_cons, reduceCtorEq, false_or,
            Turn.unregister.injEq, Turn.depart.injEq] at hi
          · exact hi.resolve_right fun hmem => (hts _ hmem).elim
          · exact hi.resolve_right fun hmem => (hts _ hmem).elim
        show (s.readers.erase id).contains i = false
        rw [Dict.contains, Dict.get?_erase, if_pos hid]
        rfl
    · -- it ended before
      simp only [hopen, Bool.false_eq_true, if_false]
      exact turnsTo_of_within (.refl _)

/-- What may come to a server from outside. -/
inductive Contact where
  | connect (peer : Peer)
  | receive (id : Nat) (piece : Bytes)
  | disconnect (id : Nat)

/-- The server after a contact. -/
def meet (s : Server) : Contact → Server
  | .connect peer => (s.connect peer).2
  | .receive id piece => s.receive id piece
  | .disconnect id => s.disconnect id

/-- Whatever a server does, its connections do in turns. -/
theorem meet_turnsTo (s : Server) (e : Contact) : s.TurnsTo (s.meet e) := by
  cases e with
  | connect peer => exact ⟨[.connect peer], rfl, by simp⟩
  | disconnect id => exact disconnect_turnsTo s id
  | receive id piece =>
    rw [meet, receive]
    split
    · -- the frames of the piece are taken first
      rename_i reader line hreader hget
      have howner : s.lines.owner? id = some line.peer :=
        Lines.owner?_eq_some_iff.2 ⟨line, hget, rfl⟩
      have hwithin := within_takes howner (reader.feed piece).1
      simp only
      split
      · -- a frame that is too long ends the connection, after those before it were taken
        obtain ⟨ts, hts, hnode⟩ := hwithin
        obtain ⟨us, hus, hends⟩ :=
          disconnect_turnsTo ((reader.feed piece).1.foldl (take line.peer) s) id
        refine ⟨ts ++ us, by rw [hus, hnode, turns_append], fun i hi => hends i ?_⟩
        rw [List.mem_append, List.mem_append] at hi
        exact hi.imp (fun h => h.resolve_left fun hmem => (hts _ hmem).elim)
          (fun h => h.resolve_left fun hmem => (hts _ hmem).elim)
      · exact turnsTo_of_within hwithin
    · -- there is no such connection
      exact turnsTo_of_within (.refl _)

/-- Every run of a server is a run of turns. -/
theorem turns_of_run (s : Server) (es : List Contact) :
    ∃ ts, (es.foldl meet s).node = s.node.turns ts := by
  induction es generalizing s with
  | nil => exact ⟨[], rfl⟩
  | cons e es ih =>
    obtain ⟨ts, hts, -⟩ := meet_turnsTo s e
    obtain ⟨us, hus⟩ := ih (s.meet e)
    exact ⟨ts ++ us, by rw [turns_append, ← hts, List.foldl_cons, hus]⟩

end Server

end FeedNode.Node
