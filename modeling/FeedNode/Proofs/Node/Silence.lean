import FeedNode.Proofs.Delivery.Bystanders
import FeedNode.Proofs.Node.FanOut

/-!
# Silence after a disconnect

A peer that went offline gets nothing more until it sends something itself or the embedding program
hands over a frame for it. Three things could still reach it, and none does: the rest of its queue,
which is gone, so that late receipts find nobody who waits for them; answers, which go to who calls;
and news, which goes to the peers of the audience, and only a message of its own would bring the
peer back there.

Main statement: `silent_after_departure`.
-/

namespace FeedNode.Node

open Delivery (Event Memory Peer Queues)
open Rpc (Request)

/-! ## What may happen -/

/-- What may happen to a node over a carrier in memory: to the node as a whole, or to its queues and
their carrier. -/
inductive Incident where
  | node (e : Happening)
  | delivery (e : Event)

/-- The incident is a message of the peer, or hands over a frame for it. -/
def Incident.isFor (peer : Peer) : Incident → Prop
  | .node (.message p _) => p = peer
  | .node (.departure _) | .node (.elsewhere _) => False
  | .delivery e => e.isFor peer

/-- The node after an incident. -/
def meet (n : Node Memory) : Incident → Node Memory
  | .node e => n.happen e
  | .delivery e => { n with delivery := n.delivery.step e }

/-- The node after some incidents. -/
def through (n : Node Memory) (incidents : List Incident) : Node Memory :=
  incidents.foldl meet n

/-! ## Whom a message reaches -/

variable {s : Services} {caller peer : Peer}

/-- News goes to the peers in the audience, and that of a backup to who called. -/
theorem notices_respond_ne (hunbound : s.audience.binding? peer = none) (hcaller : caller ≠ peer)
    (octets : Bytes) : ∀ x ∈ notices (respond s caller octets).2, x.1 ≠ peer := by
  cases hserved : s.served? caller octets with
  | none => simp [(respond_unserved hserved).2]
  | some request =>
    obtain ⟨m, args, c, -, -, hspread⟩ := served_spread hserved
    cases hnews : (Rpc.Params.call m args).announces? with
    | some channelId =>
      -- who hears of the news follows the channel, and so is bound
      obtain ⟨name, news, hout⟩ := hspread.notices_news hnews
      rw [hout]
      intro x hx
      obtain ⟨⟨p, f⟩, hfollows, rfl⟩ := List.mem_map.1 hx
      have hbound : s.audience.binding? p ≠ none := by
        rw [Delivery.Audience.binding?, Ne, Option.map_eq_none_iff]
        exact Dict.get?_ne_none_of_mem (List.mem_of_mem_filter hfollows)
      rintro rfl
      exact hbound hunbound
    | none =>
      -- of the other calls only a backup has a notice, and this goes to the caller
      obtain ⟨hbackup, hother⟩ := hspread.notices_quiet hnews
      by_cases hm : m = .backupServiceData
      · obtain ⟨n, hout⟩ := hbackup hm
        simp [hout, hcaller]
      · simp [hother hm]

/-- Nothing that a message makes the node send is for a peer that neither sent it nor is in the
audience. -/
theorem frame_respond_ne (hunbound : s.audience.binding? peer = none) (hcaller : caller ≠ peer)
    (octets : Bytes) : ∀ o ∈ (respond s caller octets).2, (o.frame caller).1 ≠ peer := by
  intro o ho
  cases o with
  | reply r => exact hcaller
  | enqueue r => exact hcaller
  | notify p n =>
    have hnotice : (p, n) ∈ notices (respond s caller octets).2 :=
      List.mem_filterMap.2 ⟨_, ho, rfl⟩
    exact notices_respond_ne hunbound hcaller octets _ hnotice

/-- An output for somebody else leaves what a peer has and is sent. -/
theorem send_spares (d : Queues Memory) {o : Output} (ho : (o.frame caller).1 ≠ peer) :
    d.Spares peer (send caller d o) := by
  cases o with
  | reply r => exact d.sendDirect_spares ho r.encode .handler
  | enqueue r => exact d.enqueue_spares ho r.encode
  | notify p n => exact d.enqueue_spares ho n.encode

/-- Outputs for others leave what a peer has and is sent. -/
theorem foldl_send_spares (d : Queues Memory) {out : List Output}
    (hout : ∀ o ∈ out, (o.frame caller).1 ≠ peer) :
    d.Spares peer (out.foldl (send caller) d) := by
  induction out generalizing d with
  | nil => exact .refl
  | cons o out ih =>
    obtain ⟨hfirst, hrest⟩ := List.forall_mem_cons.1 hout
    exact (send_spares d hfirst).trans (ih _ hrest)

/-! ## Peers that are gone -/

/-- The peer has no queue and is not in the audience. -/
structure Gone (n : Node Memory) (peer : Peer) : Prop where
  queue : n.delivery.queues.get? peer = none
  binding : n.services.audience.binding? peer = none

/-- A peer that goes offline is gone. -/
theorem gone_peerOffline (n : Node Memory) (peer : Peer) : (n.peerOffline peer).Gone peer := by
  refine ⟨?_, ?_⟩
  · simp [peerOffline, Queues.peerOffline, Dict.get?_erase]
  · simp [peerOffline, Delivery.Audience.binding?_deactivate]

/-- A peer that is gone stays so, and nothing is sent to it, by all that is not for it. -/
theorem Gone.meet {n : Node Memory} (hn : n.Gone peer) {i : Incident} (hi : ¬ i.isFor peer) :
    (n.meet i).Gone peer ∧
      (n.meet i).delivery.carrier.sentTo peer = n.delivery.carrier.sentTo peer := by
  -- what spares its queue and its binding leaves the peer gone
  have hspared {n' : Node Memory} (hd : n.delivery.Spares peer n'.delivery)
      (ha : n'.services.audience.binding? peer = none) :
      n'.Gone peer ∧ n'.delivery.carrier.sentTo peer = n.delivery.carrier.sentTo peer :=
    ⟨⟨hd.queue.trans hn.queue, ha⟩, hd.sentTo⟩
  cases i with
  -- over the queues
  | delivery e => exact hspared (.step hn.queue hi) hn.binding
  -- over the node
  | node e =>
    cases e with
    | message caller octets =>
      refine hspared (foldl_send_spares _ (frame_respond_ne hn.binding hi octets)) ?_
      -- a message binds nobody but the peer that sent it
      rw [Option.eq_none_iff_forall_ne_some]
      intro b hb
      rcases (binding?_respond n.services caller octets peer b).1 hb with ⟨hsame, -⟩ | hold
      · exact hi hsame.symm
      · rw [hn.binding] at hold
        cases hold
    -- another peer leaves, or this one once more
    | departure p =>
      refine hspared ?_ ?_
      · exact .step (e := .peerOffline p) hn.queue not_false
      · show (n.services.audience.deactivate p).binding? peer = none
        rw [Delivery.Audience.binding?_deactivate, hn.binding, ite_self]
    | elsewhere services => exact hspared .refl hn.binding

/-- A peer that is gone stays so over a run. -/
theorem Gone.through {n : Node Memory} (hn : n.Gone peer) {incidents : List Incident}
    (h : ∀ i ∈ incidents, ¬ i.isFor peer) :
    (n.through incidents).Gone peer ∧
      (n.through incidents).delivery.carrier.sentTo peer = n.delivery.carrier.sentTo peer := by
  induction incidents generalizing n with
  | nil => exact ⟨hn, rfl⟩
  | cons i incidents ih =>
    obtain ⟨hi, hrest⟩ := List.forall_mem_cons.1 h
    obtain ⟨hgone, hsent⟩ := hn.meet hi
    obtain ⟨hend, hsame⟩ := ih hgone hrest
    exact ⟨hend, hsame.trans hsent⟩

/-- In whatever state a peer goes offline, it gets no frame of all that happens then, as long as it
sends nothing and nobody hands over a frame for it: nothing is owed to it, and it is not told of
news. -/
theorem silent_after_departure (n : Node Memory) (peer : Peer) {incidents : List Incident}
    (h : ∀ i ∈ incidents, ¬ i.isFor peer) :
    let n' := (n.peerOffline peer).through incidents
    n'.delivery.carrier.sentTo peer = n.delivery.carrier.sentTo peer ∧
      n'.delivery.isIdle peer = true ∧ n'.services.audience.isActive peer = false := by
  intro n'
  obtain ⟨hgone, hsent⟩ := (gone_peerOffline n peer).through h
  -- without a binding it is not in the audience
  have hunbound := hgone.binding
  rw [Delivery.Audience.binding?, Option.map_eq_none_iff] at hunbound
  exact ⟨hsent, by simp [n', Queues.isIdle, Dict.contains, hgone.queue],
    by simp [n', Delivery.Audience.isActive, Dict.contains, hunbound]⟩

/-- The owner publishes a post. -/
def samplePublish (id : UInt64) : Incident :=
  .node (.message "owner"
    (Request.make .v2 id (.call .publishPost
      { token := "o"
        channelId := 1
        content := [1]
        thumbnails := []
        hashId := ""
        proof := "" })).encode)

/-- A node that holds receipts back. A member asked for notices on the phone and is owed two. -/
def sampleOwing : Node Memory :=
  let manual : Node Memory := { sampleNode with delivery := .new (.new false) }
  (manual.after sampleHistory).through [samplePublish 4, samplePublish 5]

/-- The phone goes offline. Then its receipts come, the member subscribes anew on the tablet, and
there is another post. -/
theorem silent_after_departure_phone :
    let resubscribe (m : Rpc.Method) (args : m.Args) : Incident :=
      .node (.message "tablet" (Request.make .v1 6 (.call m args)).encode)
    let incidents : List Incident :=
      [.delivery (.receipt "phone" .delivered), .delivery (.receipt "phone" .failed),
        resubscribe .unsubscribeChannel { token := "m", channelId := 1 },
        resubscribe .subscribeChannel { token := "m", channelId := 1 },
        samplePublish 7, .delivery (.receipt "owner" .offline), .node (.departure "tablet")]
    let n' := (sampleOwing.peerOffline "phone").through incidents
    sampleOwing.delivery.pending "phone" = 2 ∧
      sampleOwing.delivery.carrier.countSent "phone" = 2 ∧
      sampleOwing.delivery.carrier.owed "phone" = 2 ∧ n'.delivery.carrier.owed "phone" = 0 ∧
      sampleOwing.delivery.carrier.sent.length + 3 = n'.delivery.carrier.sent.length ∧
      n'.delivery.carrier.sentTo "phone" = sampleOwing.delivery.carrier.sentTo "phone" := by
  intro resubscribe incidents n'
  -- none of the incidents is for the phone
  have hfor : ∀ i ∈ incidents, ¬ i.isFor "phone" := by
    simp [incidents, resubscribe, samplePublish, Incident.isFor, Event.isFor]
  exact ⟨by decide +kernel, by decide +kernel, by decide +kernel, by decide +kernel,
    by decide +kernel, (silent_after_departure sampleOwing "phone" hfor).1⟩

end FeedNode.Node
