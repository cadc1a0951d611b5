import FeedNode.Proofs.Delivery.Settled
import FeedNode.Proofs.Node.Confinement
import FeedNode.Proofs.Node.Outcomes

/-!
# Every message is answered once

A peer that is online gets exactly one answer to what it sends, under the identifier of its message,
whatever becomes of the call. Only the paged queries have more to say: one answer for each page of
the rows that match, and so none at all if there are none. Octets without an identifier leave the
node as it was.

Over a carrier that confirms every frame at once the queues never wait (`Queues.Settled`), so that
an answer is on its way as soon as the message was taken.

Main statement: `answered_once`.
-/

namespace FeedNode.Node

open Delivery (Carrier Event Memory Peer Queues)
open Rpc (Request Response)

/-- A node over a carrier that confirms every frame at once. Whatever happens to its services, to
its queues and to the peers between messages. -/
inductive Prompt : Node Memory → Prop where
  | start (services : Services) : Prompt { services, delivery := .new (.new true) }
  | receive {n : Node Memory} (hn : Prompt n) (peer : Peer) (octets : Bytes) :
      Prompt (n.receive peer octets)
  | peerOffline {n : Node Memory} (hn : Prompt n) (peer : Peer) : Prompt (n.peerOffline peer)
  | events {n : Node Memory} (hn : Prompt n) (es : List Event) :
      Prompt { n with delivery := n.delivery.after es }
  | services {n : Node Memory} (hn : Prompt n) (services : Services) : Prompt { n with services }

/-! ## What is sent -/

/-- The frame of an output, and the peer that it goes to; answers go to the caller. -/
def Output.frame (caller : Peer) : Output → Peer × Bytes
  | .reply r => (caller, r.encode)
  | .enqueue r => (caller, r.encode)
  | .notify peer n => (peer, n.encode)

/-- Every output is delivered to its peer. -/
theorem send_delivers {d : Queues Memory} (h : d.Settled) (caller : Peer) (o : Output) :
    d.Delivers [o.frame caller] (send caller d o) := by
  cases o with
  | reply r => exact Queues.sendDirect_delivers h caller r.encode .handler
  | enqueue r => exact Queues.enqueue_delivers h caller r.encode
  | notify peer n => exact Queues.enqueue_delivers h peer n.encode

/-- The outputs are delivered in order. -/
theorem foldl_send_delivers {d : Queues Memory} (h : d.Settled) (caller : Peer)
    (out : List Output) :
    d.Delivers (out.map (Output.frame caller)) (out.foldl (send caller) d) := by
  induction out generalizing d with
  | nil => exact h.delivers_nil
  | cons o out ih =>
    have hfirst := send_delivers h caller o
    -- the first output leaves nothing waiting, so that the others go out at once as well
    exact hfirst.trans (ih hfirst.settled)

/-- Nothing ever waits in a prompt node. -/
theorem Prompt.settled {n : Node Memory} (hn : n.Prompt) : n.delivery.Settled := by
  induction hn with
  | start services => exact Queues.settled_new
  | receive hn peer octets ih => exact (foldl_send_delivers ih peer _).settled
  | peerOffline hn peer ih => exact ih.peerOffline peer
  | events hn es ih => exact ih.after es
  | services hn services ih => exact ih

/-- The outputs of a message that are sent: those to peers that are not offline. -/
def sentOn (n : Node Memory) (peer : Peer) (octets : Bytes) : List Output :=
  (respond n.services peer octets).2.filter fun o => (o.frame peer).1 ∉ n.delivery.carrier.offline

/-- What a message leaves on the line is what is sent on it. -/
theorem sent_receive {n : Node Memory} (hn : n.delivery.Settled) (peer : Peer) (octets : Bytes) :
    (n.receive peer octets).delivery.carrier.sent =
      n.delivery.carrier.sent ++ (n.sentOn peer octets).map (Output.frame peer) := by
  have hdelivers := foldl_send_delivers hn peer (respond n.services peer octets).2
  refine hdelivers.sent.trans ?_
  rw [Memory.accepted, List.filter_map]
  rfl

/-- All answers are sent if the caller is online. -/
theorem answers_sentOn {n : Node Memory} {peer : Peer}
    (honline : peer ∉ n.delivery.carrier.offline) (octets : Bytes) :
    answers (n.sentOn peer octets) = answers (respond n.services peer octets).2 := by
  rw [sentOn, answers, answers, List.filterMap_filter]
  refine List.filterMap_congr fun o _ => ?_
  -- a notice may be refused, but it is no answer
  cases o with
  | reply r => simp [Output.frame, honline]
  | enqueue r => simp [Output.frame, honline]
  | notify p m => simp [Output.answer?]

/-! ## How many answers -/

/-- What goes out on a message with an identifier: answers under it and no others, the pages of a
listing if a paged query was served, and one answer otherwise. -/
structure AnsweredOnce (s : Services) (peer : Peer) (octets : Bytes) (id : UInt64)
    (rs : List Response) : Prop where
  id_eq : ∀ r ∈ rs, r.id = id
  paged : ∀ request, s.served? peer octets = some request → request.isPaged = true →
    PagedAnswers s request rs
  single : (∀ request, s.served? peer octets = some request → request.isPaged = false) →
    ∃ r, rs = [r]

/-- A refused message is answered once, and no request was served. -/
theorem AnsweredOnce.of_refused {s : Services} {peer : Peer} {octets : Bytes} (r : Response)
    (h : s.served? peer octets = none) : AnsweredOnce s peer octets r.id [r] := by
  -- the answer has its own identifier
  refine ⟨?_, ?_, fun _ => ⟨r, rfl⟩⟩
  · intro r' hr'
    rw [List.mem_singleton.1 hr']
  · -- there is nothing to page
    intro request hserved
    rw [h] at hserved
    cases hserved

/-- A served request is answered by its pages, or once. -/
theorem AnsweredOnce.of_served {s s' : Services} {peer : Peer} {octets : Bytes} {request : Request}
    {out : List Output} (hserved : s.served? peer octets = some request)
    (hserve : serve s peer request = (s', .ok out)) :
    AnsweredOnce s peer octets request.id (answers out) := by
  have hsame : ∀ request', s.served? peer octets = some request' → request = request' :=
    fun request' hserved' => Option.some.inj (hserved.symm.trans hserved')
  rcases serve_ok hserve with ⟨hsingle, payload, hout⟩ | ⟨hpaged, hout⟩
  · -- one answer
    rw [hout]
    refine ⟨?_, ?_, fun _ => ⟨_, rfl⟩⟩
    · intro r hr
      rw [List.mem_singleton.1 hr]
      rfl
    · intro request' hserved' hpaged
      rw [← hsame request' hserved', hsingle] at hpaged
      cases hpaged
  · -- pages
    refine ⟨hout.id_eq, ?_, ?_⟩
    · intro request' hserved' _
      exact hsame request' hserved' ▸ hout
    · intro hsingle
      rw [hsingle request hserved] at hpaged
      cases hpaged

/-- Every message with an identifier is answered under it. -/
theorem respond_answeredOnce (s : Services) (peer : Peer) {octets : Bytes} {id : UInt64}
    (hid : Rpc.peekId octets = some id) :
    AnsweredOnce s peer octets id (answers (respond s peer octets).2) := by
  have hresponds := respond_responds s peer octets
  generalize respond s peer octets = result at hresponds ⊢
  cases hresponds with
  -- dropped messages have none
  | dropped hnone =>
    rw [hnone] at hid
    cases hid
  -- refused before there was a request
  | refused r hpeek herror hserved =>
    obtain rfl : r.id = id := Option.some.inj (hpeek.symm.trans hid)
    exact .of_refused r hserved
  -- refused by a handler
  | @failed d s' code hd hprocessed hpeek hserve hserved =>
    obtain rfl : d.request.id = id := Option.some.inj (hpeek.symm.trans hid)
    exact .of_refused (.failureFor d.request code) hserved
  -- served
  | @served d s' out hd hpeek hserve hserved =>
    obtain rfl : d.request.id = id := Option.some.inj (hpeek.symm.trans hid)
    exact .of_served hserved hserve

/-- Octets without an identifier are dropped. -/
theorem receive_dropped {σ : Type} [Carrier σ] {n : Node σ} {peer : Peer} {octets : Bytes}
    (h : Rpc.peekId octets = none) : n.receive peer octets = n := by
  rw [receive, respond_dropped h]
  rfl

/-- A message of a peer that is online is answered once, under its identifier and to that peer; one
without an identifier changes nothing. -/
theorem answered_once {n : Node Memory} (hn : n.Prompt) {peer : Peer}
    (honline : peer ∉ n.delivery.carrier.offline) (octets : Bytes) :
    (Rpc.peekId octets = none → n.receive peer octets = n) ∧
      ∀ id, Rpc.peekId octets = some id →
        (n.receive peer octets).delivery.carrier.sent =
            n.delivery.carrier.sent ++ (n.sentOn peer octets).map (Output.frame peer) ∧
          AnsweredOnce n.services peer octets id (answers (n.sentOn peer octets)) := by
  -- the identifiers decide which of the two it is
  refine ⟨receive_dropped, fun id hid => ⟨sent_receive hn.settled peer octets, ?_⟩⟩
  rw [answers_sentOn honline]
  exact respond_answeredOnce n.services peer hid

/-- A subscription is answered once; a query for comments, of which there are none, is not. -/
theorem answered_once_member :
    let subscribe :=
      (Request.make .v1 7 (.call .subscribeChannel { token := "m", channelId := 1 })).encode
    let query :=
      (Request.make .v1 8
        (.call .getMultiComments
          { token := "m"
            channelId := 1
            postId := 0
            by_ := 0
            upper := 0
            lower := 0
            maxCount := 0 })).encode
    (answers (sampleNode.sentOn "member" subscribe)).map Response.id = [7] ∧
      AnsweredOnce sampleNode.services "member" subscribe 7
        (answers (sampleNode.sentOn "member" subscribe)) ∧
      (answers (sampleNode.sentOn "member" query)).map Response.id = [] ∧
      AnsweredOnce sampleNode.services "member" query 8
        (answers (sampleNode.sentOn "member" query)) := by
  intro subscribe query
  have hn : sampleNode.Prompt := .receive (n := sampleStart) (.start _) _ _
  have honline : "member" ∉ sampleNode.delivery.carrier.offline := by decide +kernel
  obtain ⟨-, hsubscribe⟩ := answered_once hn honline subscribe
  obtain ⟨-, hquery⟩ := answered_once hn honline query
  exact ⟨by decide +kernel, (hsubscribe 7 (by decide +kernel)).2, by decide +kernel,
    (hquery 8 (by decide +kernel)).2⟩

end FeedNode.Node
