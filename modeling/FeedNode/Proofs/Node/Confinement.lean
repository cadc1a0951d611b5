import FeedNode.Delivery.Memory
import FeedNode.Proofs.Node.Calls

/-!
# Callers are confined

What a peer can do to the feeds and to the audience with octets of any kind depends on nothing but
the user that the token in them stands for. Octets that stand for nobody do nothing. A member who is
not the owner can write comments, like and subscribe in the member's own name, and change what the
member wrote; all else that changes are the counters of these. The owner can do more, but even the
owner cannot put words into the comment of someone else.

That an operation on one comment changes no other rests on the keys of comments being distinct,
which is kept from the empty store on (`Store.Numbered`).

Main statement: `receive_confined`.
-/

namespace FeedNode.Node

open Delivery (Carrier Memory Peer)
open Rpc (Request)

variable {σ : Type} [Carrier σ]

/-- A node that started with an empty store. Between messages anything may happen to it but to the
store: time passes, tokens come and go, peers connect and leave, receipts come. -/
inductive Reachable : Node σ → Prop where
  | start {n : Node σ} (h : n.services.store = .empty) : Reachable n
  | receive {n : Node σ} (hn : Reachable n) (peer : Peer) (octets : Bytes) :
      Reachable (n.receive peer octets)
  | elsewhere {n n' : Node σ} (hn : Reachable n) (h : n'.services.store = n.services.store) :
      Reachable n'

/-- A peer that leaves changes no row. -/
theorem Reachable.peerOffline {n : Node σ} (hn : n.Reachable) (peer : Peer) :
    (n.peerOffline peer).Reachable :=
  hn.elsewhere rfl

/-- The rows of a message's call stay numbered. -/
theorem Services.Touches.numbered {s s' : Services} {caller : Option Feed.User} {peer : Peer}
    (hs : s.store.Numbered) (h : s.Touches caller peer s') : s'.store.Numbered := by
  rcases h.store with hsame | ⟨u, s₀, op, -, hsame, -, happly⟩
  · exact hs.sameRows hsame
  · exact (hs.sameRows hsame).apply happly

/-- In every reachable node the rows are numbered. -/
theorem Reachable.numbered {n : Node σ} (hn : n.Reachable) : n.services.store.Numbered := by
  induction hn with
  | start h =>
    rw [h]
    exact Feed.Store.numbered_empty
  | receive hn peer octets ih => exact (respond_touches _ peer octets).numbered ih
  | elsewhere hn h ih =>
    rw [h]
    exact ih

namespace Services.Touches

variable {s s' : Services} {peer : Peer} {u : Feed.User}

/-- What a member's call touches is confined to the member. -/
theorem confined (h : s.Touches (some u) peer s') (hs : s.store.Numbered)
    (hu : u.isOwner = false) : s.store.Confined u.userId s'.store := by
  rcases h.store with hsame | ⟨v, s₀, op, hv, hsame, hop, happly⟩
  · -- only users were recorded
    have hrefl := Feed.Store.confined_refl s'.store u.userId
    exact hrefl.of_sameRows hsame
  · -- one operation of the member's
    obtain rfl : u = v := Option.some.inj hv
    exact (Feed.Store.confined_apply (hs.sameRows hsame) hu hop happly).of_sameRows hsame

/-- What a call touches keeps the words of others. -/
theorem keepsWords (h : s.Touches (some u) peer s') (hs : s.store.Numbered) :
    s.store.KeepsWords u.userId s'.store := by
  rcases h.store with hsame | ⟨v, s₀, op, hv, hsame, hop, happly⟩
  · have hrefl := Feed.Store.keepsWords_refl s'.store u.userId
    exact hrefl.of_sameRows hsame
  · obtain rfl : u = v := Option.some.inj hv
    exact (Feed.Store.keepsWords_apply (hs.sameRows hsame) hop happly).of_sameRows hsame

/-- What a call touches in the audience is the caller's. -/
theorem onlyOf (h : s.Touches (some u) peer s') :
    s.audience.OnlyOf u.userId peer s'.audience := by
  rcases h.audience with hsame | ⟨v, hv, honly⟩
  · -- the audience is as it was
    intro p _
    rw [hsame]
    exact .inl rfl
  · -- it changed for the caller
    obtain rfl : u = v := Option.some.inj hv
    exact honly

end Services.Touches

/-- Octets that stand for nobody change neither a row nor the audience; those of a member who is not
the owner change nothing but counters and what is the member's own; and those of nobody at all put
words into the comment of someone else. -/
theorem receive_confined {n : Node σ} (hn : n.Reachable) (peer : Peer) (octets : Bytes) :
    let s := n.services
    let s' := (n.receive peer octets).services
    (s.actor? octets = none → s.store.SameRows s'.store ∧ s'.audience = s.audience) ∧
      (∀ u, s.actor? octets = some u → u.isOwner = false →
        s.store.Confined u.userId s'.store ∧ s.audience.OnlyOf u.userId peer s'.audience) ∧
      ∀ u, s.actor? octets = some u → s.store.KeepsWords u.userId s'.store := by
  intro s s'
  have hs : s.store.Numbered := hn.numbered
  have htouches : s.Touches (s.actor? octets) peer s' := respond_touches s peer octets
  refine ⟨fun hnobody => ?_, fun u hu howner => ?_, fun u hu => ?_⟩
  · -- nobody
    rw [hnobody] at htouches
    exact htouches.quiet
  · -- a member who is not the owner
    rw [hu] at htouches
    exact ⟨htouches.confined hs howner, htouches.onlyOf⟩
  · -- anybody
    rw [hu] at htouches
    exact htouches.keepsWords hs

/-- A member of the node below. -/
def sampleMember : Feed.User where
  userId := 2
  did := "did:m"
  name := "m"
  email := ""
  isOwner := false

/-- A new node that knows its owner and one member. -/
def sampleStart : Node Memory where
  services :=
    { store := .empty
      resolver :=
        ((Auth.Resolver.new "").remember "o"
          { sampleMember with userId := 1, isOwner := true }).remember "m" sampleMember
      audience := .empty
      drives := .empty
      files := .empty
      uploads := []
      now := 5
      ceiling := 1000
      versionCode := 1 }
  delivery := .new (.new true)

/-- The node with a channel of the owner's. -/
def sampleNode : Node Memory :=
  sampleStart.receive "owner"
    (Request.make .v1 1 (.call .createChannel
      { token := "o"
        name := "news"
        introduction := ""
        avatar := []
        tipMethods := ""
        proof := "" })).encode

/-- A member subscribes to the channel. -/
theorem receive_confined_subscription :
    let octets :=
      (Request.make .v1 7 (.call .subscribeChannel { token := "m", channelId := 1 })).encode
    (sampleNode.receive "member" octets).services.store.subscriptions = [⟨2, 1, 5⟩] ∧
      sampleNode.services.store.Confined 2
        (sampleNode.receive "member" octets).services.store := by
  have hn : sampleNode.Reachable := .receive (n := sampleStart) (.start rfl) _ _
  obtain ⟨-, hmember, -⟩ := receive_confined hn "member"
    (Request.make .v1 7 (.call .subscribeChannel { token := "m", channelId := 1 })).encode
  exact ⟨by decide +kernel, (hmember sampleMember (by decide +kernel) rfl).1⟩

end FeedNode.Node
