import FeedNode.Proofs.Node.Answers

/-!
# Two runs over the same messages

To say that something has no part in what a node sends is to compare two runs: two nodes that differ
in nothing else take the same messages, and send the same. It is enough to compare what comes of one
message (`two_runs`): the queues and their carrier are given the same frames, whatever they are. And
for that it is enough to compare what comes of a call that is served (`respond_same`).
-/

namespace FeedNode.Node

open Delivery (Carrier Peer)

/-! ## One message -/

/-- Outcomes with the same result, which leave services that stand in a relation. -/
structure SameOutcome (R : Services → Services → Prop) (o o' : Outcome) : Prop where
  services : R o.1 o'.1
  result : o'.2 = o.2

/-- What comes of a message does not depend on what the services differ in, if that has no part in
serving it. -/
theorem respond_same {R : Services → Services → Prop} {s s' : Services} (h : R s s') {peer : Peer}
    {octets : Bytes}
    (hserve : ∀ d, decodeAny octets = .ok d → d.isProcessed = true →
      SameOutcome R (serve s peer d.request) (serve s' peer d.request)) :
    (respond s' peer octets).2 = (respond s peer octets).2 ∧
      R (respond s peer octets).1 (respond s' peer octets).1 := by
  cases hd : decodeAny octets with
  | error e =>
    -- what is answered, if anything, is made of the octets alone
    simp only [respond, hd]
    split <;> exact ⟨rfl, h⟩
  | ok d =>
    obtain ⟨request, status⟩ := d
    simp only [respond, hd]
    cases status with
    | unknownMethod => exact ⟨rfl, h⟩
    | unsupportedVersion => exact ⟨rfl, h⟩
    | processed =>
      obtain ⟨hservices, hresult⟩ := hserve _ hd rfl
      dsimp only at hservices hresult ⊢
      -- octets without an id are not served at all
      split
      · exact ⟨rfl, h⟩
      · generalize serve s peer request = o at hservices hresult
        generalize serve s' peer request = o' at hservices hresult
        obtain ⟨s₁, r⟩ := o
        obtain ⟨s₁', r'⟩ := o'
        obtain rfl : r' = r := hresult
        cases r' with
        | ok out => exact ⟨rfl, hservices⟩
        | error code => exact ⟨rfl, hservices⟩

/-! ## Signing in -/

/-- Services that stand in the relation have the same resolver, and stay in it if it changes and if
a user is recorded. -/
structure SharesResolver (R : Services → Services → Prop) : Prop where
  resolver {s s' : Services} (h : R s s') : s'.resolver = s.resolver
  withResolver {s s' : Services} (h : R s s') (resolver : Auth.Resolver) :
    R { s with resolver } { s' with resolver }
  record {s s' : Services} (h : R s s') (u : Feed.User) : R (s.record u) (s'.record u)

section SignIn

variable {R : Services → Services → Prop} (hR : SharesResolver R) {s s' : Services} (h : R s s')
  (c : Call)

include hR h

/-- Signing in comes to the same for services with one resolver. -/
theorem signIn_same (a : Rpc.SignInArgs) :
    SameOutcome R (SignIn.signIn s c a) (SignIn.signIn s' c a) := by
  rw [SignIn.signIn, SignIn.signIn, hR.resolver h]
  split
  · exact ⟨h, rfl⟩
  · split
    · exact ⟨h, rfl⟩
    · exact ⟨hR.withResolver h _, rfl⟩

/-- Answering a challenge comes to the same for services with one resolver. -/
theorem didAuth_same (a : Rpc.DidAuthArgs) :
    SameOutcome R (SignIn.didAuth s c a) (SignIn.didAuth s' c a) := by
  rw [SignIn.didAuth, SignIn.didAuth, hR.resolver h]
  split
  · exact ⟨h, rfl⟩
  · split
    · exact ⟨h, rfl⟩
    · exact ⟨hR.record (hR.withResolver h _) _, rfl⟩

/-- Declaring an owner comes to the same for services with one resolver. -/
theorem declareOwner_same (a : Rpc.DeclareOwnerArgs) :
    SameOutcome R (SignIn.declareOwner s c a) (SignIn.declareOwner s' c a) := by
  rw [SignIn.declareOwner, SignIn.declareOwner, hR.resolver h]
  split
  · exact ⟨h, rfl⟩
  · split
    · exact ⟨h, rfl⟩
    · rename_i isFirst resolver _
      cases isFirst with
      -- the first declaration records the owner
      | true => exact ⟨hR.record (hR.withResolver h resolver) _, rfl⟩
      | false => exact ⟨hR.withResolver h resolver, rfl⟩

end SignIn

/-! ## Runs -/

variable {σ : Type} [Carrier σ]

/-- The node after some messages. -/
def receiveAll (n : Node σ) (messages : List (Peer × Bytes)) : Node σ :=
  messages.foldl (fun n (peer, octets) => n.receive peer octets) n

/-- The frames that a node hands over for peers while it takes some messages, in order. -/
def spoken (n : Node σ) : List (Peer × Bytes) → List (Peer × Bytes)
  | [] => []
  | (peer, octets) :: messages =>
    (respond n.services peer octets).2.map (Output.frame peer) ++
      (n.receive peer octets).spoken messages

/-- Every message has the property when its turn comes, given the services that take it. -/
def EachMessage (P : Services → Bytes → Prop) (n : Node σ) : List (Peer × Bytes) → Prop
  | [] => True
  | (peer, octets) :: messages =>
    P n.services octets ∧ (n.receive peer octets).EachMessage P messages

/-- If what comes of one message is the same for services that stand in a relation, and leaves them
in it, then nodes with such services say the same all along. -/
theorem two_runs {R : Services → Services → Prop} {P : Services → Bytes → Prop}
    (hone : ∀ s s' peer octets, R s s' → P s octets →
      (respond s' peer octets).2 = (respond s peer octets).2 ∧
        R (respond s peer octets).1 (respond s' peer octets).1)
    {n n' : Node σ} (hservices : R n.services n'.services) (hdelivery : n'.delivery = n.delivery)
    {messages : List (Peer × Bytes)} (hmessages : n.EachMessage P messages) :
    n'.spoken messages = n.spoken messages ∧
      (n'.receiveAll messages).delivery = (n.receiveAll messages).delivery ∧
      R (n.receiveAll messages).services (n'.receiveAll messages).services := by
  -- both nodes change with each message, so the relation is what the induction carries
  induction messages generalizing n n' with
  | nil => exact ⟨rfl, hdelivery, hservices⟩
  | cons message messages ih =>
    obtain ⟨peer, octets⟩ := message
    obtain ⟨hfirst, hrest⟩ := hmessages
    -- the same frames are handed to the same queues
    obtain ⟨hout, hafter⟩ := hone n.services n'.services peer octets hservices hfirst
    have hqueues : (n'.receive peer octets).delivery = (n.receive peer octets).delivery := by
      rw [receive, receive, hdelivery]
      exact congrArg (fun out => out.foldl (send peer) n.delivery) hout
    obtain ⟨hspoken, hend⟩ := ih hafter hqueues hrest
    exact ⟨by rw [spoken, spoken, hout, hspoken], hend⟩

end FeedNode.Node
