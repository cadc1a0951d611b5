import FeedNode.Proofs.Node.Confinement
import FeedNode.Proofs.Node.TwoRuns

/-!
# Strangers see nothing of the feeds

What a node answers to octets that stand for nobody does not depend on its store: not the code of an
error, and not the answer to those calls that anybody may make. The routing turns away all others
before a handler sees them. Two of the calls that are open write to the store, for they record
users, but none of them reads it.

Main statement: `strangers_blind`.
-/

namespace FeedNode.Node

open Delivery (Carrier Memory Peer)
open Feed (Store)
open Rpc (Method Request)

/-! ## One message -/

/-- The services differ in nothing but the store. -/
def Services.SameButStore (s s' : Services) : Prop :=
  s' = { s with store := s'.store }

section Calls

variable {s s' : Services} {c : Call} {peer : Peer}

/-- Differing in the store only is a relation with which signing in agrees. -/
theorem sharesResolver_sameButStore : SharesResolver Services.SameButStore where
  resolver h := by rw [h]
  withResolver h resolver := by rw [Services.SameButStore, h]
  record h u := by rw [Services.SameButStore, Services.record, Services.record, h]

/-- Services that differ in the store only have one resolver. -/
theorem Services.SameButStore.resolver (h : s.SameButStore s') : s'.resolver = s.resolver :=
  sharesResolver_sameButStore.resolver h

/-- The calls without a token do not read the store. -/
theorem handle_open (h : s.SameButStore s') {m : Method} (hm : m.hasToken = false) (args : m.Args) :
    SameOutcome Services.SameButStore (handle s c m args) (handle s' c m args) := by
  cases m with
  | standardSignIn => exact signIn_same sharesResolver_sameButStore h c args
  | standardDidAuth => exact didAuth_same sharesResolver_sameButStore h c args
  | declareOwner => exact declareOwner_same sharesResolver_sameButStore h c args
  | getServiceVersion =>
    refine ⟨h, ?_⟩
    rw [h]
    rfl
  | _ => cases hm

/-- What anyone may call has no token. -/
theorem hasToken_eq_false {m : Method} (h : effectiveAccess m = .anyone) : m.hasToken = false := by
  cases m <;> first | rfl | cases h

/-- A call of nobody is turned away, or is one of those without a token. -/
theorem serve_strangers (h : s.SameButStore s') {request : Request}
    (hsender : s.sender? request = none) :
    SameOutcome Services.SameButStore (serve s peer request) (serve s' peer request) := by
  -- both nodes route alike, for they have the same resolver
  cases hroute : route listeners (fun f m => m.family == f) s.resolver request with
  | error code =>
    simp only [serve, h.resolver, hroute]
    exact ⟨h, rfl⟩
  | ok found =>
    obtain ⟨l, caller⟩ := found
    obtain ⟨m', hmethod, hauth⟩ := route_eq_ok hroute
    cases hparams : request.params with
    | unknown =>
      -- what has no method is not routed
      rw [hparams] at hmethod
      cases hmethod
    | call m args =>
      rw [hparams] at hmethod
      obtain rfl : m = m' := Option.some.inj hmethod
      -- who is let through calls what is open to anyone, or has a token that verifies
      obtain ⟨hanyone, -⟩ | ⟨u, -, hu, -⟩ := authorize_ok hauth
      · simp only [serve, h.resolver, hroute, hparams]
        exact handle_open h (hasToken_eq_false hanyone) args
      · rw [hsender] at hu
        cases hu

/-- What is answered to octets that stand for nobody does not depend on the store. -/
theorem respond_strangers (h : s.SameButStore s') (peer : Peer) {octets : Bytes}
    (hactor : s.actor? octets = none) :
    (respond s' peer octets).2 = (respond s peer octets).2 ∧
      (respond s peer octets).1.SameButStore (respond s' peer octets).1 := by
  -- a stranger's request has no sender
  refine respond_same h fun d hd hprocessed => serve_strangers h ?_
  simpa only [Services.actor?, hd, hprocessed, if_true] using hactor

end Calls

/-! ## Runs -/

/-- Two nodes that differ in nothing but the contents of the store. -/
structure SameButStore {σ : Type} (n n' : Node σ) : Prop where
  services : n.services.SameButStore n'.services
  delivery : n'.delivery = n.delivery

/-- The octets stand for nobody: they are no request, or one of a method without a token, or their
token does not verify. -/
def Services.OfStranger (s : Services) (octets : Bytes) : Prop :=
  s.actor? octets = none

instance (s : Services) (octets : Bytes) : Decidable (s.OfStranger octets) :=
  inferInstanceAs (Decidable (_ = none))

/-- As long as all messages are of strangers, what a node sends and what becomes of it, its store
apart, do not depend on its store. -/
theorem strangers_blind {σ : Type} [Carrier σ] {n n' : Node σ} (h : n.SameButStore n')
    {messages : List (Peer × Bytes)} (hmessages : n.EachMessage Services.OfStranger messages) :
    n'.spoken messages = n.spoken messages ∧
      (n.receiveAll messages).SameButStore (n'.receiveAll messages) := by
  -- one step keeps the two nodes alike, and so does a run
  obtain ⟨hspoken, hdelivery, hservices⟩ :=
    two_runs (R := Services.SameButStore) (fun s s' peer octets h hstranger =>
      respond_strangers h peer hstranger) h.services h.delivery hmessages
  exact ⟨hspoken, hservices, hdelivery⟩

/-- Octets that are no request, two calls that are open to anyone, and a listing under a token that
nobody has. One of the two nodes has a channel and the other has none. -/
theorem strangers_blind_channel :
    let n' : Node Memory :=
      { sampleNode with services := { sampleNode.services with store := .empty } }
    let declare : Request :=
      .make .v1 2 (.call .declareOwner { nonce := "n", ownerDid := "did:b" })
    let messages : List (Peer × Bytes) :=
      [("a", [0xC1]),
        ("a", (Request.make .v2 1 (.call .getServiceVersion {})).encode),
        ("b", declare.encode),
        ("b", (Request.makeLegacy 3 (.call .getChannels
          { token := "b", by_ := 0, upper := 0, lower := 0, maxCount := 0 })).encode)]
    sampleNode.services.store.channels.length = 1 ∧
      (sampleNode.spoken messages).map Prod.fst = ["a", "b", "b"] ∧
      (sampleNode.receiveAll messages).services.store.users.length = 1 ∧
      n'.spoken messages = sampleNode.spoken messages := by
  intro n' declare messages
  -- each message is a stranger's when its turn comes
  have hstrangers : sampleNode.EachMessage Services.OfStranger messages :=
    ⟨by decide +kernel, by decide +kernel, by decide +kernel, by decide +kernel, trivial⟩
  have hsame : sampleNode.SameButStore n' := ⟨rfl, rfl⟩
  exact ⟨by decide +kernel, by decide +kernel, by decide +kernel,
    (strangers_blind hsame hstrangers).1⟩

end FeedNode.Node
