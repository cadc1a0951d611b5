import FeedNode.Proofs.Node.Confinement
import FeedNode.Proofs.Node.Outcomes

/-!
# A call that fails leaves nothing behind

Who is told of an error may take it that nothing was done. No row was written, no token or challenge
came or went, nobody follows a channel more or less than before, and nobody was told of any news.
What may have changed is the caller's own row among the users, for the three methods that record
their caller before they do anything else.

Main statement: `failed_undone`.
-/

namespace FeedNode

/-! ## Users -/

namespace Feed.Store

/-- All users but one are the same. -/
def SameOthers (userId : Nat) (s s' : Store) : Prop :=
  (s'.users.filter fun v => v.userId ≠ userId) = s.users.filter fun v => v.userId ≠ userId

/-- A user who is replaced is not among the others, before or after. -/
theorem filter_ne_replace {row : User} {userId : Nat} (hrow : row.userId = userId)
    (users : List User) :
    ((users.map fun old => if old.userId == userId then row else old).filter
        fun v => v.userId ≠ userId) =
      users.filter fun v => v.userId ≠ userId := by
  induction users with
  | nil => rfl
  | cons old users ih =>
    rw [List.map_cons, List.filter_cons, ih, List.filter_cons]
    -- the user that is replaced, or another one
    by_cases hmatch : old.userId = userId
    · simp [hmatch, hrow]
    · simp [hmatch]

/-- Entering a user changes no other. -/
theorem sameOthers_upsertUser (s : Store) (u : User) :
    s.SameOthers u.userId (s.upsertUser u) := by
  rw [SameOthers, upsertUser]
  split
  · -- the user was there
    exact filter_ne_replace (by rfl) s.users
  · -- the user is new
    exact filter_ne_append User.userId rfl

end Feed.Store

namespace Node

open Delivery (Carrier Peer)
open Feed (User)
open Rpc (ErrorCode Method Request Response)

variable {σ : Type} [Carrier σ] {n : Node σ} {peer : Peer} {octets : Bytes} {r : Response}

/-- The method that a message calls. -/
def method? (octets : Bytes) : Option Method :=
  (decodeAny octets).toOption.bind fun d => d.request.params.method?

/-- All that came of a message is an error for its sender and, if the method records its caller, the
row of the user that the message stands for. -/
structure Undone (n : Node σ) (peer : Peer) (octets : Bytes) (r : Response) (n' : Node σ) :
    Prop where
  outputs : (respond n.services peer octets).2 = [.enqueue r]
  delivery : n'.delivery = n.delivery.enqueue peer r.encode
  rows : n.services.store.SameRows n'.services.store
  resolver : n'.services.resolver = n.services.resolver
  audience : n'.services.audience = n.services.audience
  users : n'.services.store.users = n.services.store.users ∨
    ∃ u m, n.services.actor? octets = some u ∧ method? octets = some m ∧
      m.recordsCaller = true ∧ n.services.store.SameOthers u.userId n'.services.store

/-- A message that only gave an error undid nothing, since it did nothing. -/
theorem Undone.of_same (h : respond n.services peer octets = (n.services, [.enqueue r])) :
    n.Undone peer octets r (n.receive peer octets) := by
  rw [receive, h]
  exact ⟨by rw [h], rfl, .refl _, rfl, rfl, .inl rfl⟩

/-- What a handler leaves behind that fails is no more than the row of its caller. -/
theorem Undone.of_kept {s' : Services} {caller : Option User} {m : Method}
    (h : respond n.services peer octets = (s', [.enqueue r]))
    (hkept : n.services.Kept caller m s') (hm : method? octets = some m)
    (hcaller : caller = none ∨ caller = n.services.actor? octets) :
    n.Undone peer octets r (n.receive peer octets) := by
  rw [receive, h]
  obtain ⟨hstore, hresolver, haudience⟩ := hkept
  rcases hstore with hsame | ⟨u, hu, hrecords, hstore⟩
  · -- the handler left the services
    exact ⟨by rw [h], rfl, by rw [hsame]; exact .refl _, hresolver, haudience, .inl (by rw [hsame])⟩
  · -- it recorded the caller, whom the message stands for
    have hactor : n.services.actor? octets = some u := by
      rcases hcaller with hnone | hactor
      · rw [hnone] at hu
        cases hu
      · rw [← hactor, hu]
    refine ⟨by rw [h], rfl, ?_, hresolver, haudience, .inr ⟨u, m, hactor, hm, hrecords, ?_⟩⟩
    · rw [hstore]
      exact Feed.Store.sameRows_upsertUser _ u
    · rw [hstore]
      exact Feed.Store.sameOthers_upsertUser _ u

/-- A call that is served is not answered by an error. -/
theorem isError_of_served {s s' : Services} {request : Request} {out : List Output}
    (h : serve s peer request = (s', .ok out)) : ∀ r ∈ answers out, r.isError = false := by
  rcases serve_ok h with ⟨-, payload, hout⟩ | ⟨-, hout⟩
  · -- one answer, with what the handler gave
    intro r hr
    rw [hout] at hr
    rw [List.mem_singleton.1 hr]
    rfl
  · -- pages are no errors
    exact hout.isError

/-- If a message is answered by an error, nothing was done: no row was written but perhaps the one
of the caller among the users, the resolver and the audience are as they were, and nothing goes out
but the error. -/
theorem failed_undone (hr : r ∈ answers (respond n.services peer octets).2)
    (herror : r.isError = true) : n.Undone peer octets r (n.receive peer octets) := by
  have hresponds := respond_responds n.services peer octets
  generalize hrespond : respond n.services peer octets = result at hresponds hr
  cases hresponds with
  -- what is dropped is not answered
  | dropped => cases hr
  -- refused before a handler saw it
  | refused r' =>
    obtain rfl : r = r' := List.mem_singleton.1 hr
    exact .of_same hrespond
  | @failed d s' code hd hprocessed _ hserve =>
    obtain rfl : r = .failureFor d.request code := List.mem_singleton.1 hr
    -- refused on the way to the handler, or by the handler
    rcases serve_error hserve with hsame | ⟨m, caller, hm, hcaller, hkept⟩
    · rw [hsame] at hrespond
      exact .of_same hrespond
    · have hmethod : method? octets = some m := by
        rw [method?, hd]
        exact hm
      have hactor : n.services.actor? octets = n.services.sender? d.request := by
        rw [Services.actor?, hd]
        exact if_pos hprocessed
      rw [← hactor] at hcaller
      exact .of_kept hrespond hkept hmethod hcaller
  | served _ _ hserve =>
    rw [isError_of_served hserve r hr] at herror
    cases herror

/-- A member who subscribes to a channel that there is not is told so, and is among the users from
then on. -/
theorem failed_undone_subscription :
    let octets :=
      (Request.make .v1 7 (.call .subscribeChannel { token := "m", channelId := 9 })).encode
    sampleNode.services.store.users = [] ∧
      (sampleNode.receive "member" octets).services.store.users.map User.userId = [2] ∧
      ∃ r : Response, r.errorNumber? = some ErrorCode.notFound.number ∧
        sampleNode.Undone "member" octets r (sampleNode.receive "member" octets) := by
  intro octets
  have hanswer : (answers (respond sampleNode.services "member" octets).2).any
      (fun r => r.errorNumber? == some ErrorCode.notFound.number) = true := by
    decide +kernel
  obtain ⟨r, hr, hnumber⟩ := List.any_eq_true.1 hanswer
  have hnotFound : r.errorNumber? = some ErrorCode.notFound.number := eq_of_beq hnumber
  have herror : r.isError = true := by rw [Response.isError, hnotFound, Option.isSome_some]
  exact ⟨by decide +kernel, by decide +kernel, r, hnotFound, failed_undone hr herror⟩

end Node

end FeedNode
