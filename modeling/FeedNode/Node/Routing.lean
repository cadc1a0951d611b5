import FeedNode.Auth.Resolver
import FeedNode.Rpc.Envelope

/-!
# Routing

A call goes to the first listener that serves its method, and only if the caller may make it: a
method with a token needs one that stands for a user, and an owner's method needs the owner's.
-/

namespace FeedNode.Node

open Auth (Resolver)
open Feed (User)
open Rpc (Access ErrorCode Method Request)

/-- The user who makes a call of the given access, if the access asks for one. -/
def authorize (r : Resolver) (access : Access) (request : Request) :
    Except ErrorCode (Option User) :=
  if access = .anyone then .ok none
  else if !r.isReady then .error .notReady
  else
    let token := request.params.token?.getD ""
    if token = "" then .error .invalidToken
    else
      match r.verify token with
      | .error e => .error e.code
      | .ok u => if access = .owner ∧ !u.isOwner then .error .notAuthorized else .ok (some u)

/-- The access of a method; one without a token is open to anyone. -/
def effectiveAccess (m : Method) : Access :=
  if m.hasToken then m.access else .anyone

/-- The first of some listeners that serves the method of a call, and the user who makes it. -/
def route {ι : Type} (listeners : List ι) (serves : ι → Method → Bool) (r : Resolver)
    (request : Request) : Except ErrorCode (ι × Option User) :=
  match request.params.method? with
  | none => .error .unimplemented
  | some m =>
    match listeners.find? fun l => serves l m with
    | none => .error .unimplemented
    | some l => (authorize r (effectiveAccess m) request).map fun caller => (l, caller)

end FeedNode.Node
