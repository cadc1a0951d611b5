import FeedNode.Node.Services

/-!
# Signing in

The calls that anyone may make: getting a challenge, exchanging it for a token, and declaring the
owner of a new node.
-/

namespace FeedNode.Node.SignIn

open Rpc (SignInArgs DidAuthArgs DeclareOwnerArgs)

/-- Gives a challenge for the DID that a document names. -/
def signIn (s : Services) (c : Call) (a : SignInArgs) : Outcome :=
  if a.document = "" then s.fail .invalidArgument
  else
    match s.resolver.signIn a.document with
    | .error e => s.fail e.code
    | .ok (challenge, resolver) =>
      { s with resolver }.finish [.enqueue (c.answer (.challenge challenge))]

/-- Exchanges a challenge for a token, and records the user. -/
def didAuth (s : Services) (c : Call) (a : DidAuthArgs) : Outcome :=
  if a.presentation = "" then s.fail .invalidArgument
  else
    match s.resolver.didAuth (Feed.orPlaceholder a.userName) a.presentation with
    | .error e => s.fail e.code
    | .ok ((token, u), resolver) =>
      ({ s with resolver }.record u).finish [.enqueue (c.answer (.token token))]

/-- Declares the owner, and records the owner when this is the first declaration. -/
def declareOwner (s : Services) (c : Call) (a : DeclareOwnerArgs) : Outcome :=
  if a.nonce = "" ∨ a.ownerDid = "" then s.fail .invalidArgument
  else
    match s.resolver.declareOwner a.ownerDid with
    | .error e => s.fail e.code
    | .ok (isFirst, resolver) =>
      let s := { s with resolver }
      let owner : Feed.User :=
        { userId := Auth.ownerUserId
          did := Text.trim a.ownerDid
          name := ""
          email := ""
          isOwner := true }
      let s := if isFirst then s.record owner else s
      s.finish [.enqueue (c.answer (.ownership "owner_declared" none none))]

end FeedNode.Node.SignIn
