import FeedNode.Auth.Resolver
import FeedNode.Delivery.Audience
import FeedNode.Feed.Store.Channels
import FeedNode.Feed.Store.Comments
import FeedNode.Feed.Store.Likes
import FeedNode.Feed.Store.Listing
import FeedNode.Feed.Store.Posts
import FeedNode.Files.Drive
import FeedNode.Rpc.Envelope

/-!
# Services

What the handlers of calls work on: the store, the token resolver, the audience, the drives and the
clock. A handler gives the services after the call and an outcome: either the frames to be sent, in
order, or the code of an error, which the caller of the handler answers with.
-/

namespace FeedNode.Node

open Delivery (Peer Audience)
open Feed (Store StoreError User)
open Rpc (ErrorCode Notice Request Response Payload News)

/-- Everything that a handler may read or change. -/
structure Services where
  store : Store
  resolver : Auth.Resolver
  audience : Audience
  drives : Dict String (Files.Drive Store)
  /-- What the folder drives keep. -/
  files : Files.Tree Store
  /-- What was sent to the other drives. -/
  uploads : Files.Uploads Store
  /-- The time in whole seconds. -/
  now : Nat
  /-- The greatest size of a page. -/
  ceiling : Nat
  versionCode : Int64

/-- A frame to be sent. -/
inductive Output where
  /-- To the caller, past its queue. -/
  | reply (r : Response)
  /-- To the caller, through its queue. -/
  | enqueue (r : Response)
  /-- To some peer, through its queue. -/
  | notify (peer : Peer) (n : Notice)

/-- What came of a call. -/
abbrev Outcome := Services × Except ErrorCode (List Output)

/-- A call that may be served. -/
structure Call where
  peer : Peer
  /-- The user that the token stands for, for the methods that need one. -/
  caller : Option User
  request : Request

namespace Call

/-- The answer to the call. -/
def answer (c : Call) (payload : Payload) : Response :=
  .reply c.request payload

/-- The version that the answer is written in. -/
def version (c : Call) : Rpc.Version :=
  c.request.version

end Call

namespace Services

/-- The services as they are, and an error. -/
def fail (s : Services) (code : ErrorCode) : Outcome :=
  (s, .error code)

/-- The services as they are, and the frames to be sent. -/
def finish (s : Services) (out : List Output) : Outcome :=
  (s, .ok out)

/-- Goes on as the user who calls. -/
def asMember (s : Services) (c : Call) (k : User → Outcome) : Outcome :=
  match c.caller with
  | none => s.fail .invalidToken
  | some u => k u

/-- Goes on with the result and the store of an operation that did not fail. -/
def withStore {α : Type} (s : Services) (r : Except StoreError (α × Store))
    (k : α → Services → Outcome) : Outcome :=
  match r with
  | .error e => s.fail e.code
  | .ok (a, store) => k a { s with store }

/-- Goes on with the store of an operation that did not fail. -/
def withStore_ (s : Services) (r : Except StoreError Store) (k : Services → Outcome) : Outcome :=
  match r with
  | .error e => s.fail e.code
  | .ok store => k { s with store }

/-- Records the caller among the users, so that the name shows up on what the caller writes. -/
def record (s : Services) (u : User) : Services :=
  { s with store := s.store.upsertUser u }

/-- The notices of an event to all who follow a channel, each in the form that the peer asked
for. -/
def tell (s : Services) (channelId : Nat) (method : String) (news : News) : List Output :=
  (s.audience.following channelId).map fun (peer, f) =>
    .notify peer { dialect := f.dialect, version := f.version, method, news }

end Services

end FeedNode.Node
