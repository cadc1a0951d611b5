import FeedNode.Delivery.Queue
import FeedNode.Node.Backup
import FeedNode.Node.Feeds
import FeedNode.Node.Queries
import FeedNode.Node.Routing
import FeedNode.Node.SignIn
import FeedNode.Rpc.Decoding

/-!
# The node

A node takes the octets that peers send, serves the calls in them, and sends what comes of it. The
octets of a call are read in the versioned dialect first, and in the legacy one if that fails or
does not know the method. Whatever goes wrong after an identifier was read is answered under it;
octets without one are dropped.
-/

namespace FeedNode.Node

open Delivery (Carrier Peer Queues)
open Rpc (Decoded Dialect ErrorCode Family Method Params Request Response WireError)

/-- Serves a call of a method. -/
def handle (s : Services) (c : Call) : (m : Method) → m.Args → Outcome
  | .standardSignIn, a => SignIn.signIn s c a
  | .standardDidAuth, a => SignIn.didAuth s c a
  | .declareOwner, a => SignIn.declareOwner s c a
  | .getMultiComments, a => Queries.comments s c a
  | .getMultiLikesAndCommentsCount, a => Queries.postCounts s c a
  | .getMultiSubscribersCount, a => Queries.subscriberCounts s c a
  | .backupServiceData, a => Backup.backup s c a
  | .createChannel, a => Feeds.createChannel s c a
  | .publishPost, a => Feeds.publishPost s c a
  | .editPost, a => Feeds.editPost s c a
  | .deletePost, a => Feeds.deletePost s c a
  | .postComment, a => Feeds.postComment s c a
  | .editComment, a => Feeds.editComment s c a
  | .deleteComment, a => Feeds.deleteComment s c a
  | .blockComment, a => Feeds.setBlocked s c a true
  | .unblockComment, a => Feeds.setBlocked s c a false
  | .postLike, a => Feeds.postLike s c a
  | .postUnlike, a => Feeds.postUnlike s c a
  | .getMyChannels, a => Feeds.myChannels s c a
  | .getChannels, a => Feeds.channels s c a
  | .getChannelDetail, a => Feeds.channelDetail s c a
  | .getSubscribedChannels, a => Feeds.subscribedChannels s c a
  | .getPosts, a => Feeds.posts s c a
  | .getLikedPosts, a => Feeds.likedPosts s c a
  | .getComments, a => Feeds.comments s c a
  | .getStatistics, a => Feeds.statistics s c a
  | .subscribeChannel, a => Feeds.subscribe s c a
  | .unsubscribeChannel, a => Feeds.unsubscribe s c a
  | .enableNotification, a => Feeds.enableNotification s c a
  | .getServiceVersion, a => Feeds.serviceVersion s c a

/-- The listeners of a node, in the order in which they are asked. -/
def listeners : List Family :=
  [.feed, .auth, .channel, .service]

/-- Serves a request from a peer: routes it and hands it to its handler. -/
def serve (s : Services) (peer : Peer) (request : Request) : Outcome :=
  match route listeners (fun f m => m.family == f) s.resolver request, request.params with
  | .error code, _ => s.fail code
  | .ok (_, caller), .call m args => handle s { peer, caller, request } m args
  | .ok _, .unknown => s.fail .unimplemented

/-- Reads a request in either dialect; an error comes with the dialect that it belongs to. -/
def decodeAny (octets : Bytes) : Except (Dialect × WireError) Decoded :=
  match Rpc.decode octets with
  | .ok d =>
    if d.status = .unknownMethod then
      match Rpc.decodeLegacy octets with
      | .ok legacy => if legacy.isProcessed then .ok legacy else .ok d
      | .error _ => .ok d
    else .ok d
  | .error (.badParams id method) => .error (.versioned, .badParams id method)
  | .error e =>
    match Rpc.decodeLegacy octets with
    | .ok legacy => .ok legacy
    | .error (.badParams id method) => .error (.legacy, .badParams id method)
    | .error _ => .error (.versioned, e)

/-- The answer to octets that are no request. -/
def refusal (dialect : Dialect) (e : WireError) (id : UInt64) : Response :=
  let code := match e with
    | .badParams _ _ => e.code
    | _ => .unimplemented
  match dialect with
  | .versioned => .failure code id
  | .legacy => .failureFor (.untyped .legacy .v1 "" id) code

/-- What comes of the octets that a peer sent. -/
def respond (s : Services) (peer : Peer) (octets : Bytes) : Services × List Output :=
  match decodeAny octets with
  | .error (dialect, e) =>
    match e.id?.or (Rpc.peekId octets) with
    | none => (s, [])
    | some id => (s, [.enqueue (refusal dialect e id)])
  | .ok d =>
    let fail (code : ErrorCode) : List Output := [.enqueue (.failureFor d.request code)]
    match d.status with
    | .unknownMethod => (s, fail .unimplemented)
    | .unsupportedVersion => (s, fail .unsupportedVersion)
    | .processed =>
      -- a zero stands for no identifier
      if d.request.id = 0 then (s, fail .invalidArgument)
      else
        match serve s peer d.request with
        | (s, .ok out) => (s, out)
        | (s, .error code) => (s, fail code)

end FeedNode.Node

namespace FeedNode

/-- The services of a node and the queues of its peers. -/
structure Node (σ : Type) where
  services : Node.Services
  delivery : Delivery.Queues σ

namespace Node

open Delivery (Carrier Peer Queues)

variable {σ : Type} [Carrier σ]

/-- Sends a frame. The caller is the peer whose call is answered. -/
def send (caller : Peer) (d : Queues σ) : Output → Queues σ
  | .reply r => d.sendDirect caller r.encode .handler
  | .enqueue r => d.enqueue caller r.encode
  | .notify peer n => d.enqueue peer n.encode

/-- Takes the octets that a peer sent. -/
def receive (n : Node σ) (peer : Peer) (octets : Bytes) : Node σ :=
  let (services, out) := respond n.services peer octets
  { services, delivery := out.foldl (send peer) n.delivery }

/-- A peer went offline: what it was owed is dropped, and it is not told of news any more. -/
def peerOffline (n : Node σ) (peer : Peer) : Node σ :=
  { services := { n.services with audience := n.services.audience.deactivate peer }
    delivery := n.delivery.peerOffline peer }

end Node

end FeedNode
