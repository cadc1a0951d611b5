import FeedNode.Delivery.Carrier
import FeedNode.Dict
import FeedNode.Rpc.Version

/-!
# The audience

The peers that asked to be told of news, each bound to the user who asked and to the channels of
that user. A peer is bound once, until it goes offline.
-/

namespace FeedNode.Delivery

open Rpc (Dialect Version)

/-- What a peer in the audience is told, and how. -/
structure Follower where
  userId : Nat
  dialect : Dialect
  version : Version
  channels : List Nat
deriving DecidableEq, Repr

namespace Follower

/-- The follower also follows the channel. -/
def follow (l : Follower) (channelId : Nat) : Follower :=
  if l.channels.contains channelId then l else { l with channels := l.channels ++ [channelId] }

/-- The follower does not follow the channel any more. -/
def unfollow (l : Follower) (channelId : Nat) : Follower :=
  { l with channels := l.channels.filter fun c => c ≠ channelId }

end Follower

/-- The peers that asked to be told of news. -/
structure Audience where
  followers : Dict Peer Follower
deriving Repr

namespace Audience

/-- Nobody. -/
def empty : Audience := ⟨.empty⟩

/-- The number of peers. -/
def size (a : Audience) : Nat :=
  a.followers.size

/-- The peer asked to be told. -/
def isActive (a : Audience) (peer : Peer) : Bool :=
  a.followers.contains peer

/-- Binds a peer, unless it is bound already. -/
def activate? (a : Audience) (peer : Peer) (l : Follower) : Option Audience :=
  if a.isActive peer then none else some ⟨a.followers.insert peer l⟩

/-- Ends the binding of a peer. -/
def deactivate (a : Audience) (peer : Peer) : Audience :=
  ⟨a.followers.erase peer⟩

/-- A user subscribed: every peer bound to the user follows the channel. -/
def addChannel (a : Audience) (userId channelId : Nat) : Audience :=
  ⟨a.followers.mapValues fun l => if l.userId = userId then l.follow channelId else l⟩

/-- A user unsubscribed: no peer bound to the user follows the channel any more. -/
def removeChannel (a : Audience) (userId channelId : Nat) : Audience :=
  ⟨a.followers.mapValues fun l => if l.userId = userId then l.unfollow channelId else l⟩

/-- The peers that follow a channel. -/
def following (a : Audience) (channelId : Nat) : List (Peer × Follower) :=
  a.followers.entries.filter fun (_, l) => l.channels.contains channelId

end Audience

end FeedNode.Delivery
