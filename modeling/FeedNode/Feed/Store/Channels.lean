import FeedNode.Feed.Store

/-!
# Channels and subscriptions

Channels are created once and never removed; their names are distinct and their identifiers count
up from 1. A subscription is a pair of a user and a channel, and the channel counts them.
-/

namespace FeedNode.Feed.Store

/-- The identifier that the next channel gets. No channel is ever removed. -/
def nextChannelId (s : Store) : Nat :=
  s.channels.length + 1

/-- Adds a channel under a name that no other has. -/
def createChannel (s : Store) (now : Nat) (d : ChannelDraft) : Except StoreError (Nat × Store) :=
  if s.channels.any fun c => c.name == d.name then .error .alreadyExists
  else
    let channelId := s.nextChannelId
    let row : Channel :=
      { channelId
        name := d.name
        introduction := d.introduction
        avatar := d.avatar
        createdAt := now
        updatedAt := now
        subscribers := 0
        nextPostId := 1
        tipMethods := orPlaceholder d.tipMethods
        proof := orPlaceholder d.proof }
    .ok (channelId, { s with channels := s.channels ++ [row] })

/-- The user subscribes to the channel. -/
def isSubscribed (s : Store) (userId channelId : Nat) : Bool :=
  s.subscriptions.any fun x => x.userId == userId && x.channelId == channelId

/-- Subscribes a user who does not subscribe yet. -/
def subscribe (s : Store) (now userId channelId : Nat) : Except StoreError Store :=
  if (s.channel? channelId).isNone then .error .notFound
  else if s.isSubscribed userId channelId then .error .wrongState
  else
    let row : Subscription := { userId, channelId, createdAt := now }
    let s := { s with subscriptions := s.subscriptions ++ [row] }
    .ok (s.updateChannel channelId fun c => { c with subscribers := c.subscribers + 1 })

/-- Ends the subscription of a user who has one. -/
def unsubscribe (s : Store) (userId channelId : Nat) : Except StoreError Store :=
  if (s.channel? channelId).isNone then .error .notFound
  else if !s.isSubscribed userId channelId then .error .wrongState
  else
    let s :=
      { s with
        subscriptions :=
          s.subscriptions.filter fun x => !(x.userId == userId && x.channelId == channelId) }
    .ok (s.updateChannel channelId fun c => { c with subscribers := c.subscribers - 1 })

/-- The channels that a user subscribes to, in ascending order. -/
def subscribedIds (s : Store) (userId : Nat) : List Nat :=
  let ids := (s.subscriptions.filter fun x => x.userId == userId).map Subscription.channelId
  ids.mergeSort fun a b => decide (a ≤ b)

end FeedNode.Feed.Store
