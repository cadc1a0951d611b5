import FeedNode.Node.Services
import FeedNode.Rpc.Paging

/-!
# Paged queries

The queries over many channels, answered in pages. Every page is an answer to the same call; a
query without rows is not answered at all.
-/

namespace FeedNode.Node.Queries

open Rpc (QueryArgs SubscriberCountArgs Page Payload WireSize wireSize)
open Feed (Criteria)

/-- An identifier of a query, which must not be negative. -/
def id? (n : Int64) : Option Nat :=
  if 0 ≤ n then some n.toInt.toNat else none

/-- The channel, the post and the criteria of a query. -/
def target? (a : QueryArgs) : Option (Nat × Nat × Criteria) := do
  let channelId ← id? a.channelId
  let postId ← id? a.postId
  let criteria ← Criteria.ofWire? a.by_ a.upper a.lower a.maxCount
  return (channelId, postId, criteria)

/-- The answers that carry some rows in pages. -/
def paged {α : Type} [WireSize α] (s : Services) (c : Call) (payload : Page α → Payload)
    (rows : List α) : Outcome :=
  s.finish ((Page.split s.ceiling wireSize rows).map fun page =>
    .enqueue (c.answer (payload page)))

/-- Comments of a post, of a channel or of all. -/
def comments (s : Services) (c : Call) (a : QueryArgs) : Outcome :=
  match target? a with
  | none => s.fail .invalidArgument
  | some (channelId, postId, criteria) =>
    paged s c .comments
      ((s.store.listComments channelId postId criteria).map (.ofComment c.version))

/-- The counters of a post, of the posts of a channel or of all. -/
def postCounts (s : Services) (c : Call) (a : QueryArgs) : Outcome :=
  match target? a with
  | none => s.fail .invalidArgument
  | some (channelId, postId, criteria) =>
    paged s c .postCounts ((s.store.listPostCounts channelId postId criteria).map .ofCounts)

/-- The number of subscribers of a channel or of all. -/
def subscriberCounts (s : Services) (c : Call) (a : SubscriberCountArgs) : Outcome :=
  match id? a.channelId with
  | none => s.fail .invalidArgument
  | some channelId =>
    paged s c .subscriberCounts ((s.store.listSubscriberCounts channelId).map .ofPair)

end FeedNode.Node.Queries
