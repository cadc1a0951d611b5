import FeedNode.Feed.Store.Likes

/-!
# Listings

The queries that answer with rows. Each one filters a table, puts the rows into the order that
decides between rows with equal keys, and lets the criteria bound, sort and cut them.

That order is: channels by identifier; posts by channel and number; comments and post counters of
one channel by their place in it; of one post number in all channels by channel, where the number
is also the key; and otherwise the order of insertion. Rows of one channel or of one post are
inserted in the order of their numbers.
-/

namespace FeedNode.Feed

/-- The columns of a channel that a listing can be ordered by. -/
def Channel.sortKeys (c : Channel) : SortKeys :=
  ⟨c.channelId, c.updatedAt, c.createdAt⟩

/-- The columns of a post that a listing can be ordered by. -/
def Post.sortKeys (p : Post) : SortKeys :=
  ⟨p.postId, p.updatedAt, p.createdAt⟩

/-- The columns of a comment that a listing can be ordered by. -/
def Comment.sortKeys (c : Comment) : SortKeys :=
  ⟨c.commentId, c.updatedAt, c.createdAt⟩

namespace Store

/-- Every identifier passes a zero, only an equal one anything else. -/
def matchesId (wanted id : Nat) : Bool :=
  wanted == 0 || wanted == id

/-- The rows in the order of two numbers, the first deciding. -/
def sortByPair {α : Type} (pair : α → Nat × Nat) (rows : List α) : List α :=
  rows.mergeSort fun a b =>
    decide ((pair a).1 < (pair b).1 ∨ (pair a).1 = (pair b).1 ∧ (pair a).2 ≤ (pair b).2)

/-- Puts rows that were filtered by a channel and a post into the order that decides between equal
keys. `channel`, `post` and `number` tell a row's place. -/
def baseOrder {α : Type} (channel post number : α → Nat) (channelId postId : Nat) (c : Criteria)
    (rows : List α) : List α :=
  if channelId != 0 then sortByPair (fun r => (post r, number r)) rows
  else if postId != 0 && c.field.ascending then sortByPair (fun r => (channel r, 0)) rows
  else rows

/-- All channels. -/
def listChannels (s : Store) (c : Criteria) : List Channel :=
  c.select Channel.sortKeys s.channels

/-- The channels that a user subscribes to. -/
def listSubscribed (s : Store) (userId : Nat) (c : Criteria) : List Channel :=
  c.select Channel.sortKeys <|
    s.channels.filter fun ch =>
      s.subscriptions.any fun x => x.userId == userId && x.channelId == ch.channelId

/-- The number of subscribers of one channel, or of each for a zero. -/
def listSubscriberCounts (s : Store) (channelId : Nat) : List (Nat × Nat) :=
  let rows := s.channels.filter fun ch => matchesId channelId ch.channelId
  (Criteria.all.select Channel.sortKeys rows).map fun ch => (ch.channelId, ch.subscribers)

/-- The posts of a channel. -/
def listPosts (s : Store) (channelId : Nat) (c : Criteria) : List Post :=
  c.select Post.sortKeys (s.posts.filter fun p => p.channelId == channelId)

/-- The posts that a user likes. -/
def listLiked (s : Store) (userId : Nat) (c : Criteria) : List Post :=
  let liked := s.posts.filter fun p =>
    s.likes.any (Like.isBy userId p.channelId p.postId 0)
  c.select Post.sortKeys (sortByPair (fun p => (p.channelId, p.postId)) liked)

/-- The counters of posts; a zero identifier stands for any. -/
def listPostCounts (s : Store) (channelId postId : Nat) (c : Criteria) : List PostCounts :=
  let rows := s.posts.filter fun p => matchesId channelId p.channelId && matchesId postId p.postId
  let rows := baseOrder Post.channelId Post.postId (fun _ => 0) channelId postId c rows
  (c.select Post.sortKeys rows).map Post.counts

/-- Comments with their authors; a zero identifier stands for any. -/
def listComments (s : Store) (channelId postId : Nat) (c : Criteria) : List SignedComment :=
  let rows := s.comments.filter fun x =>
    matchesId channelId x.channelId && matchesId postId x.postId
  let rows :=
    baseOrder Comment.channelId Comment.postId Comment.commentId channelId postId c rows
  (c.select Comment.sortKeys rows).map s.sign

end Store

end FeedNode.Feed
