import FeedNode.Feed.Store

/-!
# Likes

A like is a user's mark on a post or on a comment, at most one for each; what is liked counts its
likes. A zero comment identifier means the post itself.
-/

namespace FeedNode.Feed

/-- The row is this user's like of this target. -/
def Like.isBy (userId channelId postId commentId : Nat) (x : Like) : Bool :=
  x.userId == userId && x.channelId == channelId && x.postId == postId && x.commentId == commentId

namespace Store

/-- What is to be liked exists. -/
def hasTarget (s : Store) (channelId postId commentId : Nat) : Bool :=
  if commentId = 0 then (s.post? channelId postId).isSome
  else (s.comment? channelId postId commentId).isSome

/-- Changes the number of likes of a target. -/
def updateLikes (s : Store) (channelId postId commentId : Nat) (f : Nat → Nat) : Store :=
  if commentId = 0 then
    s.updatePost channelId postId fun p => { p with likes := f p.likes }
  else
    s.updateComment channelId postId commentId fun c => { c with likes := f c.likes }

/-- The number of likes of a target. -/
def likeCount (s : Store) (channelId postId commentId : Nat) : Nat :=
  if commentId = 0 then ((s.post? channelId postId).map Post.likes).getD 0
  else ((s.comment? channelId postId commentId).map Comment.likes).getD 0

/-- The user likes the target. -/
def isLiked (s : Store) (userId channelId postId commentId : Nat) : Bool :=
  s.likes.any (Like.isBy userId channelId postId commentId)

/-- Adds a like of a user who has none yet; gives the new number of likes. -/
def like (s : Store) (now userId channelId postId commentId : Nat) :
    Except StoreError (Nat × Store) :=
  if !s.hasTarget channelId postId commentId then .error .notFound
  else if s.isLiked userId channelId postId commentId then .error .wrongState
  else
    let row : Like := { userId, channelId, postId, commentId, createdAt := now }
    let s := { s with likes := s.likes ++ [row] }
    let s := s.updateLikes channelId postId commentId (· + 1)
    .ok (s.likeCount channelId postId commentId, s)

/-- Takes back a user's like; gives the new number of likes. -/
def unlike (s : Store) (userId channelId postId commentId : Nat) :
    Except StoreError (Nat × Store) :=
  if !s.hasTarget channelId postId commentId then .error .notFound
  else if !s.isLiked userId channelId postId commentId then .error .wrongState
  else
    let s :=
      { s with
        likes := s.likes.filter fun x => !x.isBy userId channelId postId commentId }
    let s := s.updateLikes channelId postId commentId (· - 1)
    .ok (s.likeCount channelId postId commentId, s)

end Store

end FeedNode.Feed
