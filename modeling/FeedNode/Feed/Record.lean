import FeedNode.Bytes

/-!
# Feed records

What the node keeps: users, channels, the posts of a channel and the comments of a post. Posts and
comments carry a `Status`; a row that is deleted or blocked stays where it is, and only its content
stops being served.
-/

namespace FeedNode.Feed

/-- Stands for a text that nobody supplied. -/
def placeholder : String := "NA"

/-- The text, or the placeholder for an empty one. -/
def orPlaceholder (s : String) : String :=
  if s = "" then placeholder else s

/-- A person known to the node. -/
structure User where
  userId : Nat
  did : String
  name : String
  email : String
  isOwner : Bool
deriving DecidableEq, Repr, Inhabited

/-- The state of a post or a comment. -/
inductive Status where
  | available
  | deleted
  | edited
  /-- Hidden by the owner; comments only. -/
  | blocked
deriving DecidableEq, Repr, Inhabited

namespace Status

/-- The number of a status. -/
def number : Status → Nat
  | .available => 0
  | .deleted => 1
  | .edited => 2
  | .blocked => 3

/-- The status with a number; a number that names none counts as available. -/
def ofNumber (n : Int) : Status :=
  if n = 1 then .deleted else if n = 2 then .edited else if n = 3 then .blocked else .available

/-- Content is served. -/
def isReadable : Status → Bool
  | .available | .edited => true
  | .deleted | .blocked => false

end Status

/-- A stream of posts, with what is shown of it. -/
structure Channel where
  channelId : Nat
  name : String
  introduction : String
  avatar : Bytes
  createdAt : Nat
  updatedAt : Nat
  subscribers : Nat
  nextPostId : Nat
  tipMethods : String
  proof : String
deriving DecidableEq, Repr, Inhabited

/-- A post of a channel. -/
structure Post where
  channelId : Nat
  postId : Nat
  createdAt : Nat
  updatedAt : Nat
  nextCommentId : Nat
  comments : Nat
  likes : Nat
  status : Status
  content : Bytes
  thumbnails : Bytes
  hashId : String
  proof : String
deriving DecidableEq, Repr, Inhabited

/-- A comment on a post. -/
structure Comment where
  channelId : Nat
  postId : Nat
  commentId : Nat
  /-- The comment that this one answers; zero for one on the post itself. -/
  referId : Nat
  /-- The user who wrote it. -/
  author : Nat
  createdAt : Nat
  updatedAt : Nat
  likes : Nat
  status : Status
  content : Bytes
  thumbnails : Bytes
  hashId : String
  proof : String
deriving DecidableEq, Repr, Inhabited

/-- A comment together with what is known of its author. -/
structure SignedComment extends Comment where
  authorDid : String
  authorName : String
deriving DecidableEq, Repr, Inhabited

/-- The counters of a post. -/
structure PostCounts where
  channelId : Nat
  postId : Nat
  comments : Nat
  likes : Nat
deriving DecidableEq, Repr, Inhabited

/-- One user's like of a post (`commentId` zero) or of a comment. -/
structure Like where
  userId : Nat
  channelId : Nat
  postId : Nat
  commentId : Nat
  createdAt : Nat
deriving DecidableEq, Repr, Inhabited

/-- That a user subscribes to a channel. -/
structure Subscription where
  userId : Nat
  channelId : Nat
  createdAt : Nat
deriving DecidableEq, Repr, Inhabited

/-- What the author of a post or a comment supplies. -/
structure Draft where
  content : Bytes
  thumbnails : Bytes
  hashId : String
  proof : String
deriving DecidableEq, Repr, Inhabited

/-- What the owner supplies for a new channel. -/
structure ChannelDraft where
  name : String
  introduction : String
  avatar : Bytes
  tipMethods : String
  proof : String
deriving DecidableEq, Repr, Inhabited

/-- The counters of the post. -/
def Post.counts (p : Post) : PostCounts where
  channelId := p.channelId
  postId := p.postId
  comments := p.comments
  likes := p.likes

/-- The content as it may be served: nothing of a row that is deleted or blocked. -/
def Post.servedContent (p : Post) : Bytes :=
  if p.status.isReadable then p.content else []

/-- The content as it may be served: nothing of a row that is deleted or blocked. -/
def Comment.servedContent (c : Comment) : Bytes :=
  if c.status.isReadable then c.content else []

end FeedNode.Feed
