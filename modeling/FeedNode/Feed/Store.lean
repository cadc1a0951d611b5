import FeedNode.Feed.Record
import FeedNode.Feed.Criteria

/-!
# The store

The tables of the node, each in the order in which its rows were inserted, and the ways to look a
row up and to change it in place. The operations on the tables are in the modules below this one;
one that fails gives a `StoreError` and no new store.
-/

namespace FeedNode.Feed

/-- Why an operation on the store was refused. -/
inductive StoreError where
  | notFound
  | alreadyExists
  | wrongState
  | notAuthorized
deriving DecidableEq, Repr

namespace StoreError

/-- The text of a refusal. -/
def message : StoreError → String
  | .notFound => "not found"
  | .alreadyExists => "already exists"
  | .wrongState => "wrong state"
  | .notAuthorized => "not authorized"

/-- The code that a peer is told. -/
def code : StoreError → Rpc.ErrorCode
  | .notFound => .notFound
  | .alreadyExists => .alreadyExists
  | .wrongState => .wrongState
  | .notAuthorized => .notAuthorized

end StoreError

/-- The tables of the node. -/
structure Store where
  users : List User
  channels : List Channel
  posts : List Post
  comments : List Comment
  likes : List Like
  subscriptions : List Subscription
deriving Inhabited

namespace Store

/-- A store without any row. -/
def empty : Store where
  users := []
  channels := []
  posts := []
  comments := []
  likes := []
  subscriptions := []

/-- The user with an identifier. -/
def user? (s : Store) (userId : Nat) : Option User :=
  s.users.find? fun u => u.userId == userId

/-- The channel with an identifier. -/
def channel? (s : Store) (channelId : Nat) : Option Channel :=
  s.channels.find? fun c => c.channelId == channelId

/-- The row is the post with these identifiers. -/
def isPost (channelId postId : Nat) (p : Post) : Bool :=
  p.channelId == channelId && p.postId == postId

/-- The row is the comment with these identifiers. -/
def isComment (channelId postId commentId : Nat) (c : Comment) : Bool :=
  c.channelId == channelId && c.postId == postId && c.commentId == commentId

/-- The post with these identifiers. -/
def post? (s : Store) (channelId postId : Nat) : Option Post :=
  s.posts.find? (isPost channelId postId)

/-- The comment with these identifiers. -/
def comment? (s : Store) (channelId postId commentId : Nat) : Option Comment :=
  s.comments.find? (isComment channelId postId commentId)

/-- The comment with what the store knows of its author. -/
def sign (s : Store) (c : Comment) : SignedComment where
  toComment := c
  authorDid := ((s.user? c.author).map User.did).getD placeholder
  authorName := ((s.user? c.author).map User.name).getD placeholder

/-- Changes the channel with an identifier. -/
def updateChannel (s : Store) (channelId : Nat) (f : Channel → Channel) : Store :=
  { s with channels := s.channels.map fun c => if c.channelId == channelId then f c else c }

/-- Changes the post with these identifiers. -/
def updatePost (s : Store) (channelId postId : Nat) (f : Post → Post) : Store :=
  { s with posts := s.posts.map fun p => if isPost channelId postId p then f p else p }

/-- Changes the comment with these identifiers. -/
def updateComment (s : Store) (channelId postId commentId : Nat) (f : Comment → Comment) : Store :=
  { s with
    comments := s.comments.map fun c => if isComment channelId postId commentId c then f c else c }

/-- Records the time of the last change to a channel's posts. -/
def touchChannel (s : Store) (channelId now : Nat) : Store :=
  s.updateChannel channelId fun c => { c with updatedAt := now }

/-- Adds a user, or replaces what is known of the one with the same identifier. An empty name or
email is kept as the placeholder. -/
def upsertUser (s : Store) (u : User) : Store :=
  let row : User :=
    { u with name := orPlaceholder u.name, email := orPlaceholder u.email, isOwner := false }
  if (s.user? u.userId).isSome then
    { s with users := s.users.map fun old => if old.userId == u.userId then row else old }
  else { s with users := s.users ++ [row] }

end Store

end FeedNode.Feed
