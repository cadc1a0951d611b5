import FeedNode.Feed.Record
import FeedNode.MessagePack.Codec
import FeedNode.Rpc.Version

/-!
# Rows of an answer

An entry is a row of the store as an answer shows it: with the fields of the answer's version, and
without the content of rows that are deleted or blocked. `value` is what is written. For the rows
that are sent in pages, `wireSize` is a bound on the number of octets written that does not need
the writing: a record takes one octet and every field its key, one octet before the key, and
either nine octets for a number or five and its own length for a text.
-/

namespace FeedNode.Rpc

open MessagePack Feed

/-- A number of the store as a word of the wire. -/
def word (n : Nat) : Value :=
  .unsigned (.ofNat n)

/-- A field that is left out when it is absent. -/
def optional (name : String) : Option Value → List (String × Value)
  | none => []
  | some v => [(name, v)]

/-- The value, in versions that have the fields added by 2.0. -/
def Version.extended {α : Type} (v : Version) (a : α) : Option α :=
  if v.isExtended then some a else none

/-- The octets that a field's number takes at most. -/
def numberFieldSize (name : String) : Nat :=
  Text.utf8Length name + 1 + 9

/-- The octets that a field's text of the given length takes at most. -/
def textFieldSize (name : String) (length : Nat) : Nat :=
  Text.utf8Length name + 1 + 5 + length

/-- The octets that the numbers of these fields take at most. -/
def numberFieldSizes (names : List String) : Nat :=
  names.foldl (fun size name => size + numberFieldSize name) 0

/-- A row that is sent in pages. -/
class WireSize (α : Type) where
  /-- A bound on the octets of the row. -/
  wireSize : α → Nat

export WireSize (wireSize)

/-- A comment as the multi-channel query shows it. -/
structure CommentEntry where
  channelId : UInt64
  postId : UInt64
  commentId : UInt64
  referId : UInt64
  status : UInt8
  userDid : String
  userName : String
  content : Bytes
  likes : UInt64
  createdAt : UInt64
  updatedAt : UInt64
  thumbnails : Option Bytes
  hashId : Option String
  proof : Option String
deriving DecidableEq, Repr

namespace CommentEntry

/-- The comment as a version shows it. -/
def ofComment (v : Version) (c : SignedComment) : CommentEntry where
  channelId := .ofNat c.channelId
  postId := .ofNat c.postId
  commentId := .ofNat c.commentId
  referId := .ofNat c.referId
  status := .ofNat c.status.number
  userDid := c.authorDid
  userName := c.authorName
  content := c.servedContent
  likes := .ofNat c.likes
  createdAt := .ofNat c.createdAt
  updatedAt := .ofNat c.updatedAt
  thumbnails := v.extended c.thumbnails
  hashId := v.extended c.hashId
  proof := v.extended c.proof

/-- The entry on the wire. -/
def value (e : CommentEntry) : Value :=
  .record <|
    [("channel_id", .unsigned e.channelId), ("post_id", .unsigned e.postId),
      ("comment_id", .unsigned e.commentId), ("refer_comment_id", .unsigned e.referId),
      ("status", .unsigned e.status.toUInt64), ("user_did", .text e.userDid),
      ("user_name", .text e.userName), ("content", .bin e.content), ("likes", .unsigned e.likes),
      ("created_at", .unsigned e.createdAt), ("updated_at", .unsigned e.updatedAt)] ++
    optional "thumbnails" (e.thumbnails.map Value.bin) ++
    optional "hash_id" (e.hashId.map Value.text) ++ optional "proof" (e.proof.map Value.text)

instance : WireSize CommentEntry where
  wireSize e :=
    1 +
      numberFieldSizes ["channel_id", "post_id", "comment_id", "refer_comment_id", "status",
        "likes", "created_at", "updated_at"] +
      textFieldSize "user_did" (Text.utf8Length e.userDid) +
      textFieldSize "user_name" (Text.utf8Length e.userName) +
      textFieldSize "content" e.content.length +
      (e.thumbnails.map fun b => textFieldSize "thumbnails" b.length).getD 0 +
      (e.hashId.map fun s => textFieldSize "hash_id" (Text.utf8Length s)).getD 0 +
      (e.proof.map fun s => textFieldSize "proof" (Text.utf8Length s)).getD 0

end CommentEntry

/-- The counters of a post. -/
structure PostCountEntry where
  channelId : UInt64
  postId : UInt64
  comments : UInt64
  likes : UInt64
deriving DecidableEq, Repr

namespace PostCountEntry

/-- The counters as words. -/
def ofCounts (c : PostCounts) : PostCountEntry where
  channelId := .ofNat c.channelId
  postId := .ofNat c.postId
  comments := .ofNat c.comments
  likes := .ofNat c.likes

/-- The entry on the wire. -/
def value (e : PostCountEntry) : Value :=
  .record [("channel_id", .unsigned e.channelId), ("post_id", .unsigned e.postId),
    ("comments_count", .unsigned e.comments), ("likes_count", .unsigned e.likes)]

instance : WireSize PostCountEntry where
  wireSize _ := 1 + numberFieldSizes ["channel_id", "post_id", "comments_count", "likes_count"]

end PostCountEntry

/-- The number of subscribers of a channel. -/
structure SubscriberCountEntry where
  channelId : UInt64
  subscribers : UInt64
deriving DecidableEq, Repr

namespace SubscriberCountEntry

/-- The pair of a channel and its number of subscribers as words. -/
def ofPair (c : Nat × Nat) : SubscriberCountEntry where
  channelId := .ofNat c.1
  subscribers := .ofNat c.2

/-- The entry on the wire. -/
def value (e : SubscriberCountEntry) : Value :=
  .record [("channel_id", .unsigned e.channelId), ("subscribers_count", .unsigned e.subscribers)]

instance : WireSize SubscriberCountEntry where
  wireSize _ := 1 + numberFieldSizes ["channel_id", "subscribers_count"]

end SubscriberCountEntry

/-- A channel as listings show it. -/
structure ChannelEntry where
  channelId : UInt64
  name : String
  introduction : String
  subscribers : UInt64
  lastUpdate : UInt64
  avatar : Bytes
  tipMethods : Option String
  proof : Option String
deriving DecidableEq, Repr

namespace ChannelEntry

/-- The channel as a version shows it. -/
def ofChannel (v : Version) (c : Channel) : ChannelEntry where
  channelId := .ofNat c.channelId
  name := c.name
  introduction := c.introduction
  subscribers := .ofNat c.subscribers
  lastUpdate := .ofNat c.updatedAt
  avatar := c.avatar
  tipMethods := v.extended c.tipMethods
  proof := v.extended c.proof

/-- The entry of no channel. -/
def blank : ChannelEntry where
  channelId := 0
  name := ""
  introduction := ""
  subscribers := 0
  lastUpdate := 0
  avatar := []
  tipMethods := none
  proof := none

/-- The entry on the wire. -/
def value (e : ChannelEntry) : Value :=
  .record <|
    [("id", .unsigned e.channelId), ("name", .text e.name), ("introduction", .text e.introduction),
      ("subscribers", .unsigned e.subscribers), ("last_update", .unsigned e.lastUpdate),
      ("avatar", .bin e.avatar)] ++
    optional "tip_methods" (e.tipMethods.map Value.text) ++
    optional "proof" (e.proof.map Value.text)

end ChannelEntry

/-- A channel as its owner's listing shows it. -/
structure OwnChannelEntry where
  channelId : UInt64
  name : String
  introduction : String
  subscribers : UInt64
deriving DecidableEq, Repr

namespace OwnChannelEntry

/-- The channel, in every version the same. -/
def ofChannel (c : Channel) : OwnChannelEntry where
  channelId := .ofNat c.channelId
  name := c.name
  introduction := c.introduction
  subscribers := .ofNat c.subscribers

/-- The entry on the wire. -/
def value (e : OwnChannelEntry) : Value :=
  .record [("id", .unsigned e.channelId), ("name", .text e.name),
    ("introduction", .text e.introduction), ("subscribers", .unsigned e.subscribers)]

end OwnChannelEntry

/-- A post as listings show it. -/
structure PostEntry where
  channelId : UInt64
  postId : UInt64
  content : Bytes
  comments : UInt64
  likes : UInt64
  createdAt : UInt64
  thumbnails : Option Bytes
  hashId : Option String
  proof : Option String
deriving DecidableEq, Repr

namespace PostEntry

/-- The post as a version shows it. -/
def ofPost (v : Version) (p : Post) : PostEntry where
  channelId := .ofNat p.channelId
  postId := .ofNat p.postId
  content := p.servedContent
  comments := .ofNat p.comments
  likes := .ofNat p.likes
  createdAt := .ofNat p.createdAt
  thumbnails := v.extended p.thumbnails
  hashId := v.extended p.hashId
  proof := v.extended p.proof

/-- The entry on the wire. -/
def value (e : PostEntry) : Value :=
  .record <|
    [("channel_id", .unsigned e.channelId), ("id", .unsigned e.postId), ("content", .bin e.content),
      ("comments", .unsigned e.comments), ("likes", .unsigned e.likes),
      ("created_at", .unsigned e.createdAt)] ++
    optional "thumbnails" (e.thumbnails.map Value.bin) ++
    optional "hash_id" (e.hashId.map Value.text) ++ optional "proof" (e.proof.map Value.text)

end PostEntry

/-- A comment as the listing of one post shows it. -/
structure PostCommentEntry where
  channelId : UInt64
  postId : UInt64
  commentId : UInt64
  referId : UInt64
  userName : String
  content : Bytes
  likes : UInt64
  createdAt : UInt64
deriving DecidableEq, Repr

namespace PostCommentEntry

/-- The comment, in every version the same. -/
def ofComment (c : SignedComment) : PostCommentEntry where
  channelId := .ofNat c.channelId
  postId := .ofNat c.postId
  commentId := .ofNat c.commentId
  referId := .ofNat c.referId
  userName := c.authorName
  content := c.servedContent
  likes := .ofNat c.likes
  createdAt := .ofNat c.createdAt

/-- The entry on the wire. -/
def value (e : PostCommentEntry) : Value :=
  .record [("channel_id", .unsigned e.channelId), ("post_id", .unsigned e.postId),
    ("id", .unsigned e.commentId), ("comment_id", .unsigned e.referId),
    ("user_name", .text e.userName), ("content", .bin e.content), ("likes", .unsigned e.likes),
    ("created_at", .unsigned e.createdAt)]

end PostCommentEntry

end FeedNode.Rpc
