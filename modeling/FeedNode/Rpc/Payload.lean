import FeedNode.Rpc.Entry
import FeedNode.Rpc.Method

/-!
# Results and notifications

What an answer carries as its result, and what a notification carries as its params. `value` is
what is written: a record, a list of records, or a nil for nothing.
-/

namespace FeedNode.Rpc

open MessagePack

/-- Some of the rows of an answer. -/
structure Page (α : Type) where
  isLast : Bool
  rows : List α
deriving DecidableEq, Repr

namespace Page

/-- The page of no rows. -/
def blank {α : Type} : Page α where
  isLast := false
  rows := []

/-- A page on the wire, its rows under `name`. -/
def value {α : Type} (name : String) (row : α → Value) (p : Page α) : Value :=
  .record [("is_last", .bool p.isLast), (name, .array (p.rows.map row))]

end Page

/-- The result of a call. -/
inductive Payload where
  | empty
  | challenge (text : String)
  | token (text : String)
  | ownership (phase : String) (did transaction : Option String)
  | comments (page : Page CommentEntry)
  | postCounts (page : Page PostCountEntry)
  | subscriberCounts (page : Page SubscriberCountEntry)
  | created (id : UInt64)
  | channels (rows : List ChannelEntry)
  | ownChannels (rows : List OwnChannelEntry)
  | channel (row : ChannelEntry)
  | posts (rows : List PostEntry)
  | postComments (rows : List PostCommentEntry)
  | statistics (did : String) (clients : UInt64)
  | serviceVersion (version : String) (code : Int64)

namespace Payload

/-- A text, or nil for none. -/
def textOrNil : Option String → Value
  | none => .nil
  | some s => .text s

/-- The result on the wire. -/
def value : Payload → Value
  | .empty => .nil
  | .challenge text => .record [("jwt_challenge", .text text)]
  | .token text => .record [("access_token", .text text)]
  | .ownership phase did transaction =>
    .record [("phase", .text phase), ("did", textOrNil did),
      ("transaction_payload", textOrNil transaction)]
  | .comments page => page.value "comments" CommentEntry.value
  | .postCounts page => page.value "posts" PostCountEntry.value
  | .subscriberCounts page => page.value "channels" SubscriberCountEntry.value
  | .created id => .record [("id", .unsigned id)]
  | .channels rows => .array (rows.map ChannelEntry.value)
  | .ownChannels rows => .array (rows.map OwnChannelEntry.value)
  | .channel row => row.value
  | .posts rows => .array (rows.map PostEntry.value)
  | .postComments rows => .array (rows.map PostCommentEntry.value)
  | .statistics did clients =>
    .record [("did", .text did), ("connecting_clients", .unsigned clients)]
  | .serviceVersion version code =>
    .record [("version", .text version), ("version_code", .int code)]

/-- The result of a method with nothing in it. -/
def blank : Method → Payload
  | .standardSignIn => .challenge ""
  | .standardDidAuth => .token ""
  | .declareOwner => .ownership "" none none
  | .getMultiComments => .comments .blank
  | .getMultiLikesAndCommentsCount => .postCounts .blank
  | .getMultiSubscribersCount => .subscriberCounts .blank
  | .createChannel | .publishPost | .postComment => .created 0
  | .getChannels | .getSubscribedChannels => .channels []
  | .getMyChannels => .ownChannels []
  | .getChannelDetail => .channel .blank
  | .getPosts | .getLikedPosts => .posts []
  | .getComments => .postComments []
  | .getStatistics => .statistics "" 0
  | .getServiceVersion => .serviceVersion "" 0
  | .backupServiceData | .editPost | .deletePost | .editComment | .deleteComment | .blockComment
  | .unblockComment | .postLike | .postUnlike | .subscribeChannel | .unsubscribeChannel
  | .enableNotification => .empty

end Payload

/-- What a notification tells. -/
inductive News where
  | empty
  | post (channelId postId : UInt64) (content : Bytes) (createdAt : UInt64)
  | comment (channelId postId commentId referId : UInt64) (userName : String) (content : Bytes)
      (createdAt : UInt64)
  | likes (channelId postId commentId count : UInt64)

namespace News

/-- The params of the notification on the wire. -/
def value : News → Value
  | .empty => .nil
  | .post channelId postId content createdAt =>
    .record [("channel_id", .unsigned channelId), ("id", .unsigned postId),
      ("content", .bin content), ("created_at", .unsigned createdAt)]
  | .comment channelId postId commentId referId userName content createdAt =>
    .record [("channel_id", .unsigned channelId), ("post_id", .unsigned postId),
      ("id", .unsigned commentId), ("comment_id", .unsigned referId),
      ("user_name", .text userName), ("content", .bin content),
      ("created_at", .unsigned createdAt)]
  | .likes channelId postId commentId count =>
    .record [("channel_id", .unsigned channelId), ("post_id", .unsigned postId),
      ("comment_id", .unsigned commentId), ("count", .unsigned count)]

end News

end FeedNode.Rpc
