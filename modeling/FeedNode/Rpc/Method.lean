/-!
# Methods

The thirty methods that a peer can call, in the order of registration, with what is known of each
before any call: its name, who may call it, which listener serves it, and whether its params carry
an access token.
-/

namespace FeedNode.Rpc

/-- A method that peers can call. -/
inductive Method where
  | standardSignIn
  | standardDidAuth
  | declareOwner
  | getMultiComments
  | getMultiLikesAndCommentsCount
  | getMultiSubscribersCount
  | backupServiceData
  | createChannel
  | publishPost
  | editPost
  | deletePost
  | postComment
  | editComment
  | deleteComment
  | blockComment
  | unblockComment
  | postLike
  | postUnlike
  | getMyChannels
  | getChannels
  | getChannelDetail
  | getSubscribedChannels
  | getPosts
  | getLikedPosts
  | getComments
  | getStatistics
  | subscribeChannel
  | unsubscribeChannel
  | enableNotification
  | getServiceVersion
deriving DecidableEq, Repr, Inhabited

/-- Who may call a method. -/
inductive Access where
  | anyone
  | member
  | owner
deriving DecidableEq, Repr

/-- The listener that serves a method. -/
inductive Family where
  | auth
  | channel
  | service
  | feed
deriving DecidableEq, Repr

namespace Method

/-- Every method, in the order of registration. -/
def all : List Method :=
  [.standardSignIn, .standardDidAuth, .declareOwner, .getMultiComments,
    .getMultiLikesAndCommentsCount, .getMultiSubscribersCount, .backupServiceData, .createChannel,
    .publishPost, .editPost, .deletePost, .postComment, .editComment, .deleteComment,
    .blockComment, .unblockComment, .postLike, .postUnlike, .getMyChannels, .getChannels,
    .getChannelDetail, .getSubscribedChannels, .getPosts, .getLikedPosts, .getComments,
    .getStatistics, .subscribeChannel, .unsubscribeChannel, .enableNotification,
    .getServiceVersion]

/-- The name on the wire. -/
def name : Method → String
  | .standardSignIn => "standard_sign_in"
  | .standardDidAuth => "standard_did_auth"
  | .declareOwner => "declare_owner"
  | .getMultiComments => "get_multi_comments"
  | .getMultiLikesAndCommentsCount => "get_multi_likes_and_comments_count"
  | .getMultiSubscribersCount => "get_multi_subscribers_count"
  | .backupServiceData => "backup_service_data"
  | .createChannel => "create_channel"
  | .publishPost => "publish_post"
  | .editPost => "edit_post"
  | .deletePost => "delete_post"
  | .postComment => "post_comment"
  | .editComment => "edit_comment"
  | .deleteComment => "delete_comment"
  | .blockComment => "block_comment"
  | .unblockComment => "unblock_comment"
  | .postLike => "post_like"
  | .postUnlike => "post_unlike"
  | .getMyChannels => "get_my_channels"
  | .getChannels => "get_channels"
  | .getChannelDetail => "get_channel_detail"
  | .getSubscribedChannels => "get_subscribed_channels"
  | .getPosts => "get_posts"
  | .getLikedPosts => "get_liked_posts"
  | .getComments => "get_comments"
  | .getStatistics => "get_statistics"
  | .subscribeChannel => "subscribe_channel"
  | .unsubscribeChannel => "unsubscribe_channel"
  | .enableNotification => "enable_notification"
  | .getServiceVersion => "get_service_version"

/-- The method with a name. -/
def ofName? (s : String) : Option Method :=
  all.find? fun m => m.name == s

/-- Who may call the method. -/
def access : Method → Access
  | .standardSignIn | .standardDidAuth | .declareOwner | .getServiceVersion => .anyone
  | .backupServiceData | .createChannel | .publishPost | .editPost | .deletePost | .blockComment
  | .unblockComment | .getMyChannels => .owner
  | _ => .member

/-- The listener that serves the method. -/
def family : Method → Family
  | .standardSignIn | .standardDidAuth | .declareOwner => .auth
  | .getMultiComments | .getMultiLikesAndCommentsCount | .getMultiSubscribersCount => .channel
  | .backupServiceData => .service
  | _ => .feed

/-- The params of the method carry an access token. -/
def hasToken : Method → Bool
  | .standardSignIn | .standardDidAuth | .declareOwner | .getServiceVersion => false
  | _ => true

/-- The place of the method in the order of registration. -/
def index (m : Method) : Nat :=
  all.idxOf m

@[simp] theorem ofName?_name (m : Method) : ofName? m.name = some m := by
  cases m <;> rfl

end Method

end FeedNode.Rpc
