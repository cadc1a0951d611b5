import FeedNode.MessagePack.Record

/-!
# Arguments of the methods

Each shape of arguments that a method can take is a structure, and `Tabular` says how it is laid
out on the wire: the fields that every version has (`base`), followed by the fields that version
2.0 added (`extension`). An identifier is an unsigned word where a call names one object, and a
signed one in the queries where zero or less stands for "any".
-/

namespace FeedNode.Rpc

open MessagePack

/-- How arguments are laid out on the wire. -/
class Tabular (α : Type) where
  /-- The fields of every version. -/
  base : Layout
  /-- The fields that version 2.0 added. -/
  extension : Layout
  toRows : α → base.Row × extension.Row
  ofRows : base.Row × extension.Row → α
  ofRows_toRows : ∀ a, ofRows (toRows a) = a

/-- No arguments at all. -/
structure NoArgs where
deriving DecidableEq, Repr

instance : Tabular NoArgs where
  base := []
  extension := []
  toRows _ := ((), ())
  ofRows _ := {}
  ofRows_toRows _ := rfl

/-- The start of a sign-in. -/
structure SignInArgs where
  document : String
deriving DecidableEq, Repr

instance : Tabular SignInArgs where
  base := [⟨"document", .text⟩]
  extension := []
  toRows a := ((a.document, ()), ())
  ofRows := fun ((document, ()), ()) => { document }
  ofRows_toRows _ := rfl

/-- The end of a sign-in. -/
structure DidAuthArgs where
  userName : String
  /-- The challenge, as the signed answer to it. -/
  presentation : String
deriving DecidableEq, Repr

instance : Tabular DidAuthArgs where
  base := [⟨"user_name", .text⟩, ⟨"jwt_vp", .text⟩]
  extension := []
  toRows a := ((a.userName, a.presentation, ()), ())
  ofRows := fun ((userName, presentation, ()), ()) => { userName, presentation }
  ofRows_toRows _ := rfl

/-- The declaration of the owner. -/
structure DeclareOwnerArgs where
  nonce : String
  ownerDid : String
deriving DecidableEq, Repr

instance : Tabular DeclareOwnerArgs where
  base := [⟨"nonce", .text⟩, ⟨"owner_did", .text⟩]
  extension := []
  toRows a := ((a.nonce, a.ownerDid, ()), ())
  ofRows := fun ((nonce, ownerDid, ()), ()) => { nonce, ownerDid }
  ofRows_toRows _ := rfl

/-- A bounded query over the comments or posts of a channel. -/
structure QueryArgs where
  token : String
  channelId : Int64
  postId : Int64
  by_ : Int64
  upper : Int64
  lower : Int64
  maxCount : Int64
deriving DecidableEq, Repr

instance : Tabular QueryArgs where
  base := [⟨"access_token", .text⟩, ⟨"channel_id", .signed⟩, ⟨"post_id", .signed⟩,
    ⟨"by", .signed⟩, ⟨"upper_bound", .signed⟩, ⟨"lower_bound", .signed⟩, ⟨"max_count", .signed⟩]
  extension := []
  toRows a :=
    ((a.token, a.channelId, a.postId, a.by_, a.upper, a.lower, a.maxCount, ()), ())
  ofRows := fun ((token, channelId, postId, by_, upper, lower, maxCount, ()), ()) =>
    { token, channelId, postId, by_, upper, lower, maxCount }
  ofRows_toRows _ := rfl

/-- A query over the subscribers of a channel. -/
structure SubscriberCountArgs where
  token : String
  channelId : Int64
deriving DecidableEq, Repr

instance : Tabular SubscriberCountArgs where
  base := [⟨"access_token", .text⟩, ⟨"channel_id", .signed⟩]
  extension := []
  toRows a := ((a.token, a.channelId, ()), ())
  ofRows := fun ((token, channelId, ()), ()) => { token, channelId }
  ofRows_toRows _ := rfl

/-- Where a copy of the store is to go. -/
structure BackupArgs where
  token : String
  driveName : String
  driveUrl : String
  driveToken : String
deriving DecidableEq, Repr

instance : Tabular BackupArgs where
  base := [⟨"access_token", .text⟩, ⟨"drive_name", .text⟩, ⟨"drive_url", .text⟩,
    ⟨"drive_access_token", .text⟩]
  extension := []
  toRows a := ((a.token, a.driveName, a.driveUrl, a.driveToken, ()), ())
  ofRows := fun ((token, driveName, driveUrl, driveToken, ()), ()) =>
    { token, driveName, driveUrl, driveToken }
  ofRows_toRows _ := rfl

/-- A token and nothing else. -/
structure TokenArgs where
  token : String
deriving DecidableEq, Repr

instance : Tabular TokenArgs where
  base := [⟨"access_token", .text⟩]
  extension := []
  toRows a := ((a.token, ()), ())
  ofRows := fun ((token, ()), ()) => { token }
  ofRows_toRows _ := rfl

/-- A new channel. -/
structure CreateChannelArgs where
  token : String
  name : String
  introduction : String
  avatar : Bytes
  tipMethods : String
  proof : String
deriving DecidableEq, Repr

instance : Tabular CreateChannelArgs where
  base := [⟨"access_token", .text⟩, ⟨"name", .text⟩, ⟨"introduction", .text⟩, ⟨"avatar", .octets⟩]
  extension := [⟨"tip_methods", .text⟩, ⟨"proof", .text⟩]
  toRows a := ((a.token, a.name, a.introduction, a.avatar, ()), (a.tipMethods, a.proof, ()))
  ofRows := fun ((token, name, introduction, avatar, ()), (tipMethods, proof, ())) =>
    { token, name, introduction, avatar, tipMethods, proof }
  ofRows_toRows _ := rfl

/-- The fields that version 2.0 added to everything that carries content. -/
@[reducible] def contentExtension : Layout :=
  [⟨"thumbnails", .octets⟩, ⟨"hash_id", .text⟩, ⟨"proof", .text⟩]

/-- A new post. -/
structure PublishPostArgs where
  token : String
  channelId : UInt64
  content : Bytes
  thumbnails : Bytes
  hashId : String
  proof : String
deriving DecidableEq, Repr

instance : Tabular PublishPostArgs where
  base := [⟨"access_token", .text⟩, ⟨"channel_id", .unsigned⟩, ⟨"content", .octets⟩]
  extension := contentExtension
  toRows a := ((a.token, a.channelId, a.content, ()), (a.thumbnails, a.hashId, a.proof, ()))
  ofRows := fun ((token, channelId, content, ()), (thumbnails, hashId, proof, ())) =>
    { token, channelId, content, thumbnails, hashId, proof }
  ofRows_toRows _ := rfl

/-- A new payload for a post. -/
structure EditPostArgs where
  token : String
  channelId : UInt64
  postId : UInt64
  content : Bytes
  thumbnails : Bytes
  hashId : String
  proof : String
deriving DecidableEq, Repr

instance : Tabular EditPostArgs where
  base := [⟨"access_token", .text⟩, ⟨"channel_id", .unsigned⟩, ⟨"id", .unsigned⟩,
    ⟨"content", .octets⟩]
  extension := contentExtension
  toRows a :=
    ((a.token, a.channelId, a.postId, a.content, ()), (a.thumbnails, a.hashId, a.proof, ()))
  ofRows := fun ((token, channelId, postId, content, ()), (thumbnails, hashId, proof, ())) =>
    { token, channelId, postId, content, thumbnails, hashId, proof }
  ofRows_toRows _ := rfl

/-- One post. -/
structure PostArgs where
  token : String
  channelId : UInt64
  postId : UInt64
deriving DecidableEq, Repr

instance : Tabular PostArgs where
  base := [⟨"access_token", .text⟩, ⟨"channel_id", .unsigned⟩, ⟨"id", .unsigned⟩]
  extension := []
  toRows a := ((a.token, a.channelId, a.postId, ()), ())
  ofRows := fun ((token, channelId, postId, ()), ()) => { token, channelId, postId }
  ofRows_toRows _ := rfl

/-- A new comment. -/
structure PostCommentArgs where
  token : String
  channelId : UInt64
  postId : UInt64
  /-- The comment that is answered; zero for one on the post itself. -/
  referId : UInt64
  content : Bytes
  thumbnails : Bytes
  hashId : String
  proof : String
deriving DecidableEq, Repr

instance : Tabular PostCommentArgs where
  base := [⟨"access_token", .text⟩, ⟨"channel_id", .unsigned⟩, ⟨"post_id", .unsigned⟩,
    ⟨"comment_id", .unsigned⟩, ⟨"content", .octets⟩]
  extension := contentExtension
  toRows a :=
    ((a.token, a.channelId, a.postId, a.referId, a.content, ()),
      (a.thumbnails, a.hashId, a.proof, ()))
  ofRows := fun ((token, channelId, postId, referId, content, ()),
      (thumbnails, hashId, proof, ())) =>
    { token, channelId, postId, referId, content, thumbnails, hashId, proof }
  ofRows_toRows _ := rfl

/-- A new payload for a comment. -/
structure EditCommentArgs where
  token : String
  channelId : UInt64
  postId : UInt64
  commentId : UInt64
  /-- The comment that this one answers. An edit leaves it as it is. -/
  referId : UInt64
  content : Bytes
  thumbnails : Bytes
  hashId : String
  proof : String
deriving DecidableEq, Repr

instance : Tabular EditCommentArgs where
  base := [⟨"access_token", .text⟩, ⟨"channel_id", .unsigned⟩, ⟨"post_id", .unsigned⟩,
    ⟨"id", .unsigned⟩, ⟨"comment_id", .unsigned⟩, ⟨"content", .octets⟩]
  extension := contentExtension
  toRows a :=
    ((a.token, a.channelId, a.postId, a.commentId, a.referId, a.content, ()),
      (a.thumbnails, a.hashId, a.proof, ()))
  ofRows := fun ((token, channelId, postId, commentId, referId, content, ()),
      (thumbnails, hashId, proof, ())) =>
    { token, channelId, postId, commentId, referId, content, thumbnails, hashId, proof }
  ofRows_toRows _ := rfl

/-- One comment. -/
structure DeleteCommentArgs where
  token : String
  channelId : UInt64
  postId : UInt64
  commentId : UInt64
deriving DecidableEq, Repr

instance : Tabular DeleteCommentArgs where
  base := [⟨"access_token", .text⟩, ⟨"channel_id", .unsigned⟩, ⟨"post_id", .unsigned⟩,
    ⟨"id", .unsigned⟩]
  extension := []
  toRows a := ((a.token, a.channelId, a.postId, a.commentId, ()), ())
  ofRows := fun ((token, channelId, postId, commentId, ()), ()) =>
    { token, channelId, postId, commentId }
  ofRows_toRows _ := rfl

/-- A comment, or with a zero `commentId` the post itself. -/
structure TargetArgs where
  token : String
  channelId : UInt64
  postId : UInt64
  commentId : UInt64
deriving DecidableEq, Repr

instance : Tabular TargetArgs where
  base := [⟨"access_token", .text⟩, ⟨"channel_id", .unsigned⟩, ⟨"post_id", .unsigned⟩,
    ⟨"comment_id", .unsigned⟩]
  extension := []
  toRows a := ((a.token, a.channelId, a.postId, a.commentId, ()), ())
  ofRows := fun ((token, channelId, postId, commentId, ()), ()) =>
    { token, channelId, postId, commentId }
  ofRows_toRows _ := rfl

/-- A bounded query over channels, or over posts of all channels. -/
structure ListArgs where
  token : String
  by_ : Int64
  upper : Int64
  lower : Int64
  maxCount : Int64
deriving DecidableEq, Repr

instance : Tabular ListArgs where
  base := [⟨"access_token", .text⟩, ⟨"by", .signed⟩, ⟨"upper_bound", .signed⟩,
    ⟨"lower_bound", .signed⟩, ⟨"max_count", .signed⟩]
  extension := []
  toRows a := ((a.token, a.by_, a.upper, a.lower, a.maxCount, ()), ())
  ofRows := fun ((token, by_, upper, lower, maxCount, ()), ()) =>
    { token, by_, upper, lower, maxCount }
  ofRows_toRows _ := rfl

/-- One channel. -/
structure ChannelArgs where
  token : String
  channelId : UInt64
deriving DecidableEq, Repr

instance : Tabular ChannelArgs where
  base := [⟨"access_token", .text⟩, ⟨"id", .unsigned⟩]
  extension := []
  toRows a := ((a.token, a.channelId, ()), ())
  ofRows := fun ((token, channelId, ()), ()) => { token, channelId }
  ofRows_toRows _ := rfl

/-- A bounded query over the posts of one channel. -/
structure PostListArgs where
  token : String
  channelId : UInt64
  by_ : Int64
  upper : Int64
  lower : Int64
  maxCount : Int64
deriving DecidableEq, Repr

instance : Tabular PostListArgs where
  base := [⟨"access_token", .text⟩, ⟨"channel_id", .unsigned⟩, ⟨"by", .signed⟩,
    ⟨"upper_bound", .signed⟩, ⟨"lower_bound", .signed⟩, ⟨"max_count", .signed⟩]
  extension := []
  toRows a := ((a.token, a.channelId, a.by_, a.upper, a.lower, a.maxCount, ()), ())
  ofRows := fun ((token, channelId, by_, upper, lower, maxCount, ()), ()) =>
    { token, channelId, by_, upper, lower, maxCount }
  ofRows_toRows _ := rfl

end FeedNode.Rpc
