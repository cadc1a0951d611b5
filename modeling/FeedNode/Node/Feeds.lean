import FeedNode.Node.Queries
import FeedNode.Node.Services

/-!
# Feeds

The calls that read and write channels, posts, comments, likes and subscriptions. Their answers go
to the caller past its queue; news of what they did goes to all who follow the channel.
-/

namespace FeedNode.Node.Feeds

open Feed (Criteria Draft ChannelDraft)
open Rpc

/-- The version of the program. -/
def programVersion : String := "0.1.0"

/-- The answer that goes past the queue. -/
def done (s : Services) (c : Call) (payload : Payload) : Outcome :=
  s.finish [.reply (c.answer payload)]

/-! ## Writing -/

/-- Creates a channel; its name must not be empty. -/
def createChannel (s : Services) (c : Call) (a : CreateChannelArgs) : Outcome :=
  if a.name = "" then s.fail .invalidArgument
  else
    let draft : ChannelDraft :=
      { name := a.name
        introduction := a.introduction
        avatar := a.avatar
        tipMethods := a.tipMethods
        proof := a.proof }
    s.withStore (s.store.createChannel s.now draft) fun channelId s =>
      done s c (.created (.ofNat channelId))

/-- Adds a post to a channel, and tells who follows the channel. -/
def publishPost (s : Services) (c : Call) (a : PublishPostArgs) : Outcome :=
  let draft : Draft :=
    { content := a.content, thumbnails := a.thumbnails, hashId := a.hashId, proof := a.proof }
  s.withStore (s.store.publishPost s.now a.channelId.toNat draft) fun p s =>
    s.finish <|
      .reply (c.answer (.created (.ofNat p.postId))) ::
        s.tell p.channelId "new_post"
          (.post (.ofNat p.channelId) (.ofNat p.postId) p.content (.ofNat p.createdAt))

/-- Gives a post a new payload. -/
def editPost (s : Services) (c : Call) (a : EditPostArgs) : Outcome :=
  let draft : Draft :=
    { content := a.content, thumbnails := a.thumbnails, hashId := a.hashId, proof := a.proof }
  s.withStore (s.store.editPost s.now a.channelId.toNat a.postId.toNat draft) fun _ s =>
    done s c .empty

/-- Deletes a post. -/
def deletePost (s : Services) (c : Call) (a : PostArgs) : Outcome :=
  s.withStore_ (s.store.deletePost s.now a.channelId.toNat a.postId.toNat) fun s => done s c .empty

/-- Adds a comment to a post, and tells who follows the channel. The caller is recorded first, also
when nothing comes of the call. -/
def postComment (s : Services) (c : Call) (a : PostCommentArgs) : Outcome :=
  s.asMember c fun u =>
    -- the comment is signed with what the users table says of its author
    let s := s.record u
    let draft : Draft :=
      { content := a.content, thumbnails := a.thumbnails, hashId := a.hashId, proof := a.proof }
    s.withStore
      (s.store.postComment s.now u.userId a.channelId.toNat a.postId.toNat a.referId.toNat draft)
      fun x s =>
        s.finish <|
          .reply (c.answer (.created (.ofNat x.commentId))) ::
            s.tell x.channelId "new_comment"
              (.comment (.ofNat x.channelId) (.ofNat x.postId) (.ofNat x.commentId)
                (.ofNat x.referId) x.authorName x.content (.ofNat x.createdAt))

/-- Gives a comment of the caller's a new payload. -/
def editComment (s : Services) (c : Call) (a : EditCommentArgs) : Outcome :=
  s.asMember c fun u =>
    let draft : Draft :=
      { content := a.content, thumbnails := a.thumbnails, hashId := a.hashId, proof := a.proof }
    s.withStore
      (s.store.editComment s.now u.userId a.channelId.toNat a.postId.toNat a.commentId.toNat draft)
      fun _ s => done s c .empty

/-- Deletes a comment, for its author or for the owner. -/
def deleteComment (s : Services) (c : Call) (a : DeleteCommentArgs) : Outcome :=
  s.asMember c fun u =>
    s.withStore_
      (s.store.deleteComment s.now u.userId u.isOwner a.channelId.toNat a.postId.toNat
        a.commentId.toNat)
      fun s => done s c .empty

/-- Hides a comment, or shows it again. -/
def setBlocked (s : Services) (c : Call) (a : TargetArgs) (blocked : Bool) : Outcome :=
  s.withStore_
    (s.store.setBlocked s.now a.channelId.toNat a.postId.toNat a.commentId.toNat blocked)
    fun s => done s c .empty

/-- Adds the caller's like, and tells who follows the channel of the new number of likes. -/
def postLike (s : Services) (c : Call) (a : TargetArgs) : Outcome :=
  s.asMember c fun u =>
    let s := s.record u
    s.withStore
      (s.store.like s.now u.userId a.channelId.toNat a.postId.toNat a.commentId.toNat)
      fun count s =>
        s.finish <|
          .reply (c.answer .empty) ::
            s.tell a.channelId.toNat "new_likes"
              (.likes a.channelId a.postId a.commentId (.ofNat count))

/-- Takes the caller's like back. Nobody is told. -/
def postUnlike (s : Services) (c : Call) (a : TargetArgs) : Outcome :=
  s.asMember c fun u =>
    s.withStore (s.store.unlike u.userId a.channelId.toNat a.postId.toNat a.commentId.toNat)
      fun _ s => done s c .empty

/-- Subscribes the caller; the peers bound to the caller follow the channel from now on. -/
def subscribe (s : Services) (c : Call) (a : ChannelArgs) : Outcome :=
  s.asMember c fun u =>
    let s := s.record u
    s.withStore_ (s.store.subscribe s.now u.userId a.channelId.toNat) fun s =>
      done { s with audience := s.audience.addChannel u.userId a.channelId.toNat } c .empty

/-- Ends the caller's subscription; the peers bound to the caller follow the channel no more. -/
def unsubscribe (s : Services) (c : Call) (a : ChannelArgs) : Outcome :=
  s.asMember c fun u =>
    s.withStore_ (s.store.unsubscribe u.userId a.channelId.toNat) fun s =>
      done { s with audience := s.audience.removeChannel u.userId a.channelId.toNat } c .empty

/-- Binds the calling peer to the caller and the channels that the caller subscribes to. -/
def enableNotification (s : Services) (c : Call) (_ : TokenArgs) : Outcome :=
  s.asMember c fun u =>
    let follower : Delivery.Follower :=
      { userId := u.userId
        dialect := c.request.dialect
        version := c.request.version
        channels := s.store.subscribedIds u.userId }
    match s.audience.activate? c.peer follower with
    | none => s.fail .wrongState
    | some audience => done { s with audience } c .empty

/-! ## Reading -/

/-- The criteria of a listing, or an error for a column that there is not. -/
def withCriteria (s : Services) (by_ upper lower maxCount : Int64) (k : Criteria → Outcome) :
    Outcome :=
  match Criteria.ofWire? by_ upper lower maxCount with
  | none => s.fail .invalidArgument
  | some criteria => k criteria

/-- Every channel, in the short form: all channels of a node are its owner's. -/
def myChannels (s : Services) (c : Call) (a : ListArgs) : Outcome :=
  withCriteria s a.by_ a.upper a.lower a.maxCount fun criteria =>
    done s c (.ownChannels ((s.store.listChannels criteria).map .ofChannel))

/-- Every channel. -/
def channels (s : Services) (c : Call) (a : ListArgs) : Outcome :=
  withCriteria s a.by_ a.upper a.lower a.maxCount fun criteria =>
    done s c (.channels ((s.store.listChannels criteria).map (.ofChannel c.version)))

/-- One channel. -/
def channelDetail (s : Services) (c : Call) (a : ChannelArgs) : Outcome :=
  match s.store.channel? a.channelId.toNat with
  | none => s.fail .notFound
  | some ch => done s c (.channel (.ofChannel c.version ch))

/-- The channels that the caller subscribes to. -/
def subscribedChannels (s : Services) (c : Call) (a : ListArgs) : Outcome :=
  s.asMember c fun u =>
    withCriteria s a.by_ a.upper a.lower a.maxCount fun criteria =>
      done s c (.channels ((s.store.listSubscribed u.userId criteria).map (.ofChannel c.version)))

/-- The posts of a channel. -/
def posts (s : Services) (c : Call) (a : PostListArgs) : Outcome :=
  withCriteria s a.by_ a.upper a.lower a.maxCount fun criteria =>
    done s c
      (.posts ((s.store.listPosts a.channelId.toNat criteria).map (.ofPost c.version)))

/-- The posts that the caller likes. -/
def likedPosts (s : Services) (c : Call) (a : ListArgs) : Outcome :=
  s.asMember c fun u =>
    withCriteria s a.by_ a.upper a.lower a.maxCount fun criteria =>
      done s c (.posts ((s.store.listLiked u.userId criteria).map (.ofPost c.version)))

/-- The comments of a post; a zero identifier stands for any. -/
def comments (s : Services) (c : Call) (a : QueryArgs) : Outcome :=
  match Queries.target? a with
  | none => s.fail .invalidArgument
  | some (channelId, postId, criteria) =>
    done s c
      (.postComments ((s.store.listComments channelId postId criteria).map .ofComment))

/-- The owner's DID, as far as the owner is among the users, and the size of the audience. -/
def statistics (s : Services) (c : Call) (_ : TokenArgs) : Outcome :=
  let did := ((s.store.user? Auth.ownerUserId).map Feed.User.did).getD Feed.placeholder
  done s c (.statistics did (.ofNat s.audience.size))

/-- The version of the program and the number that its settings give it. -/
def serviceVersion (s : Services) (c : Call) (_ : NoArgs) : Outcome :=
  done s c (.serviceVersion programVersion s.versionCode)

end FeedNode.Node.Feeds
