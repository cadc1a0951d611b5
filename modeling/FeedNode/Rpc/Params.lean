import FeedNode.Rpc.Args
import FeedNode.Rpc.Method
import FeedNode.Rpc.Version

/-!
# Params of a call

`Params` is a method together with its arguments, or `unknown` for a call that could not be typed.
`Params.write` writes the arguments in the layout of a version, `Params.read?` reads them. A 1.0
layout has only the base fields; what it lacks is read as a placeholder.
-/

namespace FeedNode.Rpc

open MessagePack

namespace Method

/-- The arguments that a method takes. -/
@[reducible] def Args : Method → Type
  | .standardSignIn => SignInArgs
  | .standardDidAuth => DidAuthArgs
  | .declareOwner => DeclareOwnerArgs
  | .getMultiComments => QueryArgs
  | .getMultiLikesAndCommentsCount => QueryArgs
  | .getMultiSubscribersCount => SubscriberCountArgs
  | .backupServiceData => BackupArgs
  | .createChannel => CreateChannelArgs
  | .publishPost => PublishPostArgs
  | .editPost => EditPostArgs
  | .deletePost => PostArgs
  | .postComment => PostCommentArgs
  | .editComment => EditCommentArgs
  | .deleteComment => DeleteCommentArgs
  | .blockComment => TargetArgs
  | .unblockComment => TargetArgs
  | .postLike => TargetArgs
  | .postUnlike => TargetArgs
  | .getMyChannels => ListArgs
  | .getChannels => ListArgs
  | .getChannelDetail => ChannelArgs
  | .getSubscribedChannels => ListArgs
  | .getPosts => PostListArgs
  | .getLikedPosts => ListArgs
  | .getComments => QueryArgs
  | .getStatistics => TokenArgs
  | .subscribeChannel => ChannelArgs
  | .unsubscribeChannel => ChannelArgs
  | .enableNotification => TokenArgs
  | .getServiceVersion => NoArgs

instance tabular : (m : Method) → Tabular m.Args
  | .standardSignIn => inferInstanceAs (Tabular SignInArgs)
  | .standardDidAuth => inferInstanceAs (Tabular DidAuthArgs)
  | .declareOwner => inferInstanceAs (Tabular DeclareOwnerArgs)
  | .getMultiComments => inferInstanceAs (Tabular QueryArgs)
  | .getMultiLikesAndCommentsCount => inferInstanceAs (Tabular QueryArgs)
  | .getMultiSubscribersCount => inferInstanceAs (Tabular SubscriberCountArgs)
  | .backupServiceData => inferInstanceAs (Tabular BackupArgs)
  | .createChannel => inferInstanceAs (Tabular CreateChannelArgs)
  | .publishPost => inferInstanceAs (Tabular PublishPostArgs)
  | .editPost => inferInstanceAs (Tabular EditPostArgs)
  | .deletePost => inferInstanceAs (Tabular PostArgs)
  | .postComment => inferInstanceAs (Tabular PostCommentArgs)
  | .editComment => inferInstanceAs (Tabular EditCommentArgs)
  | .deleteComment => inferInstanceAs (Tabular DeleteCommentArgs)
  | .blockComment => inferInstanceAs (Tabular TargetArgs)
  | .unblockComment => inferInstanceAs (Tabular TargetArgs)
  | .postLike => inferInstanceAs (Tabular TargetArgs)
  | .postUnlike => inferInstanceAs (Tabular TargetArgs)
  | .getMyChannels => inferInstanceAs (Tabular ListArgs)
  | .getChannels => inferInstanceAs (Tabular ListArgs)
  | .getChannelDetail => inferInstanceAs (Tabular ChannelArgs)
  | .getSubscribedChannels => inferInstanceAs (Tabular ListArgs)
  | .getPosts => inferInstanceAs (Tabular PostListArgs)
  | .getLikedPosts => inferInstanceAs (Tabular ListArgs)
  | .getComments => inferInstanceAs (Tabular QueryArgs)
  | .getStatistics => inferInstanceAs (Tabular TokenArgs)
  | .subscribeChannel => inferInstanceAs (Tabular ChannelArgs)
  | .unsubscribeChannel => inferInstanceAs (Tabular ChannelArgs)
  | .enableNotification => inferInstanceAs (Tabular TokenArgs)
  | .getServiceVersion => inferInstanceAs (Tabular NoArgs)

/-- The fields that every version of the method has. -/
def base (m : Method) : Layout :=
  (tabular m).base

/-- The fields that version 2.0 added to the method. -/
def extension (m : Method) : Layout :=
  (tabular m).extension

/-- The layout of the method's arguments in a version. -/
def layout (m : Method) : Version → Layout
  | .v1 => m.base
  | .v2 => m.base ++ m.extension

/-- The arguments as a row of the layout of a version; 1.0 drops what 2.0 added. -/
def narrow (m : Method) (args : m.Args) : (v : Version) → (m.layout v).Row
  | .v1 => ((tabular m).toRows args).1
  | .v2 => Layout.append ((tabular m).toRows args).1 ((tabular m).toRows args).2

/-- The arguments that a row of a version's layout gives; 1.0 gets placeholders for what 2.0
added. -/
def widen (m : Method) : (v : Version) → (m.layout v).Row → m.Args
  | .v1, row => (tabular m).ofRows (row, m.extension.placeholderRow)
  | .v2, row => (tabular m).ofRows (m.base.split row)

/-- The arguments of a call that gives none. -/
def zeroArgs (m : Method) : m.Args :=
  m.widen .v2 (m.layout .v2).zeroRow

/-- The method has no params; a nil stands in their place and nothing is read. -/
def takesNothing (m : Method) : Bool :=
  m.base.isEmpty

end Method

/-- A method with its arguments, or nothing for a call that could not be typed. -/
inductive Params where
  | call (m : Method) (args : m.Args)
  | unknown

namespace Params

/-- The method called. -/
def method? : Params → Option Method
  | .call m _ => some m
  | .unknown => none

/-- The access token among the arguments, if the method carries one. -/
def token? : Params → Option String
  | .call .standardSignIn _ => none
  | .call .standardDidAuth _ => none
  | .call .declareOwner _ => none
  | .call .getServiceVersion _ => none
  | .call .getMultiComments a => some a.token
  | .call .getMultiLikesAndCommentsCount a => some a.token
  | .call .getMultiSubscribersCount a => some a.token
  | .call .backupServiceData a => some a.token
  | .call .createChannel a => some a.token
  | .call .publishPost a => some a.token
  | .call .editPost a => some a.token
  | .call .deletePost a => some a.token
  | .call .postComment a => some a.token
  | .call .editComment a => some a.token
  | .call .deleteComment a => some a.token
  | .call .blockComment a => some a.token
  | .call .unblockComment a => some a.token
  | .call .postLike a => some a.token
  | .call .postUnlike a => some a.token
  | .call .getMyChannels a => some a.token
  | .call .getChannels a => some a.token
  | .call .getChannelDetail a => some a.token
  | .call .getSubscribedChannels a => some a.token
  | .call .getPosts a => some a.token
  | .call .getLikedPosts a => some a.token
  | .call .getComments a => some a.token
  | .call .getStatistics a => some a.token
  | .call .subscribeChannel a => some a.token
  | .call .unsubscribeChannel a => some a.token
  | .call .enableNotification a => some a.token
  | .unknown => none

/-- The params of an envelope in a version. -/
def write (v : Version) : Params → Value
  | .call m args => if m.takesNothing then .nil else (m.layout v).write (m.narrow args v)
  | .unknown => .nil

/-- Reads the arguments of a method from the params of an envelope; params that are absent or nil
give every field its zero. -/
def read? (v : Version) (m : Method) (slot : Option Value) : Option Params :=
  let row? := match slot with
    | none | some .nil => some (m.layout v).zeroRow
    | some value => (m.layout v).read? value
  row?.map fun row => .call m (m.widen v row)

end Params

end FeedNode.Rpc
