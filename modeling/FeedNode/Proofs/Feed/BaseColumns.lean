import FeedNode.Feed.Store.Channels
import FeedNode.Feed.Store.Comments
import FeedNode.Feed.Store.Posts
import FeedNode.Proofs.Feed.Withheld

/-!
# The columns of version 1.0

Version 2.0 added columns to channels, posts and comments. The base of a row is the row with these
columns blank, and the base of a store has the bases of its rows. Two stores with one base differ in
nothing but what the added columns hold.

No operation reads these columns, so the operations do the same to all stores with one base: they
are refused alike, have the same result, and leave stores with one base behind.
-/

namespace FeedNode.Feed

/-! ## Rows -/

/-- The channel with its columns of version 1.0. -/
def Channel.base (c : Channel) : Channel :=
  { c with tipMethods := "", proof := "" }

/-- The post with its columns of version 1.0. -/
def Post.base (p : Post) : Post :=
  { p with thumbnails := [], hashId := "", proof := "" }

/-- The comment with its columns of version 1.0. -/
def Comment.base (c : Comment) : Comment :=
  { c with thumbnails := [], hashId := "", proof := "" }

namespace Store

/-- The store with the columns of version 1.0. -/
def base (s : Store) : Store :=
  { s with
    channels := s.channels.map Channel.base
    posts := s.posts.map Post.base
    comments := s.comments.map Comment.base }

@[simp] theorem base_base (s : Store) : s.base.base = s.base := by
  simp [base, Channel.base, Post.base, Comment.base, Function.comp_def]

/-- What does not tell a store from its base does not tell two stores with one base apart. -/
theorem same_of_base {β : Type} {f : Store → β} (hf : ∀ s, f s.base = f s) {s t : Store}
    (h : t.base = s.base) : f t = f s := by
  rw [← hf t, h, hf s]

/-! ## Looking rows up -/

/-- The base of a store finds the bases of its channels. -/
theorem channel?_base (s : Store) (channelId : Nat) :
    s.base.channel? channelId = (s.channel? channelId).map Channel.base :=
  List.find?_map

/-- The base of a store finds the bases of its posts. -/
theorem post?_base (s : Store) (channelId postId : Nat) :
    s.base.post? channelId postId = (s.post? channelId postId).map Post.base :=
  List.find?_map

/-- The base of a store finds the bases of its comments. -/
theorem comment?_base (s : Store) (channelId postId commentId : Nat) :
    s.base.comment? channelId postId commentId =
      (s.comment? channelId postId commentId).map Comment.base :=
  List.find?_map

/-! ## Changing rows -/

section Changes

variable {s t : Store}

/-- A change that comes to the same for a row and for its base comes to the same for rows with one
base. -/
theorem map_update_base {α : Type} {g f : α → α} {p : α → Bool} {rows rows' : List α}
    (h : rows'.map g = rows.map g) (hg : ∀ a, g (g a) = g a) (hp : ∀ a, p (g a) = p a)
    (hf : ∀ a, g (f (g a)) = g (f a)) :
    (rows'.map fun a => if p a then f a else a).map g =
      (rows.map fun a => if p a then f a else a).map g := by
  have hbase : ∀ rows : List α, (rows.map fun a => if p a then f a else a).map g =
      (rows.map g).map fun a => g (if p a then f a else a) := by
    intro rows
    rw [List.map_map, List.map_map]
    refine List.map_congr_left fun a _ => ?_
    simp only [Function.comp, hp]
    split
    · -- a row that is changed
      exact (hf a).symm
    · -- a row that is left as it is
      exact (hg a).symm
  rw [hbase, hbase, h]

/-- A channel is changed alike in stores with one base, if the change does not read the added
columns. -/
theorem base_updateChannel (h : t.base = s.base) {f : Channel → Channel}
    (hf : ∀ c, (f c.base).base = (f c).base) (channelId : Nat) :
    (t.updateChannel channelId f).base = (s.updateChannel channelId f).base := by
  simp only [base, updateChannel, Store.mk.injEq] at h ⊢
  obtain ⟨husers, hchannels, hother⟩ := h
  exact ⟨husers, map_update_base hchannels (fun _ => rfl) (fun _ => rfl) hf, hother⟩

/-- A post is changed alike in stores with one base, if the change does not read the added columns.
-/
theorem base_updatePost (h : t.base = s.base) {f : Post → Post}
    (hf : ∀ p, (f p.base).base = (f p).base) (channelId postId : Nat) :
    (t.updatePost channelId postId f).base = (s.updatePost channelId postId f).base := by
  simp only [base, updatePost, Store.mk.injEq] at h ⊢
  obtain ⟨husers, hchannels, hposts, hother⟩ := h
  exact ⟨husers, hchannels, map_update_base hposts (fun _ => rfl) (fun _ => rfl) hf, hother⟩

/-- A comment is changed alike in stores with one base, if the change does not read the added
columns. -/
theorem base_updateComment (h : t.base = s.base) {f : Comment → Comment}
    (hf : ∀ c, (f c.base).base = (f c).base) (channelId postId commentId : Nat) :
    (t.updateComment channelId postId commentId f).base =
      (s.updateComment channelId postId commentId f).base := by
  simp only [base, updateComment, Store.mk.injEq] at h ⊢
  obtain ⟨husers, hchannels, hposts, hcomments, hother⟩ := h
  exact ⟨husers, hchannels, hposts,
    map_update_base hcomments (fun _ => rfl) (fun _ => rfl) hf, hother⟩

/-- The likes of a target move alike in stores with one base. -/
theorem base_updateLikes (h : t.base = s.base) (f : Nat → Nat)
    (channelId postId commentId : Nat) :
    (t.updateLikes channelId postId commentId f).base =
      (s.updateLikes channelId postId commentId f).base := by
  rw [updateLikes, updateLikes]
  split
  · -- a post
    exact base_updatePost h (fun _ => rfl) channelId postId
  · -- a comment
    exact base_updateComment h (fun _ => rfl) channelId postId commentId

/-- A user is entered in the same way, since users have no added columns. -/
theorem upsertUser_base (s : Store) (u : User) : s.base.upsertUser u = (s.upsertUser u).base := by
  have hknown : s.base.user? u.userId = s.user? u.userId := rfl
  rw [upsertUser, upsertUser, hknown]
  split <;> rfl

end Changes

/-! ## Operations -/

/-- What came of an operation, with the base of the store that it leaves. -/
def baseOf {α : Type} (r : Except StoreError (α × Store)) : Except StoreError (α × Store) :=
  r.map (Prod.map id base)

section Operations

variable (s : Store)

/-- A channel is created alike in a store and in its base. -/
theorem createChannel_base (now : Nat) (d : ChannelDraft) :
    baseOf (s.base.createChannel now d) = baseOf (s.createChannel now d) := by
  have hnames : (s.base.channels.any fun c => c.name == d.name) =
      s.channels.any fun c => c.name == d.name := List.any_map
  have hnext : s.base.nextChannelId = s.nextChannelId := by simp [nextChannelId, base]
  -- the new row is made of the draft and the number of channels
  simp only [createChannel, hnames, hnext]
  split
  · -- the name is taken
    rfl
  · -- the row is added, which is the same one in both
    simp [baseOf, Except.map, base, Function.comp_def, Channel.base, Post.base, Comment.base]

/-- A post is published alike in a store and in its base. -/
theorem publishPost_base (now channelId : Nat) (d : Draft) :
    baseOf (s.base.publishPost now channelId d) = baseOf (s.publishPost now channelId d) := by
  rw [publishPost, publishPost, channel?_base]
  cases s.channel? channelId with
  | none => rfl
  | some channel =>
    -- of the channel the new row takes the number alone
    refine congrArg (fun t => Except.ok (_, t)) (base_updateChannel ?_ (fun _ => rfl) channelId)
    simp [base, Function.comp_def, Channel.base, Post.base, Comment.base]

/-- A post is edited alike in a store and in its base. -/
theorem editPost_base (now channelId postId : Nat) (d : Draft) :
    baseOf (s.base.editPost now channelId postId d) =
      baseOf (s.editPost now channelId postId d) := by
  rw [editPost, editPost, post?_base]
  cases s.post? channelId postId with
  | none => rfl
  | some p =>
    have hstatus : p.base.status = p.status := rfl
    simp only [Option.map_some, hstatus]
    split
    · -- a deleted post is refused in both
      rfl
    -- an edit leaves nothing of what was in the added columns
    · have hedited := base_updatePost s.base_base (f := fun p => p.edit now d) (fun _ => rfl)
        channelId postId
      exact congrArg (fun t => Except.ok (p.edit now d, t))
        (base_updateChannel hedited (fun _ => rfl) channelId)

/-- A post is deleted alike in a store and in its base. -/
theorem deletePost_base (now channelId postId : Nat) :
    (s.base.deletePost now channelId postId).map base =
      (s.deletePost now channelId postId).map base := by
  rw [deletePost, deletePost, post?_base]
  cases s.post? channelId postId with
  | none => rfl
  | some p =>
    have hstatus : p.base.status = p.status := rfl
    simp only [Option.map_some, hstatus]
    split
    · -- a deleted post is refused in both
      rfl
    · -- a deletion empties the added columns too
      have hdeleted := base_updatePost s.base_base (f := fun p => p.delete now) (fun _ => rfl)
        channelId postId
      exact congrArg Except.ok (base_updateChannel hdeleted (fun _ => rfl) channelId)

/-- A comment is posted alike in a store and in its base. -/
theorem postComment_base (now author channelId postId referId : Nat) (d : Draft) :
    baseOf (s.base.postComment now author channelId postId referId d) =
      baseOf (s.postComment now author channelId postId referId d) := by
  rw [postComment, postComment, post?_base, comment?_base, Option.isNone_map]
  cases s.post? channelId postId with
  | none => rfl
  | some post =>
    simp only [Option.map_some]
    split
    · -- what it answers does not exist
      rfl
    · -- the row is added, and the post counts it
      refine congrArg (fun t => Except.ok (_, t))
        (base_updatePost ?_ (fun _ => rfl) channelId postId)
      simp [base, Function.comp_def, Channel.base, Post.base, Comment.base]

/-- A comment is edited alike in a store and in its base. -/
theorem editComment_base (now userId channelId postId commentId : Nat) (d : Draft) :
    baseOf (s.base.editComment now userId channelId postId commentId d) =
      baseOf (s.editComment now userId channelId postId commentId d) := by
  rw [editComment, editComment, comment?_base]
  cases s.comment? channelId postId commentId with
  | none => rfl
  | some c =>
    have hauthor : c.base.author = c.author := rfl
    have hstatus : c.base.status = c.status := rfl
    simp only [Option.map_some, hauthor, hstatus]
    split
    · -- not the author's
      rfl
    · split
      · -- not readable
        rfl
      -- the row that is signed is the edited one, which has the columns of the draft
      · exact congrArg (fun t => Except.ok (s.sign (c.edit now d), t))
          (base_updateComment s.base_base (fun _ => rfl) channelId postId commentId)

/-- A comment is deleted alike in a store and in its base. -/
theorem deleteComment_base (now userId : Nat) (isOwner : Bool) (channelId postId commentId : Nat) :
    (s.base.deleteComment now userId isOwner channelId postId commentId).map base =
      (s.deleteComment now userId isOwner channelId postId commentId).map base := by
  rw [deleteComment, deleteComment, comment?_base]
  cases s.comment? channelId postId commentId with
  | none => rfl
  | some c =>
    have hauthor : c.base.author = c.author := rfl
    have hstatus : c.base.status = c.status := rfl
    simp only [Option.map_some, hauthor, hstatus]
    split
    · -- neither the author's nor the owner's
      rfl
    · split
      · -- deleted already
        rfl
      · -- what is left of it has no thumbnails
        exact congrArg Except.ok
          (base_updateComment s.base_base (fun _ => rfl) channelId postId commentId)

/-- A comment is blocked and unblocked alike in a store and in its base. -/
theorem setBlocked_base (now channelId postId commentId : Nat) (blocked : Bool) :
    (s.base.setBlocked now channelId postId commentId blocked).map base =
      (s.setBlocked now channelId postId commentId blocked).map base := by
  rw [setBlocked, setBlocked, comment?_base]
  cases s.comment? channelId postId commentId with
  | none => rfl
  | some c =>
    have hstatus : c.base.status = c.status := rfl
    simp only [Option.map_some, hstatus]
    -- the status is changed in both, or in neither
    have hset := base_updateComment s.base_base (f := fun c => c.setBlocked now blocked)
      (fun _ => rfl) channelId postId commentId
    generalize (if blocked = true then c.status.isReadable else c.status == .blocked) = allowed
    cases allowed with
    | true => exact congrArg Except.ok hset
    | false => rfl

/-- A target exists in a store if it does in its base. -/
theorem hasTarget_base (channelId postId commentId : Nat) :
    s.base.hasTarget channelId postId commentId = s.hasTarget channelId postId commentId := by
  rw [hasTarget, hasTarget, post?_base, comment?_base, Option.isSome_map, Option.isSome_map]

/-- The number of likes of a target is the same in the base. -/
theorem likeCount_base (channelId postId commentId : Nat) :
    s.base.likeCount channelId postId commentId = s.likeCount channelId postId commentId := by
  rw [likeCount, likeCount, post?_base, comment?_base, Option.map_map, Option.map_map]
  rfl

/-- The number of likes of a target is a base column. -/
theorem updateLikes_base (f : Nat → Nat) (channelId postId commentId : Nat) :
    let changed (s : Store) := s.updateLikes channelId postId commentId f
    (((changed s.base).likeCount channelId postId commentId, (changed s.base).base) : Nat × Store) =
      ((changed s).likeCount channelId postId commentId, (changed s).base) := by
  intro changed
  have hchanged : (changed s.base).base = (changed s).base :=
    base_updateLikes s.base_base f channelId postId commentId
  have hcount : (changed s.base).likeCount channelId postId commentId =
      (changed s).likeCount channelId postId commentId :=
    same_of_base (f := fun t => t.likeCount channelId postId commentId)
      (fun t => t.likeCount_base channelId postId commentId) hchanged
  exact Prod.ext hcount hchanged

/-- A like is given alike in a store and in its base. -/
theorem like_base (now userId channelId postId commentId : Nat) :
    baseOf (s.base.like now userId channelId postId commentId) =
      baseOf (s.like now userId channelId postId commentId) := by
  have hliked : s.base.isLiked userId channelId postId commentId =
      s.isLiked userId channelId postId commentId := rfl
  simp only [like, hasTarget_base, hliked]
  split
  · -- no such target
    rfl
  · split
    · -- liked already
      rfl
    · let marked : Store :=
        { s with likes := s.likes ++ [⟨userId, channelId, postId, commentId, now⟩] }
      exact congrArg Except.ok (marked.updateLikes_base (· + 1) channelId postId commentId)

/-- A like is taken back alike in a store and in its base. -/
theorem unlike_base (userId channelId postId commentId : Nat) :
    baseOf (s.base.unlike userId channelId postId commentId) =
      baseOf (s.unlike userId channelId postId commentId) := by
  have hliked : s.base.isLiked userId channelId postId commentId =
      s.isLiked userId channelId postId commentId := rfl
  simp only [unlike, hasTarget_base, hliked]
  split
  · -- no such target
    rfl
  · split
    · -- not liked
      rfl
    · let unmarked : Store :=
        { s with likes := s.likes.filter fun x => !x.isBy userId channelId postId commentId }
      exact congrArg Except.ok (unmarked.updateLikes_base (· - 1) channelId postId commentId)

/-- A subscription is added alike in a store and in its base. -/
theorem subscribe_base (now userId channelId : Nat) :
    (s.base.subscribe now userId channelId).map base =
      (s.subscribe now userId channelId).map base := by
  have hsubscribed : s.base.isSubscribed userId channelId = s.isSubscribed userId channelId := rfl
  simp only [subscribe, channel?_base, Option.isNone_map, hsubscribed]
  split
  · -- no such channel
    rfl
  · split
    · -- subscribed already
      rfl
    · let joined : Store :=
        { s with subscriptions := s.subscriptions ++ [⟨userId, channelId, now⟩] }
      exact congrArg Except.ok (base_updateChannel joined.base_base (fun _ => rfl) channelId)

/-- A subscription is taken back alike in a store and in its base. -/
theorem unsubscribe_base (userId channelId : Nat) :
    (s.base.unsubscribe userId channelId).map base =
      (s.unsubscribe userId channelId).map base := by
  have hsubscribed : s.base.isSubscribed userId channelId = s.isSubscribed userId channelId := rfl
  simp only [unsubscribe, channel?_base, Option.isNone_map, hsubscribed]
  split
  · -- no such channel
    rfl
  · split
    · -- not subscribed
      rfl
    · let parted : Store :=
        { s with
          subscriptions :=
            s.subscriptions.filter fun x => !(x.userId == userId && x.channelId == channelId) }
      exact congrArg Except.ok (base_updateChannel parted.base_base (fun _ => rfl) channelId)

end Operations

/-! ## Listings -/

section Listings

variable (s : Store)

/-- Criteria select the bases of channels as they select the channels. -/
theorem select_base_channels (c : Criteria) (rows : List Channel) :
    c.select Channel.sortKeys (rows.map Channel.base) =
      (c.select Channel.sortKeys rows).map Channel.base :=
  select_map (f := Channel.base) (fun _ => rfl) c rows

/-- Criteria select the bases of posts as they select the posts. -/
theorem select_base_posts (c : Criteria) (rows : List Post) :
    c.select Post.sortKeys (rows.map Post.base) = (c.select Post.sortKeys rows).map Post.base :=
  select_map (f := Post.base) (fun _ => rfl) c rows

/-- The channels are listed in one order, whatever is in the added columns. -/
theorem listChannels_base (c : Criteria) :
    s.base.listChannels c = (s.listChannels c).map Channel.base :=
  select_base_channels c s.channels

/-- The channels of a subscriber are listed in one order, whatever is in the added columns. -/
theorem listSubscribed_base (userId : Nat) (c : Criteria) :
    s.base.listSubscribed userId c = (s.listSubscribed userId c).map Channel.base := by
  rw [listSubscribed, listSubscribed, ← select_base_channels]
  exact congrArg _ List.filter_map

/-- The numbers of subscribers are the same, whatever is in the added columns. -/
theorem listSubscriberCounts_base (channelId : Nat) :
    s.base.listSubscriberCounts channelId = s.listSubscriberCounts channelId := by
  have hrows : (s.base.channels.filter fun ch => matchesId channelId ch.channelId) =
      (s.channels.filter fun ch => matchesId channelId ch.channelId).map Channel.base :=
    List.filter_map
  simp only [listSubscriberCounts]
  rw [hrows, select_base_channels, List.map_map]
  rfl

/-- The posts of a channel are listed in one order, whatever is in the added columns. -/
theorem listPosts_base (channelId : Nat) (c : Criteria) :
    s.base.listPosts channelId c = (s.listPosts channelId c).map Post.base := by
  rw [listPosts, listPosts, ← select_base_posts]
  exact congrArg _ List.filter_map

/-- The posts that a user liked are listed in one order, whatever is in the added columns. -/
theorem listLiked_base (userId : Nat) (c : Criteria) :
    s.base.listLiked userId c = (s.listLiked userId c).map Post.base := by
  have hrows : (s.base.posts.filter fun p =>
        s.base.likes.any (Like.isBy userId p.channelId p.postId 0)) =
      (s.posts.filter fun p => s.likes.any (Like.isBy userId p.channelId p.postId 0)).map
        Post.base :=
    List.filter_map
  simp only [listLiked]
  rw [hrows, sortByPair_map (f := Post.base) fun _ => rfl, select_base_posts]

/-- The counters of posts are the same, whatever is in the added columns. -/
theorem listPostCounts_base (channelId postId : Nat) (c : Criteria) :
    s.base.listPostCounts channelId postId c = s.listPostCounts channelId postId c := by
  have hrows : (s.base.posts.filter fun p =>
        matchesId channelId p.channelId && matchesId postId p.postId) =
      (s.posts.filter fun p =>
        matchesId channelId p.channelId && matchesId postId p.postId).map Post.base :=
    List.filter_map
  simp only [listPostCounts]
  rw [hrows, baseOrder_map (f := Post.base) (fun _ => rfl) (fun _ => rfl) (fun _ => rfl),
    select_base_posts, List.map_map]
  rfl

/-- The comments are listed in one order, whatever is in the added columns. -/
theorem listComments_base (channelId postId : Nat) (c : Criteria) :
    s.base.listComments channelId postId c =
      (s.listComments channelId postId c).map fun x => s.sign x.toComment.base :=
  listComments_map (f := Comment.base) (fun _ => ⟨rfl, rfl, rfl, rfl⟩) s channelId postId c

end Listings

end Store

end FeedNode.Feed
