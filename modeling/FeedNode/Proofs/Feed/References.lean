import FeedNode.Proofs.Feed.Numbering

/-!
# References between rows

A row that names another row names one that exists: posts name a channel, comments a post and maybe
an earlier comment on it, likes what is liked, subscriptions a channel. What makes a row of a table
the only one of its kind (the name of a channel; user and target of a like; user and channel of a
subscription) is distinct from row to row.

Rows are never removed, except for likes and subscriptions, and keep what they were added with: the
tables only grow (`Store.Grows`). So a reference that once was good stays good.

Main statements: `Linked.apply` and `intact_after`.
-/

namespace FeedNode.Feed

/-- What no two posts have in common. -/
def Post.key (p : Post) : Nat × Nat :=
  (p.channelId, p.postId)

/-- What no two comments have in common. -/
def Comment.key (c : Comment) : Nat × Nat × Nat :=
  (c.channelId, c.postId, c.commentId)

/-- What no two likes have in common. -/
def Like.key (x : Like) : Nat × Nat × Nat × Nat :=
  (x.userId, x.channelId, x.postId, x.commentId)

/-- What no two subscriptions have in common. -/
def Subscription.key (x : Subscription) : Nat × Nat :=
  (x.userId, x.channelId)

/-- What stays with a channel. -/
def Channel.origin (c : Channel) : Nat × String × Nat :=
  (c.channelId, c.name, c.createdAt)

/-- What stays with a post. -/
def Post.origin (p : Post) : (Nat × Nat) × Nat :=
  (p.key, p.createdAt)

/-- What stays with a comment. -/
def Comment.origin (c : Comment) : (Nat × Nat × Nat) × Nat × Nat × Nat :=
  (c.key, c.referId, c.author, c.createdAt)

namespace Store

/-! ## Keys -/

/-- The identifiers of the channels, in the order in which they were created. -/
def channelIds (s : Store) : List Nat :=
  s.channels.map Channel.channelId

/-- The keys of the posts, in the order in which they were published. -/
def postKeys (s : Store) : List (Nat × Nat) :=
  s.posts.map Post.key

/-- The keys of the comments, in the order in which they were posted. -/
def commentKeys (s : Store) : List (Nat × Nat × Nat) :=
  s.comments.map Comment.key

/-- There is a post under the key or, for a number other than zero, a comment. -/
def Holds (s : Store) (channelId postId commentId : Nat) : Prop :=
  if commentId = 0 then (channelId, postId) ∈ s.postKeys
  else (channelId, postId, commentId) ∈ s.commentKeys

section Lookup

variable {s : Store} {channelId postId commentId : Nat}

/-- A channel is found if its identifier is in the table. -/
theorem channel?_isSome_iff :
    (s.channel? channelId).isSome = true ↔ channelId ∈ s.channelIds := by
  rw [channel?, List.find?_isSome]
  simp [channelIds]

/-- A post is found if its key is in the table. -/
theorem post?_isSome_iff :
    (s.post? channelId postId).isSome = true ↔ (channelId, postId) ∈ s.postKeys := by
  rw [post?, List.find?_isSome]
  simp [postKeys, Post.key, isPost]

/-- A comment is found if its key is in the table. -/
theorem comment?_isSome_iff :
    (s.comment? channelId postId commentId).isSome = true ↔
      (channelId, postId, commentId) ∈ s.commentKeys := by
  rw [comment?, List.find?_isSome]
  simp [commentKeys, Comment.key, isComment, and_assoc]

/-- There is something to like under a key if the key is in the table. -/
theorem hasTarget_iff :
    s.hasTarget channelId postId commentId = true ↔ s.Holds channelId postId commentId := by
  rw [hasTarget, Holds]
  split
  · exact post?_isSome_iff
  · exact comment?_isSome_iff

/-- A user subscribes to a channel if the pair is in the table. -/
theorem isSubscribed_iff {userId : Nat} :
    s.isSubscribed userId channelId = true ↔
      (userId, channelId) ∈ s.subscriptions.map Subscription.key := by
  simp [isSubscribed, Subscription.key]

/-- A user likes something if the user and its key are in the table. -/
theorem isLiked_iff {userId : Nat} :
    s.isLiked userId channelId postId commentId = true ↔
      (userId, channelId, postId, commentId) ∈ s.likes.map Like.key := by
  simp [isLiked, Like.key, Like.isBy, and_assoc]

end Lookup

section Fresh

variable {s : Store} {channelId postId : Nat}

/-- The next number of a table is the number of none of its rows. -/
theorem Numbered.fresh_channel (hs : s.Numbered) : s.nextChannelId ∉ s.channelIds :=
  fun hmem => Nat.lt_irrefl _ (hs.channels.lt hmem)

/-- The next number of a channel is the number of none of its posts. -/
theorem Numbered.fresh_post (hs : s.Numbered) {channel : Channel}
    (h : s.channel? channelId = some channel) : (channelId, channel.nextPostId) ∉ s.postKeys := by
  obtain ⟨hmem, rfl⟩ := channelId_of_channel? h
  intro hkey
  -- a post under it would have a number that was given before
  obtain ⟨p, hp, heq⟩ := List.mem_map.1 hkey
  obtain ⟨hchannel, hpost⟩ := Prod.mk.inj heq
  have hid : p.postId ∈ s.postIds channel.channelId :=
    List.mem_map_of_mem (List.mem_filter.2 ⟨hp, by simp [hchannel]⟩)
  have hlt := (hs.posts channel hmem).lt hid
  omega

/-- The next number of a post is the number of none of its comments. -/
theorem Numbered.fresh_comment (hs : s.Numbered) {post : Post}
    (h : s.post? channelId postId = some post) :
    (channelId, postId, post.nextCommentId) ∉ s.commentKeys := by
  obtain ⟨hmem, rfl, rfl⟩ := key_of_post? h
  -- a comment under it would have a number that was given before
  intro hkey
  obtain ⟨c, hc, heq⟩ := List.mem_map.1 hkey
  simp only [Comment.key, Prod.mk.injEq] at heq
  obtain ⟨hchannel, hpost, hcomment⟩ := heq
  have hid : c.commentId ∈ s.commentIds post.channelId post.postId :=
    List.mem_map_of_mem (List.mem_filter.2 ⟨hc, by simp [hchannel, hpost]⟩)
  have hlt := (hs.comments post hmem).lt hid
  omega

/-- A comment has no number zero, which stands for the post. -/
theorem Numbered.commentId_ne_zero (hs : s.Numbered) {c : Comment} (hc : c ∈ s.comments) :
    c.commentId ≠ 0 := by
  obtain ⟨p, hp, hchannel, hpost⟩ := hs.inPost c hc
  -- its number is among those of its post, which begin with one
  have hid : c.commentId ∈ s.commentIds p.channelId p.postId :=
    List.mem_map_of_mem (List.mem_filter.2 ⟨hc, by simp [hchannel, hpost]⟩)
  obtain ⟨n, hids, -⟩ := (hs.comments p hp).eq_range'
  rw [hids, List.mem_range'_1] at hid
  omega

end Fresh

/-- Rows may have been added behind those that there were, and none was removed or replaced. -/
structure Grows (s s' : Store) : Prop where
  channels : s.channels.map Channel.origin <+: s'.channels.map Channel.origin
  posts : s.posts.map Post.origin <+: s'.posts.map Post.origin
  comments : s.comments.map Comment.origin <+: s'.comments.map Comment.origin

namespace Grows

variable {s s' s'' : Store} {channelId postId commentId : Nat}

/-- A store grows into itself. -/
theorem refl (s : Store) : s.Grows s :=
  ⟨List.prefix_rfl, List.prefix_rfl, List.prefix_rfl⟩

/-- Growth carries on from store to store. -/
theorem trans (h : s.Grows s') (h' : s'.Grows s'') : s.Grows s'' :=
  ⟨h.channels.trans h'.channels, h.posts.trans h'.posts, h.comments.trans h'.comments⟩

/-- Only channels, posts and comments stay. -/
theorem of_rows (hchannels : s'.channels = s.channels) (hposts : s'.posts = s.posts)
    (hcomments : s'.comments = s.comments) : s.Grows s' := by
  refine ⟨?_, ?_, ?_⟩
  · simp [hchannels]
  · simp [hposts]
  · simp [hcomments]

/-- Channels that keep their origin in a change are all still there. -/
theorem updateChannel {f : Channel → Channel} (hf : ∀ c, (f c).origin = c.origin) :
    s.Grows (s.updateChannel channelId f) := by
  refine ⟨?_, List.prefix_rfl, List.prefix_rfl⟩
  simp [map_updateChannel hf]

/-- Posts that keep their origin in a change are all still there. -/
theorem updatePost {f : Post → Post} (hf : ∀ p, (f p).origin = p.origin) :
    s.Grows (s.updatePost channelId postId f) := by
  refine ⟨List.prefix_rfl, ?_, List.prefix_rfl⟩
  simp [map_updatePost hf]

/-- Comments that keep their origin in a change are all still there. -/
theorem updateComment {f : Comment → Comment} (hf : ∀ c, (f c).origin = c.origin) :
    s.Grows (s.updateComment channelId postId commentId f) := by
  refine ⟨List.prefix_rfl, List.prefix_rfl, ?_⟩
  simp [map_updateComment hf]

/-- Counting likes removes no row. -/
theorem updateLikes (f : Nat → Nat) : s.Grows (s.updateLikes channelId postId commentId f) := by
  rw [Store.updateLikes]
  split
  · exact updatePost fun p => rfl
  · exact updateComment fun c => rfl

/-- A table of channels grows by a channel. -/
theorem addChannel (row : Channel) : s.Grows { s with channels := s.channels ++ [row] } :=
  ⟨by simp, List.prefix_rfl, List.prefix_rfl⟩

/-- A table of posts grows by a post. -/
theorem addPost (row : Post) : s.Grows { s with posts := s.posts ++ [row] } :=
  ⟨List.prefix_rfl, by simp, List.prefix_rfl⟩

/-- A table of comments grows by a comment. -/
theorem addComment (row : Comment) : s.Grows { s with comments := s.comments ++ [row] } :=
  ⟨List.prefix_rfl, List.prefix_rfl, by simp⟩

/-- The identifiers of the channels are still there, in their order. -/
theorem channelIds (h : s.Grows s') : s.channelIds <+: s'.channelIds := by
  have hfst := h.channels.map Prod.fst
  simp only [List.map_map] at hfst
  exact hfst

/-- The keys of the posts are still there, in their order. -/
theorem postKeys (h : s.Grows s') : s.postKeys <+: s'.postKeys := by
  have hfst := h.posts.map Prod.fst
  simp only [List.map_map] at hfst
  exact hfst

/-- The keys of the comments are still there, in their order. -/
theorem commentKeys (h : s.Grows s') : s.commentKeys <+: s'.commentKeys := by
  have hfst := h.comments.map Prod.fst
  simp only [List.map_map] at hfst
  exact hfst

/-- What there is stays there. -/
theorem holds (h : s.Grows s') (hs : s.Holds channelId postId commentId) :
    s'.Holds channelId postId commentId := by
  rw [Holds] at hs ⊢
  split
  · -- a post
    rename_i hzero
    rw [if_pos hzero] at hs
    exact h.postKeys.subset hs
  · -- a comment
    rename_i hzero
    rw [if_neg hzero] at hs
    exact h.commentKeys.subset hs

/-- No operation removes a row that has a key. -/
theorem apply {op : Operation} (h : op.apply s = .ok s') : s.Grows s' := by
  cases op with
  | upsertUser u =>
    rw [← Except.ok.inj h]
    have hsame := sameRows_upsertUser s u
    exact of_rows hsame.channels hsame.posts hsame.comments
  | createChannel now d =>
    obtain ⟨-, rfl⟩ := createChannel_ok h
    exact addChannel _
  | publishPost now channelId d =>
    obtain ⟨channel, -, rfl⟩ := publishPost_ok h
    refine (addPost _).trans (updateChannel ?_)
    exact fun c => rfl
  | editPost now channelId postId d =>
    obtain ⟨p, -, -, rfl⟩ := editPost_ok h
    refine (updatePost ?_).trans (updateChannel ?_)
    · exact fun p => rfl
    · exact fun c => rfl
  | deletePost now channelId postId =>
    obtain ⟨p, -, -, rfl⟩ := deletePost_ok h
    refine (updatePost ?_).trans (updateChannel ?_)
    · exact fun p => rfl
    · exact fun c => rfl
  | postComment now author channelId postId referId d =>
    obtain ⟨post, -, -, rfl⟩ := postComment_ok h
    refine (addComment _).trans (updatePost ?_)
    exact fun p => rfl
  | editComment now userId channelId postId commentId d =>
    obtain ⟨c, -, -, -, rfl⟩ := editComment_ok h
    exact updateComment fun c => rfl
  | deleteComment now userId isOwner channelId postId commentId =>
    obtain ⟨c, -, -, -, rfl⟩ := deleteComment_ok h
    exact updateComment fun c => rfl
  | setBlocked now channelId postId commentId blocked =>
    obtain ⟨c, -, -, rfl⟩ := setBlocked_ok h
    exact updateComment fun c => rfl
  -- likes and subscriptions come and go, and what counts them is no part of a key
  | like now userId channelId postId commentId =>
    obtain ⟨-, -, row, -, rfl⟩ := like_ok h
    refine (of_rows ?_ ?_ ?_).trans (updateLikes _) <;> rfl
  | unlike userId channelId postId commentId =>
    obtain ⟨-, -, rfl⟩ := unlike_ok h
    refine (of_rows ?_ ?_ ?_).trans (updateLikes _) <;> rfl
  | subscribe now userId channelId =>
    obtain ⟨-, -, row, -, rfl⟩ := subscribe_ok h
    refine (of_rows ?_ ?_ ?_).trans (updateChannel fun c => ?_) <;> rfl
  | unsubscribe userId channelId =>
    obtain ⟨-, -, rfl⟩ := unsubscribe_ok h
    refine (of_rows ?_ ?_ ?_).trans (updateChannel fun c => ?_) <;> rfl

end Grows

/-! ## References -/

/-- References are to rows that exist, and no two rows are of one kind. -/
structure Linked (s : Store) : Prop where
  names : (s.channels.map Channel.name).Nodup
  answers : ∀ c ∈ s.comments, c.referId = 0 ∨
    (c.channelId, c.postId, c.referId) ∈ s.commentKeys ∧ c.referId < c.commentId
  likes : ∀ x ∈ s.likes, s.Holds x.channelId x.postId x.commentId
  likeKeys : (s.likes.map Like.key).Nodup
  subscriptions : ∀ x ∈ s.subscriptions, x.channelId ∈ s.channelIds
  subscriptionKeys : (s.subscriptions.map Subscription.key).Nodup

/-- The references of an empty store are good. -/
theorem linked_empty : empty.Linked where
  names := List.nodup_nil
  answers := nofun
  likes := nofun
  likeKeys := List.nodup_nil
  subscriptions := nofun
  subscriptionKeys := List.nodup_nil

/-- A row whose key is new to a table. -/
theorem nodup_map_push {α κ : Type} {key : α → κ} {l : List α} {row : α}
    (h : (l.map key).Nodup) (hrow : key row ∉ l.map key) : ((l ++ [row]).map key).Nodup := by
  rw [List.map_append, List.map_singleton, ← List.concat_eq_append]
  exact h.concat hrow

/-- Of rows with different keys some may go. -/
theorem nodup_map_filter {α κ : Type} {key : α → κ} {l : List α} (h : (l.map key).Nodup)
    (p : α → Bool) : ((l.filter p).map key).Nodup :=
  h.sublist (List.filter_sublist.map key)

namespace Linked

variable {s s' : Store} {channelId postId commentId : Nat}

/-- References to the same rows are as good. -/
theorem sameRows (hl : s.Linked) (h : s.SameRows s') : s'.Linked := by
  obtain ⟨users, channels, posts, comments, likes, subscriptions⟩ := s'
  obtain ⟨rfl, rfl, rfl, rfl, rfl⟩ := h
  exact ⟨hl.names, hl.answers, hl.likes, hl.likeKeys, hl.subscriptions, hl.subscriptionKeys⟩

/-! ### Changes in place -/

/-- A change of channels that keeps their origin keeps the references good. -/
theorem updateChannel (hl : s.Linked) {f : Channel → Channel}
    (hf : ∀ c, (f c).origin = c.origin) : (s.updateChannel channelId f).Linked := by
  have hname : ∀ c, (f c).name = c.name := fun c => congrArg (fun o => o.2.1) (hf c)
  refine ⟨?_, hl.answers, hl.likes, hl.likeKeys, ?_, hl.subscriptionKeys⟩
  · -- the name is part of the origin
    rw [map_updateChannel hname]
    exact hl.names
  · -- and so is the identifier
    intro x hx
    exact (Grows.updateChannel hf).channelIds.subset (hl.subscriptions x hx)

/-- A change of posts that keeps their origin keeps the references good. -/
theorem updatePost (hl : s.Linked) {f : Post → Post} (hf : ∀ p, (f p).origin = p.origin) :
    (s.updatePost channelId postId f).Linked :=
  ⟨hl.names, hl.answers, fun x hx => (Grows.updatePost hf).holds (hl.likes x hx), hl.likeKeys,
    hl.subscriptions, hl.subscriptionKeys⟩

/-- A change of comments that keeps their origin keeps the references good. -/
theorem updateComment (hl : s.Linked) {f : Comment → Comment}
    (hf : ∀ c, (f c).origin = c.origin) :
    (s.updateComment channelId postId commentId f).Linked := by
  have hgrows : s.Grows (s.updateComment channelId postId commentId f) := .updateComment hf
  refine ⟨hl.names, ?_, fun x hx => hgrows.holds (hl.likes x hx), hl.likeKeys, hl.subscriptions,
    hl.subscriptionKeys⟩
  intro d hd
  obtain ⟨c, hc, rfl⟩ := List.mem_map.1 hd
  -- the comment answers the same comment under the same number as before
  have hsame := apply_if hf (isComment channelId postId commentId c) c
  simp only [Comment.origin, Comment.key, Prod.mk.injEq] at hsame
  obtain ⟨⟨hchannel, hpost, hid⟩, hrefer, -⟩ := hsame
  rw [hchannel, hpost, hid, hrefer]
  exact (hl.answers c hc).imp id fun h => ⟨hgrows.commentKeys.subset h.1, h.2⟩

/-- Counting likes keeps the references good. -/
theorem updateLikes (hl : s.Linked) (f : Nat → Nat) :
    (s.updateLikes channelId postId commentId f).Linked := by
  rw [Store.updateLikes]
  split
  · exact hl.updatePost fun p => rfl
  · exact hl.updateComment fun c => rfl

/-! ### Rows that are added or removed -/

/-- A channel with a name of its own keeps the references good. -/
theorem addChannel (hl : s.Linked) {row : Channel} (hname : ∀ c ∈ s.channels, c.name ≠ row.name) :
    Linked { s with channels := s.channels ++ [row] } := by
  refine ⟨?_, hl.answers, hl.likes, hl.likeKeys, ?_, hl.subscriptionKeys⟩
  · -- no channel has the new name
    refine nodup_map_push hl.names fun hmem => ?_
    obtain ⟨c, hc, heq⟩ := List.mem_map.1 hmem
    exact hname c hc heq
  · intro x hx
    exact (Grows.addChannel row).channelIds.subset (hl.subscriptions x hx)

/-- A post refers to its channel only, which is a matter of numbering. -/
theorem addPost (hl : s.Linked) (row : Post) : Linked { s with posts := s.posts ++ [row] } :=
  ⟨hl.names, hl.answers, fun x hx => (Grows.addPost row).holds (hl.likes x hx), hl.likeKeys,
    hl.subscriptions, hl.subscriptionKeys⟩

/-- A comment that answers an earlier one keeps the references good. -/
theorem addComment (hl : s.Linked) {row : Comment}
    (hrefer : row.referId = 0 ∨
      (row.channelId, row.postId, row.referId) ∈ s.commentKeys ∧ row.referId < row.commentId) :
    Linked { s with comments := s.comments ++ [row] } := by
  have hgrows := Grows.addComment (s := s) row
  refine ⟨hl.names, ?_, fun x hx => hgrows.holds (hl.likes x hx), hl.likeKeys, hl.subscriptions,
    hl.subscriptionKeys⟩
  -- old comments answer what they answered
  intro c hc
  have hold : c.referId = 0 ∨
      (c.channelId, c.postId, c.referId) ∈ s.commentKeys ∧ c.referId < c.commentId := by
    rcases List.mem_append.1 hc with hmem | hnew
    · exact hl.answers c hmem
    · rw [List.mem_singleton.1 hnew]
      exact hrefer
  exact hold.imp id fun h => ⟨hgrows.commentKeys.subset h.1, h.2⟩

/-- A like of something that exists keeps the references good. -/
theorem addLike (hl : s.Linked) {row : Like} (hrow : s.Holds row.channelId row.postId row.commentId)
    (hnew : row.key ∉ s.likes.map Like.key) : Linked { s with likes := s.likes ++ [row] } := by
  refine ⟨hl.names, hl.answers, ?_, nodup_map_push hl.likeKeys hnew, hl.subscriptions,
    hl.subscriptionKeys⟩
  intro x hx
  rcases List.mem_append.1 hx with hold | hnew
  · exact hl.likes x hold
  · rw [List.mem_singleton.1 hnew]
    exact hrow

/-- Likes that go are referred to by nothing. -/
theorem removeLikes (hl : s.Linked) (p : Like → Bool) :
    Linked { s with likes := s.likes.filter p } :=
  ⟨hl.names, hl.answers, fun x hx => hl.likes x (List.mem_filter.1 hx).1,
    nodup_map_filter hl.likeKeys p, hl.subscriptions, hl.subscriptionKeys⟩

/-- A subscription to a channel that exists keeps the references good. -/
theorem addSubscription (hl : s.Linked) {row : Subscription} (hrow : row.channelId ∈ s.channelIds)
    (hnew : row.key ∉ s.subscriptions.map Subscription.key) :
    Linked { s with subscriptions := s.subscriptions ++ [row] } := by
  refine ⟨hl.names, hl.answers, hl.likes, hl.likeKeys, ?_, nodup_map_push hl.subscriptionKeys hnew⟩
  intro x hx
  rcases List.mem_append.1 hx with hold | hnew
  · exact hl.subscriptions x hold
  · rw [List.mem_singleton.1 hnew]
    exact hrow

/-- Subscriptions that go are referred to by nothing. -/
theorem removeSubscriptions (hl : s.Linked) (p : Subscription → Bool) :
    Linked { s with subscriptions := s.subscriptions.filter p } :=
  ⟨hl.names, hl.answers, hl.likes, hl.likeKeys,
    fun x hx => hl.subscriptions x (List.mem_filter.1 hx).1, nodup_map_filter hl.subscriptionKeys p⟩

/-- Every operation keeps the references good. -/
theorem apply (hl : s.Linked) (hs : s.Numbered) {op : Operation} (h : op.apply s = .ok s') :
    s'.Linked := by
  cases op with
  | upsertUser u =>
    rw [← Except.ok.inj h]
    exact hl.sameRows (sameRows_upsertUser s u)
  | createChannel now d =>
    obtain ⟨hname, rfl⟩ := createChannel_ok h
    exact hl.addChannel hname
  | publishPost now channelId d =>
    obtain ⟨channel, -, rfl⟩ := publishPost_ok h
    refine (hl.addPost _).updateChannel ?_
    exact fun c => rfl
  | editPost now channelId postId d =>
    obtain ⟨p, -, -, rfl⟩ := editPost_ok h
    refine (hl.updatePost ?_).updateChannel ?_
    · exact fun p => rfl
    · exact fun c => rfl
  | deletePost now channelId postId =>
    obtain ⟨p, -, -, rfl⟩ := deletePost_ok h
    refine (hl.updatePost ?_).updateChannel ?_
    · exact fun p => rfl
    · exact fun c => rfl
  | postComment now author channelId postId referId d =>
    obtain ⟨post, hpost, hrefer, rfl⟩ := postComment_ok h
    refine (hl.addComment ?_).updatePost ?_
    · refine hrefer.imp id fun ⟨c, hc⟩ => ?_
      have hkey : (channelId, postId, referId) ∈ s.commentKeys :=
        comment?_isSome_iff.1 (Option.isSome_of_mem hc)
      -- the comment that is answered has one of the numbers that were given on the post
      obtain ⟨hmem, hchannel, hpostId, rfl⟩ := key_of_comment? hc
      obtain ⟨hpostMem, hpc, hpp⟩ := key_of_post? hpost
      have hid : c.commentId ∈ s.commentIds post.channelId post.postId :=
        List.mem_map_of_mem (List.mem_filter.2 ⟨hmem, by simp [hchannel, hpostId, hpc, hpp]⟩)
      exact ⟨hkey, (hs.comments post hpostMem).lt hid⟩
    · exact fun p => rfl
  | editComment now userId channelId postId commentId d =>
    obtain ⟨c, -, -, -, rfl⟩ := editComment_ok h
    exact hl.updateComment fun c => rfl
  | deleteComment now userId isOwner channelId postId commentId =>
    obtain ⟨c, -, -, -, rfl⟩ := deleteComment_ok h
    exact hl.updateComment fun c => rfl
  | setBlocked now channelId postId commentId blocked =>
    obtain ⟨c, -, -, rfl⟩ := setBlocked_ok h
    exact hl.updateComment fun c => rfl
  | like now userId channelId postId commentId =>
    obtain ⟨htarget, hliked, row, rfl, rfl⟩ := like_ok h
    -- the same user liked the same thing before, or the like is new
    have hnew : (userId, channelId, postId, commentId) ∉ s.likes.map Like.key := by
      intro hmem
      rw [isLiked_iff.2 hmem] at hliked
      cases hliked
    refine (hl.addLike ?_ ?_).updateLikes _
    · exact hasTarget_iff.1 htarget
    · exact hnew
  | unlike userId channelId postId commentId =>
    obtain ⟨-, -, rfl⟩ := unlike_ok h
    exact (hl.removeLikes _).updateLikes _
  | subscribe now userId channelId =>
    obtain ⟨hchannel, hsubscribed, row, rfl, rfl⟩ := subscribe_ok h
    -- the same user subscribed before, or the subscription is new
    have hnew : (userId, channelId) ∉ s.subscriptions.map Subscription.key := by
      intro hmem
      rw [isSubscribed_iff.2 hmem] at hsubscribed
      cases hsubscribed
    refine (hl.addSubscription ?_ ?_).updateChannel ?_
    · exact channel?_isSome_iff.1 hchannel
    · exact hnew
    · exact fun c => rfl
  | unsubscribe userId channelId =>
    obtain ⟨-, -, rfl⟩ := unsubscribe_ok h
    refine (hl.removeSubscriptions _).updateChannel ?_
    exact fun c => rfl

end Linked

/-- After any operations the rows are numbered, and their references are good. -/
theorem linked_after (ops : List Operation) :
    (empty.after ops).Numbered ∧ (empty.after ops).Linked := by
  refine after_keeps (P := fun s => s.Numbered ∧ s.Linked) ⟨numbered_empty, linked_empty⟩ ops ?_
  intro s s' op ⟨hs, hl⟩ h
  exact ⟨hs.apply h, hl.apply hs h⟩

/-! ## Keys are given once -/

/-- A key of a post stands in the table as often as its number in the channel. -/
theorem count_postKeys (s : Store) (channelId postId : Nat) :
    s.postKeys.count (channelId, postId) = (s.postIds channelId).count postId := by
  simp only [postKeys, postIds, List.count, List.countP_map, List.countP_filter]
  refine List.countP_congr fun p _ => ?_
  simp [Post.key, and_comm]

/-- A key of a comment stands in the table as often as its number on the post. -/
theorem count_commentKeys (s : Store) (channelId postId commentId : Nat) :
    s.commentKeys.count (channelId, postId, commentId) =
      (s.commentIds channelId postId).count commentId := by
  simp only [commentKeys, commentIds, List.count, List.countP_map, List.countP_filter]
  refine List.countP_congr fun c _ => ?_
  simp [Comment.key, and_comm, and_assoc]

/-- What is not in a list more than once is not in it twice. -/
theorem nodup_of_count_le {κ : Type} [BEq κ] [LawfulBEq κ] {l : List κ}
    (h : ∀ a ∈ l, l.count a ≤ 1) : l.Nodup := by
  rw [List.nodup_iff_count_le_one]
  intro a
  by_cases ha : a ∈ l
  · exact h a ha
  · simp [List.count_eq_zero_of_not_mem ha]

/-- What holds of the tables at any time. -/
structure Intact (s : Store) : Prop where
  /-- Channels are numbered from 1 without a gap. -/
  channelIds : s.channelIds = List.range' 1 s.channels.length
  names : (s.channels.map Channel.name).Nodup
  /-- The posts of a channel are numbered from 1 without a gap, and the channel has the next
  number. -/
  postIds : ∀ ch ∈ s.channels,
    ∃ m, s.postIds ch.channelId = List.range' 1 m ∧ ch.nextPostId = m + 1
  /-- The comments of a post are numbered from 1 without a gap, and the post has the next number. -/
  commentIds : ∀ p ∈ s.posts,
    ∃ k, s.commentIds p.channelId p.postId = List.range' 1 k ∧ p.nextCommentId = k + 1
  postKeys : s.postKeys.Nodup
  commentKeys : s.commentKeys.Nodup
  inChannel : ∀ p ∈ s.posts, p.channelId ∈ s.channelIds
  inPost : ∀ c ∈ s.comments, (c.channelId, c.postId) ∈ s.postKeys
  likes : ∀ x ∈ s.likes, s.Holds x.channelId x.postId x.commentId
  subscriptions : ∀ x ∈ s.subscriptions, x.channelId ∈ s.channelIds
  /-- A comment answers the post itself or an earlier comment on it. -/
  answers : ∀ c ∈ s.comments, c.referId = 0 ∨
    (c.channelId, c.postId, c.referId) ∈ s.commentKeys ∧ c.referId < c.commentId

/-- Rows that are numbered and whose references are good are intact. -/
theorem Linked.intact {s : Store} (hl : s.Linked) (hs : s.Numbered) : s.Intact := by
  -- numbered rows are in rows that exist
  have hinChannel : ∀ p ∈ s.posts, p.channelId ∈ s.channelIds := by
    intro p hp
    obtain ⟨ch, hch, hid⟩ := hs.inChannel p hp
    exact hid ▸ List.mem_map_of_mem hch
  have hinPost : ∀ c ∈ s.comments, (c.channelId, c.postId) ∈ s.postKeys := by
    intro c hc
    obtain ⟨p, hp, hchannel, hpost⟩ := hs.inPost c hc
    exact List.mem_map.2 ⟨p, hp, by rw [Post.key, hchannel, hpost]⟩
  refine ⟨?_, hl.names, fun ch hch => (hs.posts ch hch).eq_range',
    fun p hp => (hs.comments p hp).eq_range', ?_, ?_, hinChannel, hinPost, hl.likes,
    hl.subscriptions, hl.answers⟩
  · -- the channels: the next identifier tells how many there are
    obtain ⟨n, hids, hnext⟩ := hs.channels.eq_range'
    rw [nextChannelId] at hnext
    obtain rfl : s.channels.length = n := by omega
    exact hids
  · -- the keys of posts, counted channel by channel
    refine nodup_of_count_le fun key hkey => ?_
    obtain ⟨p, hp, rfl⟩ := List.mem_map.1 hkey
    obtain ⟨ch, hch, hid⟩ := hs.inChannel p hp
    rw [Post.key, count_postKeys, ← hid]
    exact List.nodup_iff_count_le_one.1 (hs.posts ch hch).nodup _
  · -- the keys of comments, counted post by post
    refine nodup_of_count_le fun key hkey => ?_
    obtain ⟨c, hc, rfl⟩ := List.mem_map.1 hkey
    obtain ⟨p, hp, hchannel, hpost⟩ := hs.inPost c hc
    rw [Comment.key, count_commentKeys, ← hchannel, ← hpost]
    exact List.nodup_iff_count_le_one.1 (hs.comments p hp).nodup _

/-- One more operation is a step after the run. -/
theorem after_append (s : Store) (ops : List Operation) (op : Operation) :
    s.after (ops ++ [op]) = (s.after ops).step op := by
  rw [after, after, List.foldl_append, List.foldl_cons, List.foldl_nil]

/-- Whatever operations were tried on an empty store, its tables are intact; and one more neither
removes a channel, a post or a comment nor gives a key to a second row. -/
theorem intact_after (ops : List Operation) (op : Operation) :
    let s := empty.after ops
    s.Intact ∧ s.Grows (s.step op) ∧ (s.step op).Intact := by
  intro s
  -- every run leaves intact tables, and one step more is a run too
  have hintact : ∀ ops, (empty.after ops).Intact := by
    intro ops
    obtain ⟨hs, hl⟩ := linked_after ops
    exact hl.intact hs
  refine ⟨hintact ops, step_keeps (.refl s) op fun s' h => .apply h, ?_⟩
  rw [← after_append]
  exact hintact (ops ++ [op])

end Store

end FeedNode.Feed
