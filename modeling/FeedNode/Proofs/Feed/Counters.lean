import FeedNode.Proofs.Feed.References

/-!
# Counters

Channels count their subscriptions, posts their likes and their comments, comments their likes.
The counters are columns of their own, which operations move by one when they add or remove a row,
and they always agree with the number of rows. In particular nothing is taken from a counter that
is zero.

The proof has one lemma for each way to move a counter. What the new count of rows is follows from
the rows of a user being the only ones of their kind (`Store.Linked`).

Main statements: `Counted.apply` and `counters_agree`.
-/

namespace FeedNode.Feed

/-- What is liked: a post, under the number zero, or a comment. -/
def Like.target (x : Like) : Nat × Nat × Nat :=
  (x.channelId, x.postId, x.commentId)

/-- What a like of the post is of. -/
def Post.target (p : Post) : Nat × Nat × Nat :=
  (p.channelId, p.postId, 0)

/-- Posts with one key are one target of likes. -/
theorem Post.target_congr {p q : Post} (h : p.key = q.key) : p.target = q.target :=
  congrArg (fun key : Nat × Nat => (key.1, key.2, 0)) h

namespace Store

/-! ## Rows -/

/-- The number of subscriptions of a channel. -/
def subscriberRows (s : Store) (channelId : Nat) : Nat :=
  s.subscriptions.countP fun x => x.channelId = channelId

/-- The number of likes of a post, under the number zero, or of a comment. -/
def likeRows (s : Store) (target : Nat × Nat × Nat) : Nat :=
  s.likes.countP fun x => x.target = target

/-- The number of comments on a post, deleted and blocked ones included. -/
def commentRows (s : Store) (post : Nat × Nat) : Nat :=
  s.comments.countP fun c => (c.channelId, c.postId) = post

/-- Every counter is the number of rows that it counts. -/
structure Counted (s : Store) : Prop where
  subscribers : ∀ ch ∈ s.channels, ch.subscribers = s.subscriberRows ch.channelId
  postLikes : ∀ p ∈ s.posts, p.likes = s.likeRows (p.channelId, p.postId, 0)
  comments : ∀ p ∈ s.posts, p.comments = s.commentRows (p.channelId, p.postId)
  commentLikes : ∀ c ∈ s.comments, c.likes = s.likeRows (c.channelId, c.postId, c.commentId)

/-- An empty store has nothing to count. -/
theorem counted_empty : empty.Counted where
  subscribers := nofun
  postLikes := nofun
  comments := nofun
  commentLikes := nofun

section Rows

variable {s : Store} {userId channelId postId commentId : Nat}

/-- One more like counts once for its target and not for anything else. -/
theorem likeRows_push (row : Like) (target : Nat × Nat × Nat) :
    likeRows { s with likes := s.likes ++ [row] } target =
      s.likeRows target + if row.target = target then 1 else 0 := by
  simp [likeRows, List.countP_append, List.countP_singleton]

/-- One more subscription counts once for its channel and not for another. -/
theorem subscriberRows_push (row : Subscription) (id : Nat) :
    subscriberRows { s with subscriptions := s.subscriptions ++ [row] } id =
      s.subscriberRows id + if row.channelId = id then 1 else 0 := by
  simp [subscriberRows, List.countP_append, List.countP_singleton]

/-- One more comment counts once for its post and not for another. -/
theorem commentRows_push (row : Comment) (post : Nat × Nat) :
    commentRows { s with comments := s.comments ++ [row] } post =
      s.commentRows post + if (row.channelId, row.postId) = post then 1 else 0 := by
  simp [commentRows, List.countP_append, List.countP_singleton]

/-- A count over a table from which the only row of its kind is taken. -/
theorem countP_filter_not {α κ : Type} [DecidableEq κ] {key : α → κ} {k : κ} {p q : α → Bool}
    {l : List α} (hnodup : (l.map key).Nodup) (hk : k ∈ l.map key)
    (hq : ∀ a, q a = true ↔ key a = k) (b : Bool) (hp : ∀ a, key a = k → p a = b) :
    (l.filter fun a => !q a).countP p + (if b then 1 else 0) = l.countP p := by
  -- the key is borne by one row
  have hone : l.countP q = 1 := by
    rw [← List.count_eq_one_of_mem hnodup hk, List.count, List.countP_map]
    refine List.countP_congr fun a _ => ?_
    simp [hq a]
  -- of the rows that are taken, all or none count
  have htaken : (l.filter q).countP p = if b then 1 else 0 := by
    have hconst : ∀ a ∈ l.filter q, p a = b := fun a ha =>
      hp a ((hq a).1 (List.mem_filter.1 ha).2)
    rw [List.countP_congr fun a ha => by rw [hconst a ha]]
    cases b with
    | true => simp [← List.countP_eq_length_filter, hone]
    | false => simp
  have hsplit := List.countP_eq_countP_filter_add l p q
  omega

/-- A like that is taken back counted once for its target. -/
theorem likeRows_remove (hl : s.Linked)
    (hliked : s.isLiked userId channelId postId commentId = true) (target : Nat × Nat × Nat) :
    likeRows { s with
        likes := s.likes.filter fun x => !x.isBy userId channelId postId commentId } target +
      (if (channelId, postId, commentId) = target then 1 else 0) = s.likeRows target := by
  -- a like is told by who gave it and to what
  have hkey : ∀ x : Like, x.isBy userId channelId postId commentId = true ↔
      x.key = (userId, channelId, postId, commentId) := by
    intro x
    simp [Like.isBy, Like.key, and_assoc]
  have htarget : ∀ x : Like, x.key = (userId, channelId, postId, commentId) →
      decide (x.target = target) = decide ((channelId, postId, commentId) = target) := by
    intro x hx
    simp only [Like.key, Prod.mk.injEq] at hx
    rw [Like.target, hx.2.1, hx.2.2.1, hx.2.2.2]
  have hrows := countP_filter_not hl.likeKeys (isLiked_iff.1 hliked) hkey _ htarget
  simpa [likeRows] using hrows

/-- A subscription that is taken back counted once for its channel. -/
theorem subscriberRows_remove (hl : s.Linked)
    (hsubscribed : s.isSubscribed userId channelId = true) (id : Nat) :
    subscriberRows { s with
        subscriptions := s.subscriptions.filter fun x =>
          !(x.userId == userId && x.channelId == channelId) } id +
      (if channelId = id then 1 else 0) = s.subscriberRows id := by
  have hkey : ∀ x : Subscription, (x.userId == userId && x.channelId == channelId) = true ↔
      x.key = (userId, channelId) := by
    intro x
    simp [Subscription.key]
  have hchannel : ∀ x : Subscription, x.key = (userId, channelId) →
      decide (x.channelId = id) = decide (channelId = id) := by
    intro x hx
    rw [(Prod.mk.inj hx).2]
  have hrows :=
    countP_filter_not hl.subscriptionKeys (isSubscribed_iff.1 hsubscribed) hkey _ hchannel
  simpa [subscriberRows] using hrows

/-- What does not exist has no rows. -/
theorem Linked.likeRows_eq_zero (hl : s.Linked) (h : ¬ s.Holds channelId postId commentId) :
    s.likeRows (channelId, postId, commentId) = 0 := by
  rw [likeRows, List.countP_eq_zero]
  intro x hx htarget
  simp only [Like.target, decide_eq_true_eq, Prod.mk.injEq] at htarget
  obtain ⟨rfl, rfl, rfl⟩ := htarget
  exact h (hl.likes x hx)

/-- A channel that does not exist has no subscriptions. -/
theorem Linked.subscriberRows_eq_zero (hl : s.Linked) (h : channelId ∉ s.channelIds) :
    s.subscriberRows channelId = 0 := by
  rw [subscriberRows, List.countP_eq_zero]
  intro x hx hid
  exact h (of_decide_eq_true hid ▸ hl.subscriptions x hx)

/-- A post that does not exist has no comments. -/
theorem Numbered.commentRows_eq_zero (hs : s.Numbered) (h : (channelId, postId) ∉ s.postKeys) :
    s.commentRows (channelId, postId) = 0 := by
  rw [commentRows, List.countP_eq_zero]
  intro c hc hpost
  obtain ⟨p, hp, hkc, hkp⟩ := hs.inPost c hc
  refine h (List.mem_map.2 ⟨p, hp, ?_⟩)
  rw [Post.key, hkc, hkp]
  exact of_decide_eq_true hpost

end Rows

/-! ## Counters that move -/

/-- A column that counts goes on counting if it moves with the count of one key, in the row that has
the key. -/
theorem column_eq_count {α κ : Type} (key : α → κ) (k : κ) {column : α → Nat}
    {count count' : κ → Nat} {l : List α} {p : α → Bool} {f : α → α}
    (h : ∀ a ∈ l, column a = count (key a)) (hp : ∀ a, p a = true ↔ key a = k)
    (hkey : ∀ a, key (f a) = key a)
    (hmoved : ∀ a, column a = count k → column (f a) = count' k)
    (hother : ∀ k', k' ≠ k → count' k' = count k') :
    ∀ a ∈ l.map (fun a => if p a then f a else a), column a = count' (key a) := by
  intro b hb
  obtain ⟨a, ha, rfl⟩ := List.mem_map.1 hb
  rw [apply_if hkey]
  by_cases hmatch : key a = k
  · -- the row that has the key
    rw [if_pos ((hp a).2 hmatch), hmatch]
    exact hmoved a (hmatch ▸ h a ha)
  · -- a row with another one
    rw [if_neg fun hpa => hmatch ((hp a).1 hpa), hother _ hmatch]
    exact h a ha

/-- A column that counts goes on counting if neither it nor the count changes. -/
theorem column_eq_of_eq {α : Type} {column count : α → Nat} {l : List α} {p : α → Bool} {f : α → α}
    (h : ∀ a ∈ l, column a = count a) (hf : ∀ a, column (f a) = column a ∧ count (f a) = count a) :
    ∀ a ∈ l.map (fun a => if p a then f a else a), column a = count a := by
  intro b hb
  obtain ⟨a, ha, rfl⟩ := List.mem_map.1 hb
  rw [apply_if fun a => (hf a).1, apply_if fun a => (hf a).2]
  exact h a ha

namespace Counted

variable {s s' : Store} {channelId postId commentId : Nat}

/-- The counters depend on the tables they count only. -/
theorem sameRows (hc : s.Counted) (h : s.SameRows s') : s'.Counted := by
  obtain ⟨users, channels, posts, comments, likes, subscriptions⟩ := s'
  obtain ⟨rfl, rfl, rfl, rfl, rfl⟩ := h
  exact ⟨hc.subscribers, hc.postLikes, hc.comments, hc.commentLikes⟩

/-! ### Changes that leave the counters alone -/

/-- A change of a channel that leaves the number of subscribers leaves the counters right. -/
theorem updateChannel (hc : s.Counted) {f : Channel → Channel}
    (hf : ∀ c, (f c).channelId = c.channelId ∧ (f c).subscribers = c.subscribers) :
    (s.updateChannel channelId f).Counted := by
  refine ⟨?_, hc.postLikes, hc.comments, hc.commentLikes⟩
  exact column_eq_of_eq hc.subscribers fun c =>
    ⟨(hf c).2, congrArg s.subscriberRows (hf c).1⟩

/-- A change of a post that leaves its numbers leaves the counters right. -/
theorem updatePost (hc : s.Counted) {f : Post → Post}
    (hf : ∀ p, (f p).key = p.key ∧ (f p).likes = p.likes ∧ (f p).comments = p.comments) :
    (s.updatePost channelId postId f).Counted := by
  refine ⟨hc.subscribers, ?_, ?_, hc.commentLikes⟩
  · exact column_eq_of_eq hc.postLikes fun p =>
      ⟨(hf p).2.1, congrArg s.likeRows (Post.target_congr (hf p).1)⟩
  · exact column_eq_of_eq hc.comments fun p => ⟨(hf p).2.2, congrArg s.commentRows (hf p).1⟩

/-- A comment that stays where it is counts as before for its post. -/
theorem commentRows_updateComment {f : Comment → Comment} (hf : ∀ c, (f c).key = c.key)
    (post : Nat × Nat) :
    (s.updateComment channelId postId commentId f).commentRows post = s.commentRows post := by
  rw [commentRows, Store.updateComment, List.countP_map, commentRows]
  refine List.countP_congr fun c _ => ?_
  have hsame := apply_if hf (isComment channelId postId commentId c) c
  simp only [Comment.key, Prod.mk.injEq] at hsame
  rw [Function.comp, hsame.1, hsame.2.1]

/-- A change of a comment that leaves its likes leaves the counters right. -/
theorem updateComment (hc : s.Counted) {f : Comment → Comment}
    (hf : ∀ c, (f c).key = c.key ∧ (f c).likes = c.likes) :
    (s.updateComment channelId postId commentId f).Counted := by
  have hkey : ∀ c, (f c).key = c.key := fun c => (hf c).1
  refine ⟨hc.subscribers, hc.postLikes, ?_, ?_⟩
  · intro p hp
    rw [commentRows_updateComment hkey]
    exact hc.comments p hp
  · exact column_eq_of_eq hc.commentLikes fun c => ⟨(hf c).2, congrArg s.likeRows (hkey c)⟩

/-! ### New rows -/

/-- A new channel has no subscribers. -/
theorem addChannel (hc : s.Counted) {row : Channel} (hsubscribers : row.subscribers = 0)
    (hrows : s.subscriberRows row.channelId = 0) :
    Counted { s with channels := s.channels ++ [row] } := by
  refine ⟨?_, hc.postLikes, hc.comments, hc.commentLikes⟩
  intro ch hch
  rcases List.mem_append.1 hch with hold | hnew
  · exact hc.subscribers ch hold
  · rw [List.mem_singleton.1 hnew]
    exact hsubscribers.trans hrows.symm

/-- A new post has neither likes nor comments. -/
theorem addPost (hc : s.Counted) {row : Post} (hlikes : row.likes = 0)
    (hcomments : row.comments = 0) (hlikeRows : s.likeRows (row.channelId, row.postId, 0) = 0)
    (hcommentRows : s.commentRows (row.channelId, row.postId) = 0) :
    Counted { s with posts := s.posts ++ [row] } := by
  refine ⟨hc.subscribers, ?_, ?_, hc.commentLikes⟩
  · intro p hp
    rcases List.mem_append.1 hp with hold | hnew
    · exact hc.postLikes p hold
    · rw [List.mem_singleton.1 hnew]
      exact hlikes.trans hlikeRows.symm
  · intro p hp
    rcases List.mem_append.1 hp with hold | hnew
    · exact hc.comments p hold
    · rw [List.mem_singleton.1 hnew]
      exact hcomments.trans hcommentRows.symm

/-- A comment is counted by its post. -/
theorem addComment (hc : s.Counted) {row : Comment} {f : Post → Post} (hlikes : row.likes = 0)
    (hrows : s.likeRows (row.channelId, row.postId, row.commentId) = 0)
    (hf : ∀ p, (f p).key = p.key ∧ (f p).likes = p.likes ∧ (f p).comments = p.comments + 1) :
    Counted ({ s with comments := s.comments ++ [row] }.updatePost row.channelId row.postId f) := by
  refine ⟨hc.subscribers, ?_, ?_, ?_⟩
  · -- the likes of posts
    exact column_eq_of_eq hc.postLikes fun p =>
      ⟨(hf p).2.1, congrArg s.likeRows (Post.target_congr (hf p).1)⟩
  · -- the comments of posts, one of which has one more
    refine column_eq_count Post.key (row.channelId, row.postId) hc.comments
      (fun p => ?_) (fun p => (hf p).1) (fun p hp => ?_) fun post hpost => ?_
    · rw [isPost_iff, Post.key, Prod.mk.injEq]
    · rw [(hf p).2.2, hp]
      exact ((commentRows_push row _).trans (by rw [if_pos rfl])).symm
    · exact (commentRows_push row post).trans (by rw [if_neg hpost.symm, Nat.add_zero])
  · -- the likes of comments, the new one's among them
    intro c hcmem
    rcases List.mem_append.1 hcmem with hold | hnew
    · exact hc.commentLikes c hold
    · rw [List.mem_singleton.1 hnew]
      exact hlikes.trans hrows.symm

/-! ### Likes and subscriptions -/

/-- The likes changed, and what counts those of one target moved with them. -/
theorem moveLikes (hc : s.Counted) (hs : s.Numbered) {likes : List Like} {f : Nat → Nat}
    (htarget : f (s.likeRows (channelId, postId, commentId)) =
      likeRows { s with likes } (channelId, postId, commentId))
    (hother : ∀ target, target ≠ (channelId, postId, commentId) →
      likeRows { s with likes } target = s.likeRows target) :
    Counted ({ s with likes }.updateLikes channelId postId commentId f) := by
  rw [updateLikes]
  split
  · -- a like of a post
    rename_i hzero
    subst hzero
    refine ⟨hc.subscribers, ?_, ?_, ?_⟩
    · refine column_eq_count Post.target (channelId, postId, 0) hc.postLikes
        (fun p => ?_) (fun p => rfl) (fun p hcount => ?_) hother
      · simp [isPost_iff, Post.target]
      · exact (congrArg f hcount).trans htarget
    · exact column_eq_of_eq hc.comments fun p => ⟨rfl, rfl⟩
    · intro c hcmem
      -- a like of a post is none of a comment
      have hne : (c.channelId, c.postId, c.commentId) ≠ (channelId, postId, 0) := by
        simp [hs.commentId_ne_zero hcmem]
      exact (hc.commentLikes c hcmem).trans (hother _ hne).symm
  · -- a like of a comment, which is none of a post
    rename_i hzero
    refine ⟨hc.subscribers, ?_, ?_, ?_⟩
    · intro p hp
      have hne : (p.channelId, p.postId, 0) ≠ (channelId, postId, commentId) := by
        simp [Ne.symm hzero]
      exact (hc.postLikes p hp).trans (hother _ hne).symm
    · -- the comments are where they were
      intro p hp
      refine (hc.comments p hp).trans (commentRows_updateComment ?_ _).symm
      exact fun c => rfl
    · refine column_eq_count Comment.key (channelId, postId, commentId) hc.commentLikes
        (fun c => ?_) (fun c => rfl) (fun c hcount => ?_) hother
      · simp [isComment_iff, Comment.key]
      · exact (congrArg f hcount).trans htarget

/-- The subscriptions changed, and what counts those of one channel moved with them. -/
theorem moveSubscribers (hc : s.Counted) {subscriptions : List Subscription} {f : Nat → Nat}
    (htarget : f (s.subscriberRows channelId) = subscriberRows { s with subscriptions } channelId)
    (hother : ∀ id, id ≠ channelId →
      subscriberRows { s with subscriptions } id = s.subscriberRows id) :
    Counted ({ s with subscriptions }.updateChannel channelId fun c =>
      { c with subscribers := f c.subscribers }) := by
  refine ⟨?_, hc.postLikes, hc.comments, hc.commentLikes⟩
  refine column_eq_count Channel.channelId channelId hc.subscribers
    (fun c => beq_iff_eq) (fun c => rfl) (fun c hcount => ?_) hother
  exact (congrArg f hcount).trans htarget

/-- Every operation keeps the counters right. -/
theorem apply (hc : s.Counted) (hs : s.Numbered) (hl : s.Linked) {op : Operation}
    (h : op.apply s = .ok s') : s'.Counted := by
  cases op with
  | upsertUser u =>
    rw [← Except.ok.inj h]
    exact hc.sameRows (sameRows_upsertUser s u)
  | createChannel now d =>
    obtain ⟨-, rfl⟩ := createChannel_ok h
    exact hc.addChannel rfl (hl.subscriberRows_eq_zero hs.fresh_channel)
  | publishPost now channelId d =>
    obtain ⟨channel, hchannel, rfl⟩ := publishPost_ok h
    have hfresh := hs.fresh_post hchannel
    have hnone : ¬ s.Holds channelId channel.nextPostId 0 := by simpa [Holds] using hfresh
    refine (hc.addPost rfl rfl ?_ ?_).updateChannel ?_
    · exact hl.likeRows_eq_zero hnone
    · exact hs.commentRows_eq_zero hfresh
    · exact fun c => ⟨rfl, rfl⟩
  | editPost now channelId postId d =>
    obtain ⟨p, -, -, rfl⟩ := editPost_ok h
    refine (hc.updatePost ?_).updateChannel ?_
    · exact fun p => ⟨rfl, rfl, rfl⟩
    · exact fun c => ⟨rfl, rfl⟩
  | deletePost now channelId postId =>
    obtain ⟨p, -, -, rfl⟩ := deletePost_ok h
    refine (hc.updatePost ?_).updateChannel ?_
    · exact fun p => ⟨rfl, rfl, rfl⟩
    · exact fun c => ⟨rfl, rfl⟩
  | postComment now author channelId postId referId d =>
    obtain ⟨post, hpost, -, rfl⟩ := postComment_ok h
    -- the new number is not zero, which would stand for the post
    obtain ⟨n, -, hnext⟩ := (hs.comments post (key_of_post? hpost).1).eq_range'
    have hnone : ¬ s.Holds channelId postId post.nextCommentId := by
      rw [Holds, if_neg (show post.nextCommentId ≠ 0 by omega)]
      exact hs.fresh_comment hpost
    exact hc.addComment rfl (hl.likeRows_eq_zero hnone) fun p => ⟨rfl, rfl, rfl⟩
  | editComment now userId channelId postId commentId d =>
    obtain ⟨c, -, -, -, rfl⟩ := editComment_ok h
    exact hc.updateComment fun c => ⟨rfl, rfl⟩
  | deleteComment now userId isOwner channelId postId commentId =>
    obtain ⟨c, -, -, -, rfl⟩ := deleteComment_ok h
    exact hc.updateComment fun c => ⟨rfl, rfl⟩
  | setBlocked now channelId postId commentId blocked =>
    obtain ⟨c, -, -, rfl⟩ := setBlocked_ok h
    exact hc.updateComment fun c => ⟨rfl, rfl⟩
  | like now userId channelId postId commentId =>
    obtain ⟨-, -, row, rfl, rfl⟩ := like_ok h
    refine hc.moveLikes hs ?_ fun target htarget => ?_
    · rw [likeRows_push]
      simp [Like.target]
    · rw [likeRows_push]
      simp [Like.target, htarget.symm]
  | unlike userId channelId postId commentId =>
    obtain ⟨-, hliked, rfl⟩ := unlike_ok h
    have hrows := likeRows_remove hl hliked
    refine hc.moveLikes hs ?_ fun target htarget => ?_
    · rw [← hrows, if_pos rfl, Nat.add_sub_cancel]
    · rw [← hrows target, if_neg htarget.symm, Nat.add_zero]
  | subscribe now userId channelId =>
    obtain ⟨-, -, row, rfl, rfl⟩ := subscribe_ok h
    refine hc.moveSubscribers (f := (· + 1)) ?_ fun id hid => ?_
    · rw [subscriberRows_push]
      simp
    · rw [subscriberRows_push]
      simp [hid.symm]
  | unsubscribe userId channelId =>
    obtain ⟨-, hsubscribed, rfl⟩ := unsubscribe_ok h
    have hrows := subscriberRows_remove hl hsubscribed
    refine hc.moveSubscribers (f := (· - 1)) ?_ fun id hid => ?_
    · rw [← hrows, if_pos rfl, Nat.add_sub_cancel]
    · rw [← hrows id, if_neg hid.symm, Nat.add_zero]

end Counted

/-- After any operations the counters are right. -/
theorem counted_after (ops : List Operation) : (empty.after ops).Counted := by
  have hall := after_keeps (P := fun s => s.Numbered ∧ s.Linked ∧ s.Counted)
    ⟨numbered_empty, linked_empty, counted_empty⟩ ops fun s s' op ⟨hs, hl, hc⟩ h =>
      ⟨hs.apply h, hl.apply hs h, hc.apply hs hl h⟩
  exact hall.2.2

/-! ## What an operation on a counter gives -/

section Toggle

variable {s s' : Store} {now userId channelId postId commentId n : Nat}

/-- The counter of what exists is the number of its likes. -/
theorem Counted.likeCount_eq (hc : s.Counted) (h : s.Holds channelId postId commentId) :
    s.likeCount channelId postId commentId = s.likeRows (channelId, postId, commentId) := by
  rw [likeCount]
  rw [Holds] at h
  split
  · -- the post
    rename_i hzero
    rw [if_pos hzero, ← post?_isSome_iff] at h
    obtain ⟨p, hp⟩ := Option.isSome_iff_exists.1 h
    obtain ⟨hmem, rfl, rfl⟩ := key_of_post? hp
    rw [hp, hzero]
    exact hc.postLikes p hmem
  · -- the comment
    rename_i hzero
    rw [if_neg hzero, ← comment?_isSome_iff] at h
    obtain ⟨c, hcomment⟩ := Option.isSome_iff_exists.1 h
    obtain ⟨hmem, rfl, rfl, rfl⟩ := key_of_comment? hcomment
    rw [hcomment]
    exact hc.commentLikes c hmem

/-- What a like gives is the counter that it leaves. -/
theorem like_count (h : s.like now userId channelId postId commentId = .ok (n, s')) :
    n = s'.likeCount channelId postId commentId := by
  simp only [like] at h
  split at h
  · cases h
  · split at h
    · cases h
    · obtain ⟨rfl, rfl⟩ := Prod.mk.inj (Except.ok.inj h)
      rfl

/-- What an unlike gives is the counter that it leaves. -/
theorem unlike_count (h : s.unlike userId channelId postId commentId = .ok (n, s')) :
    n = s'.likeCount channelId postId commentId := by
  simp only [unlike] at h
  split at h
  · cases h
  · split at h
    · cases h
    · obtain ⟨rfl, rfl⟩ := Prod.mk.inj (Except.ok.inj h)
      rfl

/-- A like is given exactly if its target exists and the user has not liked it yet. -/
theorem like_isOk_iff :
    (s.like now userId channelId postId commentId).isOk = true ↔
      s.Holds channelId postId commentId ∧
        (userId, channelId, postId, commentId) ∉ s.likes.map Like.key := by
  rw [← hasTarget_iff, ← isLiked_iff, like]
  cases s.hasTarget channelId postId commentId <;>
    cases s.isLiked userId channelId postId commentId <;> simp [Except.isOk, Except.toBool]

/-- A like is taken back exactly if its target exists and the user has liked it. -/
theorem unlike_isOk_iff :
    (s.unlike userId channelId postId commentId).isOk = true ↔
      s.Holds channelId postId commentId ∧
        (userId, channelId, postId, commentId) ∈ s.likes.map Like.key := by
  rw [← hasTarget_iff, ← isLiked_iff, unlike]
  cases s.hasTarget channelId postId commentId <;>
    cases s.isLiked userId channelId postId commentId <;> simp [Except.isOk, Except.toBool]

/-- A subscription is added exactly if the channel exists and the user has none to it yet. -/
theorem subscribe_isOk_iff :
    (s.subscribe now userId channelId).isOk = true ↔
      channelId ∈ s.channelIds ∧ (userId, channelId) ∉ s.subscriptions.map Subscription.key := by
  rw [← channel?_isSome_iff, ← isSubscribed_iff, subscribe]
  cases s.channel? channelId <;>
    cases s.isSubscribed userId channelId <;> simp [Except.isOk, Except.toBool]

/-- A subscription is taken back exactly if the channel exists and the user has one to it. -/
theorem unsubscribe_isOk_iff :
    (s.unsubscribe userId channelId).isOk = true ↔
      channelId ∈ s.channelIds ∧ (userId, channelId) ∈ s.subscriptions.map Subscription.key := by
  rw [← channel?_isSome_iff, ← isSubscribed_iff, unsubscribe]
  cases s.channel? channelId <;>
    cases s.isSubscribed userId channelId <;> simp [Except.isOk, Except.toBool]

/-- Moving a counter does not change the likes that it counts. -/
theorem likeRows_updateLikes (f : Nat → Nat) (target : Nat × Nat × Nat) :
    (s.updateLikes channelId postId commentId f).likeRows target = s.likeRows target := by
  rw [updateLikes]
  split <;> rfl

/-- What a like or an unlike gives is the number of likes that it leaves. -/
theorem Counted.likeCount_of_apply (hc : s.Counted) (hs : s.Numbered) (hl : s.Linked)
    {op : Operation} (h : op.apply s = .ok s')
    (htarget : s.hasTarget channelId postId commentId = true) :
    s'.likeCount channelId postId commentId = s'.likeRows (channelId, postId, commentId) :=
  (hc.apply hs hl h).likeCount_eq ((Grows.apply h).holds (hasTarget_iff.1 htarget))

/-- What a like gives is the number of likes, which is one more than before. -/
theorem Counted.like_total (hc : s.Counted) (hs : s.Numbered) (hl : s.Linked)
    (h : s.like now userId channelId postId commentId = .ok (n, s')) :
    n = s'.likeRows (channelId, postId, commentId) ∧
      n = s.likeRows (channelId, postId, commentId) + 1 := by
  have happly : (Operation.like now userId channelId postId commentId).apply s = .ok s' := by
    rw [Operation.apply, h]
    rfl
  obtain ⟨htarget, -, row, hrow, hs'⟩ := like_ok happly
  have hn := (like_count h).trans (hc.likeCount_of_apply hs hl happly htarget)
  -- the like was added to the rows, and then counted
  have hrows : s'.likeRows (channelId, postId, commentId) =
      s.likeRows (channelId, postId, commentId) + 1 := by
    rw [hs', likeRows_updateLikes, likeRows_push, hrow]
    simp [Like.target]
  exact ⟨hn, hn.trans hrows⟩

/-- What an unlike gives is the number of likes, which is one less than before. -/
theorem Counted.unlike_total (hc : s.Counted) (hs : s.Numbered) (hl : s.Linked)
    (h : s.unlike userId channelId postId commentId = .ok (n, s')) :
    n = s'.likeRows (channelId, postId, commentId) ∧
      n + 1 = s.likeRows (channelId, postId, commentId) := by
  have happly : (Operation.unlike userId channelId postId commentId).apply s = .ok s' := by
    rw [Operation.apply, h]
    rfl
  obtain ⟨htarget, hliked, hs'⟩ := unlike_ok happly
  have hn := (unlike_count h).trans (hc.likeCount_of_apply hs hl happly htarget)
  -- the like was taken from the rows, and then the counter moved
  have hrows : s'.likeRows (channelId, postId, commentId) + 1 =
      s.likeRows (channelId, postId, commentId) := by
    rw [hs', likeRows_updateLikes, ← likeRows_remove hl hliked, if_pos rfl]
  exact ⟨hn, by rw [hn, hrows]⟩

/-- A new subscription is one more of its channel. -/
theorem subscribe_total (h : s.subscribe now userId channelId = .ok s') :
    s'.subscriberRows channelId = s.subscriberRows channelId + 1 := by
  obtain ⟨-, -, row, rfl, rfl⟩ := subscribe_ok h
  exact (subscriberRows_push _ _).trans (by rw [if_pos rfl])

/-- A subscription that is taken back is one less of its channel. -/
theorem Linked.unsubscribe_total (hl : s.Linked) (h : s.unsubscribe userId channelId = .ok s') :
    s'.subscriberRows channelId + 1 = s.subscriberRows channelId := by
  obtain ⟨-, hsubscribed, rfl⟩ := unsubscribe_ok h
  rw [← subscriberRows_remove hl hsubscribed, if_pos rfl]
  rfl

end Toggle

/-- A user's like or subscription is added exactly if what it is for exists and there is none yet,
and taken back exactly if there is one; it counts once. -/
structure TogglesOnce (s : Store) : Prop where
  like : ∀ now userId channelId postId commentId,
    (s.like now userId channelId postId commentId).isOk = true ↔
      s.Holds channelId postId commentId ∧
        (userId, channelId, postId, commentId) ∉ s.likes.map Like.key
  unlike : ∀ userId channelId postId commentId,
    (s.unlike userId channelId postId commentId).isOk = true ↔
      s.Holds channelId postId commentId ∧
        (userId, channelId, postId, commentId) ∈ s.likes.map Like.key
  subscribe : ∀ now userId channelId,
    (s.subscribe now userId channelId).isOk = true ↔
      channelId ∈ s.channelIds ∧ (userId, channelId) ∉ s.subscriptions.map Subscription.key
  unsubscribe : ∀ userId channelId,
    (s.unsubscribe userId channelId).isOk = true ↔
      channelId ∈ s.channelIds ∧ (userId, channelId) ∈ s.subscriptions.map Subscription.key
  /-- What a like gives is the new number of likes. -/
  likeTotal : ∀ now userId channelId postId commentId n s',
    s.like now userId channelId postId commentId = .ok (n, s') →
      n = s'.likeRows (channelId, postId, commentId) ∧
        n = s.likeRows (channelId, postId, commentId) + 1
  /-- What an unlike gives is the new number of likes, and there was one to take back. -/
  unlikeTotal : ∀ userId channelId postId commentId n s',
    s.unlike userId channelId postId commentId = .ok (n, s') →
      n = s'.likeRows (channelId, postId, commentId) ∧
        n + 1 = s.likeRows (channelId, postId, commentId)
  subscribeTotal : ∀ now userId channelId s', s.subscribe now userId channelId = .ok s' →
    s'.subscriberRows channelId = s.subscriberRows channelId + 1
  unsubscribeTotal : ∀ userId channelId s', s.unsubscribe userId channelId = .ok s' →
    s'.subscriberRows channelId + 1 = s.subscriberRows channelId

/-- Whatever operations were tried on an empty store, its counters agree with its rows, and likes
and subscriptions are added and taken back once. -/
theorem counters_agree (ops : List Operation) :
    (empty.after ops).Counted ∧ (empty.after ops).TogglesOnce := by
  obtain ⟨hs, hl⟩ := linked_after ops
  have hc := counted_after ops
  refine ⟨hc, ?_⟩
  exact
    { like := fun _ _ _ _ _ => like_isOk_iff
      unlike := fun _ _ _ _ => unlike_isOk_iff
      subscribe := fun _ _ _ => subscribe_isOk_iff
      unsubscribe := fun _ _ => unsubscribe_isOk_iff
      likeTotal := fun _ _ _ _ _ _ _ h => hc.like_total hs hl h
      unlikeTotal := fun _ _ _ _ _ _ h => hc.unlike_total hs hl h
      subscribeTotal := fun _ _ _ _ h => subscribe_total h
      unsubscribeTotal := fun _ _ _ h => hl.unsubscribe_total h }

end Store

end FeedNode.Feed
