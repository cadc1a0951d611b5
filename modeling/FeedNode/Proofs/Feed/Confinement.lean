import FeedNode.Proofs.Feed.Numbering
import Mathlib.Data.List.Forall2

/-!
# What a user can change

An operation that comes of a user's call changes nothing but counters and what is the user's own,
unless the user is the owner; and nobody, the owner included, puts words into a comment of someone
else.

Rows are compared in their places: tables of the same length row by row, tables that grew row by row
up to what was added.

Main statements: `Store.confined_apply` and `Store.keepsWords_apply`.
-/

namespace FeedNode.Feed

/-- The operation can come of a call of the user. -/
def Operation.MayBeBy (u : User) : Operation → Prop
  | .upsertUser _ => True
  | .createChannel _ _ | .publishPost _ _ _ | .editPost _ _ _ _ | .deletePost _ _ _
  | .setBlocked _ _ _ _ _ => u.isOwner = true
  | .postComment _ author _ _ _ _ => author = u.userId
  | .editComment _ userId _ _ _ _ => userId = u.userId
  | .deleteComment _ userId isOwner _ _ _ => userId = u.userId ∧ isOwner = u.isOwner
  | .like _ userId _ _ _ | .unlike userId _ _ _ => userId = u.userId
  | .subscribe _ userId _ | .unsubscribe userId _ => userId = u.userId

/-! ## Changes of rows -/

/-- The channel with at most another number of subscribers. -/
def Channel.SameButSubscribers (c c' : Channel) : Prop :=
  c' = { c with subscribers := c'.subscribers }

/-- The post with at most other counters. -/
def Post.SameButCounts (p p' : Post) : Prop :=
  p' = { p with
    comments := p'.comments, likes := p'.likes, nextCommentId := p'.nextCommentId }

namespace Comment

/-- The comment with at most another number of likes. -/
def SameButLikes (c c' : Comment) : Prop :=
  c' = { c with likes := c'.likes }

/-- Both rows are the same comment of the same author. -/
structure SameComment (c c' : Comment) : Prop where
  channelId : c'.channelId = c.channelId
  postId : c'.postId = c.postId
  commentId : c'.commentId = c.commentId
  author : c'.author = c.author

/-- Nothing but the likes changed, unless the comment is the user's. -/
def UntouchedUnlessBy (userId : Nat) (c c' : Comment) : Prop :=
  c.SameButLikes c' ∨ c.SameComment c' ∧ c.author = userId

/-- Nothing was put into the comment, unless it is the user's. -/
structure SameWordsUnlessBy (userId : Nat) (c c' : Comment) : Prop where
  comment : c.SameComment c'
  content : c.author = userId ∨ c'.content = c.content ∨ c'.content = []
  thumbnails : c.author = userId ∨ c'.thumbnails = c.thumbnails ∨ c'.thumbnails = []

end Comment

/-- The comments changed as `R` says, and those that were added are the user's. -/
def Store.CommentsChange (R : Comment → Comment → Prop) (userId : Nat) (s s' : Store) : Prop :=
  ∃ kept added, s'.comments = kept ++ added ∧ List.Forall₂ R s.comments kept ∧
    ∀ c ∈ added, c.author = userId

/-- Nothing changed but counters and what is the user's own. -/
structure Store.Confined (userId : Nat) (s s' : Store) : Prop where
  channels : List.Forall₂ Channel.SameButSubscribers s.channels s'.channels
  posts : List.Forall₂ Post.SameButCounts s.posts s'.posts
  comments : s.CommentsChange (Comment.UntouchedUnlessBy userId) userId s'
  likes : (s'.likes.filter fun x => x.userId ≠ userId) =
    s.likes.filter fun x => x.userId ≠ userId
  subscriptions : (s'.subscriptions.filter fun x => x.userId ≠ userId) =
    s.subscriptions.filter fun x => x.userId ≠ userId

/-- Nobody but the user has other words in a comment, or less words than before. -/
def Store.KeepsWords (userId : Nat) (s s' : Store) : Prop :=
  s.CommentsChange (Comment.SameWordsUnlessBy userId) userId s'

namespace Store

variable {s s' s₀ : Store} {userId : Nat}

/-- A channel differs from itself in nothing. -/
theorem sameButSubscribers_refl (c : Channel) : c.SameButSubscribers c := rfl

/-- A post differs from itself in nothing. -/
theorem sameButCounts_refl (p : Post) : p.SameButCounts p := rfl

/-- A comment is untouched where it stays as it is. -/
theorem untouched_refl (c : Comment) : c.UntouchedUnlessBy userId c := .inl rfl

/-- A comment that stays as it is keeps its words. -/
theorem sameWords_refl (c : Comment) : c.SameWordsUnlessBy userId c :=
  ⟨⟨rfl, rfl, rfl, rfl⟩, .inr (.inl rfl), .inr (.inl rfl)⟩

/-- A table in which some rows were changed. -/
theorem forall₂_map_if {α : Type} {R : α → α → Prop} (hrefl : ∀ a, R a a) {p : α → Bool}
    {f : α → α} {l : List α} (hf : ∀ a ∈ l, p a = true → R a (f a)) :
    List.Forall₂ R l (l.map fun a => if p a then f a else a) := by
  apply List.forall₂_map_right_iff.2
  apply List.forall₂_same.2
  intro a ha
  split
  · rename_i hp
    exact hf a ha hp
  · exact hrefl a

/-- A table is like itself under a relation that every row has with itself. -/
theorem forall₂_refl_of {α : Type} {R : α → α → Prop} (hrefl : ∀ a, R a a) (l : List α) :
    List.Forall₂ R l l :=
  List.forall₂_same.2 fun a _ => hrefl a

/-- No comment was added. -/
theorem commentsChange_of_forall₂ {R : Comment → Comment → Prop}
    (h : List.Forall₂ R s.comments s'.comments) : s.CommentsChange R userId s' :=
  ⟨s'.comments, [], (List.append_nil _).symm, h, nofun⟩

/-- The comments do not change if their table does not. -/
theorem commentsChange_of_eq {R : Comment → Comment → Prop} (hrefl : ∀ c, R c c)
    (h : s'.comments = s.comments) : s.CommentsChange R userId s' := by
  apply commentsChange_of_forall₂
  rw [h]
  exact forall₂_refl_of hrefl _

/-- The change of the comments depends on their table only. -/
theorem CommentsChange.of_sameRows {R : Comment → Comment → Prop} (h : s.SameRows s₀)
    (hc : s₀.CommentsChange R userId s') : s.CommentsChange R userId s' := by
  rw [CommentsChange, ← h.comments]
  exact hc

/-- The same tables are confined alike. -/
theorem Confined.of_sameRows (h : s.SameRows s₀) (hc : s₀.Confined userId s') :
    s.Confined userId s' where
  channels := h.channels ▸ hc.channels
  posts := h.posts ▸ hc.posts
  comments := hc.comments.of_sameRows h
  likes := h.likes ▸ hc.likes
  subscriptions := h.subscriptions ▸ hc.subscriptions

/-- A store that stays as it is is confined to anybody. -/
theorem confined_refl (s : Store) (userId : Nat) : s.Confined userId s where
  channels := forall₂_refl_of sameButSubscribers_refl _
  posts := forall₂_refl_of sameButCounts_refl _
  comments := commentsChange_of_eq untouched_refl rfl
  likes := rfl
  subscriptions := rfl

/-- A store that stays as it is keeps its words. -/
theorem keepsWords_refl (s : Store) (userId : Nat) : s.KeepsWords userId s :=
  commentsChange_of_eq sameWords_refl rfl

/-! ## Operations -/

variable {channelId postId commentId : Nat}

/-- Likes of the user's, and what counts them. -/
theorem confined_likes {likes : List Like}
    (hlikes : (likes.filter fun x => x.userId ≠ userId) =
      s.likes.filter fun x => x.userId ≠ userId) (f : Nat → Nat) :
    s.Confined userId ({ s with likes }.updateLikes channelId postId commentId f) := by
  rw [updateLikes]
  split
  · -- a like of a post moves the likes of the post
    refine ⟨forall₂_refl_of sameButSubscribers_refl _, ?_, commentsChange_of_eq untouched_refl rfl,
      hlikes, rfl⟩
    exact forall₂_map_if sameButCounts_refl fun p _ _ => rfl
  · -- a like of a comment moves those of the comment
    refine ⟨forall₂_refl_of sameButSubscribers_refl _, forall₂_refl_of sameButCounts_refl _, ?_,
      hlikes, rfl⟩
    exact commentsChange_of_forall₂ (forall₂_map_if untouched_refl fun c _ _ => .inl rfl)

/-- Likes are no words. -/
theorem keepsWords_likes (likes : List Like) (f : Nat → Nat) :
    s.KeepsWords userId ({ s with likes }.updateLikes channelId postId commentId f) := by
  rw [updateLikes]
  split
  · exact commentsChange_of_eq sameWords_refl rfl
  · exact commentsChange_of_forall₂ (forall₂_map_if sameWords_refl fun c _ _ =>
      ⟨⟨rfl, rfl, rfl, rfl⟩, .inr (.inl rfl), .inr (.inl rfl)⟩)

/-- The rows that an operation on a comment changes are the comment that it looked at. -/
theorem Numbered.eq_of_isComment (hs : s.Numbered) {c d : Comment}
    (hc : s.comment? channelId postId commentId = some c) (hd : d ∈ s.comments)
    (hkey : isComment channelId postId commentId d = true) : d = c := by
  obtain ⟨hmem, hchannel, hpost, hcomment⟩ := key_of_comment? hc
  obtain ⟨hchannel', hpost', hcomment'⟩ := isComment_iff.1 hkey
  exact hs.comment_unique hd hmem (hchannel'.trans hchannel.symm) (hpost'.trans hpost.symm)
    (hcomment'.trans hcomment.symm)

/-- A change of one comment of the user's. -/
theorem Numbered.confined_updateComment (hs : s.Numbered) {c : Comment}
    (hc : s.comment? channelId postId commentId = some c) (hauthor : c.author = userId)
    {f : Comment → Comment} (hf : ∀ c : Comment, c.SameComment (f c)) :
    s.Confined userId (s.updateComment channelId postId commentId f) where
  channels := forall₂_refl_of sameButSubscribers_refl _
  posts := forall₂_refl_of sameButCounts_refl _
  comments := by
    apply commentsChange_of_forall₂
    apply forall₂_map_if untouched_refl
    intro d hd hkey
    rw [hs.eq_of_isComment hc hd hkey]
    exact .inr ⟨hf c, hauthor⟩
  likes := rfl
  subscriptions := rfl

/-- Rows that a user added or took away do not count among those of others. -/
theorem filter_ne_append {α : Type} (key : α → Nat) {l : List α} {row : α}
    (hrow : key row = userId) :
    ((l ++ [row]).filter fun x => key x ≠ userId) = l.filter fun x => key x ≠ userId := by
  rw [List.filter_append, List.filter_cons_of_neg (by simpa using hrow), List.filter_nil,
    List.append_nil]

/-- Rows of a user that are taken away leave those of the others. -/
theorem filter_ne_filter {α : Type} (key : α → Nat) {l : List α} {p : α → Bool}
    (hp : ∀ x ∈ l, key x ≠ userId → p x = true) :
    ((l.filter p).filter fun x => key x ≠ userId) = l.filter fun x => key x ≠ userId := by
  rw [List.filter_filter]
  refine List.filter_congr fun x hx => ?_
  by_cases hkey : key x = userId
  · simp [hkey]
  · simp [hkey, hp x hx hkey]

/-- What comes of a call of a user who is not the owner is confined to the user. -/
theorem confined_apply (hs : s.Numbered) {u : User} (hu : u.isOwner = false) {op : Operation}
    (hop : op.MayBeBy u) (h : op.apply s = .ok s') : s.Confined u.userId s' := by
  have howner : u.isOwner ≠ true := by simp [hu]
  cases op with
  | upsertUser v =>
    -- the user is entered, and the tables are the same
    rw [← Except.ok.inj h]
    exact .of_sameRows (sameRows_upsertUser s v) (confined_refl _ _)
  -- the owner's operations
  | createChannel now d => exact absurd hop howner
  | publishPost now channelId d => exact absurd hop howner
  | editPost now channelId postId d => exact absurd hop howner
  | deletePost now channelId postId => exact absurd hop howner
  | setBlocked now channelId postId commentId blocked => exact absurd hop howner
  | postComment now author channelId postId referId d =>
    obtain ⟨post, -, -, rfl⟩ := postComment_ok h
    refine ⟨forall₂_refl_of sameButSubscribers_refl _, ?_, ?_, rfl, rfl⟩
    · -- the post counts one comment more
      exact forall₂_map_if sameButCounts_refl fun p _ _ => rfl
    · -- the comment is the user's
      refine ⟨s.comments, [_], rfl, forall₂_refl_of untouched_refl _, ?_⟩
      intro c hc
      rw [List.mem_singleton.1 hc]
      exact hop
  | editComment now userId channelId postId commentId d =>
    obtain ⟨c, hc, hauthor, -, rfl⟩ := editComment_ok h
    exact hs.confined_updateComment hc (hauthor.trans hop) fun c => ⟨rfl, rfl, rfl, rfl⟩
  | deleteComment now userId isOwner channelId postId commentId =>
    obtain ⟨c, hc, hauthor, -, rfl⟩ := deleteComment_ok h
    obtain ⟨rfl, rfl⟩ := hop
    -- whoever is not the owner is the author
    have hmine : c.author = u.userId := hauthor.resolve_right howner
    exact hs.confined_updateComment hc hmine fun c => ⟨rfl, rfl, rfl, rfl⟩
  | like now userId channelId postId commentId =>
    obtain ⟨-, -, row, hrow, rfl⟩ := like_ok h
    -- the like is the user's
    have hmine : row.userId = u.userId := by
      rw [hrow]
      exact hop
    exact confined_likes (filter_ne_append Like.userId hmine) _
  | unlike userId channelId postId commentId =>
    obtain ⟨-, -, rfl⟩ := unlike_ok h
    refine confined_likes (filter_ne_filter Like.userId fun x _ hx => ?_) _
    rw [← show userId = u.userId from hop] at hx
    simp [Like.isBy, hx]
  | subscribe now userId channelId =>
    obtain ⟨-, -, row, hrow, rfl⟩ := subscribe_ok h
    have hmine : row.userId = u.userId := by
      rw [hrow]
      exact hop
    refine ⟨?_, forall₂_refl_of sameButCounts_refl _, commentsChange_of_eq untouched_refl rfl, rfl,
      filter_ne_append Subscription.userId hmine⟩
    exact forall₂_map_if sameButSubscribers_refl fun c _ _ => rfl
  | unsubscribe userId channelId =>
    obtain ⟨-, -, rfl⟩ := unsubscribe_ok h
    refine ⟨?_, forall₂_refl_of sameButCounts_refl _, commentsChange_of_eq untouched_refl rfl, rfl,
      ?_⟩
    · -- the channel counts one subscriber less
      exact forall₂_map_if sameButSubscribers_refl fun c _ _ => rfl
    · -- the subscriptions of others stay
      refine filter_ne_filter Subscription.userId fun x _ hx => ?_
      rw [← show userId = u.userId from hop] at hx
      simp [hx]

/-- Nobody, the owner included, puts words into a comment of someone else. -/
theorem keepsWords_apply (hs : s.Numbered) {u : User} {op : Operation} (hop : op.MayBeBy u)
    (h : op.apply s = .ok s') : s.KeepsWords u.userId s' := by
  cases op with
  | upsertUser v =>
    rw [← Except.ok.inj h]
    exact .of_sameRows (sameRows_upsertUser s v) (keepsWords_refl _ _)
  -- channels and posts have no words of a comment
  | createChannel now d =>
    obtain ⟨-, rfl⟩ := createChannel_ok h
    exact commentsChange_of_eq sameWords_refl rfl
  | publishPost now channelId d =>
    obtain ⟨channel, -, rfl⟩ := publishPost_ok h
    exact commentsChange_of_eq sameWords_refl rfl
  | editPost now channelId postId d =>
    obtain ⟨p, -, -, rfl⟩ := editPost_ok h
    exact commentsChange_of_eq sameWords_refl rfl
  | deletePost now channelId postId =>
    obtain ⟨p, -, -, rfl⟩ := deletePost_ok h
    exact commentsChange_of_eq sameWords_refl rfl
  | postComment now author channelId postId referId d =>
    obtain ⟨post, -, -, rfl⟩ := postComment_ok h
    refine ⟨s.comments, [_], rfl, forall₂_refl_of sameWords_refl _, ?_⟩
    intro c hc
    rw [List.mem_singleton.1 hc]
    exact hop
  | editComment now userId channelId postId commentId d =>
    obtain ⟨c, hc, hauthor, -, rfl⟩ := editComment_ok h
    apply commentsChange_of_forall₂
    apply forall₂_map_if sameWords_refl
    intro d hd hkey
    -- only the comment of the caller is under this key
    have hmine : d.author = u.userId := by
      rw [hs.eq_of_isComment hc hd hkey]
      exact hauthor.trans hop
    exact ⟨⟨rfl, rfl, rfl, rfl⟩, .inl hmine, .inl hmine⟩
  | deleteComment now userId isOwner channelId postId commentId =>
    obtain ⟨c, -, -, -, rfl⟩ := deleteComment_ok h
    apply commentsChange_of_forall₂
    apply forall₂_map_if sameWords_refl
    -- the owner may delete any comment, which empties it
    intro d _ _
    exact ⟨⟨rfl, rfl, rfl, rfl⟩, .inr (.inr rfl), .inr (.inr rfl)⟩
  | setBlocked now channelId postId commentId blocked =>
    obtain ⟨c, -, -, rfl⟩ := setBlocked_ok h
    apply commentsChange_of_forall₂
    apply forall₂_map_if sameWords_refl
    -- a block is in the status, the words stay
    intro d _ _
    exact ⟨⟨rfl, rfl, rfl, rfl⟩, .inr (.inl rfl), .inr (.inl rfl)⟩
  | like now userId channelId postId commentId =>
    -- counters are no words
    obtain ⟨-, -, row, -, rfl⟩ := like_ok h
    exact keepsWords_likes _ _
  | unlike userId channelId postId commentId =>
    obtain ⟨-, -, rfl⟩ := unlike_ok h
    exact keepsWords_likes _ _
  | subscribe now userId channelId =>
    obtain ⟨-, -, row, -, rfl⟩ := subscribe_ok h
    exact commentsChange_of_eq sameWords_refl rfl
  | unsubscribe userId channelId =>
    obtain ⟨-, -, rfl⟩ := unsubscribe_ok h
    exact commentsChange_of_eq sameWords_refl rfl

end Store

end FeedNode.Feed
