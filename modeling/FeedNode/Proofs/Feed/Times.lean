import FeedNode.Proofs.Feed.References

/-!
# Times of rows

A row is stamped when it is added and whenever it is changed. A channel is stamped with its posts:
the time of its last change is that of the last change of a post, or of its own creation as long as
it has no posts. It is a column of its own, which the three operations on posts write and no other.

That it is the greatest of these times, and that no row was changed before it was added, takes a
clock that does not go back. The proof looks at nothing but the stamps (`Times`); what an operation
does to them is said once (`times_apply`).

Main statements: `Times.Moves.sound` and `Store.stamps_agree`.
-/

namespace FeedNode.Feed

/-! ## Stamps -/

/-- When a row was added, and when it was changed last. -/
structure Stamp where
  createdAt : Nat
  updatedAt : Nat

/-- When a channel was created, and when it was changed last. -/
def Channel.stamp (c : Channel) : Stamp := ⟨c.createdAt, c.updatedAt⟩

/-- When a post was published, and when it was changed last. -/
def Post.stamp (p : Post) : Stamp := ⟨p.createdAt, p.updatedAt⟩

/-- When a comment was posted, and when it was changed last. -/
def Comment.stamp (c : Comment) : Stamp := ⟨c.createdAt, c.updatedAt⟩

/-- The stamps of all rows, under the keys of the rows. -/
structure Times where
  channels : List (Nat × Stamp)
  posts : List ((Nat × Nat) × Stamp)
  comments : List ((Nat × Nat × Nat) × Stamp)

/-- The stamps of the store's rows. -/
def Store.times (s : Store) : Times where
  channels := s.channels.map fun c => (c.channelId, c.stamp)
  posts := s.posts.map fun p => (p.key, p.stamp)
  comments := s.comments.map fun c => (c.key, c.stamp)

/-- The time that an operation reads from the clock. -/
def Operation.time? : Operation → Option Nat
  | .upsertUser _ | .unlike _ _ _ _ | .unsubscribe _ _ => none
  | .createChannel now _ | .publishPost now _ _ | .editPost now _ _ _ | .deletePost now _ _
  | .postComment now _ _ _ _ _ | .editComment now _ _ _ _ _ | .deleteComment now _ _ _ _ _
  | .setBlocked now _ _ _ _ | .like now _ _ _ _ | .subscribe now _ _ => some now

/-- The operation adds a channel, or adds or changes a post. -/
def Operation.isOnPosts : Operation → Bool
  | .createChannel _ _ | .publishPost _ _ _ | .editPost _ _ _ _ | .deletePost _ _ _ => true
  | _ => false

/-- What was read from the clock by those of some operations that were not refused. -/
def Store.readings (s : Store) : List Operation → List Nat
  | [] => []
  | op :: ops =>
    (if (op.apply s).isOk then op.time?.toList else []) ++ (s.step op).readings ops

section Touch

variable {κ : Type} [DecidableEq κ]

/-- The rows under a key are changed. -/
def touch (key : κ) (now : Nat) (rows : List (κ × Stamp)) : List (κ × Stamp) :=
  rows.map fun x => if x.1 = key then (x.1, { x.2 with updatedAt := now }) else x

variable {key : κ} {now : Nat} {rows : List (κ × Stamp)}

/-- A touched row is one that there was, or one that there was with a new stamp. -/
theorem of_mem_touch {x : κ × Stamp} (h : x ∈ touch key now rows) :
    (x ∈ rows ∧ x.1 ≠ key) ∨
      ∃ y ∈ rows, x.1 = key ∧ y.1 = key ∧ x.2.createdAt = y.2.createdAt ∧ x.2.updatedAt = now := by
  obtain ⟨y, hy, rfl⟩ := List.mem_map.1 h
  by_cases hkey : y.1 = key
  · -- under the key
    rw [if_pos hkey]
    exact .inr ⟨y, hy, hkey, hkey, rfl, rfl⟩
  · -- under another
    rw [if_neg hkey]
    exact .inl ⟨hy, hkey⟩

/-- What is under another key is not touched. -/
theorem mem_touch_of_ne {x : κ × Stamp} (h : x ∈ rows) (hkey : x.1 ≠ key) :
    x ∈ touch key now rows :=
  List.mem_map.2 ⟨x, h, if_neg hkey⟩

/-- Something is touched if there is something under the key. -/
theorem exists_mem_touch (h : key ∈ rows.map Prod.fst) :
    ∃ x ∈ touch key now rows, x.1 = key ∧ x.2.updatedAt = now := by
  obtain ⟨y, hy, hkey⟩ := List.mem_map.1 h
  exact ⟨_, List.mem_map_of_mem hy, by rw [if_pos hkey]; exact ⟨hkey, rfl⟩⟩

/-- Rows that are changed in place, as stamps. -/
theorem map_touch {α : Type} {k : α → κ} {stamp : α → Stamp} {p : α → Bool} {f : α → α}
    (hp : ∀ a, p a = true ↔ k a = key) (hk : ∀ a, k (f a) = k a)
    (hstamp : ∀ a, stamp (f a) = { stamp a with updatedAt := now }) (l : List α) :
    (l.map fun a => if p a then f a else a).map (fun a => (k a, stamp a)) =
      touch key now (l.map fun a => (k a, stamp a)) := by
  rw [touch, List.map_map, List.map_map]
  refine List.map_congr_left fun a _ => ?_
  -- the row under the key gets the new time, the others keep theirs
  by_cases ha : k a = key
  · simp only [Function.comp, if_pos ha, if_pos ((hp a).2 ha), hk, hstamp]
  · have hpa : ¬ p a = true := fun hpa => ha ((hp a).1 hpa)
    simp only [Function.comp, if_neg ha, if_neg hpa]

/-- No row was changed before it was added. -/
def Ordered (rows : List (κ × Stamp)) : Prop :=
  ∀ x ∈ rows, x.2.createdAt ≤ x.2.updatedAt

/-- No row was changed later than this. -/
def Until (n : Nat) (rows : List (κ × Stamp)) : Prop :=
  ∀ x ∈ rows, x.2.updatedAt ≤ n

/-- A change that is later than all others comes after the row was added. -/
theorem Ordered.touch (h : Ordered rows) (hnow : Until now rows) :
    Ordered (touch key now rows) := by
  intro x hx
  rcases of_mem_touch hx with ⟨hold, -⟩ | ⟨y, hy, -, -, hcreated, hupdated⟩
  · exact h x hold
  · rw [hcreated, hupdated]
    exact Nat.le_trans (h y hy) (hnow y hy)

omit [DecidableEq κ] in
/-- A row that is added now was not changed before. -/
theorem Ordered.push (h : Ordered rows) (key : κ) (now : Nat) :
    Ordered (rows ++ [(key, ⟨now, now⟩)]) := by
  intro x hx
  rcases List.mem_append.1 hx with hold | hnew
  · exact h x hold
  · obtain rfl := List.mem_singleton.1 hnew
    exact Nat.le_refl now

/-- A change at a time up to `n` is not later than `n`. -/
theorem Until.touch {n : Nat} (h : Until n rows) (hn : now ≤ n) :
    Until n (touch key now rows) := by
  intro x hx
  rcases of_mem_touch hx with ⟨hold, -⟩ | ⟨y, -, -, -, -, hupdated⟩
  · exact h x hold
  · exact hupdated ▸ hn

omit [DecidableEq κ] in
/-- A row that is added at a time up to `n` is not stamped later than `n`. -/
theorem Until.push {n : Nat} (h : Until n rows) (key : κ) (hn : now ≤ n) :
    Until n (rows ++ [(key, ⟨now, now⟩)]) := by
  intro x hx
  rcases List.mem_append.1 hx with hold | hnew
  · exact h x hold
  · rw [List.mem_singleton.1 hnew]
    exact hn

end Touch

/-! ## What operations do to stamps -/

namespace Times

/-- A post is changed, and its channel with it. -/
def touchPost (t : Times) (channelId postId now : Nat) : Times :=
  { t with
    posts := touch (channelId, postId) now t.posts
    channels := touch channelId now t.channels }

/-- A comment is changed. -/
def touchComment (t : Times) (channelId postId commentId now : Nat) : Times :=
  { t with comments := touch (channelId, postId, commentId) now t.comments }

/-- What an operation that is not refused does to the stamps. -/
inductive Moves (t : Times) : Operation → Times → Prop where
  | created {now : Nat} {d : ChannelDraft} (channelId : Nat)
      (hnew : ∀ x ∈ t.posts, x.1.1 ≠ channelId) :
      t.Moves (.createChannel now d) { t with channels := t.channels ++ [(channelId, ⟨now, now⟩)] }
  | published {now channelId : Nat} {d : Draft} (postId : Nat) :
      t.Moves (.publishPost now channelId d)
        { t with
          posts := t.posts ++ [((channelId, postId), ⟨now, now⟩)]
          channels := touch channelId now t.channels }
  | edited {now channelId postId : Nat} {d : Draft}
      (hpost : (channelId, postId) ∈ t.posts.map Prod.fst) :
      t.Moves (.editPost now channelId postId d) (t.touchPost channelId postId now)
  | deleted {now channelId postId : Nat} (hpost : (channelId, postId) ∈ t.posts.map Prod.fst) :
      t.Moves (.deletePost now channelId postId) (t.touchPost channelId postId now)
  | commented {now author channelId postId referId : Nat} {d : Draft} (commentId : Nat) :
      t.Moves (.postComment now author channelId postId referId d)
        { t with comments := t.comments ++ [((channelId, postId, commentId), ⟨now, now⟩)] }
  | commentEdited {now userId channelId postId commentId : Nat} {d : Draft} :
      t.Moves (.editComment now userId channelId postId commentId d)
        (t.touchComment channelId postId commentId now)
  | commentDeleted {now userId channelId postId commentId : Nat} {isOwner : Bool} :
      t.Moves (.deleteComment now userId isOwner channelId postId commentId)
        (t.touchComment channelId postId commentId now)
  | commentBlocked {now channelId postId commentId : Nat} {blocked : Bool} :
      t.Moves (.setBlocked now channelId postId commentId blocked)
        (t.touchComment channelId postId commentId now)
  -- users, likes and subscriptions are not stamped
  | upserted {u : User} : t.Moves (.upsertUser u) t
  | liked {now userId channelId postId commentId : Nat} :
      t.Moves (.like now userId channelId postId commentId) t
  | unliked {userId channelId postId commentId : Nat} :
      t.Moves (.unlike userId channelId postId commentId) t
  | subscribed {now userId channelId : Nat} : t.Moves (.subscribe now userId channelId) t
  | unsubscribed {userId channelId : Nat} : t.Moves (.unsubscribe userId channelId) t

/-! ## What the stamps keep -/

/-- No row was changed later than this. -/
structure Bounded (t : Times) (n : Nat) : Prop where
  channels : Until n t.channels
  posts : Until n t.posts
  comments : Until n t.comments

/-- No row was changed before it was added, and the last change of a channel is the last one of its
posts, or its creation. -/
structure Sound (t : Times) : Prop where
  channels : Ordered t.channels
  posts : Ordered t.posts
  comments : Ordered t.comments
  /-- No post of a channel was changed after the channel. -/
  covers : ∀ x ∈ t.channels, ∀ y ∈ t.posts, y.1.1 = x.1 → y.2.updatedAt ≤ x.2.updatedAt
  /-- Nothing but its creation or a change of a post is the last change of a channel. -/
  attains : ∀ x ∈ t.channels, x.2.updatedAt = x.2.createdAt ∨
    ∃ y ∈ t.posts, y.1.1 = x.1 ∧ y.2.updatedAt = x.2.updatedAt

variable {t t' : Times} {op : Operation} {now channelId postId : Nat}

/-- Posts of one channel are added or changed, one of them now, and the channel is stamped. -/
theorem Sound.stampChannel (ht : t.Sound) (hnow : t.Bounded now)
    {posts : List ((Nat × Nat) × Stamp)} (hordered : Ordered posts) (huntil : Until now posts)
    (hothers : ∀ y, y.1.1 ≠ channelId → (y ∈ posts ↔ y ∈ t.posts))
    (hlast : ∃ y ∈ posts, y.1.1 = channelId ∧ y.2.updatedAt = now) :
    Sound { t with posts := posts, channels := touch channelId now t.channels } := by
  refine ⟨ht.channels.touch hnow.channels, hordered, ht.comments, ?_, ?_⟩
  · intro x hx y hy hid
    -- a channel that is not stamped has the posts that it had
    rcases of_mem_touch hx with ⟨hold, hother⟩ | ⟨-, -, -, -, -, hupdated⟩
    · exact ht.covers x hold y ((hothers y (hid ▸ hother)).1 hy) hid
    · -- the stamped channel is stamped with the latest time
      exact hupdated ▸ huntil y hy
  · intro x hx
    rcases of_mem_touch hx with ⟨hold, hother⟩ | ⟨-, -, hkey, -, -, hupdated⟩
    · -- its own last change is where it was
      refine (ht.attains x hold).imp id fun ⟨y, hy, hid, heq⟩ => ?_
      exact ⟨y, (hothers y (hid ▸ hother)).2 hy, hid, heq⟩
    · -- the last change is the one that is made now
      obtain ⟨y, hy, hid, hnow⟩ := hlast
      exact .inr ⟨y, hy, hid.trans hkey.symm, hnow.trans hupdated.symm⟩

/-- A post that there is is changed. -/
theorem Sound.touchPost (ht : t.Sound) (hnow : t.Bounded now)
    (hpost : (channelId, postId) ∈ t.posts.map Prod.fst) :
    (t.touchPost channelId postId now).Sound := by
  -- only the post itself changes
  refine ht.stampChannel hnow (ht.posts.touch hnow.posts) (hnow.posts.touch (Nat.le_refl now)) ?_ ?_
  · intro y hother
    have hkey : y.1 ≠ (channelId, postId) := fun heq => hother (congrArg Prod.fst heq)
    refine ⟨fun hy => ?_, fun hy => mem_touch_of_ne hy hkey⟩
    rcases of_mem_touch hy with ⟨hold, -⟩ | ⟨-, -, heq, -⟩
    · exact hold
    · exact absurd heq hkey
  · -- and it is there, in the channel
    obtain ⟨y, hy, hkey, heq⟩ := exists_mem_touch hpost
    exact ⟨y, hy, congrArg Prod.fst hkey, heq⟩

/-- What an operation does keeps the stamps sound, if nothing was stamped later than it. -/
theorem Moves.sound (h : t.Moves op t') (ht : t.Sound)
    (hnow : ∀ now, op.time? = some now → t.Bounded now) : t'.Sound := by
  cases h with
  -- a new channel has no posts, and was changed last by its creation
  | @created now d channelId hnew =>
    refine ⟨ht.channels.push channelId now, ht.posts, ht.comments, ?_, ?_⟩
    · intro x hx y hy hid
      rcases List.mem_append.1 hx with hold | hadded
      · exact ht.covers x hold y hy hid
      · rw [List.mem_singleton.1 hadded] at hid
        exact absurd hid (hnew y hy)
    · intro x hx
      rcases List.mem_append.1 hx with hold | hadded
      · exact ht.attains x hold
      · rw [List.mem_singleton.1 hadded]
        exact .inl rfl
  -- a new post is the last change of its channel
  | @published now channelId d postId =>
    have hbounded := hnow now rfl
    refine ht.stampChannel hbounded (ht.posts.push _ now)
      (hbounded.posts.push _ (Nat.le_refl now)) ?_ ?_
    · intro y hother
      rw [List.mem_append, List.mem_singleton]
      refine or_iff_left fun heq => hother ?_
      rw [heq]
    · exact ⟨_, List.mem_append_right _ (List.mem_singleton_self _), rfl, rfl⟩
  | @edited now _ _ _ hpost => exact ht.touchPost (hnow now rfl) hpost
  | @deleted now _ _ hpost => exact ht.touchPost (hnow now rfl) hpost
  -- comments do not touch what channels and posts are stamped with
  | @commented now _ _ _ _ _ commentId =>
    exact ⟨ht.channels, ht.posts, ht.comments.push _ now, ht.covers, ht.attains⟩
  | @commentEdited now | @commentDeleted now | @commentBlocked now =>
    exact ⟨ht.channels, ht.posts, ht.comments.touch (hnow now rfl).comments, ht.covers, ht.attains⟩
  | upserted | liked | unliked | subscribed | unsubscribed => exact ht

/-- An operation stamps with the time that it reads. -/
theorem Moves.bounded (h : t.Moves op t') {n : Nat} (ht : t.Bounded n)
    (hn : ∀ now, op.time? = some now → now ≤ n) : t'.Bounded n := by
  cases h with
  | @created now => exact ⟨ht.channels.push _ (hn now rfl), ht.posts, ht.comments⟩
  | @published now =>
    exact ⟨ht.channels.touch (hn now rfl), ht.posts.push _ (hn now rfl), ht.comments⟩
  | @edited now | @deleted now =>
    exact ⟨ht.channels.touch (hn now rfl), ht.posts.touch (hn now rfl), ht.comments⟩
  | @commented now => exact ⟨ht.channels, ht.posts, ht.comments.push _ (hn now rfl)⟩
  | @commentEdited now | @commentDeleted now | @commentBlocked now =>
    exact ⟨ht.channels, ht.posts, ht.comments.touch (hn now rfl)⟩
  | upserted | liked | unliked | subscribed | unsubscribed => exact ht

/-- The stamps of channels and posts are those of before, except after an operation on posts. -/
theorem Moves.quiet (h : t.Moves op t') (hop : op.isOnPosts = false) :
    t'.channels = t.channels ∧ t'.posts = t.posts := by
  cases h with
  | created | published | edited | deleted => cases hop
  | _ => exact ⟨rfl, rfl⟩

end Times

namespace Store

variable {s s' : Store}

/-- A change that stamps a channel touches it. -/
theorem times_updateChannel (now channelId : Nat) {f : Channel → Channel}
    (hf : ∀ c, (f c).channelId = c.channelId ∧ (f c).stamp = { c.stamp with updatedAt := now }) :
    (s.updateChannel channelId f).times =
      { s.times with channels := touch channelId now s.times.channels } := by
  have hkey : ∀ c : Channel, (c.channelId == channelId) = true ↔ c.channelId = channelId :=
    fun c => beq_iff_eq
  rw [times, updateChannel, map_touch hkey (fun c => (hf c).1) fun c => (hf c).2]
  rfl

/-- A change that stamps a post touches it. -/
theorem times_updatePost (now channelId postId : Nat) {f : Post → Post}
    (hf : ∀ p, (f p).key = p.key ∧ (f p).stamp = { p.stamp with updatedAt := now }) :
    (s.updatePost channelId postId f).times =
      { s.times with posts := touch (channelId, postId) now s.times.posts } := by
  have hkey : ∀ p : Post, isPost channelId postId p = true ↔ p.key = (channelId, postId) :=
    fun p => by simp [isPost, Post.key]
  rw [times, updatePost, map_touch hkey (fun p => (hf p).1) fun p => (hf p).2]
  rfl

/-- A change that stamps a comment touches it. -/
theorem times_updateComment (now channelId postId commentId : Nat) {f : Comment → Comment}
    (hf : ∀ c, (f c).key = c.key ∧ (f c).stamp = { c.stamp with updatedAt := now }) :
    (s.updateComment channelId postId commentId f).times =
      s.times.touchComment channelId postId commentId now := by
  have hkey : ∀ c : Comment, isComment channelId postId commentId c = true ↔
      c.key = (channelId, postId, commentId) :=
    fun c => by simp [isComment, Comment.key, and_assoc]
  rw [times, updateComment, map_touch hkey (fun c => (hf c).1) fun c => (hf c).2]
  rfl

/-! Counters are not stamped. -/

/-- Counting subscribers leaves the stamps. -/
theorem times_countSubscriber (channelId : Nat) {f : Channel → Channel}
    (hf : ∀ c, ((f c).channelId, (f c).stamp) = (c.channelId, c.stamp)) :
    (s.updateChannel channelId f).times = s.times := by
  rw [times, map_updateChannel hf]
  rfl

/-- Counting comments or likes of a post leaves the stamps. -/
theorem times_countOnPost (channelId postId : Nat) {f : Post → Post}
    (hf : ∀ p, ((f p).key, (f p).stamp) = (p.key, p.stamp)) :
    (s.updatePost channelId postId f).times = s.times := by
  rw [times, map_updatePost hf]
  rfl

/-- Counting likes leaves the stamps. -/
theorem times_updateLikes (channelId postId commentId : Nat) (f : Nat → Nat) :
    (s.updateLikes channelId postId commentId f).times = s.times := by
  rw [updateLikes]
  split
  · rw [times_countOnPost channelId postId (by intro p; rfl)]
  · rw [times, map_updateComment (by intro c; rfl)]
    rfl

/-- A post that is changed, with its channel. -/
theorem times_touchPost (now channelId postId : Nat) {f : Post → Post}
    (hf : ∀ p, (f p).key = p.key ∧ (f p).stamp = { p.stamp with updatedAt := now }) :
    ((s.updatePost channelId postId f).touchChannel channelId now).times =
      s.times.touchPost channelId postId now := by
  rw [touchChannel, times_updateChannel now channelId (by intro c; exact ⟨rfl, rfl⟩),
    times_updatePost now channelId postId hf]
  rfl

/-- A post that is found has a stamp. -/
theorem mem_times_posts {p : Post} {channelId postId : Nat}
    (h : s.post? channelId postId = some p) :
    (channelId, postId) ∈ s.times.posts.map Prod.fst := by
  obtain ⟨hp, rfl, rfl⟩ := key_of_post? h
  exact List.mem_map.2 ⟨(p.key, p.stamp), List.mem_map_of_mem hp, rfl⟩

/-- What an operation does to the stamps. -/
theorem times_apply (hs : s.Numbered) {op : Operation} (h : op.apply s = .ok s') :
    s.times.Moves op s'.times := by
  cases op with
  | upsertUser u =>
    -- users have no stamps
    obtain rfl := Except.ok.inj h
    have hrows := sameRows_upsertUser s u
    have htimes : (s.upsertUser u).times = s.times := by
      rw [times, times, hrows.channels, hrows.posts, hrows.comments]
    rw [htimes]
    exact .upserted
  | createChannel now d =>
    obtain ⟨-, rfl⟩ := createChannel_ok h
    -- no post is in the new channel, since every post is in one that was there before
    have hnew : ∀ x ∈ s.times.posts, x.1.1 ≠ s.nextChannelId := by
      intro x hx heq
      obtain ⟨p, hp, rfl⟩ := List.mem_map.1 hx
      obtain ⟨ch, hch, hid⟩ := hs.inChannel p hp
      exact hs.fresh_channel (List.mem_map.2 ⟨ch, hch, hid.trans heq⟩)
    have htimes : times { s with channels := s.channels ++ [d.channel now s.nextChannelId] } =
        { s.times with channels := s.times.channels ++ [(s.nextChannelId, ⟨now, now⟩)] } := by
      rw [times, List.map_append]
      rfl
    rw [htimes]
    exact .created s.nextChannelId hnew
  | publishPost now channelId d =>
    obtain ⟨channel, -, rfl⟩ := publishPost_ok h
    have htimes : times { s with posts := s.posts ++ [d.post now channelId channel.nextPostId] } =
        { s.times with
          posts := s.times.posts ++ [((channelId, channel.nextPostId), ⟨now, now⟩)] } := by
      rw [times, List.map_append]
      rfl
    -- the post is stamped, and then its channel
    rw [times_updateChannel now channelId (by intro c; exact ⟨rfl, rfl⟩), htimes]
    exact .published channel.nextPostId
  | editPost now channelId postId d =>
    obtain ⟨p, hp, -, rfl⟩ := editPost_ok h
    rw [times_touchPost now channelId postId (by intro p; exact ⟨rfl, rfl⟩)]
    exact .edited (mem_times_posts hp)
  | deletePost now channelId postId =>
    obtain ⟨p, hp, -, rfl⟩ := deletePost_ok h
    rw [times_touchPost now channelId postId (by intro p; exact ⟨rfl, rfl⟩)]
    exact .deleted (mem_times_posts hp)
  | postComment now author channelId postId referId d =>
    obtain ⟨post, -, -, rfl⟩ := postComment_ok h
    have htimes : times { s with
          comments := s.comments ++
            [d.comment now author channelId postId post.nextCommentId referId] } =
        { s.times with
          comments := s.times.comments ++
            [((channelId, postId, post.nextCommentId), ⟨now, now⟩)] } := by
      rw [times, List.map_append]
      rfl
    -- the post counts the comment, which is no change of it
    rw [times_countOnPost channelId postId (by intro p; rfl), htimes]
    exact .commented post.nextCommentId
  | editComment now userId channelId postId commentId d =>
    obtain ⟨c, -, -, -, rfl⟩ := editComment_ok h
    rw [times_updateComment now channelId postId commentId (by intro c; exact ⟨rfl, rfl⟩)]
    exact .commentEdited
  | deleteComment now userId isOwner channelId postId commentId =>
    obtain ⟨c, -, -, -, rfl⟩ := deleteComment_ok h
    rw [times_updateComment now channelId postId commentId (by intro c; exact ⟨rfl, rfl⟩)]
    exact .commentDeleted
  | setBlocked now channelId postId commentId blocked =>
    obtain ⟨c, -, -, rfl⟩ := setBlocked_ok h
    rw [times_updateComment now channelId postId commentId (by intro c; exact ⟨rfl, rfl⟩)]
    exact .commentBlocked
  -- a like has a time of its own, which no row shows
  | like now userId channelId postId commentId =>
    obtain ⟨-, -, row, -, rfl⟩ := like_ok h
    rw [times_updateLikes]
    exact .liked
  | unlike userId channelId postId commentId =>
    obtain ⟨-, -, rfl⟩ := unlike_ok h
    rw [times_updateLikes]
    exact .unliked
  | subscribe now userId channelId =>
    obtain ⟨-, -, row, -, rfl⟩ := subscribe_ok h
    rw [times_countSubscriber channelId (by intro c; rfl)]
    exact .subscribed
  | unsubscribe userId channelId =>
    obtain ⟨-, -, rfl⟩ := unsubscribe_ok h
    rw [times_countSubscriber channelId (by intro c; rfl)]
    exact .unsubscribed

/-! ## Runs -/

/-- An operation that is not refused reads the clock first, and the run goes on after it. -/
theorem readings_of_ok {op : Operation} (h : op.apply s = .ok s') (ops : List Operation) :
    s.readings (op :: ops) = op.time?.toList ++ s'.readings ops := by
  rw [readings, step, h]
  rfl

/-- An operation that is refused reads nothing. -/
theorem readings_of_error {op : Operation} {e : StoreError} (h : op.apply s = .error e)
    (ops : List Operation) : s.readings (op :: ops) = s.readings ops := by
  rw [readings, step, h]
  rfl

/-- A run keeps the stamps sound, if what it reads from the clock neither goes back nor lies before
a stamp that there is. -/
theorem sound_after (hs : s.Numbered) (ht : s.times.Sound) {ops : List Operation}
    (hbounded : ∀ n ∈ s.readings ops, s.times.Bounded n)
    (hclock : (s.readings ops).Pairwise (· ≤ ·)) : (s.after ops).times.Sound := by
  induction ops generalizing s with
  | nil => exact ht
  | cons op ops ih =>
    rw [after, List.foldl_cons, ← after]
    cases happly : op.apply s with
    | error e =>
      rw [readings_of_error happly] at hbounded hclock
      rw [step, happly]
      exact ih hs ht hbounded hclock
    | ok s' =>
      rw [readings_of_ok happly] at hbounded hclock
      -- its own reading is not after those that follow
      obtain ⟨-, hlater, hbefore⟩ := List.pairwise_append.1 hclock
      have hmoves := times_apply hs happly
      rw [step, happly]
      refine ih (hs.apply happly) (hmoves.sound ht fun now hnow => ?_) (fun n hn => ?_) hlater
      · exact hbounded now (List.mem_append_left _ (Option.mem_toList.2 hnow))
      · refine hmoves.bounded (hbounded n (List.mem_append_right _ hn)) fun now hnow => ?_
        exact hbefore now (Option.mem_toList.2 hnow) n hn

/-- The stamps of the rows agree with each other. -/
structure Stamped (s : Store) : Prop where
  /-- The last change of a channel is the last one of its posts, deleted ones too, or its
  creation. -/
  lastChange : ∀ ch ∈ s.channels,
    (ch.createdAt :: (s.posts.filter (·.channelId = ch.channelId)).map Post.updatedAt).max? =
      some ch.updatedAt
  channels : ∀ ch ∈ s.channels, ch.createdAt ≤ ch.updatedAt
  posts : ∀ p ∈ s.posts, p.createdAt ≤ p.updatedAt
  comments : ∀ c ∈ s.comments, c.createdAt ≤ c.updatedAt

/-- Stamps that are sound agree row by row. -/
theorem stamped_of_sound (h : s.times.Sound) : s.Stamped := by
  have hchannels : ∀ ch ∈ s.channels, (ch.channelId, ch.stamp) ∈ s.times.channels :=
    fun ch hch => List.mem_map_of_mem hch
  have hposts : ∀ p ∈ s.posts, (p.key, p.stamp) ∈ s.times.posts :=
    fun p hp => List.mem_map_of_mem hp
  refine ⟨?_, fun ch hch => h.channels _ (hchannels ch hch), fun p hp => h.posts _ (hposts p hp),
    fun c hc => h.comments _ (List.mem_map_of_mem hc)⟩
  intro ch hch
  rw [List.max?_eq_some_iff]
  constructor
  · -- the time is that of the creation or of a post
    rcases h.attains _ (hchannels ch hch) with hcreated | ⟨y, hy, hid, hupdated⟩
    · exact List.mem_cons.2 (.inl hcreated)
    · obtain ⟨p, hp, rfl⟩ := List.mem_map.1 hy
      refine List.mem_cons_of_mem _ (List.mem_map.2 ⟨p, ?_, hupdated⟩)
      exact List.mem_filter.2 ⟨hp, decide_eq_true hid⟩
  · -- and none of these is later
    intro n hn
    rcases List.mem_cons.1 hn with rfl | hpost
    · exact h.channels _ (hchannels ch hch)
    · obtain ⟨p, hp, rfl⟩ := List.mem_map.1 hpost
      obtain ⟨hmem, hid⟩ := List.mem_filter.1 hp
      exact h.covers _ (hchannels ch hch) _ (hposts p hmem) (of_decide_eq_true hid)

/-- Whatever operations are tried on an empty store, by a clock that does not go back the stamps
agree. By any clock, an operation that is not on posts leaves the stamps of channels and posts. -/
theorem stamps_agree (ops : List Operation) :
    let s := empty.after ops
    ((empty.readings ops).Pairwise (· ≤ ·) → s.Stamped) ∧
      ∀ op : Operation, op.isOnPosts = false →
        (s.step op).times.channels = s.times.channels ∧
          (s.step op).times.posts = s.times.posts := by
  intro s
  -- an empty store has no stamps to be wrong
  refine ⟨fun hclock => stamped_of_sound ?_, fun op hop => ?_⟩
  · exact sound_after numbered_empty ⟨nofun, nofun, nofun, nofun, nofun⟩
      (fun n _ => ⟨nofun, nofun, nofun⟩) hclock
  · -- what does not touch posts leaves the stamps of channels and posts
    refine step_keeps (P := fun s' => s'.times.channels = s.times.channels ∧
      s'.times.posts = s.times.posts) ⟨rfl, rfl⟩ op fun s' happly => ?_
    exact (times_apply (linked_after ops).1 happly).quiet hop

/-- The channel was changed last with the post that was deleted; the edit that is refused and the
later change of the comment are nothing to it. -/
theorem stamps_agree_deleted_post :
    let ops : List Operation :=
      [.createChannel 1 ⟨"notes", "", [], "", ""⟩, .publishPost 2 1 ⟨[], [], "", ""⟩,
        .publishPost 4 1 ⟨[], [], "", ""⟩, .postComment 5 7 1 1 0 ⟨[], [], "", ""⟩,
        .deletePost 6 1 1, .editPost 3 1 1 ⟨[], [], "", ""⟩,
        .editComment 8 7 1 1 1 ⟨[], [], "", ""⟩]
    let s := empty.after ops
    empty.readings ops = [1, 2, 4, 5, 6, 8] ∧ s.Stamped ∧
      s.channels.map Channel.updatedAt = [6] ∧
      (s.step (.like 9 7 1 2 0)).times.channels = s.times.channels := by
  intro ops s
  obtain ⟨hstamped, hquiet⟩ := stamps_agree ops
  exact ⟨by decide, hstamped (by decide), by decide, (hquiet (.like 9 7 1 2 0) rfl).1⟩

end Store

end FeedNode.Feed
