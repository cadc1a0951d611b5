import FeedNode.Feed.Store.Channels
import FeedNode.Feed.Store.Comments
import FeedNode.Feed.Store.Likes
import FeedNode.Feed.Store.Posts

/-!
# Operations of the store

Everything that can change the store, as data, so that one statement can be about all of it. For
each operation there is a lemma that says what it found and what it did if it was not refused; the
proofs about operations start from these and do not open the operations themselves. A run is a list
of operations, in which a refused one changes nothing.
-/

namespace FeedNode.Feed

/-- A change of the store, with its arguments and the time. -/
inductive Operation where
  | upsertUser (u : User)
  | createChannel (now : Nat) (d : ChannelDraft)
  | publishPost (now channelId : Nat) (d : Draft)
  | editPost (now channelId postId : Nat) (d : Draft)
  | deletePost (now channelId postId : Nat)
  | postComment (now author channelId postId referId : Nat) (d : Draft)
  | editComment (now userId channelId postId commentId : Nat) (d : Draft)
  | deleteComment (now userId : Nat) (isOwner : Bool) (channelId postId commentId : Nat)
  | setBlocked (now channelId postId commentId : Nat) (blocked : Bool)
  | like (now userId channelId postId commentId : Nat)
  | unlike (userId channelId postId commentId : Nat)
  | subscribe (now userId channelId : Nat)
  | unsubscribe (userId channelId : Nat)

/-- The store after an operation that is not refused. -/
def Operation.apply (s : Store) : Operation → Except StoreError Store
  | .upsertUser u => .ok (s.upsertUser u)
  | .createChannel now d => (s.createChannel now d).map Prod.snd
  | .publishPost now channelId d => (s.publishPost now channelId d).map Prod.snd
  | .editPost now channelId postId d => (s.editPost now channelId postId d).map Prod.snd
  | .deletePost now channelId postId => s.deletePost now channelId postId
  | .postComment now author channelId postId referId d =>
    (s.postComment now author channelId postId referId d).map Prod.snd
  | .editComment now userId channelId postId commentId d =>
    (s.editComment now userId channelId postId commentId d).map Prod.snd
  | .deleteComment now userId isOwner channelId postId commentId =>
    s.deleteComment now userId isOwner channelId postId commentId
  | .setBlocked now channelId postId commentId blocked =>
    s.setBlocked now channelId postId commentId blocked
  | .like now userId channelId postId commentId =>
    (s.like now userId channelId postId commentId).map Prod.snd
  | .unlike userId channelId postId commentId =>
    (s.unlike userId channelId postId commentId).map Prod.snd
  | .subscribe now userId channelId => s.subscribe now userId channelId
  | .unsubscribe userId channelId => s.unsubscribe userId channelId

/-! ## Rows as they are added -/

/-- The channel as it is created. -/
def ChannelDraft.channel (d : ChannelDraft) (now channelId : Nat) : Channel where
  channelId := channelId
  name := d.name
  introduction := d.introduction
  avatar := d.avatar
  createdAt := now
  updatedAt := now
  subscribers := 0
  nextPostId := 1
  tipMethods := orPlaceholder d.tipMethods
  proof := orPlaceholder d.proof

/-- The post as it is published. -/
def Draft.post (d : Draft) (now channelId postId : Nat) : Post where
  channelId := channelId
  postId := postId
  createdAt := now
  updatedAt := now
  nextCommentId := 1
  comments := 0
  likes := 0
  status := .available
  content := d.content
  thumbnails := d.thumbnails
  hashId := orPlaceholder d.hashId
  proof := orPlaceholder d.proof

/-- The comment as it is posted. -/
def Draft.comment (d : Draft) (now author channelId postId commentId referId : Nat) :
    Comment where
  channelId := channelId
  postId := postId
  commentId := commentId
  referId := referId
  author := author
  createdAt := now
  updatedAt := now
  likes := 0
  status := .available
  content := d.content
  thumbnails := d.thumbnails
  hashId := orPlaceholder d.hashId
  proof := orPlaceholder d.proof

/-- The rows that the peers see are the same; only the users may differ. -/
structure Store.SameRows (s s' : Store) : Prop where
  channels : s'.channels = s.channels
  posts : s'.posts = s.posts
  comments : s'.comments = s.comments
  likes : s'.likes = s.likes
  subscriptions : s'.subscriptions = s.subscriptions

namespace Store

/-- A store has its own rows. -/
theorem SameRows.refl (s : Store) : s.SameRows s := ⟨rfl, rfl, rfl, rfl, rfl⟩

/-- Entering a user leaves all other rows. -/
theorem sameRows_upsertUser (s : Store) (u : User) : s.SameRows (s.upsertUser u) := by
  rw [upsertUser]
  split <;> exact ⟨rfl, rfl, rfl, rfl, rfl⟩

/-! ## What an operation found and did -/

variable {s s' : Store} {now userId channelId postId commentId : Nat}

/-- A channel that is found is in the table, under the identifier that was asked for. -/
theorem channelId_of_channel? {c : Channel} (h : s.channel? channelId = some c) :
    c ∈ s.channels ∧ c.channelId = channelId := by
  have hid := List.find?_some h
  exact ⟨List.mem_of_find?_eq_some h, eq_of_beq hid⟩

/-- A post is the one under a key if it has the key's channel and number. -/
theorem isPost_iff {p : Post} :
    isPost channelId postId p = true ↔ p.channelId = channelId ∧ p.postId = postId := by
  simp [isPost]

/-- A comment is the one under a key if it has the key's channel, post and number. -/
theorem isComment_iff {c : Comment} :
    isComment channelId postId commentId c = true ↔
      c.channelId = channelId ∧ c.postId = postId ∧ c.commentId = commentId := by
  simp [isComment, and_assoc]

/-- A post that is found is in the table, under the key that was asked for. -/
theorem key_of_post? {p : Post} (h : s.post? channelId postId = some p) :
    p ∈ s.posts ∧ p.channelId = channelId ∧ p.postId = postId :=
  ⟨List.mem_of_find?_eq_some h, isPost_iff.1 (List.find?_some h)⟩

/-- A comment that is found is in the table, under the key that was asked for. -/
theorem key_of_comment? {c : Comment} (h : s.comment? channelId postId commentId = some c) :
    c ∈ s.comments ∧ c.channelId = channelId ∧ c.postId = postId ∧ c.commentId = commentId :=
  ⟨List.mem_of_find?_eq_some h, isComment_iff.1 (List.find?_some h)⟩

/-- A channel is created under the next identifier if its name is not taken. -/
theorem createChannel_ok {d : ChannelDraft} (h : (s.createChannel now d).map Prod.snd = .ok s') :
    (∀ c ∈ s.channels, c.name ≠ d.name) ∧
      s' = { s with channels := s.channels ++ [d.channel now s.nextChannelId] } := by
  simp only [createChannel] at h
  split at h
  · -- the name is taken
    cases h
  · rename_i hname
    exact ⟨by simpa using hname, (Except.ok.inj h).symm⟩

/-- A post is published under the next number of its channel, which is stamped. -/
theorem publishPost_ok {d : Draft} (h : (s.publishPost now channelId d).map Prod.snd = .ok s') :
    ∃ channel, s.channel? channelId = some channel ∧
      s' = { s with posts := s.posts ++ [d.post now channelId channel.nextPostId] }.updateChannel
        channelId fun c => { c with nextPostId := c.nextPostId + 1, updatedAt := now } := by
  simp only [publishPost] at h
  split at h
  · -- no such channel
    cases h
  · rename_i channel hchannel
    exact ⟨channel, hchannel, (Except.ok.inj h).symm⟩

/-- A post is published where it was asked to be. -/
theorem channelId_publishPost {d : Draft} {p : Post}
    (h : s.publishPost now channelId d = .ok (p, s')) : p.channelId = channelId := by
  rw [publishPost] at h
  split at h
  · cases h
  · cases h
    rfl

/-- A post is edited if it is not deleted, and its channel is stamped. -/
theorem editPost_ok {d : Draft} (h : (s.editPost now channelId postId d).map Prod.snd = .ok s') :
    ∃ p, s.post? channelId postId = some p ∧ p.status ≠ .deleted ∧
      s' = (s.updatePost channelId postId fun p => p.edit now d).touchChannel channelId now := by
  simp only [editPost] at h
  split at h
  · -- no such post
    cases h
  · rename_i p hp
    split at h
    · -- it is deleted
      cases h
    · rename_i hstatus
      exact ⟨p, hp, hstatus, (Except.ok.inj h).symm⟩

/-- A post is deleted if it is not deleted yet, and its channel is stamped. -/
theorem deletePost_ok (h : s.deletePost now channelId postId = .ok s') :
    ∃ p, s.post? channelId postId = some p ∧ p.status ≠ .deleted ∧
      s' = (s.updatePost channelId postId fun p => p.delete now).touchChannel channelId now := by
  simp only [deletePost] at h
  split at h
  · -- no such post
    cases h
  · rename_i p hp
    split at h
    · -- it is deleted already
      cases h
    · rename_i hstatus
      exact ⟨p, hp, hstatus, (Except.ok.inj h).symm⟩

/-- A comment is posted under the next number of its post, which counts it; what it answers exists.
-/
theorem postComment_ok {author referId : Nat} {d : Draft}
    (h : (s.postComment now author channelId postId referId d).map Prod.snd = .ok s') :
    ∃ post, s.post? channelId postId = some post ∧
      (referId = 0 ∨ ∃ c, s.comment? channelId postId referId = some c) ∧
      s' = { s with
        comments := s.comments ++
          [d.comment now author channelId postId post.nextCommentId referId] }.updatePost
            channelId postId fun p =>
              { p with nextCommentId := p.nextCommentId + 1, comments := p.comments + 1 } := by
  simp only [postComment] at h
  split at h
  · -- no such post
    cases h
  · rename_i post hpost
    split at h
    · -- what it answers does not exist
      cases h
    · rename_i hrefer
      refine ⟨post, hpost, ?_, (Except.ok.inj h).symm⟩
      by_cases hzero : referId = 0
      · exact .inl hzero
      · simp [hzero] at hrefer
        exact .inr (Option.ne_none_iff_exists'.1 hrefer)

/-- A comment is posted where it was asked to be. -/
theorem channelId_postComment {author referId : Nat} {d : Draft} {c : SignedComment}
    (h : s.postComment now author channelId postId referId d = .ok (c, s')) :
    c.channelId = channelId := by
  rw [postComment] at h
  split at h
  · cases h
  · split at h
    · cases h
    · cases h
      rfl

/-- A comment is edited by its author as long as it is readable. -/
theorem editComment_ok {d : Draft}
    (h : (s.editComment now userId channelId postId commentId d).map Prod.snd = .ok s') :
    ∃ c, s.comment? channelId postId commentId = some c ∧ c.author = userId ∧
      c.status.isReadable = true ∧
      s' = s.updateComment channelId postId commentId fun c => c.edit now d := by
  simp only [editComment] at h
  split at h
  · -- no such comment
    cases h
  · rename_i c hc
    split at h
    · -- somebody else's
      cases h
    · rename_i hauthor
      split at h
      · -- deleted or blocked
        cases h
      · rename_i hstatus
        exact ⟨c, hc, by simpa using hauthor, by simpa using hstatus, (Except.ok.inj h).symm⟩

/-- A comment is deleted by its author or by the owner if it is not deleted yet. -/
theorem deleteComment_ok {isOwner : Bool}
    (h : s.deleteComment now userId isOwner channelId postId commentId = .ok s') :
    ∃ c, s.comment? channelId postId commentId = some c ∧
      (c.author = userId ∨ isOwner = true) ∧ c.status ≠ .deleted ∧
      s' = s.updateComment channelId postId commentId fun c => c.delete now := by
  simp only [deleteComment] at h
  split at h
  · -- no such comment
    cases h
  · rename_i c hc
    split at h
    · -- neither the author nor the owner asks
      cases h
    · rename_i hallowed
      split at h
      · -- it is deleted already
        cases h
      · rename_i hstatus
        refine ⟨c, hc, ?_, hstatus, (Except.ok.inj h).symm⟩
        -- who asks is the author, or else the owner
        by_cases hauthor : c.author = userId
        · exact .inl hauthor
        · exact .inr (by simpa [hauthor] using hallowed)

/-- A readable comment is blocked, and a blocked one is unblocked. -/
theorem setBlocked_ok {blocked : Bool}
    (h : s.setBlocked now channelId postId commentId blocked = .ok s') :
    ∃ c, s.comment? channelId postId commentId = some c ∧
      (if blocked then c.status.isReadable = true else c.status = .blocked) ∧
      s' = s.updateComment channelId postId commentId fun c => c.setBlocked now blocked := by
  rw [setBlocked] at h
  split at h
  · -- no such comment
    cases h
  · rename_i c hc
    refine ⟨c, hc, ?_⟩
    cases blocked with
    | true =>
      -- blocking
      simp only [if_true] at h ⊢
      split at h
      · rename_i hreadable
        exact ⟨hreadable, (Except.ok.inj h).symm⟩
      · cases h
    | false =>
      -- unblocking
      simp only [Bool.false_eq_true, if_false] at h ⊢
      split at h
      · rename_i hblocked
        exact ⟨eq_of_beq hblocked, (Except.ok.inj h).symm⟩
      · cases h

/-- A like is added to what exists and is not liked, and is counted. -/
theorem like_ok (h : (s.like now userId channelId postId commentId).map Prod.snd = .ok s') :
    s.hasTarget channelId postId commentId = true ∧
      s.isLiked userId channelId postId commentId = false ∧
      ∃ row : Like, row = { userId, channelId, postId, commentId, createdAt := now } ∧
        s' = { s with likes := s.likes ++ [row] }.updateLikes channelId postId commentId
          (· + 1) := by
  simp only [like] at h
  split at h
  · -- nothing to like
    cases h
  · rename_i htarget
    split at h
    · -- liked already
      cases h
    · rename_i hliked
      exact ⟨by simpa using htarget, by simpa using hliked, _, rfl, (Except.ok.inj h).symm⟩

/-- The like of what exists and is liked is taken away, and is counted no more. -/
theorem unlike_ok (h : (s.unlike userId channelId postId commentId).map Prod.snd = .ok s') :
    s.hasTarget channelId postId commentId = true ∧
      s.isLiked userId channelId postId commentId = true ∧
      s' = { s with
        likes := s.likes.filter fun x =>
          !x.isBy userId channelId postId commentId }.updateLikes
            channelId postId commentId (· - 1) := by
  simp only [unlike] at h
  split at h
  · -- nothing to unlike
    cases h
  · rename_i htarget
    split at h
    · -- not liked
      cases h
    · rename_i hliked
      exact ⟨by simpa using htarget, by simpa using hliked, (Except.ok.inj h).symm⟩

/-- A subscription to a channel that exists and is not subscribed to is added and counted. -/
theorem subscribe_ok (h : s.subscribe now userId channelId = .ok s') :
    (s.channel? channelId).isSome = true ∧ s.isSubscribed userId channelId = false ∧
      ∃ row : Subscription, row = { userId, channelId, createdAt := now } ∧
        s' = { s with subscriptions := s.subscriptions ++ [row] }.updateChannel channelId
          fun c => { c with subscribers := c.subscribers + 1 } := by
  simp only [subscribe] at h
  split at h
  · -- no such channel
    cases h
  · rename_i hchannel
    split at h
    · -- subscribed already
      cases h
    · rename_i hsubscribed
      exact ⟨by simpa [Option.isSome_iff_ne_none] using hchannel, by simpa using hsubscribed,
        _, rfl, (Except.ok.inj h).symm⟩

/-- The subscription to a channel that exists and is subscribed to is taken away and counted no
more. -/
theorem unsubscribe_ok (h : s.unsubscribe userId channelId = .ok s') :
    (s.channel? channelId).isSome = true ∧ s.isSubscribed userId channelId = true ∧
      s' = { s with
        subscriptions := s.subscriptions.filter fun x =>
          !(x.userId == userId && x.channelId == channelId) }.updateChannel
            channelId fun c => { c with subscribers := c.subscribers - 1 } := by
  simp only [unsubscribe] at h
  split at h
  · -- no such channel
    cases h
  · rename_i hchannel
    split at h
    · -- not subscribed
      cases h
    · rename_i hsubscribed
      exact ⟨by simpa [Option.isSome_iff_ne_none] using hchannel, by simpa using hsubscribed,
        (Except.ok.inj h).symm⟩

/-! ## Runs -/

/-- The store after an operation; one that is refused changes nothing. -/
def step (s : Store) (op : Operation) : Store :=
  (op.apply s).toOption.getD s

/-- The store after some operations, refused or not. -/
def after (s : Store) (ops : List Operation) : Store :=
  ops.foldl step s

/-- A run goes on from where another ended. -/
theorem after_append_list (s : Store) (ops ops' : List Operation) :
    s.after (ops ++ ops') = (s.after ops).after ops' := by
  rw [after, after, after, List.foldl_append]

/-- What an operation that is not refused keeps is kept by a step. -/
theorem step_keeps {P : Store → Prop} (hs : P s) (op : Operation)
    (h : ∀ s', op.apply s = .ok s' → P s') : P (s.step op) := by
  rw [step]
  cases happly : op.apply s with
  | error e => exact hs
  | ok s' => exact h s' happly

/-- What every operation that is not refused keeps is kept by a run. -/
theorem after_keeps {P : Store → Prop} (hs : P s) (ops : List Operation)
    (h : ∀ (s s' : Store) (op : Operation), P s → op.apply s = .ok s' → P s') :
    P (s.after ops) := by
  induction ops generalizing s with
  | nil => exact hs
  | cons op ops ih =>
    exact ih (step_keeps hs op fun s' happly => h s s' op hs happly)

end Store

end FeedNode.Feed
