import FeedNode.Proofs.Feed.Operation
import Mathlib.Data.List.Nodup

/-!
# Numbers of rows

Channels, the posts of a channel and the comments of a post are numbered from 1 in the order in
which they were added, and the next number is one more than the last. So no two rows of a table have
the same key, and what finds a row by its key finds the only one.

The proof follows the three operations that add a numbered row. All others change rows in place and
leave the keys and the next numbers alone.

Main statement: `Store.Numbered.apply`.
-/

namespace FeedNode.Feed

/-- The numbers that were given count up to the next one. -/
def CountsTo (next : Nat) (ids : List Nat) : Prop :=
  ids ++ [next] = List.range' 1 next

namespace CountsTo

variable {next : Nat} {ids : List Nat}

/-- Before anything was numbered the next number is one. -/
theorem first : CountsTo 1 [] := rfl

/-- The next number is given, and the one after it is next. -/
theorem push (h : CountsTo next ids) : CountsTo (next + 1) (ids ++ [next]) := by
  rw [CountsTo, h, List.range'_concat, Nat.one_mul, Nat.add_comm]

/-- No number was given twice. -/
theorem nodup (h : CountsTo next ids) : ids.Nodup := by
  have hall : (ids ++ [next]).Nodup := by
    rw [h]
    exact List.nodup_range'
  exact (List.nodup_append.1 hall).1

/-- Every number that was given is smaller than the next one. -/
theorem lt (h : CountsTo next ids) {id : Nat} (hid : id ∈ ids) : id < next := by
  have hall : (ids ++ [next]).Nodup := by
    rw [h]
    exact List.nodup_range'
  have hmem : id ∈ List.range' 1 next := by
    rw [← h]
    exact List.mem_append_left _ hid
  -- the next number is not among those that were given
  have hne : id ≠ next := (List.nodup_append.1 hall).2.2 id hid next (by simp)
  have hle := (List.mem_range'_1.1 hmem).2
  omega

/-- The numbers that were given are those from 1 on without a gap. -/
theorem eq_range' (h : CountsTo next ids) : ∃ n, ids = List.range' 1 n ∧ next = n + 1 := by
  -- the next number is one more than there are numbers
  have hlength : ids.length + 1 = next := by
    simpa using congrArg List.length h
  subst hlength
  refine ⟨ids.length, ?_, rfl⟩
  rw [CountsTo, List.range'_concat] at h
  exact (List.append_inj h (by simp)).1

end CountsTo

namespace Store

/-- The numbers of the posts of a channel. -/
def postIds (s : Store) (channelId : Nat) : List Nat :=
  (s.posts.filter fun p => p.channelId == channelId).map Post.postId

/-- The numbers of the comments of a post. -/
def commentIds (s : Store) (channelId postId : Nat) : List Nat :=
  (s.comments.filter fun c => c.channelId == channelId && c.postId == postId).map Comment.commentId

/-- Rows are numbered one after the other, and every row is in a row that exists. -/
structure Numbered (s : Store) : Prop where
  channels : CountsTo s.nextChannelId (s.channels.map Channel.channelId)
  posts : ∀ ch ∈ s.channels, CountsTo ch.nextPostId (s.postIds ch.channelId)
  comments : ∀ p ∈ s.posts, CountsTo p.nextCommentId (s.commentIds p.channelId p.postId)
  inChannel : ∀ p ∈ s.posts, ∃ ch ∈ s.channels, ch.channelId = p.channelId
  inPost : ∀ c ∈ s.comments, ∃ p ∈ s.posts, p.channelId = c.channelId ∧ p.postId = c.postId

/-- An empty store is numbered. -/
theorem numbered_empty : empty.Numbered where
  channels := .first
  posts := nofun
  comments := nofun
  inChannel := nofun
  inPost := nofun

/-! ## Keys -/

namespace Numbered

variable {s s' : Store}

/-- No two channels have one identifier. -/
theorem channel_unique (hs : s.Numbered) {c d : Channel} (hc : c ∈ s.channels)
    (hd : d ∈ s.channels) (h : c.channelId = d.channelId) : c = d :=
  List.inj_on_of_nodup_map hs.channels.nodup hc hd h

/-- No two posts have one key. -/
theorem post_unique (hs : s.Numbered) {p q : Post} (hp : p ∈ s.posts) (hq : q ∈ s.posts)
    (hchannel : p.channelId = q.channelId) (hpost : p.postId = q.postId) : p = q := by
  -- both are in the channel of `q`, whose posts have distinct numbers
  obtain ⟨ch, hch, hid⟩ := hs.inChannel q hq
  have hmem : ∀ r ∈ s.posts, r.channelId = q.channelId →
      r ∈ s.posts.filter fun r => r.channelId == ch.channelId := by
    intro r hr hrc
    rw [hid]
    exact List.mem_filter.2 ⟨hr, by simpa using hrc⟩
  exact List.inj_on_of_nodup_map (hs.posts ch hch).nodup (hmem p hp hchannel) (hmem q hq rfl) hpost

/-- No two comments have one key. -/
theorem comment_unique (hs : s.Numbered) {c d : Comment} (hc : c ∈ s.comments)
    (hd : d ∈ s.comments) (hchannel : c.channelId = d.channelId) (hpost : c.postId = d.postId)
    (hcomment : c.commentId = d.commentId) : c = d := by
  -- both are on the post of `d`, whose comments have distinct numbers
  obtain ⟨p, hp, hpc, hpp⟩ := hs.inPost d hd
  have hmem : ∀ r ∈ s.comments, r.channelId = d.channelId → r.postId = d.postId →
      r ∈ s.comments.filter fun r => r.channelId == p.channelId && r.postId == p.postId := by
    intro r hr hrc hrp
    rw [hpc, hpp]
    exact List.mem_filter.2 ⟨hr, by simp [hrc, hrp]⟩
  exact List.inj_on_of_nodup_map (hs.comments p hp).nodup (hmem c hc hchannel hpost)
    (hmem d hd rfl rfl) hcomment

end Numbered

/-! ## Changes in place -/

section InPlace

variable {s : Store} {channelId postId commentId : Nat}

/-- A change of some rows leaves alone what it leaves alone in each. -/
theorem apply_if {α β : Type} {g : α → β} {f : α → α} (hf : ∀ a, g (f a) = g a) (b : Bool)
    (a : α) : g (if b then f a else a) = g a := by
  split
  · exact hf a
  · rfl

/-- Channels that are changed in place keep a column that the change keeps. -/
theorem map_updateChannel {β : Type} {g : Channel → β} {f : Channel → Channel}
    (hf : ∀ c, g (f c) = g c) :
    (s.updateChannel channelId f).channels.map g = s.channels.map g := by
  rw [updateChannel, List.map_map]
  exact List.map_congr_left fun c _ => apply_if hf _ c

/-- Posts that are changed in place keep a column that the change keeps. -/
theorem map_updatePost {β : Type} {g : Post → β} {f : Post → Post} (hf : ∀ p, g (f p) = g p) :
    (s.updatePost channelId postId f).posts.map g = s.posts.map g := by
  rw [updatePost, List.map_map]
  exact List.map_congr_left fun p _ => apply_if hf _ p

/-- Comments that are changed in place keep a column that the change keeps. -/
theorem map_updateComment {β : Type} {g : Comment → β} {f : Comment → Comment}
    (hf : ∀ c, g (f c) = g c) :
    (s.updateComment channelId postId commentId f).comments.map g = s.comments.map g := by
  rw [updateComment, List.map_map]
  exact List.map_congr_left fun c _ => apply_if hf _ c

/-- Posts that are changed in place keep their numbers. -/
theorem postIds_updatePost {f : Post → Post}
    (hf : ∀ p, (f p).channelId = p.channelId ∧ (f p).postId = p.postId) (n : Nat) :
    (s.updatePost channelId postId f).postIds n = s.postIds n := by
  rw [postIds, updatePost, List.filter_map, List.map_map, postIds]
  -- the channel of a post stays, so the same posts are selected
  rw [List.filter_congr fun p _ =>
    show ((fun q : Post => q.channelId == n) ∘ _) p = (p.channelId == n) from by
      rw [Function.comp, apply_if (fun p => (hf p).1)]]
  exact List.map_congr_left fun p _ => apply_if (fun p => (hf p).2) _ p

/-- Comments that are changed in place keep their numbers. -/
theorem commentIds_updateComment {f : Comment → Comment}
    (hf : ∀ c, (f c).channelId = c.channelId ∧ (f c).postId = c.postId ∧
      (f c).commentId = c.commentId) (n m : Nat) :
    (s.updateComment channelId postId commentId f).commentIds n m = s.commentIds n m := by
  rw [commentIds, updateComment, List.filter_map, List.map_map, commentIds]
  -- channel and post of a comment stay, so the same comments are selected
  rw [List.filter_congr fun c _ =>
    show ((fun d : Comment => d.channelId == n && d.postId == m) ∘ _) c =
      (c.channelId == n && c.postId == m) from by
        rw [Function.comp, apply_if (fun c => (hf c).1), apply_if (fun c => (hf c).2.1)]]
  exact List.map_congr_left fun c _ => apply_if (fun c => (hf c).2.2) _ c

end InPlace

namespace Numbered

variable {s s' : Store}

/-- Only channels, posts and comments are numbered. -/
theorem of_rows (hs : s.Numbered) (hchannels : s'.channels = s.channels)
    (hposts : s'.posts = s.posts) (hcomments : s'.comments = s.comments) : s'.Numbered := by
  obtain ⟨users, channels, posts, comments, likes, subscriptions⟩ := s'
  subst hchannels hposts hcomments
  exact ⟨hs.channels, hs.posts, hs.comments, hs.inChannel, hs.inPost⟩

/-- A change of channels that keeps identifiers and next numbers keeps the rows numbered. -/
theorem updateChannel (hs : s.Numbered) (channelId : Nat) {f : Channel → Channel}
    (hf : ∀ c, (f c).channelId = c.channelId ∧ (f c).nextPostId = c.nextPostId) :
    (s.updateChannel channelId f).Numbered := by
  have hid : ∀ c, (f c).channelId = c.channelId := fun c => (hf c).1
  refine ⟨?_, ?_, hs.comments, ?_, hs.inPost⟩
  · -- the identifiers of channels
    rw [map_updateChannel hid, nextChannelId, Store.updateChannel, List.length_map]
    exact hs.channels
  · -- the numbers of posts in a channel
    intro ch hch
    obtain ⟨c, hc, rfl⟩ := List.mem_map.1 hch
    rw [apply_if hid, apply_if fun c => (hf c).2]
    exact hs.posts c hc
  · -- the channel of a post
    intro p hp
    obtain ⟨c, hc, hpc⟩ := hs.inChannel p hp
    exact ⟨_, List.mem_map_of_mem hc, (apply_if hid _ c).trans hpc⟩

/-- A change of posts that keeps keys and next numbers keeps the rows numbered. -/
theorem updatePost (hs : s.Numbered) (channelId postId : Nat) {f : Post → Post}
    (hf : ∀ p, (f p).channelId = p.channelId ∧ (f p).postId = p.postId ∧
      (f p).nextCommentId = p.nextCommentId) :
    (s.updatePost channelId postId f).Numbered := by
  have hchannel : ∀ p, (f p).channelId = p.channelId := fun p => (hf p).1
  have hpost : ∀ p, (f p).postId = p.postId := fun p => (hf p).2.1
  refine ⟨hs.channels, ?_, ?_, ?_, ?_⟩
  · -- the numbers of posts in a channel
    intro ch hch
    rw [postIds_updatePost fun p => ⟨hchannel p, hpost p⟩]
    exact hs.posts ch hch
  · -- the numbers of comments on a post
    intro q hq
    obtain ⟨p, hp, rfl⟩ := List.mem_map.1 hq
    rw [apply_if hchannel, apply_if hpost, apply_if fun p => (hf p).2.2]
    exact hs.comments p hp
  · -- the channel of a post
    intro q hq
    obtain ⟨p, hp, rfl⟩ := List.mem_map.1 hq
    rw [apply_if hchannel]
    exact hs.inChannel p hp
  · -- the post of a comment
    intro c hc
    obtain ⟨p, hp, hpc, hpp⟩ := hs.inPost c hc
    exact ⟨_, List.mem_map_of_mem hp, (apply_if hchannel _ p).trans hpc,
      (apply_if hpost _ p).trans hpp⟩

/-- A change of comments that keeps their keys keeps the rows numbered. -/
theorem updateComment (hs : s.Numbered) (channelId postId commentId : Nat)
    {f : Comment → Comment}
    (hf : ∀ c, (f c).channelId = c.channelId ∧ (f c).postId = c.postId ∧
      (f c).commentId = c.commentId) :
    (s.updateComment channelId postId commentId f).Numbered := by
  refine ⟨hs.channels, hs.posts, ?_, hs.inChannel, ?_⟩
  · -- the numbers of comments on a post
    intro p hp
    rw [commentIds_updateComment hf]
    exact hs.comments p hp
  · -- the post of a comment
    intro d hd
    obtain ⟨c, hc, rfl⟩ := List.mem_map.1 hd
    rw [apply_if fun c => (hf c).1, apply_if fun c => (hf c).2.1]
    exact hs.inPost c hc

/-- Counting likes keeps the rows numbered. -/
theorem updateLikes (hs : s.Numbered) (channelId postId commentId : Nat) (f : Nat → Nat) :
    (s.updateLikes channelId postId commentId f).Numbered := by
  rw [Store.updateLikes]
  split
  · exact hs.updatePost channelId postId fun p => ⟨rfl, rfl, rfl⟩
  · exact hs.updateComment channelId postId commentId fun c => ⟨rfl, rfl, rfl⟩

/-! ## Rows that are added -/

variable {channelId postId : Nat}

/-- A channel with the next identifier and no posts keeps the rows numbered. -/
theorem addChannel (hs : s.Numbered) {row : Channel} (hid : row.channelId = s.nextChannelId)
    (hnext : row.nextPostId = 1) : Numbered { s with channels := s.channels ++ [row] } := by
  have hmem : ∀ ch ∈ s.channels, ch ∈ s.channels ++ [row] :=
    fun ch hch => List.mem_append_left _ hch
  refine ⟨?_, ?_, hs.comments, ?_, hs.inPost⟩
  · rw [nextChannelId, List.length_append, List.map_append, List.map_singleton, hid]
    exact hs.channels.push
  · intro ch hch
    rcases List.mem_append.1 hch with hold | hnew
    · -- a channel that was there before
      exact hs.posts ch hold
    · -- every post is in a channel that was there before
      have hnone : s.postIds row.channelId = [] := by
        rw [postIds, List.map_eq_nil_iff, List.filter_eq_nil_iff]
        intro p hp hpc
        obtain ⟨old, hold, hpid⟩ := hs.inChannel p hp
        have hlt := hs.channels.lt (List.mem_map_of_mem (f := Channel.channelId) hold)
        rw [hpid, eq_of_beq hpc, hid] at hlt
        omega
      rw [List.mem_singleton.1 hnew, hnext]
      show CountsTo 1 (s.postIds row.channelId)
      rw [hnone]
      exact .first
  · intro p hp
    obtain ⟨ch, hch, hpid⟩ := hs.inChannel p hp
    exact ⟨ch, hmem ch hch, hpid⟩

/-- A post with the next number of its channel, which then moves on, keeps the rows numbered. -/
theorem addPost (hs : s.Numbered) {channel : Channel} {row : Post} {f : Channel → Channel}
    (hchannel : s.channel? channelId = some channel) (hid : row.channelId = channelId)
    (hpost : row.postId = channel.nextPostId) (hnext : row.nextCommentId = 1)
    (hf : ∀ c, (f c).channelId = c.channelId ∧ (f c).nextPostId = c.nextPostId + 1) :
    ({ s with posts := s.posts ++ [row] }.updateChannel channelId f).Numbered := by
  obtain ⟨hmem, hcid⟩ := channelId_of_channel? hchannel
  have hfid : ∀ c, (f c).channelId = c.channelId := fun c => (hf c).1
  -- the row counts among the posts of its channel only
  have hids : ∀ n, ({ s with posts := s.posts ++ [row] } : Store).postIds n =
      s.postIds n ++ if channelId = n then [channel.nextPostId] else [] := by
    intro n
    simp only [postIds, List.filter_append, List.map_append, List.filter_cons, List.filter_nil, hid,
      beq_iff_eq]
    split
    · rw [List.map_singleton, hpost]
    · rfl
  refine ⟨?_, ?_, ?_, ?_, ?_⟩
  · -- the channels are those of before
    rw [map_updateChannel hfid, nextChannelId, Store.updateChannel, List.length_map]
    exact hs.channels
  · intro ch hch
    obtain ⟨c, hc, rfl⟩ := List.mem_map.1 hch
    have hpostIds : ∀ n,
        ({ s with posts := s.posts ++ [row] }.updateChannel channelId f).postIds n =
          s.postIds n ++ if channelId = n then [channel.nextPostId] else [] := hids
    rw [apply_if hfid, hpostIds]
    -- the channel that was found is the only one whose next number moves
    by_cases heq : c.channelId = channelId
    · obtain rfl : c = channel := hs.channel_unique hc hmem (heq.trans hcid.symm)
      rw [if_pos (by simpa using heq), if_pos heq.symm, (hf c).2]
      exact (hs.posts c hc).push
    · rw [if_neg (by simpa using heq), if_neg (fun h => heq h.symm), List.append_nil]
      exact hs.posts c hc
  · intro p hp
    rcases List.mem_append.1 hp with hold | hnew
    · -- a post that was there before
      exact hs.comments p hold
    · -- every comment is on a post that was there before
      have hnone : s.commentIds row.channelId row.postId = [] := by
        rw [commentIds, List.map_eq_nil_iff, List.filter_eq_nil_iff]
        intro c hc hkey
        obtain ⟨hkc, hkp⟩ : c.channelId = row.channelId ∧ c.postId = row.postId := by
          simpa using hkey
        obtain ⟨p, hp, hpc, hpp⟩ := hs.inPost c hc
        have hmemIds : p.postId ∈ s.postIds channel.channelId := by
          refine List.mem_map_of_mem (List.mem_filter.2 ⟨hp, ?_⟩)
          simp [hpc, hkc, hid, hcid]
        -- it would have a number smaller than its own
        have hlt := (hs.posts channel hmem).lt hmemIds
        omega
      rw [List.mem_singleton.1 hnew, hnext]
      show CountsTo 1 (s.commentIds row.channelId row.postId)
      rw [hnone]
      exact .first
  · intro p hp
    rcases List.mem_append.1 hp with hold | hnew
    · -- an old post is in a channel that stays
      obtain ⟨c, hc, hpid⟩ := hs.inChannel p hold
      exact ⟨_, List.mem_map_of_mem hc, (apply_if hfid _ c).trans hpid⟩
    · -- the new one is in the channel that was found
      rw [List.mem_singleton.1 hnew, hid]
      exact ⟨_, List.mem_map_of_mem hmem, (apply_if hfid _ channel).trans hcid⟩
  · intro c hc
    obtain ⟨p, hp, hkey⟩ := hs.inPost c hc
    exact ⟨p, List.mem_append_left _ hp, hkey⟩

/-- A comment with the next number of its post, which then moves on, keeps the rows numbered. -/
theorem addComment (hs : s.Numbered) {post : Post} {row : Comment} {f : Post → Post}
    (hpost : s.post? channelId postId = some post) (hchannelId : row.channelId = channelId)
    (hpostId : row.postId = postId) (hid : row.commentId = post.nextCommentId)
    (hf : ∀ p, (f p).channelId = p.channelId ∧ (f p).postId = p.postId ∧
      (f p).nextCommentId = p.nextCommentId + 1) :
    ({ s with comments := s.comments ++ [row] }.updatePost channelId postId f).Numbered := by
  obtain ⟨hmem, hpc, hpp⟩ := key_of_post? hpost
  have hfc : ∀ p, (f p).channelId = p.channelId := fun p => (hf p).1
  have hfp : ∀ p, (f p).postId = p.postId := fun p => (hf p).2.1
  refine ⟨hs.channels, ?_, ?_, ?_, ?_⟩
  · -- the posts are those of before
    intro ch hch
    rw [postIds_updatePost fun p => ⟨hfc p, hfp p⟩]
    exact hs.posts ch hch
  · intro q hq
    obtain ⟨p, hp, rfl⟩ := List.mem_map.1 hq
    -- the row counts among the comments of its post only
    have hids :
        ({ s with comments := s.comments ++ [row] }.updatePost channelId postId f).commentIds
            p.channelId p.postId =
          s.commentIds p.channelId p.postId ++
            if isPost channelId postId p then [post.nextCommentId] else [] := by
      have hkey : (row.channelId == p.channelId && row.postId == p.postId) =
          isPost channelId postId p := by
        rw [hchannelId, hpostId, isPost, Bool.beq_comm, Bool.beq_comm (a := postId)]
      simp only [commentIds, Store.updatePost, List.filter_append, List.map_append,
        List.filter_cons, List.filter_nil, hkey]
      split
      · rw [List.map_singleton, hid]
      · rfl
    rw [apply_if hfc, apply_if hfp, hids]
    -- the post that was found is the only one whose next number moves
    by_cases heq : isPost channelId postId p = true
    · obtain ⟨hkc, hkp⟩ := isPost_iff.1 heq
      obtain rfl : p = post := hs.post_unique hp hmem (hkc.trans hpc.symm) (hkp.trans hpp.symm)
      rw [if_pos heq, if_pos heq, (hf p).2.2]
      exact (hs.comments p hp).push
    · rw [if_neg heq, if_neg heq, List.append_nil]
      exact hs.comments p hp
  · -- their channels too
    intro q hq
    obtain ⟨p, hp, rfl⟩ := List.mem_map.1 hq
    rw [apply_if hfc]
    exact hs.inChannel p hp
  · intro c hc
    rcases List.mem_append.1 hc with hold | hnew
    · -- an old comment is on a post that stays
      obtain ⟨p, hp, hkc, hkp⟩ := hs.inPost c hold
      exact ⟨_, List.mem_map_of_mem hp, (apply_if hfc _ p).trans hkc, (apply_if hfp _ p).trans hkp⟩
    · -- the new one is on the post that was found
      rw [List.mem_singleton.1 hnew, hchannelId, hpostId]
      exact ⟨_, List.mem_map_of_mem hmem, (apply_if hfc _ post).trans hpc,
        (apply_if hfp _ post).trans hpp⟩

/-- A store with the same rows is numbered like the store. -/
theorem sameRows (hs : s.Numbered) (h : s.SameRows s') : s'.Numbered :=
  hs.of_rows h.channels h.posts h.comments

/-- Every operation keeps the rows numbered. -/
theorem apply (hs : s.Numbered) {op : Operation} (h : op.apply s = .ok s') : s'.Numbered := by
  cases op with
  | upsertUser u =>
    rw [← Except.ok.inj h]
    exact hs.sameRows (sameRows_upsertUser s u)
  | createChannel now d =>
    obtain ⟨-, rfl⟩ := createChannel_ok h
    exact hs.addChannel rfl rfl
  | publishPost now channelId d =>
    obtain ⟨channel, hchannel, rfl⟩ := publishPost_ok h
    exact hs.addPost hchannel rfl rfl rfl fun c => ⟨rfl, rfl⟩
  -- a changed post stamps its channel
  | editPost now channelId postId d =>
    obtain ⟨p, -, -, rfl⟩ := editPost_ok h
    refine (hs.updatePost channelId postId ?_).updateChannel channelId ?_
    · exact fun p => ⟨rfl, rfl, rfl⟩
    · exact fun c => ⟨rfl, rfl⟩
  | deletePost now channelId postId =>
    obtain ⟨p, -, -, rfl⟩ := deletePost_ok h
    refine (hs.updatePost channelId postId ?_).updateChannel channelId ?_
    · exact fun p => ⟨rfl, rfl, rfl⟩
    · exact fun c => ⟨rfl, rfl⟩
  -- a comment takes the next number of its post
  | postComment now author channelId postId referId d =>
    obtain ⟨post, hpost, -, rfl⟩ := postComment_ok h
    exact hs.addComment hpost rfl rfl rfl fun p => ⟨rfl, rfl, rfl⟩
  | editComment now userId channelId postId commentId d =>
    obtain ⟨c, -, -, -, rfl⟩ := editComment_ok h
    exact hs.updateComment channelId postId commentId fun c => ⟨rfl, rfl, rfl⟩
  | deleteComment now userId isOwner channelId postId commentId =>
    obtain ⟨c, -, -, -, rfl⟩ := deleteComment_ok h
    exact hs.updateComment channelId postId commentId fun c => ⟨rfl, rfl, rfl⟩
  | setBlocked now channelId postId commentId blocked =>
    obtain ⟨c, -, -, rfl⟩ := setBlocked_ok h
    exact hs.updateComment channelId postId commentId fun c => ⟨rfl, rfl, rfl⟩
  -- likes and subscriptions have no numbers, only what counts them changes
  | like now userId channelId postId commentId =>
    obtain ⟨-, -, row, -, rfl⟩ := like_ok h
    refine Numbered.updateLikes (hs.of_rows ?_ ?_ ?_) channelId postId commentId _ <;> rfl
  | unlike userId channelId postId commentId =>
    obtain ⟨-, -, rfl⟩ := unlike_ok h
    refine Numbered.updateLikes (hs.of_rows ?_ ?_ ?_) channelId postId commentId _ <;> rfl
  | subscribe now userId channelId =>
    obtain ⟨-, -, row, -, rfl⟩ := subscribe_ok h
    refine Numbered.updateChannel (hs.of_rows ?_ ?_ ?_) channelId fun c => ⟨rfl, rfl⟩ <;> rfl
  | unsubscribe userId channelId =>
    obtain ⟨-, -, rfl⟩ := unsubscribe_ok h
    refine Numbered.updateChannel (hs.of_rows ?_ ?_ ?_) channelId fun c => ⟨rfl, rfl⟩ <;> rfl

/-- A step keeps the rows numbered. -/
theorem step (hs : s.Numbered) (op : Operation) : (s.step op).Numbered :=
  step_keeps hs op fun _ h => hs.apply h

/-- A run keeps the rows numbered. -/
theorem after (hs : s.Numbered) (ops : List Operation) : (s.after ops).Numbered :=
  after_keeps hs ops fun _ _ _ hs h => hs.apply h

end Numbered

end Store

end FeedNode.Feed
