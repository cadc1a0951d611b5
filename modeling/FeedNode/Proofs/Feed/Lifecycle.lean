import FeedNode.Proofs.Feed.References

/-!
# The life of a row

What is read of a post or a comment is its matter: who wrote it and in answer to what, its status
and its payload. The matter is what the successful operations on this row made of it, one after the
other, and no other operation has a part in it. A row is created available; an edit replaces its
payload; a block and an unblock move the status alone; a deletion takes content and thumbnails away
and is final.

The proof has one lemma for what a single operation does to the matter under a key
(`Numbered.postMatter_step`, `Numbered.commentMatter_step`), and all that is said of runs follows
from it by induction on the operations.

Main statement: `lives_by_changes`.
-/

namespace FeedNode.Feed

/-! ## Matter and its changes -/

/-- The payload as it is kept: texts that nobody supplied are placeholders. -/
def Draft.stored (d : Draft) : Draft :=
  { d with hashId := orPlaceholder d.hashId, proof := orPlaceholder d.proof }

/-- The payload without content and thumbnails. -/
def Draft.cleared (d : Draft) : Draft :=
  { d with content := [], thumbnails := [] }

/-- What is read of a row, its counters and times apart. -/
structure Matter (α : Type) where
  /-- What the row was created with and keeps for good. -/
  source : α
  status : Status
  payload : Draft
deriving DecidableEq, Repr

/-- Who wrote a comment, and the comment that it answers. -/
structure Authorship where
  author : Nat
  referId : Nat
deriving DecidableEq, Repr

/-- What an operation does to one row. -/
inductive Change (α : Type) where
  | create (source : α) (d : Draft)
  | edit (d : Draft)
  | delete
  | block
  | unblock
deriving DecidableEq, Repr

/-- The matter after a change; there is none before the row was created. -/
def Matter.after {α : Type} (m : Option (Matter α)) : Change α → Option (Matter α)
  | .create source d => some { source, status := .available, payload := d.stored }
  | .edit d => m.map fun m => { m with status := .edited, payload := d.stored }
  | .delete => m.map fun m => { m with status := .deleted, payload := m.payload.cleared }
  | .block => m.map fun m => { m with status := .blocked }
  | .unblock => m.map fun m => { m with status := .available }

namespace Matter

variable {α : Type}

/-- A deleted row has no content. -/
def Swept (m : Matter α) : Prop :=
  m.status = .deleted → m.payload.content = [] ∧ m.payload.thumbnails = []

/-- After any change a row that is deleted has no content. -/
theorem swept_of_after {o : Option (Matter α)} {ch : Change α} {m : Matter α}
    (hm : after o ch = some m) : m.Swept := by
  cases ch with
  | create source d =>
    obtain rfl := Option.some.inj hm
    intro hdeleted
    cases hdeleted
  | delete =>
    obtain ⟨m', -, rfl⟩ := Option.map_eq_some_iff.1 hm
    exact fun _ => ⟨rfl, rfl⟩
  -- after the other changes the row is not deleted
  | edit _ | block | unblock =>
    obtain ⟨m', -, rfl⟩ := Option.map_eq_some_iff.1 hm
    intro hdeleted
    cases hdeleted

/-- Only a block leaves a row blocked. -/
theorem not_blocked_of_after {o : Option (Matter α)} {ch : Change α} (hch : ch ≠ .block)
    {m : Matter α} (hm : after o ch = some m) : m.status ≠ .blocked := by
  cases ch with
  | create source d =>
    obtain rfl := Option.some.inj hm
    intro hblocked
    cases hblocked
  | block => exact absurd rfl hch
  | edit _ | delete | unblock =>
    obtain ⟨m', -, rfl⟩ := Option.map_eq_some_iff.1 hm
    intro hblocked
    cases hblocked

end Matter

/-- What the author supplied, as far as it is still there. -/
def Post.payload (p : Post) : Draft where
  content := p.content
  thumbnails := p.thumbnails
  hashId := p.hashId
  proof := p.proof

/-- What the author supplied, as far as it is still there. -/
def Comment.payload (c : Comment) : Draft where
  content := c.content
  thumbnails := c.thumbnails
  hashId := c.hashId
  proof := c.proof

/-- What is read of a post; all posts are the owner's. -/
def Post.matter (p : Post) : Matter Unit where
  source := ()
  status := p.status
  payload := p.payload

/-- What is read of a comment. -/
def Comment.matter (c : Comment) : Matter Authorship where
  source := { author := c.author, referId := c.referId }
  status := c.status
  payload := c.payload

namespace Store

/-- What is read of the post under a key. -/
def postMatter (s : Store) (key : Nat × Nat) : Option (Matter Unit) :=
  (s.post? key.1 key.2).map Post.matter

/-- What is read of the comment under a key. -/
def commentMatter (s : Store) (key : Nat × Nat × Nat) : Option (Matter Authorship) :=
  (s.comment? key.1 key.2.1 key.2.2).map Comment.matter

/-! ## The changes of a run -/

/-- The post that an operation names, and what it does to it. A new post is named by the key that
it gets. -/
def namedPost (s : Store) : Operation → Option ((Nat × Nat) × Change Unit)
  | .publishPost now channelId d =>
    (s.publishPost now channelId d).toOption.map fun (p, _) => (p.key, .create () d)
  | .editPost _ channelId postId d => some ((channelId, postId), .edit d)
  | .deletePost _ channelId postId => some ((channelId, postId), .delete)
  | _ => none

/-- The comment that an operation names, and what it does to it. -/
def namedComment (s : Store) : Operation → Option ((Nat × Nat × Nat) × Change Authorship)
  | .postComment now author channelId postId referId d =>
    (s.postComment now author channelId postId referId d).toOption.map fun (c, _) =>
      (c.key, .create { author, referId } d)
  | .editComment _ _ channelId postId commentId d =>
    some ((channelId, postId, commentId), .edit d)
  | .deleteComment _ _ _ channelId postId commentId =>
    some ((channelId, postId, commentId), .delete)
  | .setBlocked _ channelId postId commentId blocked =>
    some ((channelId, postId, commentId), if blocked then .block else .unblock)
  | _ => none

section Changes

variable {κ α : Type} [DecidableEq κ]

/-- What an operation does to the row under a key: nothing if it is refused or names no such row. -/
def change? (named : Store → Operation → Option (κ × Change α)) (key : κ) (s : Store)
    (op : Operation) : Option (Change α) :=
  if (op.apply s).isOk then ((named s op).filter fun n => n.1 = key).map Prod.snd else none

/-- What some operations do to the row under a key, one after the other. -/
def changes (named : Store → Operation → Option (κ × Change α)) (key : κ) (s : Store) :
    List Operation → List (Change α)
  | [] => []
  | op :: ops => (change? named key s op).toList ++ changes named key (s.step op) ops

variable {named : Store → Operation → Option (κ × Change α)} {key : κ} {s s' : Store}

/-- An operation that succeeds makes the step. -/
theorem step_of_ok {op : Operation} (h : op.apply s = .ok s') : s.step op = s' := by
  rw [step, h]
  rfl

/-- An operation that is refused makes none. -/
theorem step_of_error {op : Operation} {e : StoreError} (h : op.apply s = .error e) :
    s.step op = s := by
  rw [step, h]
  rfl

/-- An operation that succeeds changes what it names. -/
theorem change?_of_ok {op : Operation} (h : op.apply s = .ok s') :
    change? named key s op = ((named s op).filter fun n => n.1 = key).map Prod.snd := by
  rw [change?, h]
  rfl

/-- An operation that is refused changes nothing. -/
theorem change?_of_error {op : Operation} {e : StoreError} (h : op.apply s = .error e) :
    change? named key s op = none := by
  rw [change?, h]
  rfl

/-- An operation that has a change under the key was not refused. -/
theorem ok_of_change? {op : Operation} {ch : Change α} (h : change? named key s op = some ch) :
    ∃ s', op.apply s = .ok s' ∧ named s op = some (key, ch) := by
  cases happly : op.apply s with
  | error e =>
    rw [change?_of_error happly] at h
    cases h
  | ok s' =>
    rw [change?_of_ok happly] at h
    obtain ⟨⟨key', ch'⟩, hfilter, rfl⟩ := Option.map_eq_some_iff.1 h
    obtain ⟨hnamed, hkey⟩ := Option.filter_eq_some_iff.1 hfilter
    obtain rfl : key' = key := by simpa using hkey
    exact ⟨s', rfl, hnamed⟩

/-- The matter after an operation that names one row. -/
theorem foldl_named (m : Option (Matter α)) (k key : κ) (ch : Change α) :
    (((some (k, ch)).filter fun n => n.1 = key).map Prod.snd).toList.foldl Matter.after m =
      if k = key then Matter.after m ch else m := by
  by_cases hkey : k = key
  · simp [Option.filter, hkey]
  · simp [Option.filter, hkey]

end Changes

/-! ## Rows under keys -/

section Rows

variable {s : Store} {channelId postId commentId : Nat}

/-- A row that was changed in place is found as before. -/
theorem find?_map_if {α : Type} {p q : α → Bool} {f : α → α} (hf : ∀ a, p (f a) = p a)
    (l : List α) :
    (l.map fun a => if q a then f a else a).find? p =
      (l.find? p).map fun a => if q a then f a else a := by
  have hsame : (p ∘ fun a => if q a then f a else a) = p := funext fun a => apply_if hf (q a) a
  rw [List.find?_map, hsame]

/-- A post is found by its key. -/
theorem isPost_eq (p : Post) :
    isPost channelId postId p = decide (p.key = (channelId, postId)) := by
  rw [Bool.eq_iff_iff, isPost_iff]
  simp [Post.key]

/-- A comment is found by its key. -/
theorem isComment_eq (c : Comment) :
    isComment channelId postId commentId c = decide (c.key = (channelId, postId, commentId)) := by
  rw [Bool.eq_iff_iff, isComment_iff]
  simp [Comment.key]

/-- A change of a post is seen under its key and under no other. -/
theorem postMatter_updatePost {f : Post → Post} {g : Matter Unit → Matter Unit} (key : Nat × Nat)
    (hkey : ∀ p, (f p).key = p.key) (hmatter : ∀ p, (f p).matter = g p.matter) :
    (s.updatePost channelId postId f).postMatter key =
      if (channelId, postId) = key then (s.postMatter key).map g else s.postMatter key := by
  -- the key does not change, so that the same post is found
  have hfind : (s.updatePost channelId postId f).post? key.1 key.2 =
      (s.post? key.1 key.2).map fun p => if isPost channelId postId p then f p else p := by
    rw [post?, updatePost]
    exact find?_map_if (fun p => by rw [isPost_eq, isPost_eq, hkey]) s.posts
  rw [postMatter, hfind, postMatter]
  cases hp : s.post? key.1 key.2 with
  | none => simp
  | some p =>
    obtain ⟨-, hchannel, hpost⟩ := key_of_post? hp
    have hpkey : p.key = key := Prod.ext hchannel hpost
    -- the post that is found has the key that was asked for
    by_cases hsame : (channelId, postId) = key
    · simp [isPost_eq, hpkey, hsame, hmatter]
    · simp [isPost_eq, hpkey, hsame, Ne.symm hsame]

/-- A change of a comment is seen under its key and under no other. -/
theorem commentMatter_updateComment {f : Comment → Comment}
    {g : Matter Authorship → Matter Authorship} (key : Nat × Nat × Nat)
    (hkey : ∀ c, (f c).key = c.key) (hmatter : ∀ c, (f c).matter = g c.matter) :
    (s.updateComment channelId postId commentId f).commentMatter key =
      if (channelId, postId, commentId) = key then (s.commentMatter key).map g
      else s.commentMatter key := by
  -- the key does not change, so that the same comment is found
  have hfind : (s.updateComment channelId postId commentId f).comment? key.1 key.2.1 key.2.2 =
      (s.comment? key.1 key.2.1 key.2.2).map fun c =>
        if isComment channelId postId commentId c then f c else c := by
    rw [comment?, updateComment]
    exact find?_map_if (fun c => by rw [isComment_eq, isComment_eq, hkey]) s.comments
  rw [commentMatter, hfind, commentMatter]
  cases hc : s.comment? key.1 key.2.1 key.2.2 with
  | none => simp
  | some c =>
    obtain ⟨-, hchannel, hpost, hcomment⟩ := key_of_comment? hc
    have hckey : c.key = key := Prod.ext hchannel (Prod.ext hpost hcomment)
    by_cases hsame : (channelId, postId, commentId) = key
    · simp [isComment_eq, hckey, hsame, hmatter]
    · simp [isComment_eq, hckey, hsame, Ne.symm hsame]

/-- A post with a new key is seen under it, and the others as before. -/
theorem postMatter_push (row : Post) (hnew : row.key ∉ s.postKeys) (key : Nat × Nat) :
    ({ s with posts := s.posts ++ [row] } : Store).postMatter key =
      if row.key = key then some row.matter else s.postMatter key := by
  -- the new row is behind the others
  have hfind : ({ s with posts := s.posts ++ [row] } : Store).post? key.1 key.2 =
      (s.post? key.1 key.2).or (if row.key = key then some row else none) := by
    rw [post?, List.find?_append]
    congr 1
    by_cases hkey : row.key = key
    · simp [isPost_eq, hkey]
    · simp [isPost_eq, hkey]
  rw [postMatter, hfind]
  by_cases hkey : row.key = key
  · -- nothing is found among the old rows
    have hnone : s.post? key.1 key.2 = none := by
      rw [← Option.not_isSome_iff_eq_none, post?_isSome_iff]
      exact hkey ▸ hnew
    simp [hkey, hnone]
  · -- another key finds what it found
    simp [hkey, postMatter]

/-- A comment with a new key is seen under it, and the others as before. -/
theorem commentMatter_push (row : Comment) (hnew : row.key ∉ s.commentKeys)
    (key : Nat × Nat × Nat) :
    ({ s with comments := s.comments ++ [row] } : Store).commentMatter key =
      if row.key = key then some row.matter else s.commentMatter key := by
  -- the new row is behind the others
  have hfind : ({ s with comments := s.comments ++ [row] } : Store).comment? key.1 key.2.1 key.2.2 =
      (s.comment? key.1 key.2.1 key.2.2).or (if row.key = key then some row else none) := by
    rw [comment?, List.find?_append]
    congr 1
    by_cases hkey : row.key = key
    · simp [isComment_eq, hkey]
    · simp [isComment_eq, hkey]
  rw [commentMatter, hfind]
  by_cases hkey : row.key = key
  · have hnone : s.comment? key.1 key.2.1 key.2.2 = none := by
      rw [← Option.not_isSome_iff_eq_none, comment?_isSome_iff]
      exact hkey ▸ hnew
    simp [hkey, hnone]
  · simp [hkey, commentMatter]

/-- Counters are no part of the matter. -/
theorem postMatter_updatePost_of_same {f : Post → Post} (key : Nat × Nat)
    (hkey : ∀ p, (f p).key = p.key) (hmatter : ∀ p, (f p).matter = p.matter) :
    (s.updatePost channelId postId f).postMatter key = s.postMatter key := by
  rw [postMatter_updatePost (g := id) key hkey hmatter]
  simp

/-- Likes are no part of the matter of a post. -/
theorem postMatter_updateLikes (f : Nat → Nat) (key : Nat × Nat) :
    (s.updateLikes channelId postId commentId f).postMatter key = s.postMatter key := by
  rw [updateLikes]
  split
  · -- the likes of a post
    refine postMatter_updatePost_of_same key ?_ ?_ <;> exact fun p => rfl
  · -- the likes of a comment
    rfl

/-- Likes are no part of the matter of a comment. -/
theorem commentMatter_updateLikes (f : Nat → Nat) (key : Nat × Nat × Nat) :
    (s.updateLikes channelId postId commentId f).commentMatter key = s.commentMatter key := by
  rw [updateLikes]
  split
  · -- the likes of a post
    rfl
  · refine (commentMatter_updateComment (g := id) key ?_ ?_).trans ?_
    · exact fun c => rfl
    · exact fun c => rfl
    · simp

end Rows

/-! ## One operation -/

namespace Numbered

variable {s s' : Store}

/-- An operation changes the matter of the post that it names, if it is not refused, and of no
other. -/
theorem postMatter_step (hs : s.Numbered) (op : Operation) (key : Nat × Nat) :
    (s.step op).postMatter key =
      (change? namedPost key s op).toList.foldl Matter.after (s.postMatter key) := by
  cases happly : op.apply s with
  | error e =>
    rw [step_of_error happly, change?_of_error happly]
    rfl
  | ok s' =>
    rw [step_of_ok happly, change?_of_ok happly]
    cases op with
    -- the operations on posts
    | publishPost now channelId d =>
      obtain ⟨channel, hchannel, rfl⟩ := publishPost_ok happly
      have hnamed : s.namedPost (.publishPost now channelId d) =
          some ((channelId, channel.nextPostId), .create () d) := by
        simp only [namedPost, publishPost, hchannel]
        rfl
      rw [hnamed, foldl_named]
      exact postMatter_push (d.post now channelId channel.nextPostId)
        (hs.fresh_post hchannel) key
    | editPost now channelId postId d =>
      obtain ⟨p, -, -, rfl⟩ := editPost_ok happly
      rw [namedPost, foldl_named, Matter.after]
      refine postMatter_updatePost key ?_ ?_ <;> exact fun p => rfl
    | deletePost now channelId postId =>
      obtain ⟨p, -, -, rfl⟩ := deletePost_ok happly
      rw [namedPost, foldl_named, Matter.after]
      refine postMatter_updatePost key ?_ ?_ <;> exact fun p => rfl
    -- a comment and a like move the counters of a post
    | postComment now author channelId postId referId d =>
      obtain ⟨post, -, -, rfl⟩ := postComment_ok happly
      refine postMatter_updatePost_of_same key ?_ ?_ <;> exact fun p => rfl
    | like now userId channelId postId commentId =>
      obtain ⟨-, -, row, -, rfl⟩ := like_ok happly
      exact postMatter_updateLikes _ key
    | unlike userId channelId postId commentId =>
      obtain ⟨-, -, rfl⟩ := unlike_ok happly
      exact postMatter_updateLikes _ key
    -- the others leave the posts alone
    | upsertUser u =>
      obtain rfl := Except.ok.inj happly
      have hposts := (sameRows_upsertUser s u).posts
      simp only [postMatter, post?, hposts]
      rfl
    | createChannel now d =>
      obtain ⟨-, rfl⟩ := createChannel_ok happly
      rfl
    | editComment now userId channelId postId commentId d =>
      obtain ⟨c, -, -, -, rfl⟩ := editComment_ok happly
      rfl
    | deleteComment now userId isOwner channelId postId commentId =>
      obtain ⟨c, -, -, -, rfl⟩ := deleteComment_ok happly
      rfl
    | setBlocked now channelId postId commentId blocked =>
      obtain ⟨c, -, -, rfl⟩ := setBlocked_ok happly
      rfl
    | subscribe now userId channelId =>
      obtain ⟨-, -, row, -, rfl⟩ := subscribe_ok happly
      rfl
    | unsubscribe userId channelId =>
      obtain ⟨-, -, rfl⟩ := unsubscribe_ok happly
      rfl

/-- An operation changes the matter of the comment that it names, if it is not refused, and of no
other. -/
theorem commentMatter_step (hs : s.Numbered) (op : Operation) (key : Nat × Nat × Nat) :
    (s.step op).commentMatter key =
      (change? namedComment key s op).toList.foldl Matter.after (s.commentMatter key) := by
  cases happly : op.apply s with
  | error e =>
    rw [step_of_error happly, change?_of_error happly]
    rfl
  | ok s' =>
    rw [step_of_ok happly, change?_of_ok happly]
    cases op with
    -- the operations on comments
    | postComment now author channelId postId referId d =>
      have hnew := happly
      obtain ⟨post, hpost, -, rfl⟩ := postComment_ok happly
      have hnamed : s.namedComment (.postComment now author channelId postId referId d) =
          some ((channelId, postId, post.nextCommentId), .create { author, referId } d) := by
        simp only [Operation.apply, postComment, hpost] at hnew
        simp only [namedComment, postComment, hpost]
        split at hnew
        · cases hnew
        · rename_i hrefer
          rw [if_neg hrefer]
          rfl
      rw [hnamed, foldl_named]
      exact commentMatter_push
        (d.comment now author channelId postId post.nextCommentId referId)
        (hs.fresh_comment hpost) key
    | editComment now userId channelId postId commentId d =>
      obtain ⟨c, -, -, -, rfl⟩ := editComment_ok happly
      rw [namedComment, foldl_named, Matter.after]
      refine commentMatter_updateComment key ?_ ?_ <;> exact fun c => rfl
    | deleteComment now userId isOwner channelId postId commentId =>
      obtain ⟨c, -, -, -, rfl⟩ := deleteComment_ok happly
      rw [namedComment, foldl_named, Matter.after]
      refine commentMatter_updateComment key ?_ ?_ <;> exact fun c => rfl
    | setBlocked now channelId postId commentId blocked =>
      obtain ⟨c, -, -, rfl⟩ := setBlocked_ok happly
      rw [namedComment, foldl_named]
      cases blocked with
      | true => refine commentMatter_updateComment key ?_ ?_ <;> exact fun c => rfl
      | false => refine commentMatter_updateComment key ?_ ?_ <;> exact fun c => rfl
    -- a like moves the counter of a comment
    | like now userId channelId postId commentId =>
      obtain ⟨-, -, row, -, rfl⟩ := like_ok happly
      exact commentMatter_updateLikes _ key
    | unlike userId channelId postId commentId =>
      obtain ⟨-, -, rfl⟩ := unlike_ok happly
      exact commentMatter_updateLikes _ key
    -- the others leave the comments alone
    | upsertUser u =>
      obtain rfl := Except.ok.inj happly
      have hcomments := (sameRows_upsertUser s u).comments
      simp only [commentMatter, comment?, hcomments]
      rfl
    | createChannel now d =>
      obtain ⟨-, rfl⟩ := createChannel_ok happly
      rfl
    | publishPost now channelId d =>
      obtain ⟨channel, -, rfl⟩ := publishPost_ok happly
      rfl
    | editPost now channelId postId d =>
      obtain ⟨p, -, -, rfl⟩ := editPost_ok happly
      rfl
    | deletePost now channelId postId =>
      obtain ⟨p, -, -, rfl⟩ := deletePost_ok happly
      rfl
    | subscribe now userId channelId =>
      obtain ⟨-, -, row, -, rfl⟩ := subscribe_ok happly
      rfl
    | unsubscribe userId channelId =>
      obtain ⟨-, -, rfl⟩ := unsubscribe_ok happly
      rfl

end Numbered

/-! ## What stays as it is -/

section Sealed

variable {s : Store}

/-- Every operation that names the row is refused. -/
def Sealed {κ α : Type} (named : Store → Operation → Option (κ × Change α)) (key : κ)
    (s : Store) : Prop :=
  ∀ op ch, named s op = some (key, ch) → ∃ e, op.apply s = .error e

/-- An operation does nothing to a row that is sealed. -/
theorem Sealed.change?_eq_none {κ α : Type} [DecidableEq κ]
    {named : Store → Operation → Option (κ × Change α)} {key : κ} (h : Sealed named key s)
    (op : Operation) : change? named key s op = none := by
  cases hchange : change? named key s op with
  | none => rfl
  | some ch =>
    obtain ⟨s', hok, hnamed⟩ := ok_of_change? hchange
    obtain ⟨e, herror⟩ := h op ch hnamed
    rw [hok] at herror
    cases herror

/-- Nothing can be done to a deleted post. -/
theorem Numbered.sealed_post (hs : s.Numbered) {key : Nat × Nat} {m : Matter Unit}
    (hm : s.postMatter key = some m) (hdeleted : m.status = .deleted) :
    Sealed namedPost key s := by
  obtain ⟨p, hp, rfl⟩ := Option.map_eq_some_iff.1 hm
  intro op ch hnamed
  cases happly : op.apply s with
  | error e => exact ⟨e, rfl⟩
  | ok s' =>
    exfalso
    cases op with
    | publishPost now channelId d =>
      -- a new post gets a key of its own
      obtain ⟨channel, hchannel, -⟩ := publishPost_ok happly
      simp only [namedPost, publishPost, hchannel] at hnamed
      obtain ⟨rfl, -⟩ := Prod.mk.inj (Option.some.inj hnamed)
      exact hs.fresh_post hchannel (post?_isSome_iff.1 (Option.isSome_of_mem hp))
    | editPost now channelId postId d =>
      obtain ⟨rfl, -⟩ := Prod.mk.inj (Option.some.inj hnamed)
      obtain ⟨q, hq, hstatus, -⟩ := editPost_ok happly
      obtain rfl : p = q := Option.some.inj (hp.symm.trans hq)
      exact hstatus hdeleted
    | deletePost now channelId postId =>
      obtain ⟨rfl, -⟩ := Prod.mk.inj (Option.some.inj hnamed)
      obtain ⟨q, hq, hstatus, -⟩ := deletePost_ok happly
      obtain rfl : p = q := Option.some.inj (hp.symm.trans hq)
      exact hstatus hdeleted
    -- the others name no post
    | _ => cases hnamed

/-- A row that is served is neither deleted nor blocked. -/
theorem ne_of_isReadable {status : Status} (h : status.isReadable = true) :
    status ≠ .deleted ∧ status ≠ .blocked := by
  cases status with
  | available => decide
  | deleted => cases h
  | edited => decide
  | blocked => cases h

/-- What can be done to a comment depends on its status: nothing to a deleted one, and no more than
a deletion or an unblock to a blocked one. -/
theorem Numbered.status_of_named (hs : s.Numbered) {key : Nat × Nat × Nat} {m : Matter Authorship}
    (hm : s.commentMatter key = some m) {op : Operation} {s' : Store} {ch : Change Authorship}
    (happly : op.apply s = .ok s') (hnamed : s.namedComment op = some (key, ch)) :
    m.status ≠ .deleted ∧ (m.status = .blocked → ch = .delete ∨ ch = .unblock) := by
  obtain ⟨c, hc, rfl⟩ := Option.map_eq_some_iff.1 hm
  cases op with
  | postComment now author channelId postId referId d =>
    -- a new comment gets a key of its own
    obtain ⟨post, hpost, -⟩ := postComment_ok happly
    exfalso
    simp only [namedComment, postComment, hpost] at hnamed
    split at hnamed
    · cases hnamed
    · obtain ⟨rfl, -⟩ := Prod.mk.inj (Option.some.inj hnamed)
      exact hs.fresh_comment hpost (comment?_isSome_iff.1 (Option.isSome_of_mem hc))
  | editComment now userId channelId postId commentId d =>
    obtain ⟨rfl, -⟩ := Prod.mk.inj (Option.some.inj hnamed)
    obtain ⟨x, hx, -, hreadable, -⟩ := editComment_ok happly
    obtain rfl : c = x := Option.some.inj (hc.symm.trans hx)
    obtain ⟨hdeleted, hblocked⟩ := ne_of_isReadable hreadable
    exact ⟨hdeleted, fun h => absurd h hblocked⟩
  | deleteComment now userId isOwner channelId postId commentId =>
    obtain ⟨rfl, rfl⟩ := Prod.mk.inj (Option.some.inj hnamed)
    obtain ⟨x, hx, -, hstatus, -⟩ := deleteComment_ok happly
    obtain rfl : c = x := Option.some.inj (hc.symm.trans hx)
    exact ⟨hstatus, fun _ => .inl rfl⟩
  | setBlocked now channelId postId commentId blocked =>
    obtain ⟨rfl, rfl⟩ := Prod.mk.inj (Option.some.inj hnamed)
    obtain ⟨x, hx, hstatus, -⟩ := setBlocked_ok happly
    obtain rfl : c = x := Option.some.inj (hc.symm.trans hx)
    cases blocked with
    | true =>
      obtain ⟨hdeleted, hblocked⟩ := ne_of_isReadable hstatus
      exact ⟨hdeleted, fun h => absurd h hblocked⟩
    | false =>
      have hblocked : c.status = .blocked := hstatus
      refine ⟨?_, fun _ => .inr rfl⟩
      show c.status ≠ .deleted
      rw [hblocked]
      decide
  | _ => cases hnamed

/-- Nothing can be done to a deleted comment. -/
theorem Numbered.sealed_comment (hs : s.Numbered) {key : Nat × Nat × Nat} {m : Matter Authorship}
    (hm : s.commentMatter key = some m) (hdeleted : m.status = .deleted) :
    Sealed namedComment key s := by
  intro op ch hnamed
  cases happly : op.apply s with
  | error e => exact ⟨e, rfl⟩
  | ok s' => exact absurd hdeleted (hs.status_of_named hm happly hnamed).1

end Sealed

/-! ## Deleted rows are empty -/

section Swept

/-- No operation blocks a post. -/
theorem namedPost_ne_block {s : Store} {op : Operation} {key : Nat × Nat} {ch : Change Unit}
    (h : s.namedPost op = some (key, ch)) : ch ≠ .block := by
  rintro rfl
  cases op with
  | publishPost now channelId d =>
    obtain ⟨⟨p, s'⟩, -, hnamed⟩ := Option.map_eq_some_iff.1 h
    cases hnamed
  | editPost _ _ _ _ | deletePost _ _ _ => cases h
  | _ => cases h

/-- Deleted rows have no content, and no post is blocked. -/
structure Swept (s : Store) : Prop where
  posts : ∀ key m, s.postMatter key = some m → m.status ≠ .blocked ∧ m.Swept
  comments : ∀ key m, s.commentMatter key = some m → m.Swept

/-- An empty store has nothing to sweep. -/
theorem swept_empty : empty.Swept where
  posts key m hm := by cases hm
  comments key m hm := by cases hm

/-- Every operation leaves deleted rows without content, and no post blocked. -/
theorem Swept.step {s : Store} (h : s.Swept) (hs : s.Numbered) (op : Operation) :
    (s.step op).Swept where
  posts key m hm := by
    rw [hs.postMatter_step] at hm
    cases hchange : change? namedPost key s op with
    -- the post was as it is
    | none =>
      rw [hchange] at hm
      exact h.posts key m hm
    -- the operation made it what it is
    | some ch =>
      rw [hchange] at hm
      obtain ⟨s', -, hnamed⟩ := ok_of_change? hchange
      exact ⟨Matter.not_blocked_of_after (namedPost_ne_block hnamed) hm,
        Matter.swept_of_after hm⟩
  comments key m hm := by
    rw [hs.commentMatter_step] at hm
    cases hchange : change? namedComment key s op with
    | none =>
      rw [hchange] at hm
      exact h.comments key m hm
    | some ch =>
      rw [hchange] at hm
      exact Matter.swept_of_after hm

/-- So does every operation that succeeds. -/
theorem Swept.apply {s s' : Store} (h : s.Swept) (hs : s.Numbered) {op : Operation}
    (happly : op.apply s = .ok s') : s'.Swept :=
  step_of_ok happly ▸ h.step hs op

/-- What is said of deleted rows depends on the tables only. -/
theorem Swept.sameRows {s s' : Store} (h : s.Swept) (hsame : s.SameRows s') : s'.Swept where
  posts key := by
    simp only [postMatter, post?, hsame.posts]
    exact h.posts key
  comments key := by
    simp only [commentMatter, comment?, hsame.comments]
    exact h.comments key

/-- After any operations deleted rows have no content. -/
theorem swept_after (ops : List Operation) :
    (empty.after ops).Numbered ∧ (empty.after ops).Swept := by
  refine after_keeps (P := fun s => s.Numbered ∧ s.Swept) ⟨numbered_empty, swept_empty⟩ ops ?_
  intro s s' op ⟨hs, hclean⟩ h
  exact ⟨hs.apply h, hclean.apply hs h⟩

end Swept

/-! ## Runs -/

section Runs

variable {κ α : Type} [DecidableEq κ] {named : Store → Operation → Option (κ × Change α)} {key : κ}
  {matter : Store → Option (Matter α)} {s : Store}

/-- What each operation makes of the matter of a row, a run makes of it. -/
theorem Numbered.matter_after (matter : Store → Option (Matter α))
    (hstep : ∀ s : Store, s.Numbered → ∀ op,
      matter (s.step op) = (change? named key s op).toList.foldl Matter.after (matter s))
    (hs : s.Numbered) (ops : List Operation) :
    matter (s.after ops) = (changes named key s ops).foldl Matter.after (matter s) := by
  induction ops generalizing s with
  | nil => rfl
  | cons op ops ih =>
    rw [changes, List.foldl_append, ← hstep s hs op]
    exact ih (hs.step op)

/-- What is said of the life of a row, from when there was none under its key. -/
structure Lives (named : Store → Operation → Option (κ × Change α)) (key : κ)
    (matter : Store → Option (Matter α)) (ops : List Operation) : Prop where
  /-- The row is what the operations that name it made of it. -/
  made : matter (empty.after ops) = (changes named key empty ops).foldl Matter.after none
  /-- A deleted row is empty. It stays as it is, and every operation that names it is refused. -/
  final : ∀ m, matter (empty.after ops) = some m → m.status = .deleted →
    m.payload.content = [] ∧ m.payload.thumbnails = [] ∧
      ∀ ops', Sealed named key (empty.after (ops ++ ops')) ∧
        matter (empty.after (ops ++ ops')) = some m

/-- The life of a row follows from what each operation makes of it. -/
theorem lives_of_step
    (hstep : ∀ s : Store, s.Numbered → ∀ op,
      matter (s.step op) = (change? named key s op).toList.foldl Matter.after (matter s))
    (hsealed : ∀ s : Store, s.Numbered → ∀ m, matter s = some m → m.status = .deleted →
      Sealed named key s)
    (hswept : ∀ s : Store, s.Swept → ∀ m, matter s = some m → m.Swept)
    (hempty : matter empty = none) (ops : List Operation) : Lives named key matter ops where
  made := by
    rw [numbered_empty.matter_after matter hstep, hempty]
  final m hm hdeleted := by
    obtain ⟨hs, hclean⟩ := swept_after ops
    obtain ⟨hcontent, hthumbnails⟩ := hswept _ hclean m hm hdeleted
    refine ⟨hcontent, hthumbnails, fun ops' => ?_⟩
    rw [after_append_list]
    -- the two go together: as long as the row is deleted, no operation changes it
    have hstays : (empty.after ops |>.after ops').Numbered ∧
        matter (empty.after ops |>.after ops') = some m := by
      -- the row is deleted still, so that the next operation does not change it either
      refine after_keeps (P := fun s => s.Numbered ∧ matter s = some m) ⟨hs, hm⟩ ops' ?_
      intro s s' op ⟨hs, hm⟩ h
      refine ⟨hs.apply h, ?_⟩
      rw [← step_of_ok h, hstep s hs op, (hsealed s hs m hm hdeleted).change?_eq_none op]
      exact hm
    exact ⟨hsealed _ hstays.1 m hstays.2 hdeleted, hstays.2⟩

/-- A blocked comment is changed by nothing but a deletion and an unblock. -/
theorem Numbered.changes_blocked {key : Nat × Nat × Nat} {m : Matter Authorship}
    (hs : s.Numbered) (hm : s.commentMatter key = some m) (hblocked : m.status = .blocked)
    {ops : List Operation} (hdelete : .delete ∉ changes namedComment key s ops)
    (hunblock : .unblock ∉ changes namedComment key s ops) :
    changes namedComment key s ops = [] := by
  induction ops generalizing s with
  | nil => rfl
  | cons op ops ih =>
    rw [changes] at hdelete hunblock ⊢
    have hnone : change? namedComment key s op = none := by
      cases hchange : change? namedComment key s op with
      | none => rfl
      -- what is done to a blocked comment is a deletion or an unblock, and neither is among the
      -- changes
      | some ch =>
        exfalso
        obtain ⟨s', happly, hnamed⟩ := ok_of_change? hchange
        rw [hchange] at hdelete hunblock
        rcases (hs.status_of_named hm happly hnamed).2 hblocked with rfl | rfl
        · exact hdelete List.mem_cons_self
        · exact hunblock List.mem_cons_self
    have hstep := hs.commentMatter_step op key
    rw [hnone] at hdelete hunblock hstep ⊢
    exact ih (hs.step op) (hstep.trans hm) hdelete hunblock

/-- Every post and every comment is what the operations that name it made of it, and a deletion is
final. No post is blocked. A comment that was blocked has its payload back once it is unblocked,
unless it was deleted. -/
theorem lives_by_changes (ops : List Operation) :
    (∀ key, Lives namedPost key (fun s => s.postMatter key) ops) ∧
      (∀ key, Lives namedComment key (fun s => s.commentMatter key) ops) ∧
      (∀ key m, (empty.after ops).postMatter key = some m → m.status ≠ .blocked) ∧
      ∀ key m, (empty.after ops).commentMatter key = some m → m.status = .blocked →
        ∀ ops' op, .delete ∉ changes namedComment key (empty.after ops) ops' →
          .unblock ∉ changes namedComment key (empty.after ops) ops' →
          change? namedComment key (empty.after (ops ++ ops')) op = some .unblock →
          (empty.after (ops ++ ops' ++ [op])).commentMatter key =
            some { m with status := .available } := by
  refine ⟨fun key => ?_, fun key => ?_, fun key m hm => ?_, ?_⟩
  · -- posts
    refine lives_of_step (fun s hs op => ?_) (fun s hs m hm hdeleted => ?_)
      (fun s hclean m hm => ?_) ?_ ops
    · exact hs.postMatter_step op key
    · exact hs.sealed_post hm hdeleted
    · exact (hclean.posts key m hm).2
    · rfl
  · -- comments
    refine lives_of_step (fun s hs op => ?_) (fun s hs m hm hdeleted => ?_)
      (fun s hclean m hm => ?_) ?_ ops
    · exact hs.commentMatter_step op key
    · exact hs.sealed_comment hm hdeleted
    · exact hclean.comments key m hm
    · rfl
  · -- no post is blocked
    exact ((swept_after ops).2.posts key m hm).1
  · intro key m hm hblocked ops' op hdelete hunblock hchange
    have hs := numbered_empty.after ops
    -- from the block to the unblock nothing happens to the comment
    have hsame : (empty.after (ops ++ ops')).commentMatter key = some m := by
      have hmade := hs.matter_after (fun s => s.commentMatter key)
        (fun s hs op => hs.commentMatter_step op key) ops'
      rw [after_append_list, hmade, hs.changes_blocked hm hblocked hdelete hunblock, hm]
      rfl
    rw [after_append, (numbered_empty.after (ops ++ ops')).commentMatter_step, hchange, hsame]
    rfl

/-- A blocked comment takes no edit, and comes back as it was. -/
example (text : Draft) :
    (empty.after
      [.createChannel 1 ⟨"notes", "", [], "", ""⟩, .publishPost 2 1 text,
        .postComment 3 7 1 1 0 text, .setBlocked 4 1 1 1 true,
        .editComment 5 7 1 1 1 ⟨[], [], "", ""⟩,
        .setBlocked 6 1 1 1 false]).commentMatter (1, 1, 1) =
      some { source := ⟨7, 0⟩, status := .available, payload := text.stored } := by
  rfl

end Runs

end Store

end FeedNode.Feed
