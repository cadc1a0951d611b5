import FeedNode.Feed.Store.Listing
import FeedNode.Proofs.Feed.Lifecycle

/-!
# What is withheld

A row whose content is not served is shown to nobody but for the place that it keeps. `masked` is
the row as everyone may see it. Two stores show the same if their rows are the same once they are
masked.

The listings find, order and cut rows by columns that masking leaves alone, so they commute with it
(`listComments_map`). No post is blocked and deleted rows are empty, so of posts nothing is masked
at all (`Swept.masked_posts`), and of comments only the blocked ones are.
-/

namespace FeedNode.Feed

/-- The post as everyone may see it. -/
def Post.masked (p : Post) : Post :=
  if p.status.isReadable then p else { p with content := [], thumbnails := [] }

/-- The comment as everyone may see it. -/
def Comment.masked (c : Comment) : Comment :=
  if c.status.isReadable then c else { c with content := [], thumbnails := [] }

/-- The comment with the content that is served, and with its thumbnails. -/
def Comment.withServedContent (c : Comment) : Comment :=
  { c with content := c.servedContent }

namespace Store

/-- Two stores that differ in nothing but content and thumbnails of rows that are deleted or
blocked. -/
structure SameShown (s s' : Store) : Prop where
  users : s'.users = s.users
  channels : s'.channels = s.channels
  posts : s'.posts.map Post.masked = s.posts.map Post.masked
  comments : s'.comments.map Comment.masked = s.comments.map Comment.masked
  likes : s'.likes = s.likes
  subscriptions : s'.subscriptions = s.subscriptions

/-! ## Listings of changed rows -/

section Listings

variable {α : Type} {f : α → α}

/-- Criteria select changed rows as they select the rows, if the change keeps what they sort by. -/
theorem select_map {keys : α → SortKeys} (hkeys : ∀ a, keys (f a) = keys a) (c : Criteria)
    (rows : List α) : c.select keys (rows.map f) = (c.select keys rows).map f := by
  have hcut : ∀ l : List α, c.cut (l.map f) = (c.cut l).map f := by
    intro l
    rw [Criteria.cut, Criteria.cut]
    split
    · -- without a limit all rows stay
      rfl
    · exact List.map_take.symm
  have hfilter : ((fun r => c.within (c.key (keys r))) ∘ f) = fun r => c.within (c.key (keys r)) :=
    funext fun a => by simp only [Function.comp, hkeys]
  simp only [Criteria.select]
  rw [List.filter_map, hfilter, ← hcut]
  congr 1
  refine (List.map_mergeSort fun a _ b _ => ?_).symm
  rw [hkeys, hkeys]

/-- Sorting by a pair of columns that a change keeps commutes with the change. -/
theorem sortByPair_map {pair : α → Nat × Nat} (hpair : ∀ a, pair (f a) = pair a) (rows : List α) :
    sortByPair pair (rows.map f) = (sortByPair pair rows).map f := by
  rw [sortByPair, sortByPair]
  refine (List.map_mergeSort fun a _ b _ => ?_).symm
  rw [hpair, hpair]

/-- The order of a listing before its criteria depends on columns that the change keeps. -/
theorem baseOrder_map {channel post number : α → Nat} (hchannel : ∀ a, channel (f a) = channel a)
    (hpost : ∀ a, post (f a) = post a) (hnumber : ∀ a, number (f a) = number a)
    (channelId postId : Nat) (c : Criteria) (rows : List α) :
    baseOrder channel post number channelId postId c (rows.map f) =
      (baseOrder channel post number channelId postId c rows).map f := by
  rw [baseOrder, baseOrder]
  split
  · exact sortByPair_map (fun a => by rw [hpost, hnumber]) rows
  · split
    · exact sortByPair_map (fun a => by rw [hchannel]) rows
    · rfl

end Listings

/-! ## Listings of comments -/

/-- The two comments stand at the same place in every listing, under the same author. -/
structure SamePlace (c d : Comment) : Prop where
  channelId : d.channelId = c.channelId
  postId : d.postId = c.postId
  author : d.author = c.author
  sortKeys : d.sortKeys = c.sortKeys

/-- A masked comment keeps its place in the listings. -/
theorem samePlace_masked (c : Comment) : SamePlace c c.masked := by
  rw [Comment.masked]
  split <;> exact ⟨rfl, rfl, rfl, rfl⟩

/-- A comment with the content that is served keeps its place in the listings. -/
theorem samePlace_withServedContent (c : Comment) : SamePlace c c.withServedContent :=
  ⟨rfl, rfl, rfl, rfl⟩

section Comments

variable {f : Comment → Comment} {s t : Store}

/-- A listing finds changed comments where it finds the comments. -/
theorem listComments_map (hf : ∀ c, SamePlace c (f c)) (s : Store) (channelId postId : Nat)
    (c : Criteria) :
    ({ s with comments := s.comments.map f } : Store).listComments channelId postId c =
      (s.listComments channelId postId c).map fun x => s.sign (f x.toComment) := by
  have hfilter :
      ((fun x : Comment => matchesId channelId x.channelId && matchesId postId x.postId) ∘ f) =
        fun x => matchesId channelId x.channelId && matchesId postId x.postId :=
    funext fun x => by simp only [Function.comp, (hf x).channelId, (hf x).postId]
  -- a comment is found and ordered by its key and its times only
  have hnumber : ∀ x, (f x).commentId = x.commentId := fun x => congrArg SortKeys.id (hf x).sortKeys
  simp only [listComments]
  rw [List.filter_map, hfilter,
    baseOrder_map (fun x => (hf x).channelId) (fun x => (hf x).postId) hnumber,
    select_map fun x => (hf x).sortKeys, List.map_map, List.map_map]
  rfl

/-- An entry that does not tell the comments of two stores apart gives the same listings of
both. -/
theorem map_listComments_eq {β : Type} {entry : SignedComment → β} (hf : ∀ c, SamePlace c (f c))
    (hentry : ∀ (s : Store) (c : Comment), entry (s.sign (f c)) = entry (s.sign c))
    (husers : t.users = s.users) (hcomments : t.comments.map f = s.comments.map f)
    (channelId postId : Nat) (c : Criteria) :
    (t.listComments channelId postId c).map entry =
      (s.listComments channelId postId c).map entry := by
  -- the entries do not see the change
  have hchanged : ∀ s : Store, (s.listComments channelId postId c).map entry =
      (({ s with comments := s.comments.map f } : Store).listComments channelId postId c).map
        entry := by
    intro s
    rw [listComments_map hf, List.map_map]
    simp only [listComments, List.map_map]
    exact List.map_congr_left fun x _ => (hentry s x).symm
  -- the listings read no more than the users and the comments
  have hsame : ({ t with comments := t.comments.map f } : Store).listComments channelId postId c =
      ({ s with comments := s.comments.map f } : Store).listComments channelId postId c := by
    -- who wrote a comment is looked up among the users
    have hsign : ∀ x, t.sign x = s.sign x := fun x => by simp only [sign, user?, husers]
    simp only [listComments, hcomments]
    exact List.map_congr_left fun x _ => hsign x
  rw [hchanged t, hchanged s, hsame]

/-- Comments that are the same once masked, and have the same thumbnails, are the same but for
content that is not served. -/
theorem map_withServedContent_eq (hcomments : t.comments.map Comment.masked =
      s.comments.map Comment.masked)
    (hthumbnails : t.comments.map Comment.thumbnails = s.comments.map Comment.thumbnails) :
    t.comments.map Comment.withServedContent = s.comments.map Comment.withServedContent := by
  -- what is served is made of the masked comment and the thumbnails
  have hparts : ∀ rows : List Comment, rows.map Comment.withServedContent =
      List.zipWith (fun c thumbnails => { c with thumbnails }) (rows.map Comment.masked)
        (rows.map Comment.thumbnails) := by
    intro rows
    rw [List.zipWith_map, List.zipWith_self]
    refine List.map_congr_left fun c _ => ?_
    rw [Comment.masked, Comment.withServedContent, Comment.servedContent]
    split <;> rfl
  rw [hparts, hparts, hcomments, hthumbnails]

end Comments

/-! ## Posts -/

section Posts

variable {s t : Store}

/-- A post is found under its key. -/
theorem Numbered.postMatter_of_mem (hs : s.Numbered) {p : Post} (hp : p ∈ s.posts) :
    s.postMatter p.key = some p.matter := by
  have hkey : p.key ∈ s.postKeys := List.mem_map_of_mem hp
  obtain ⟨q, hq⟩ := Option.isSome_iff_exists.1 (post?_isSome_iff.2 hkey)
  obtain ⟨hmem, hchannel, hpost⟩ := key_of_post? hq
  -- the post that is found is the only one under the key
  obtain rfl : q = p := hs.post_unique hmem hp hchannel hpost
  exact congrArg (Option.map Post.matter) hq

/-- Of posts nothing is withheld: none is blocked, and the deleted ones are empty. -/
theorem Swept.masked_posts (h : s.Swept) (hs : s.Numbered) :
    s.posts.map Post.masked = s.posts := by
  have hsame : ∀ p ∈ s.posts, p.masked = p := by
    intro p hp
    obtain ⟨hblocked, hswept⟩ := h.posts p.key p.matter (hs.postMatter_of_mem hp)
    -- a post is readable or deleted, since none is blocked
    have hcases : p.status.isReadable = true ∨ p.status = .deleted := by
      cases hstatus : p.status with
      | available | edited => exact .inl rfl
      | blocked => exact absurd hstatus hblocked
      | deleted => exact .inr rfl
    rcases hcases with hreadable | hdeleted
    · exact if_pos hreadable
    · -- a deleted post has nothing to withhold
      obtain ⟨hcontent, hthumbnails⟩ := hswept hdeleted
      have hcontent : p.content = [] := hcontent
      have hthumbnails : p.thumbnails = [] := hthumbnails
      have hhidden : ¬p.status.isReadable = true := by
        rw [hdeleted]
        decide
      calc p.masked
        _ = { p with content := [], thumbnails := [] } := if_neg hhidden
        _ = p := congrArg₂ (fun content thumbnails => { p with content, thumbnails })
          hcontent.symm hthumbnails.symm
  exact (List.map_congr_left hsame).trans (List.map_id s.posts)

end Posts

end Store

end FeedNode.Feed
