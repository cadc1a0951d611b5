import FeedNode.Proofs.Feed.Withheld
import FeedNode.Proofs.Node.Failures

/-!
# What readers are not shown

The four calls that read posts and comments are answered alike by two nodes that differ only in what
rows hold back, content and thumbnails of rows that are deleted or blocked, whoever asks and
whatever the criteria are. There is one exception: the comments of many channels, in the version
that has thumbnails, are listed with the thumbnails of blocked comments. There the answers are alike
if these thumbnails are (`hidden_not_sent`), and otherwise they need not be
(`hidden_thumbnails_sent`).

An answer is made of entries, and an entry is made of a row in the form that everyone may see
(`Rpc.PostCommentEntry.ofComment_masked` and its companions); the rest is that the listings do not
look further either.
-/

namespace FeedNode

/-! ## Entries -/

namespace Rpc

open Feed (Comment Store)

/-- A comment in the listing of a post shows what everyone may see. -/
theorem PostCommentEntry.ofComment_masked (s : Store) (c : Comment) :
    PostCommentEntry.ofComment (s.sign c.masked) = PostCommentEntry.ofComment (s.sign c) := by
  rw [Comment.masked]
  by_cases hreadable : c.status.isReadable = true
  · -- a readable comment is shown as it is
    rw [if_pos hreadable]
  · -- the others have no content to show
    rw [if_neg hreadable]
    simp [PostCommentEntry.ofComment, Store.sign, Comment.servedContent, hreadable]

/-- So does a comment in the listing of many channels, in a version without thumbnails. -/
theorem CommentEntry.ofComment_masked {v : Version} (hv : v.isExtended = false) (s : Store)
    (c : Comment) : ofComment v (s.sign c.masked) = ofComment v (s.sign c) := by
  rw [Comment.masked]
  by_cases hreadable : c.status.isReadable = true
  · rw [if_pos hreadable]
  · -- and thumbnails only in later versions
    rw [if_neg hreadable]
    simp [ofComment, Store.sign, Comment.servedContent, Version.extended, hv, hreadable]

/-- In any version it shows no content that is not served. -/
theorem CommentEntry.ofComment_withServedContent (v : Version) (s : Store) (c : Comment) :
    ofComment v (s.sign c.withServedContent) = ofComment v (s.sign c) := by
  -- what is served stays the same if it is served twice
  have hserved : c.withServedContent.servedContent = c.servedContent := by
    by_cases hreadable : c.status.isReadable = true
    · simp [Comment.servedContent, Comment.withServedContent, hreadable]
    · simp [Comment.servedContent, Comment.withServedContent, hreadable]
  simp only [ofComment, Store.sign, hserved]
  rfl

/-- The call reads posts or comments. -/
def Method.readsRows : Method → Bool
  | .getMultiComments | .getComments | .getPosts | .getLikedPosts => true
  | _ => false

end Rpc

namespace Node

open Delivery (Carrier Memory Peer)
open Feed (Comment Store)
open Rpc (Method Request)

/-! ## Answers -/

section Answers

variable {s : Services} {t : Store} {peer : Peer} {octets : Bytes}

/-- A call that reads is answered alike by two stores that show the same. -/
theorem handle_reads {c : Call} {m : Method} (args : m.Args) (hreads : m.readsRows = true)
    (hshown : s.store.SameShown t) (hposts : t.posts = s.store.posts)
    (hthumbnails : m = .getMultiComments → c.version.isExtended = true →
      t.comments.map Comment.thumbnails = s.store.comments.map Comment.thumbnails) :
    (handle { s with store := t } c m args).2 = (handle s c m args).2 := by
  cases m with
  | getMultiComments =>
    have hrows : ∀ channelId postId criteria,
        (t.listComments channelId postId criteria).map (.ofComment c.version) =
          (s.store.listComments channelId postId criteria).map
            (Rpc.CommentEntry.ofComment c.version) := by
      intro channelId postId criteria
      cases hversion : c.version.isExtended with
      -- without thumbnails the masked comments decide
      | false =>
        exact Store.map_listComments_eq Store.samePlace_masked
          (Rpc.CommentEntry.ofComment_masked hversion) hshown.users hshown.comments _ _ _
      -- with thumbnails, the served content and the thumbnails do
      | true =>
        exact Store.map_listComments_eq Store.samePlace_withServedContent
          (Rpc.CommentEntry.ofComment_withServedContent c.version) hshown.users
          (Store.map_withServedContent_eq hshown.comments (hthumbnails rfl hversion)) _ _ _
    show (Queries.comments { s with store := t } c args).2 = (Queries.comments s c args).2
    rw [Queries.comments, Queries.comments]
    split
    · rfl
    · rw [hrows]
      rfl
  | getComments =>
    have hrows : ∀ channelId postId criteria,
        (t.listComments channelId postId criteria).map .ofComment =
          (s.store.listComments channelId postId criteria).map Rpc.PostCommentEntry.ofComment :=
      Store.map_listComments_eq Store.samePlace_masked Rpc.PostCommentEntry.ofComment_masked
        hshown.users hshown.comments
    show (Feeds.comments { s with store := t } c args).2 = (Feeds.comments s c args).2
    rw [Feeds.comments, Feeds.comments]
    split
    · rfl
    · rw [hrows]
      rfl
  -- of posts everything is the same
  | getPosts =>
    have hrows : t.listPosts = s.store.listPosts := by
      funext channelId criteria
      rw [Store.listPosts, Store.listPosts, hposts]
    show (Feeds.posts { s with store := t } c args).2 = (Feeds.posts s c args).2
    rw [Feeds.posts, Feeds.posts, hrows, Feeds.withCriteria, Feeds.withCriteria]
    split <;> rfl
  | getLikedPosts =>
    have hrows : t.listLiked = s.store.listLiked := by
      funext userId criteria
      rw [Store.listLiked, Store.listLiked, hposts, hshown.likes]
    show (Feeds.likedPosts { s with store := t } c args).2 = (Feeds.likedPosts s c args).2
    rw [Feeds.likedPosts, Feeds.likedPosts, hrows, Services.asMember, Services.asMember]
    split
    · rfl
    · rw [Feeds.withCriteria, Feeds.withCriteria]
      split <;> rfl
  | _ => cases hreads

/-- What goes out depends on what the handler gives out, not on the services that it leaves. -/
theorem respond_reads
    (hhandle : ∀ d m args caller, decodeAny octets = .ok d → d.request.params = .call m args →
      (handle { s with store := t } { peer, caller, request := d.request } m args).2 =
        (handle s { peer, caller, request := d.request } m args).2) :
    (respond { s with store := t } peer octets).2 = (respond s peer octets).2 := by
  cases hd : decodeAny octets with
  | error e =>
    -- octets that are no request
    simp only [respond, hd]
    split <;> rfl
  | ok d =>
    -- the routing reads the resolver, which is the same
    have hserve : (serve { s with store := t } peer d.request).2 = (serve s peer d.request).2 := by
      cases hroute : route listeners (fun f m => m.family == f) s.resolver d.request with
      | error code => simp only [serve, hroute, Services.fail]
      | ok routed =>
        cases hparams : d.request.params with
        | call m args =>
          simp only [serve, hroute, hparams]
          exact hhandle d m args routed.2 hd hparams
        | unknown => simp only [serve, hroute, hparams, Services.fail]
    simp only [respond, hd]
    -- what is served is the same, and so is what goes out for it
    generalize serve { s with store := t } peer d.request = served' at hserve
    generalize serve s peer d.request = served at hserve
    obtain ⟨s₁', out'⟩ := served'
    obtain ⟨s₁, out⟩ := served
    obtain rfl : out' = out := hserve
    cases d.status with
    | unknownMethod => rfl
    | unsupportedVersion => rfl
    | processed =>
      by_cases hid : d.request.id = 0
      · simp only [hid, if_true]
      · simp only [hid, if_false]
        cases out' <;> rfl

/-- The message asks for comments of many channels, in a version that shows thumbnails. -/
def asksThumbnails (octets : Bytes) : Bool :=
  (decodeAny octets).toOption.any fun d =>
    d.request.params.method? == some .getMultiComments && d.request.version.isExtended

end Answers

/-! ## Nodes -/

variable {σ : Type} [Carrier σ] {n n' : Node σ}

/-- In every reachable node deleted rows are empty, and no post is blocked. -/
theorem Reachable.swept (hn : n.Reachable) : n.services.store.Swept := by
  induction hn with
  | start h =>
    rw [h]
    exact Store.swept_empty
  | @receive n hn peer octets ih =>
    have htouches := respond_touches n.services peer octets
    rcases htouches.store with hsame | ⟨u, s₀, op, -, hsame, -, happly⟩
    · -- only users were recorded
      exact ih.sameRows hsame
    · -- one operation on the feeds
      exact (ih.sameRows hsame).apply (hn.numbered.sameRows hsame) happly
  | elsewhere hn h ih =>
    rw [h]
    exact ih

/-- Two nodes that differ in nothing but content and thumbnails of rows that are deleted or
blocked. -/
structure SameShown (n n' : Node σ) : Prop where
  delivery : n'.delivery = n.delivery
  services : n'.services = { n.services with store := n'.services.store }
  store : n.services.store.SameShown n'.services.store

/-- What a deleted or blocked row holds back has no part in what is sent to those who read posts or
comments; but for the thumbnails of comments, where a message asks for these. -/
theorem hidden_not_sent (hn : n.Reachable) (hn' : n'.Reachable) (hshown : n.SameShown n')
    (peer : Peer) {octets : Bytes} {m : Method} (hm : method? octets = some m)
    (hreads : m.readsRows = true)
    (hthumbnails : asksThumbnails octets = true →
      n'.services.store.comments.map Comment.thumbnails =
        n.services.store.comments.map Comment.thumbnails) :
    (respond n'.services peer octets).2 = (respond n.services peer octets).2 ∧
      (n'.receive peer octets).delivery = (n.receive peer octets).delivery := by
  -- posts hold nothing back, so they are the same
  have hposts : n'.services.store.posts = n.services.store.posts := by
    rw [← hn.swept.masked_posts hn.numbered, ← hn'.swept.masked_posts hn'.numbered]
    exact hshown.store.posts
  have hout : (respond n'.services peer octets).2 = (respond n.services peer octets).2 := by
    rw [hshown.services]
    refine respond_reads fun d m' args caller hd hparams => ?_
    -- the method that is asked for is the one that is handled
    have hmethod : d.request.params.method? = some m' := by
      rw [hparams]
      rfl
    have hsame : method? octets = some m' := by
      rw [method?, hd]
      exact hmethod
    obtain rfl : m = m' := Option.some.inj (hm.symm.trans hsame)
    -- thumbnails count only where they are asked for
    refine handle_reads args hreads hshown.store hposts fun hmulti hversion => hthumbnails ?_
    rw [asksThumbnails, hd]
    simp [Except.toOption, hmethod, hmulti, show d.request.version.isExtended = true from hversion]
  refine ⟨hout, ?_⟩
  -- the same outputs are sent over the same queues
  rw [receive, receive, hshown.delivery]
  exact congrArg (fun out => out.foldl (send peer) n.delivery) hout

/-- The node with one comment, which the owner has blocked. -/
def blockedRun (content thumbnails : Bytes) : Node Memory :=
  let publish : Request := .make .v2 2 (.call .publishPost
    { token := "o", channelId := 1, content := [1], thumbnails := [], hashId := "", proof := "" })
  let comment : Request := .make .v2 3 (.call .postComment
    { token := "m", channelId := 1, postId := 1, referId := 0, content, thumbnails, hashId := ""
      proof := "" })
  let block : Request := .make .v2 4 (.call .blockComment
    { token := "o", channelId := 1, postId := 1, commentId := 1 })
  ((sampleNode.receive "owner" publish.encode).receive "member" comment.encode).receive "owner"
    block.encode

/-- The node with other feeds. -/
def withStore (n : Node σ) (store : Store) : Node σ :=
  { n with services := { n.services with store } }

omit [Carrier σ] in
/-- Nodes with stores that show the same show the same. -/
theorem SameShown.withStore {s t : Store} (h : s.SameShown t) (n : Node σ) :
    (n.withStore s).SameShown (n.withStore t) :=
  ⟨rfl, rfl, h⟩

/-- A node with the feeds of such a run and nothing sent for them. -/
def blockedNode (content thumbnails : Bytes) : Node Memory :=
  sampleNode.withStore (blockedRun content thumbnails).services.store

/-- The node with a blocked comment is reachable. -/
theorem reachable_blockedNode (content thumbnails : Bytes) :
    (blockedNode content thumbnails).Reachable := by
  have hsample : sampleNode.Reachable := .receive (n := sampleStart) (.start rfl) _ _
  have hrun : (blockedRun content thumbnails).Reachable := by
    dsimp only [blockedRun]
    exact ((hsample.receive _ _).receive _ _).receive _ _
  refine hrun.elsewhere ?_
  rw [blockedNode, withStore]

/-- A member asks for all comments. -/
def askForComments (v : Rpc.Version) : Bytes :=
  (Request.make v 9 (.call .getMultiComments
    { token := "m", channelId := 0, postId := 0, by_ := 0, upper := 0, lower := 0
      maxCount := 0 })).encode

/-- What differs in the content of a blocked comment is not sent. -/
theorem hidden_not_sent_blocked :
    let n := blockedNode [1] [7]
    let n' := blockedNode [2, 3] [7]
    n'.services.store.comments ≠ n.services.store.comments ∧
      (n.receive "member" (askForComments .v2)).delivery.carrier.countSent "member" = 1 ∧
      (n'.receive "member" (askForComments .v2)).delivery =
        (n.receive "member" (askForComments .v2)).delivery := by
  intro n n'
  have hshown : n.SameShown n' := .withStore
    ⟨by decide +kernel, by decide +kernel, by decide +kernel, by decide +kernel, by decide +kernel,
      by decide +kernel⟩ sampleNode
  exact ⟨by decide +kernel, by decide +kernel,
    (hidden_not_sent (reachable_blockedNode _ _) (reachable_blockedNode _ _) hshown "member"
      (m := .getMultiComments) (by decide +kernel) rfl fun _ => by decide +kernel).2⟩

/-- What differs in the thumbnails of a blocked comment is sent to those who ask for them. -/
theorem hidden_thumbnails_sent :
    ∃ n n' : Node Memory, n.Reachable ∧ n'.Reachable ∧ n.SameShown n' ∧
      method? (askForComments .v2) = some .getMultiComments ∧
      (n'.receive "member" (askForComments .v2)).delivery ≠
        (n.receive "member" (askForComments .v2)).delivery := by
  refine ⟨blockedNode [1] [7], blockedNode [1] [8], reachable_blockedNode _ _,
    reachable_blockedNode _ _, ?_, by decide +kernel, fun hsame => ?_⟩
  · -- the two differ in the thumbnails of the blocked comment only
    exact .withStore ⟨by decide +kernel, by decide +kernel, by decide +kernel, by decide +kernel,
      by decide +kernel, by decide +kernel⟩ sampleNode
  · -- what was sent to the member differs
    have hsent := congrArg (fun d => d.carrier.sent) hsame
    exact absurd hsent (by decide +kernel)

end Node

end FeedNode
