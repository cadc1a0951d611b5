import FeedNode.Proofs.Feed.Counters
import FeedNode.Proofs.Feed.Subscriptions

/-!
# Marks of several users

A user marks a channel by a subscription, and a post or a comment by a like. Whether a mark can be
set or taken back depends on what there is to mark and on the user's own marks, so users who only
set and take back marks do not see each other: in whatever order their operations come, each has the
verdict that it would have had otherwise, and the marks at the end are the same. The counters are
the same because they count the marks.

Main statements: `Interleaves.agree` and `Store.interleaved_marks`.
-/

namespace FeedNode.Feed

/-! ## Marks -/

/-- What a user can mark: a channel by a subscription; a post, under the number zero, or a comment
by a like. -/
inductive Markable where
  | channel (channelId : Nat)
  | entry (channelId postId commentId : Nat)
deriving DecidableEq

/-- A mark that is set or taken back. -/
structure Marking where
  userId : Nat
  target : Markable
  isSet : Bool

namespace Operation

/-- The mark that an operation sets or takes back. That is all of it but the time. -/
def marking? : Operation → Option Marking
  | .subscribe _ userId channelId => some ⟨userId, .channel channelId, true⟩
  | .unsubscribe userId channelId => some ⟨userId, .channel channelId, false⟩
  | .like _ userId channelId postId commentId =>
    some ⟨userId, .entry channelId postId commentId, true⟩
  | .unlike userId channelId postId commentId =>
    some ⟨userId, .entry channelId postId commentId, false⟩
  | _ => none

/-- The user whose mark an operation sets or takes back. -/
def marker? (op : Operation) : Option Nat :=
  op.marking?.map Marking.userId

/-- Who marks something does so by a marking of its own. -/
theorem marker?_eq_some {op : Operation} {userId : Nat} (h : op.marker? = some userId) :
    ∃ m, op.marking? = some m ∧ m.userId = userId :=
  Option.map_eq_some_iff.1 h

/-- The markings of one user are not those of another. -/
theorem marking?_of_ne {ops : List Operation} {userId w : Nat} (hw : w ≠ userId)
    (hops : ∀ op ∈ ops, op.marker? = some userId) :
    ∀ op ∈ ops, ∃ m, op.marking? = some m ∧ m.userId ≠ w := by
  intro op hop
  obtain ⟨m, hm, huser⟩ := marker?_eq_some (hops op hop)
  exact ⟨m, hm, huser ▸ hw.symm⟩

end Operation

namespace Store

/-- What is to be marked exists. -/
def offers (s : Store) : Markable → Bool
  | .channel channelId => (s.channel? channelId).isSome
  | .entry channelId postId commentId => s.hasTarget channelId postId commentId

/-- The user's mark is there. -/
def marked (s : Store) (userId : Nat) : Markable → Bool
  | .channel channelId => s.isSubscribed userId channelId
  | .entry channelId postId commentId => s.isLiked userId channelId postId commentId

/-- The store as if nothing had been marked. -/
def unmarked (s : Store) : Store where
  users := s.users
  channels := s.channels.map fun c => { c with subscribers := 0 }
  posts := s.posts.map fun p => { p with likes := 0 }
  comments := s.comments.map fun c => { c with likes := 0 }
  likes := []
  subscriptions := []

/-- Why an operation is refused, if it is. -/
def verdict (s : Store) (op : Operation) : Option StoreError :=
  match op.apply s with
  | .ok _ => none
  | .error e => some e

/-- The verdicts on some operations, one after the other. -/
def verdicts (s : Store) : List Operation → List (Option StoreError)
  | [] => []
  | op :: ops => s.verdict op :: (s.step op).verdicts ops

/-- The verdicts on those of some operations that set or take back a mark of the user. -/
def verdictsOf (userId : Nat) (s : Store) : List Operation → List (Option StoreError)
  | [] => []
  | op :: ops =>
    if op.marker? = some userId then s.verdict op :: (s.step op).verdictsOf userId ops
    else (s.step op).verdictsOf userId ops

variable {s s' t : Store} {op op' : Operation} {m : Marking}

/-! ## What a marking does -/

/-- A marking is refused if there is nothing to mark, or if the mark is as it should be already. -/
theorem verdict_marking (h : op.marking? = some m) :
    s.verdict op =
      if s.offers m.target = false then some .notFound
      else if s.marked m.userId m.target = m.isSet then some .wrongState
      else none := by
  cases op with
  | subscribe now userId channelId =>
    cases h
    cases hoffers : s.channel? channelId <;> cases hmarked : s.isSubscribed userId channelId <;>
      simp [verdict, Operation.apply, subscribe, offers, marked, hoffers, hmarked]
  | unsubscribe userId channelId =>
    cases h
    cases hoffers : s.channel? channelId <;> cases hmarked : s.isSubscribed userId channelId <;>
      simp [verdict, Operation.apply, unsubscribe, offers, marked, hoffers, hmarked]
  | like now userId channelId postId commentId =>
    cases h
    cases hoffers : s.hasTarget channelId postId commentId <;>
      cases hmarked : s.isLiked userId channelId postId commentId <;>
        simp [verdict, Operation.apply, like, offers, marked, hoffers, hmarked, Except.map]
  | unlike userId channelId postId commentId =>
    cases h
    cases hoffers : s.hasTarget channelId postId commentId <;>
      cases hmarked : s.isLiked userId channelId postId commentId <;>
        simp [verdict, Operation.apply, unlike, offers, marked, hoffers, hmarked, Except.map]
  | _ => cases h

/-- Likes that are counted differently are the same rows. -/
theorem updateLikes_likes (channelId postId commentId : Nat) (f : Nat → Nat) :
    (s.updateLikes channelId postId commentId f).likes = s.likes := by
  rw [updateLikes]
  split <;> rfl

/-- The number of subscribers is not seen without the marks. -/
theorem unmarked_updateChannel (channelId : Nat) (f : Nat → Nat) :
    (s.updateChannel channelId fun c => { c with subscribers := f c.subscribers }).unmarked =
      s.unmarked := by
  rw [unmarked, map_updateChannel (by intro c; rfl)]
  rfl

/-- The numbers of likes are not seen without the marks. -/
theorem unmarked_updateLikes (channelId postId commentId : Nat) (f : Nat → Nat) :
    (s.updateLikes channelId postId commentId f).unmarked = s.unmarked := by
  rw [updateLikes]
  split
  · -- of a post
    rw [unmarked, map_updatePost (by intro p; rfl)]
    rfl
  · -- of a comment
    rw [unmarked, map_updateComment (by intro c; rfl)]
    rfl

/-- A marking changes nothing but marks and their numbers. -/
theorem unmarked_apply (h : op.marking? = some m) (hok : op.apply s = .ok s') :
    s'.unmarked = s.unmarked := by
  cases op with
  | subscribe now userId channelId =>
    obtain ⟨-, -, row, -, rfl⟩ := subscribe_ok hok
    exact unmarked_updateChannel channelId (· + 1)
  | unsubscribe userId channelId =>
    obtain ⟨-, -, rfl⟩ := unsubscribe_ok hok
    exact unmarked_updateChannel channelId (· - 1)
  | like now userId channelId postId commentId =>
    obtain ⟨-, -, row, -, rfl⟩ := like_ok hok
    exact unmarked_updateLikes channelId postId commentId (· + 1)
  | unlike userId channelId postId commentId =>
    obtain ⟨-, -, rfl⟩ := unlike_ok hok
    exact unmarked_updateLikes channelId postId commentId (· - 1)
  | _ => cases h

/-- The likes with one more are those of before and that one. -/
theorem isLiked_push (row : Like) (userId channelId postId commentId : Nat) :
    isLiked { s with likes := s.likes ++ [row] } userId channelId postId commentId =
      (s.isLiked userId channelId postId commentId ||
        decide (row.key = (userId, channelId, postId, commentId))) := by
  rw [Bool.eq_iff_iff, isLiked_iff, Bool.or_eq_true, isLiked_iff, decide_eq_true_iff]
  simp only [List.map_append, List.map_cons, List.map_nil, List.mem_append, List.mem_singleton]
  rw [eq_comm (a := row.key)]

/-- The likes without those under a key are those of before under other keys. -/
theorem isLiked_remove (u c p k userId channelId postId commentId : Nat) :
    isLiked { s with likes := s.likes.filter fun x => !x.isBy u c p k }
        userId channelId postId commentId =
      (s.isLiked userId channelId postId commentId &&
        !decide ((u, c, p, k) = (userId, channelId, postId, commentId))) := by
  -- a like is one of those that go if it is under the key
  have hkey : ∀ x : Like, x.isBy u c p k = true ↔ x.key = (u, c, p, k) := fun x => by
    simp [Like.isBy, Like.key, and_assoc]
  rw [Bool.eq_iff_iff, isLiked_iff, Bool.and_eq_true, isLiked_iff]
  simp only [List.mem_map, List.mem_filter, Bool.not_eq_true', ← Bool.not_eq_true, hkey]
  constructor
  · -- what is left was there, under another key
    rintro ⟨x, ⟨hx, hne⟩, hk⟩
    exact ⟨⟨x, hx, hk⟩, fun heq => hne (hk.trans (of_decide_eq_true heq).symm)⟩
  · -- what was there under another key is left
    rintro ⟨⟨x, hx, hk⟩, hne⟩
    exact ⟨x, ⟨hx, fun heq => hne (decide_eq_true (heq.symm.trans hk))⟩, hk⟩

/-- A marking that is not refused makes its mark what it says, and no other. -/
theorem marked_apply (h : op.marking? = some m) (hok : op.apply s = .ok s') (userId : Nat)
    (x : Markable) :
    s'.marked userId x =
      if userId = m.userId ∧ x = m.target then m.isSet else s.marked userId x := by
  cases x with
  | channel channelId =>
    have hsubscribed := isSubscribed_apply op hok userId channelId
    simp only [marked, hsubscribed]
    cases op with
    | subscribe now u c =>
      cases h
      simp only [Operation.subscribed, Markable.channel.injEq]
      grind
    | unsubscribe u c =>
      cases h
      simp only [Operation.subscribed, Markable.channel.injEq]
      grind
    -- likes leave the subscriptions
    | like now u c p k =>
      cases h
      simp [Operation.subscribed]
    | unlike u c p k =>
      cases h
      simp [Operation.subscribed]
    | _ => cases h
  | entry channelId postId commentId =>
    cases op with
    -- subscriptions leave the likes
    | subscribe now u c =>
      cases h
      obtain ⟨-, -, row, -, rfl⟩ := subscribe_ok hok
      simp [marked, isLiked, updateChannel]
    | unsubscribe u c =>
      cases h
      obtain ⟨-, -, rfl⟩ := unsubscribe_ok hok
      simp [marked, isLiked, updateChannel]
    | like now u c p k =>
      cases h
      obtain ⟨-, -, row, rfl, rfl⟩ := like_ok hok
      -- the new like is under the key that is asked for, or under another
      have hpush := isLiked_push (s := s) ⟨u, c, p, k, now⟩ userId channelId postId commentId
      simp only [marked, isLiked, updateLikes_likes] at hpush ⊢
      rw [hpush]
      simp only [Like.key, Prod.mk.injEq, Markable.entry.injEq]
      grind
    | unlike u c p k =>
      cases h
      obtain ⟨-, -, rfl⟩ := unlike_ok hok
      -- the likes that go are those under the key that is asked for, or others
      have hremove := isLiked_remove (s := s) u c p k userId channelId postId commentId
      simp only [marked, isLiked, updateLikes_likes] at hremove ⊢
      rw [hremove]
      simp only [Prod.mk.injEq, Markable.entry.injEq]
      grind
    | _ => cases h

/-- A marking makes its mark what it says if there is something to mark, and no other. If it is
refused because of the mark, the mark is already what it says. -/
theorem marked_step (h : op.marking? = some m) (userId : Nat) (x : Markable) :
    (s.step op).marked userId x =
      if s.offers m.target = true ∧ userId = m.userId ∧ x = m.target then m.isSet
      else s.marked userId x := by
  have hverdict := verdict_marking (s := s) h
  rw [verdict] at hverdict
  rw [step]
  cases happly : op.apply s with
  | ok s' =>
    -- it was not refused, so there is something to mark
    have hoffers : s.offers m.target = true := by
      cases hoffers : s.offers m.target with
      | true => rfl
      | false => simp [happly, hoffers] at hverdict
    simp only [Except.toOption, Option.getD_some, marked_apply h happly, hoffers, true_and]
  | error e =>
    show s.marked userId x = _
    split
    · rename_i hown
      obtain ⟨hoffers, rfl, rfl⟩ := hown
      -- what there is to mark is refused only where the mark is as it should be
      by_contra hne
      simp [happly, hoffers, hne] at hverdict
    · rfl

/-- A step by a marking changes nothing but marks and their numbers. -/
theorem unmarked_step (h : op.marking? = some m) : (s.step op).unmarked = s.unmarked :=
  step_keeps (P := fun s' => s'.unmarked = s.unmarked) rfl op fun _ hok => unmarked_apply h hok

/-! ## What a user's markings depend on -/

/-- What there is to mark does not depend on the marks. -/
theorem offers_unmarked (s : Store) (x : Markable) : s.unmarked.offers x = s.offers x := by
  cases x with
  | channel channelId =>
    have hfind : s.unmarked.channel? channelId =
        (s.channel? channelId).map fun c => { c with subscribers := 0 } := List.find?_map
    rw [offers, offers, hfind, Option.isSome_map]
  | entry channelId postId commentId =>
    have hpost : s.unmarked.post? channelId postId =
        (s.post? channelId postId).map fun p => { p with likes := 0 } := List.find?_map
    have hcomment : s.unmarked.comment? channelId postId commentId =
        (s.comment? channelId postId commentId).map fun c => { c with likes := 0 } :=
      List.find?_map
    rw [offers, offers, hasTarget, hasTarget, hpost, hcomment, Option.isSome_map,
      Option.isSome_map]

/-- The stores are the same but for marks, and the user has the same marks in both. -/
structure Agree (userId : Nat) (s t : Store) : Prop where
  unmarked : t.unmarked = s.unmarked
  marked : ∀ x, t.marked userId x = s.marked userId x

namespace Agree

variable {userId : Nat} {u : Store}

/-- A store agrees with itself. -/
theorem refl (userId : Nat) (s : Store) : Agree userId s s := ⟨rfl, fun _ => rfl⟩

/-- Agreement goes both ways. -/
theorem symm (h : Agree userId s t) : Agree userId t s :=
  ⟨h.unmarked.symm, fun x => (h.marked x).symm⟩

/-- Agreement carries on from store to store. -/
theorem trans (h : Agree userId s t) (h' : Agree userId t u) : Agree userId s u :=
  ⟨h'.unmarked.trans h.unmarked, fun x => (h'.marked x).trans (h.marked x)⟩

/-- Stores that agree have the same to mark. -/
theorem offers (h : Agree userId s t) (x : Markable) : t.offers x = s.offers x := by
  rw [← offers_unmarked, h.unmarked, offers_unmarked]

/-- The user's own markings have the same verdict. -/
theorem verdict (h : Agree userId s t) (hop : op.marking? = some m) (hop' : op'.marking? = some m)
    (hm : m.userId = userId) : t.verdict op' = s.verdict op := by
  subst hm
  rw [verdict_marking hop, verdict_marking hop', h.offers, h.marked]

/-- The user's own markings do the same. -/
theorem step (h : Agree userId s t) (hop : op.marking? = some m) (hop' : op'.marking? = some m) :
    Agree userId (s.step op) (t.step op') := by
  refine ⟨?_, fun x => ?_⟩
  · rw [unmarked_step hop', unmarked_step hop, h.unmarked]
  · rw [marked_step hop', marked_step hop, h.offers, h.marked]

/-- The markings of others do nothing. -/
theorem step_of_ne (s : Store) (hop : op.marking? = some m) (hm : m.userId ≠ userId) :
    Agree userId s (s.step op) := by
  refine ⟨unmarked_step hop, fun x => ?_⟩
  rw [marked_step hop, if_neg fun hown => hm hown.2.1.symm]

/-- Any markings of others do nothing. -/
theorem after_of_ne {ops : List Operation}
    (hops : ∀ op ∈ ops, ∃ m, op.marking? = some m ∧ m.userId ≠ userId) (s : Store) :
    Agree userId s (s.after ops) := by
  induction ops generalizing s with
  | nil => exact .refl userId s
  | cons op ops ih =>
    obtain ⟨m, hm, huser⟩ := hops op List.mem_cons_self
    exact (step_of_ne s hm huser).trans
      (ih (fun op hop => hops op (List.mem_cons_of_mem _ hop)) (s.step op))

end Agree

end Store

/-! ## Two users -/

/-- The operations of the third list are those of the first and the second, each in its order, but
perhaps at other times. -/
inductive Interleaves : List Operation → List Operation → List Operation → Prop where
  | nil : Interleaves [] [] []
  | left {op op' : Operation} {A B C : List Operation} (hop : op'.marking? = op.marking?)
      (h : Interleaves A B C) : Interleaves (op :: A) B (op' :: C)
  | right {op op' : Operation} {A B C : List Operation} (hop : op'.marking? = op.marking?)
      (h : Interleaves A B C) : Interleaves A (op :: B) (op' :: C)

namespace Interleaves

open Store

variable {A B C : List Operation} {userId other : Nat} {s t : Store}

/-- It does not matter which user is named first. -/
theorem symm (h : Interleaves A B C) : Interleaves B A C := by
  induction h with
  | nil => exact .nil
  | left hop _ ih => exact ih.right hop
  | right hop _ ih => exact ih.left hop

/-- What holds of all the markings that are interleaved holds of the whole. -/
theorem forall_marking? {P : Option Marking → Prop} (h : Interleaves A B C)
    (hA : ∀ op ∈ A, P op.marking?) (hB : ∀ op ∈ B, P op.marking?) : ∀ op ∈ C, P op.marking? := by
  induction h with
  | nil => exact hA
  | left hop _ ih =>
    rw [List.forall_mem_cons] at hA ⊢
    exact ⟨hop ▸ hA.1, ih hA.2 hB⟩
  | right hop _ ih =>
    rw [List.forall_mem_cons] at hB ⊢
    exact ⟨hop ▸ hB.1, ih hA hB.2⟩

/-- A user who sets and takes back marks among the markings of another fares as without them. -/
theorem agree (h : Interleaves A B C) (hne : userId ≠ other)
    (hA : ∀ op ∈ A, op.marker? = some userId) (hB : ∀ op ∈ B, op.marker? = some other)
    (hst : Agree userId s t) :
    t.verdictsOf userId C = s.verdicts A ∧ Agree userId (s.after A) (t.after C) := by
  induction h generalizing s t with
  | nil => exact ⟨rfl, hst⟩
  | @left op op' A B C hop _ ih =>
    -- the operation is the user's own, in both runs
    have hmarker := hA op List.mem_cons_self
    obtain ⟨m, hm, huser⟩ := Operation.marker?_eq_some hmarker
    have hm' : op'.marking? = some m := hop.trans hm
    have hown : op'.marker? = some userId := by rw [Operation.marker?, hop]; exact hmarker
    obtain ⟨hverdicts, hafter⟩ := ih (fun op hop => hA op (List.mem_cons_of_mem _ hop)) hB
      (hst.step hm hm')
    refine ⟨?_, hafter⟩
    rw [verdictsOf, if_pos hown, verdicts, hst.verdict hm hm' huser, hverdicts]
  | @right op op' A B C hop _ ih =>
    -- the operation is the other's, so only the interleaved run takes it
    have hmarker := hB op List.mem_cons_self
    obtain ⟨m, hm, huser⟩ := Operation.marker?_eq_some hmarker
    have hm' : op'.marking? = some m := hop.trans hm
    have hother : op'.marker? ≠ some userId := by
      rw [Operation.marker?, hop]
      exact fun heq => hne (Option.some.inj (heq.symm.trans hmarker))
    obtain ⟨hverdicts, hafter⟩ := ih hA (fun op hop => hB op (List.mem_cons_of_mem _ hop))
      (hst.trans (.step_of_ne t hm' (huser ▸ hne.symm)))
    refine ⟨?_, hafter⟩
    rw [verdictsOf, if_neg hother, hverdicts]

/-- Everybody has the same marks as if the one user had come before the other. -/
theorem agree_append (h : Interleaves A B C) (hne : userId ≠ other)
    (hA : ∀ op ∈ A, op.marker? = some userId) (hB : ∀ op ∈ B, op.marker? = some other)
    (s : Store) (w : Nat) : Agree w (s.after (A ++ B)) (s.after C) := by
  rw [after_append_list]
  by_cases hw : w = userId
  · subst hw
    -- what the other does afterwards changes nothing for the user
    obtain ⟨-, hown⟩ := h.agree hne hA hB (.refl w s)
    exact (Agree.after_of_ne (Operation.marking?_of_ne hne hB) (s.after A)).symm.trans hown
  have hA' := Operation.marking?_of_ne hw hA
  by_cases hw' : w = other
  · -- the other's marks: the two parts change places
    subst hw'
    exact (h.symm.agree hne.symm hB hA (Agree.after_of_ne hA' s).symm).2
  -- somebody else has no part in any of it
  have hB' := Operation.marking?_of_ne hw' hB
  have hC' : ∀ op ∈ C, ∃ m, op.marking? = some m ∧ m.userId ≠ w :=
    h.forall_marking? (P := fun x => ∃ m, x = some m ∧ m.userId ≠ w) hA' hB'
  exact ((Agree.after_of_ne hA' s).trans (.after_of_ne hB' (s.after A))).symm.trans
    (.after_of_ne hC' s)

end Interleaves

/-! ## The tables at the end -/

namespace Store

variable {s t : Store}

/-- The tables are the same, but for the order of likes and subscriptions and for their times. -/
structure SameTables (s t : Store) : Prop where
  users : t.users = s.users
  channels : t.channels = s.channels
  posts : t.posts = s.posts
  comments : t.comments = s.comments
  likes : (t.likes.map Like.key).Perm (s.likes.map Like.key)
  subscriptions : (t.subscriptions.map Subscription.key).Perm (s.subscriptions.map Subscription.key)

/-! Where the counters are right, the rows follow from what they are without marks. -/

/-- Rows of which a column was erased are the rows again once it is filled in. -/
theorem eq_map_erase {α : Type} {erase fill : α → α} {l : List α}
    (h : ∀ a ∈ l, fill (erase a) = a) : l = (l.map erase).map fill := by
  rw [List.map_map]
  exact (List.map_id l).symm.trans (List.map_congr_left fun a ha => (h a ha).symm)

/-- Where the counters are right, the channels are those without marks with their subscriptions
counted. -/
theorem Counted.channels_eq (hc : s.Counted) :
    s.channels = s.unmarked.channels.map fun c =>
      { c with subscribers := s.subscriberRows c.channelId } :=
  eq_map_erase fun c hmem => by simp only [← hc.subscribers c hmem]

/-- Where the counters are right, the posts are those without marks with their likes counted. -/
theorem Counted.posts_eq (hc : s.Counted) :
    s.posts = s.unmarked.posts.map fun p =>
      { p with likes := s.likeRows (p.channelId, p.postId, 0) } :=
  eq_map_erase fun p hmem => by simp only [← hc.postLikes p hmem]

/-- Where the counters are right, the comments are those without marks with their likes counted. -/
theorem Counted.comments_eq (hc : s.Counted) :
    s.comments = s.unmarked.comments.map fun c =>
      { c with likes := s.likeRows (c.channelId, c.postId, c.commentId) } :=
  eq_map_erase fun c hmem => by simp only [← hc.commentLikes c hmem]

/-- What is counted by the key does not depend on the order of the rows. -/
theorem countP_key_of_perm {α κ : Type} {key : α → κ} {l l' : List α}
    (h : (l'.map key).Perm (l.map key)) (p : κ → Bool) :
    (l'.countP fun a => p (key a)) = l.countP fun a => p (key a) := by
  have hkeys : ∀ l : List α, (l.countP fun a => p (key a)) = (l.map key).countP p := fun l => by
    rw [List.countP_map]
    rfl
  rw [hkeys, hkeys, h.countP_eq]

/-- Two stores with the same marks of all users. -/
theorem sameTables_of_agree (hs : s.Linked ∧ s.Counted) (ht : t.Linked ∧ t.Counted)
    (h : ∀ userId, Agree userId s t) : s.SameTables t := by
  have hunmarked : t.unmarked = s.unmarked := (h 0).unmarked
  -- no mark is there twice, so it is enough to know which are there
  have hlikes : (t.likes.map Like.key).Perm (s.likes.map Like.key) := by
    refine (List.perm_ext_iff_of_nodup ht.1.likeKeys hs.1.likeKeys).2 ?_
    rintro ⟨userId, channelId, postId, commentId⟩
    rw [← isLiked_iff, ← isLiked_iff]
    exact Bool.eq_iff_iff.1 ((h userId).marked (.entry channelId postId commentId))
  -- and likewise of the subscriptions
  have hsubscriptions :
      (t.subscriptions.map Subscription.key).Perm (s.subscriptions.map Subscription.key) := by
    refine (List.perm_ext_iff_of_nodup ht.1.subscriptionKeys hs.1.subscriptionKeys).2 ?_
    rintro ⟨userId, channelId⟩
    rw [← isSubscribed_iff, ← isSubscribed_iff]
    exact Bool.eq_iff_iff.1 ((h userId).marked (.channel channelId))
  -- the counters count the same rows
  have hlikeRows : ∀ target, t.likeRows target = s.likeRows target :=
    fun target => countP_key_of_perm hlikes fun key => key.2 = target
  have hsubscriberRows : ∀ channelId, t.subscriberRows channelId = s.subscriberRows channelId :=
    fun channelId => countP_key_of_perm hsubscriptions fun key => key.2 = channelId
  refine ⟨?_, ?_, ?_, ?_, hlikes, hsubscriptions⟩
  · show t.unmarked.users = s.unmarked.users
    rw [hunmarked]
  · rw [ht.2.channels_eq, hs.2.channels_eq, hunmarked]
    simp only [hsubscriberRows]
  · rw [ht.2.posts_eq, hs.2.posts_eq, hunmarked]
    simp only [hlikeRows]
  · rw [ht.2.comments_eq, hs.2.comments_eq, hunmarked]
    simp only [hlikeRows]

/-- Two users who only set and take back marks do not meet. Let the operations of one come in any
way among those of the other, each user's in their order and at whatever times: every operation is
refused or not, and for the same reason, as if those of one user had all come before those of the
other, and so are the tables at the end, their counters included. -/
theorem interleaved_marks (past : List Operation) {userId other : Nat} (hne : userId ≠ other)
    {A B C : List Operation} (hA : ∀ op ∈ A, op.marker? = some userId)
    (hB : ∀ op ∈ B, op.marker? = some other) (hC : Interleaves A B C) :
    let s := empty.after past
    s.verdictsOf userId C = s.verdicts A ∧
      s.verdictsOf other C = (s.after A).verdicts B ∧
      (s.after (A ++ B)).SameTables (s.after C) := by
  intro s
  -- every store that is reached is linked and counted
  have hvalid : ∀ ops, (s.after ops).Linked ∧ (s.after ops).Counted := fun ops => by
    have hall : s.after ops = empty.after (past ++ ops) := (after_append_list empty past ops).symm
    rw [hall]
    exact ⟨(linked_after _).2, counted_after _⟩
  -- the other user does not see that the first has come before
  have hafter : Agree other (s.after A) s :=
    (Agree.after_of_ne (Operation.marking?_of_ne hne.symm hA) s).symm
  exact ⟨(hC.agree hne hA hB (.refl userId s)).1, (hC.symm.agree hne.symm hB hA hafter).1,
    sameTables_of_agree (hvalid _) (hvalid _) (hC.agree_append hne hA hB s)⟩

/-- Two readers like and subscribe at once. The first takes a like back that is not there, the
second likes twice. -/
theorem interleaved_marks_two_readers :
    let past : List Operation :=
      [.createChannel 1 ⟨"notes", "", [], "", ""⟩, .publishPost 2 1 ⟨[], [], "", ""⟩]
    let A : List Operation := [.like 3 7 1 1 0, .unlike 7 1 1 0, .unlike 7 1 1 0, .subscribe 4 7 1]
    let B : List Operation := [.like 5 8 1 1 0, .like 6 8 1 1 0, .subscribe 7 8 2]
    let C : List Operation :=
      [.like 3 8 1 1 0, .like 4 7 1 1 0, .unlike 7 1 1 0, .like 5 8 1 1 0, .unlike 7 1 1 0,
        .subscribe 6 8 2, .subscribe 7 7 1]
    let s := empty.after past
    s.verdictsOf 7 C = [none, none, some .wrongState, none] ∧
      s.verdictsOf 8 C = [none, some .wrongState, some .notFound] ∧
      (s.after (A ++ B)).SameTables (s.after C) := by
  intro past A B C s
  have hC : Interleaves A B C :=
    .right rfl (.left rfl (.left rfl (.right rfl (.left rfl (.right rfl (.left rfl .nil))))))
  obtain ⟨hverdicts, hverdicts', htables⟩ :=
    interleaved_marks past (by decide : 7 ≠ 8) (by decide : ∀ op ∈ A, op.marker? = some 7)
      (by decide : ∀ op ∈ B, op.marker? = some 8) hC
  exact ⟨hverdicts.trans (by decide), hverdicts'.trans (by decide), htables⟩

end Store

end FeedNode.Feed
