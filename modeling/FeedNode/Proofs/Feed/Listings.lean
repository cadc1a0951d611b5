import FeedNode.Feed.Store.Listing
import FeedNode.Proofs.Feed.References

/-!
# What a listing shows

Every listing filters a table and hands its rows to the criteria. What it then shows is said here
without the way it is found: rows of the table that belong to the listing and lie within the bounds,
each once, in the order of the criteria's column, as many as the limit allows, and none left out
that should stand before one that is shown (`Criteria.Selects`).

The criteria are those that a request can carry. Their bounds are positive signed words, so that
reading them as signed (`Criteria.within`) changes nothing.

Main statement: `Store.lists_of_keyed`.
-/

namespace FeedNode.Feed

namespace Criteria

/-- The value lies within the bounds, both of them included. -/
def Bounds (c : Criteria) (n : Nat) : Prop :=
  (∀ lower ∈ c.lower, lower.toNat ≤ n) ∧ ∀ upper ∈ c.upper, n ≤ upper.toNat

instance (c : Criteria) (n : Nat) : Decidable (c.Bounds n) :=
  inferInstanceAs (Decidable ((∀ lower ∈ c.lower, _) ∧ ∀ upper ∈ c.upper, _))

/-- A row with the value `a` in the column stands before one with the value `b`: identifiers
ascend, and the newest time comes first. -/
def Before (c : Criteria) (a b : Nat) : Prop :=
  match c.field with
  | .none | .id => a < b
  | .updatedAt | .createdAt => b < a

/-- Of so many rows, the number that the limit allows. -/
def atMost (c : Criteria) (n : Nat) : Nat :=
  match c.limit with
  | none => n
  | some limit => min limit.toNat n

/-- The rows are the first ones, in the order and within the bounds of the criteria, of those rows
of a table that are wanted. `place` tells the columns of a row that it may be ordered by, and `key`
what it is known by. -/
structure Selects {α κ : Type} (c : Criteria) (place : α → SortKeys) (key : α → κ)
    (table : List α) (wanted : α → Prop) [DecidablePred wanted] (rows : List α) : Prop where
  nodup : (rows.map key).Nodup
  sound : ∀ r ∈ rows, r ∈ table ∧ wanted r ∧ c.Bounds (c.key (place r))
  sorted : rows.Pairwise fun a b => ¬c.Before (c.key (place b)) (c.key (place a))
  length_eq : rows.length =
    c.atMost (table.countP fun r => decide (wanted r ∧ c.Bounds (c.key (place r))))
  first : ∀ r ∈ table, wanted r → c.Bounds (c.key (place r)) → r ∉ rows →
    ∀ a ∈ rows, ¬c.Before (c.key (place r)) (c.key (place a))

/-! ## The parts of a query -/

section Parts

variable {c : Criteria}

/-- A positive word is the same signed and unsigned. -/
theorem toInt_of_positive? {n : Int64} {w : UInt64} (h : positive? n = some w) :
    w.toInt64.toInt = w.toNat := by
  rw [positive?] at h
  split at h
  · rename_i hpos
    obtain rfl : n.toUInt64 = w := Option.some.inj h
    have hsign : 0 < n.toInt := Int64.lt_iff_toInt_lt.1 hpos
    have hword : n.toInt = Int.bmod n.toUInt64.toNat (2 ^ 64) :=
      BitVec.toInt_eq_toNat_bmod n.toBitVec
    have hlt := n.toUInt64.toNat_lt
    have hback : n.toUInt64.toInt64 = n := rfl
    rw [hback, hword]
    simp only [Int.bmod] at hword ⊢
    split at hword <;> omega
  · cases h

/-- The bounds of a request, read as signed words, bound as they stand. -/
theorem within_iff {by_ upper lower maxCount : Int64}
    (hc : ofWire? by_ upper lower maxCount = some c) (n : Nat) :
    c.within n = true ↔ c.Bounds n := by
  obtain ⟨field, -, rfl⟩ := Option.map_eq_some_iff.1 hc
  have hword : ∀ (b : Prop) [Decidable b] (word : Int64) (w : UInt64),
      (if b then none else positive? word) = some w → w.toInt64.toInt = w.toNat := by
    intro b _ word w hw
    split at hw
    · cases hw
    · exact toInt_of_positive? hw
  rw [within, Bounds, Bool.and_eq_true, Option.all_eq_true, Option.all_eq_true]
  refine and_congr (forall₂_congr fun w hw => ?_) (forall₂_congr fun w hw => ?_)
  · rw [decide_eq_true_eq, hword _ _ w hw, Int.ofNat_le]
  · rw [decide_eq_true_eq, hword _ _ w hw, Int.ofNat_le]

/-- One value comes before another if the other does not have to stand before it. -/
theorem precedes_iff {a b : Nat} : c.precedes a b = true ↔ ¬c.Before b a := by
  obtain ⟨field, lower, upper, limit⟩ := c
  cases field <;> simp [precedes, Before, SortField.ascending]

/-- The order of the criteria is transitive. -/
theorem precedes_trans {a b d : Nat} (hab : c.precedes a b = true) (hbd : c.precedes b d = true) :
    c.precedes a d = true := by
  obtain ⟨field, lower, upper, limit⟩ := c
  cases field <;> simp [precedes, SortField.ascending] at * <;> omega

/-- Of two values one precedes the other. -/
theorem precedes_total (a b : Nat) : (c.precedes a b || c.precedes b a) = true := by
  obtain ⟨field, lower, upper, limit⟩ := c
  cases field <;> simp [precedes, SortField.ascending] <;> omega

variable {α : Type}

/-- What is shown is the front of what is listed. -/
theorem cut_isPrefix (c : Criteria) (rows : List α) : c.cut rows <+: rows := by
  rw [cut]
  split
  · exact List.prefix_rfl
  · exact List.take_prefix _ rows

/-- As many are shown as the limit allows. -/
theorem length_cut (c : Criteria) (rows : List α) : (c.cut rows).length = c.atMost rows.length := by
  obtain ⟨field, lower, upper, limit⟩ := c
  cases limit with
  | none => rfl
  | some limit => exact List.length_take

end Parts

/-! ## Queries -/

/-- What is shown of the wanted rows of a table, in whatever order they were found. -/
theorem selects_select {α κ : Type} {c : Criteria} (hbounds : ∀ n, c.within n = true ↔ c.Bounds n)
    {key : α → κ} {table found : List α} (hkeys : (table.map key).Nodup) {wanted : α → Prop}
    [DecidablePred wanted] (hfound : found.Perm (table.filter fun r => decide (wanted r)))
    (place : α → SortKeys) : c.Selects place key table wanted (c.select place found) := by
  let before := fun a b => c.precedes (c.key (place a)) (c.key (place b))
  let listed := (found.filter fun r => c.within (c.key (place r))).mergeSort before
  show c.Selects place key table wanted (c.cut listed)
  -- sorted or not, these are the wanted rows within the bounds
  have hperm : listed.Perm
      (table.filter fun r => decide (wanted r ∧ c.Bounds (c.key (place r)))) := by
    refine ((List.mergeSort_perm _ _).trans (hfound.filter _)).trans (.of_eq ?_)
    rw [List.filter_filter]
    refine List.filter_congr fun r _ => ?_
    rw [Bool.eq_iff_iff, Bool.and_eq_true, hbounds, decide_eq_true_eq, decide_eq_true_eq, and_comm]
  have hsorted : listed.Pairwise fun a b => before a b = true :=
    @List.pairwise_mergeSort _ before (fun _ _ _ => precedes_trans)
      (fun _ _ => precedes_total _ _) _
  have hmem : ∀ {r}, r ∈ listed ↔ r ∈ table ∧ wanted r ∧ c.Bounds (c.key (place r)) := by
    intro r
    rw [hperm.mem_iff, List.mem_filter, decide_eq_true_eq]
  -- the rows that are left out stand behind those that are shown
  obtain ⟨behind, hcut⟩ := c.cut_isPrefix listed
  have hsublist := (c.cut_isPrefix listed).sublist
  refine ⟨?_, fun r hr => hmem.1 (hsublist.subset hr), ?_, ?_, ?_⟩
  · -- each row once
    have hnodup : (listed.map key).Nodup :=
      (hperm.map key).nodup_iff.2 (Store.nodup_map_filter hkeys _)
    exact hnodup.sublist (hsublist.map key)
  · -- in the order of the criteria
    exact (hsorted.sublist hsublist).imp precedes_iff.1
  · -- as many as the limit allows
    rw [length_cut, hperm.length_eq, List.countP_eq_length_filter]
  · -- and none that should stand before one that is shown
    intro r hr hwanted hr_bounds hout a ha
    have hbehind : r ∈ behind := by
      have hlisted : r ∈ listed := hmem.2 ⟨hr, hwanted, hr_bounds⟩
      rw [← hcut] at hlisted
      exact (List.mem_append.1 hlisted).resolve_left hout
    rw [← hcut] at hsorted
    exact precedes_iff.1 ((List.pairwise_append.1 hsorted).2.2 a ha r hbehind)

end Criteria

namespace Store

/-- No two rows of a table have one key. -/
structure Keyed (s : Store) : Prop where
  channels : s.channelIds.Nodup
  posts : s.postKeys.Nodup
  comments : s.commentKeys.Nodup

/-- The tables are keyed after any operations. -/
theorem keyed_after (ops : List Operation) : (empty.after ops).Keyed := by
  obtain ⟨hs, hl⟩ := linked_after ops
  exact ⟨hs.channels.nodup, (hl.intact hs).postKeys, (hl.intact hs).commentKeys⟩

/-- The identifier is the wanted one, where a zero stands for any. -/
def Meets (wanted id : Nat) : Prop :=
  wanted = 0 ∨ id = wanted

instance (wanted id : Nat) : Decidable (Meets wanted id) :=
  inferInstanceAs (Decidable (_ ∨ _))

/-- A number matches what it is compared with, and every number matches a zero. -/
theorem matchesId_iff {wanted id : Nat} : matchesId wanted id = true ↔ Meets wanted id := by
  rw [matchesId, Meets, Bool.or_eq_true, beq_iff_eq, beq_iff_eq, eq_comm (a := wanted) (b := id)]

/-- What every listing shows of the store. The listings of comments and of counters show something
of each row, the others the rows as they are. -/
structure Lists (s : Store) (c : Criteria) : Prop where
  channels :
    c.Selects Channel.sortKeys Channel.channelId s.channels (fun _ => True) (s.listChannels c)
  subscribed : ∀ userId,
    c.Selects Channel.sortKeys Channel.channelId s.channels
      (fun ch => ∃ x ∈ s.subscriptions, x.userId = userId ∧ x.channelId = ch.channelId)
      (s.listSubscribed userId c)
  posts : ∀ channelId,
    c.Selects Post.sortKeys Post.key s.posts (fun p => p.channelId = channelId)
      (s.listPosts channelId c)
  liked : ∀ userId,
    c.Selects Post.sortKeys Post.key s.posts
      (fun p => ∃ x ∈ s.likes,
        x.userId = userId ∧ x.channelId = p.channelId ∧ x.postId = p.postId ∧ x.commentId = 0)
      (s.listLiked userId c)
  comments : ∀ channelId postId, ∃ rows,
    c.Selects Comment.sortKeys Comment.key s.comments
        (fun x => Meets channelId x.channelId ∧ Meets postId x.postId) rows ∧
      s.listComments channelId postId c = rows.map s.sign
  postCounts : ∀ channelId postId, ∃ rows,
    c.Selects Post.sortKeys Post.key s.posts
        (fun p => Meets channelId p.channelId ∧ Meets postId p.postId) rows ∧
      s.listPostCounts channelId postId c = rows.map Post.counts
  /-- This listing is always the whole of what it shows, by identifier. -/
  subscriberCounts : ∀ channelId, ∃ rows,
    Criteria.all.Selects Channel.sortKeys Channel.channelId s.channels
        (fun ch => Meets channelId ch.channelId) rows ∧
      s.listSubscriberCounts channelId = rows.map fun ch => (ch.channelId, ch.subscribers)

/-! ## The rows of each listing -/

section Found

variable {α : Type}

/-- Sorting leaves no row out. -/
theorem sortByPair_perm (pair : α → Nat × Nat) (rows : List α) : (sortByPair pair rows).Perm rows :=
  List.mergeSort_perm rows _

/-- The order that decides between equal keys leaves no row out. -/
theorem baseOrder_perm (channel post number : α → Nat) (channelId postId : Nat) (c : Criteria)
    (rows : List α) : (baseOrder channel post number channelId postId c rows).Perm rows := by
  rw [baseOrder]
  split
  · -- within one channel, by post and number
    exact sortByPair_perm _ rows
  · split
    · -- of one post in any channel
      exact sortByPair_perm _ rows
    · -- left as they are found
      exact .refl rows

/-- Filtering by a test is filtering by what the test decides. -/
theorem filter_eq_of_iff {p : α → Bool} {wanted : α → Prop} [DecidablePred wanted]
    (h : ∀ r, p r = true ↔ wanted r) (table : List α) :
    table.filter p = table.filter fun r => decide (wanted r) :=
  List.filter_congr fun r _ => by rw [Bool.eq_iff_iff, h, decide_eq_true_eq]

end Found

/-- Every listing shows what it should, for all criteria that a request can carry. -/
theorem lists_of_keyed {s : Store} (hs : s.Keyed) {by_ upper lower maxCount : Int64} {c : Criteria}
    (hc : Criteria.ofWire? by_ upper lower maxCount = some c) : s.Lists c := by
  have hbounds := Criteria.within_iff hc
  have hplace : ∀ channel post channelId postId,
      (matchesId channelId channel && matchesId postId post) = true ↔
        Meets channelId channel ∧ Meets postId post := by
    intro channel post channelId postId
    rw [Bool.and_eq_true, matchesId_iff, matchesId_iff]
  refine ⟨?_, fun userId => ?_, fun channelId => ?_, fun userId => ?_, fun channelId postId => ?_,
    fun channelId postId => ?_, fun channelId => ?_⟩
  · -- the channels
    exact Criteria.selects_select hbounds hs.channels (.of_eq (by simp)) _
  · -- those that a user subscribes to
    refine Criteria.selects_select hbounds hs.channels (.of_eq (filter_eq_of_iff ?_ _)) _
    intro ch
    simp
  · -- the posts of a channel
    refine Criteria.selects_select hbounds hs.posts (.of_eq (filter_eq_of_iff ?_ _)) _
    intro p
    exact beq_iff_eq
  · -- those that a user liked, in an order of their own before the criteria
    refine Criteria.selects_select hbounds hs.posts ((sortByPair_perm _ _).trans (.of_eq ?_)) _
    refine filter_eq_of_iff (fun p => ?_) _
    simp [Like.isBy, and_assoc]
  · -- the comments
    refine ⟨_, Criteria.selects_select hbounds hs.comments ((baseOrder_perm ..).trans ?_) _, rfl⟩
    exact .of_eq (filter_eq_of_iff (fun x => hplace _ _ _ _) _)
  · -- the counters of posts
    refine ⟨_, Criteria.selects_select hbounds hs.posts ((baseOrder_perm ..).trans ?_) _, rfl⟩
    exact .of_eq (filter_eq_of_iff (fun p => hplace _ _ _ _) _)
  · -- the numbers of subscribers, which take no criteria
    have hall : Criteria.ofWire? 0 0 0 0 = some .all := rfl
    refine ⟨_, Criteria.selects_select (Criteria.within_iff hall) hs.channels ?_ _, rfl⟩
    exact .of_eq (filter_eq_of_iff (fun ch => matchesId_iff) _)

/-- Two posts in the first of two channels, the later one liked. -/
def sampleRows : Store :=
  empty.after
    [.createChannel 5 { (default : ChannelDraft) with name := "news" },
      .createChannel 6 { (default : ChannelDraft) with name := "talk" }, .subscribe 7 3 2,
      .publishPost 9 1 default, .publishPost 8 1 default, .like 9 3 1 2 0]

/-- Of two posts that are late enough the newest one is asked for. -/
theorem lists_of_keyed_newest :
    let c : Criteria := { field := .createdAt, lower := some 8, upper := none, limit := some 1 }
    Criteria.ofWire? 3 0 8 1 = some c ∧ sampleRows.Keyed ∧ sampleRows.Lists c ∧
      (sampleRows.listPosts 1 c).map Post.postId = [1] := by
  intro c
  have hwire : Criteria.ofWire? 3 0 8 1 = some c := by decide
  have hkeyed : sampleRows.Keyed := keyed_after _
  refine ⟨hwire, hkeyed, lists_of_keyed hkeyed hwire, ?_⟩
  unfold listPosts Criteria.select
  dsimp only [c]
  -- the posts stand in order already
  rw [List.mergeSort_of_pairwise (by decide)]
  rfl

end Store

end FeedNode.Feed
