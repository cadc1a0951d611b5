import FeedNode.Proofs.Feed.Listings
import Mathlib.Algebra.Group.Nat.Defs

/-!
# Paging by identifier

A client that wants all rows of a table asks for some of them, and then for those behind the last
one it got, until it gets none. Meanwhile the store goes on changing. As identifiers count up and no
row is removed, each answer starts where the one before ended: the client gets the identifiers from
1 on without a gap, whatever is done between its queries.

`Scope.query_eq` says what one query answers and `Scope.session_eq_pages` what a whole session does;
the lemmas about the pages of a session go by induction on the gaps between its queries.

Main statement: `Scope.session_complete`.
-/

namespace FeedNode.Feed

open Store

/-! ## Ranges of numbers -/

/-- Of the numbers from 1 on, those that are not below a bound. -/
theorem filter_le_range' (lower n : Nat) :
    (List.range' 1 n).filter (fun i => decide (lower ≤ i)) =
      List.range' (max 1 lower) (n + 1 - max 1 lower) := by
  induction n with
  | zero =>
    rw [show 0 + 1 - max 1 lower = 0 by omega]
    rfl
  | succ n ih =>
    rw [List.range'_concat, List.filter_append, ih]
    -- the last number is within the bound, or none is
    by_cases h : lower ≤ n + 1
    · have hlast : 1 + 1 * n = max 1 lower + 1 * (n + 1 - max 1 lower) := by omega
      rw [show n + 1 + 1 - max 1 lower = n + 1 - max 1 lower + 1 by omega, List.range'_concat,
        List.filter_cons_of_pos (by simpa [Nat.add_comm] using h), List.filter_nil, hlast]
    · rw [show n + 1 + 1 - max 1 lower = n + 1 - max 1 lower by omega,
        List.filter_cons_of_neg (by simpa [Nat.add_comm] using h), List.filter_nil,
        List.append_nil]

/-- The first of some consecutive numbers. -/
theorem take_range' (k start n : Nat) :
    (List.range' start n).take k = List.range' start (min k n) := by
  refine List.ext_getElem (by simp) fun i _ _ => ?_
  rw [List.getElem_take, List.getElem_range', List.getElem_range']

/-- What can be paged through by identifier: all channels, the posts of a channel, the comments of
a post. -/
inductive Scope where
  | channels
  | posts (channelId : Nat)
  | comments (channelId postId : Nat) (hchannel : channelId ≠ 0) (hpost : postId ≠ 0)

namespace Scope

/-- The identifiers of the rows that there are, in the order in which they were added. -/
def ids (s : Store) : Scope → List Nat
  | channels => s.channelIds
  | posts channelId => s.postIds channelId
  | comments channelId postId _ _ => s.commentIds channelId postId

/-- The identifiers of the rows that are listed by some criteria. -/
def list (s : Store) (c : Criteria) : Scope → List Nat
  | channels => (s.listChannels c).map Channel.channelId
  | posts channelId => (s.listPosts channelId c).map Post.postId
  | comments channelId postId _ _ => (s.listComments channelId postId c).map fun x => x.commentId

/-- The answer to a request for at most `count` rows from the identifier `lower` on. -/
def query (sc : Scope) (s : Store) (lower count : Int64) : List Nat :=
  match Criteria.ofWire? 1 0 lower count with
  | some c => sc.list s c
  | none => []

/-- The answers to a client that asks from `lower` on and then, as long as it gets rows, from behind
the last one on. Between two queries the operations of a gap are tried; without a further gap the
client does not get to ask again. -/
def session (sc : Scope) (count : Int64) (s : Store) (lower : Nat) :
    (gaps : List (List Operation)) → List (List Nat)
  | [] => [sc.query s (.ofNat lower) count]
  | gap :: gaps =>
    let answer := sc.query s (.ofNat lower) count
    match answer.getLast? with
    | none => [answer]
    | some last => answer :: sc.session count (s.after gap) (last + 1) gaps

/-! ## The rows of a scope -/

section Rows

variable {s : Store}

/-- The rows of a scope are numbered from 1. -/
theorem ids_eq_range' (hs : s.Numbered) (sc : Scope) :
    sc.ids s = List.range' 1 (sc.ids s).length := by
  have hcounted : ∀ {next ids}, CountsTo next ids → ids = List.range' 1 ids.length := by
    intro next ids h
    obtain ⟨n, hids, -⟩ := h.eq_range'
    rw [hids, List.length_range']
  cases sc with
  | channels => exact hcounted hs.channels
  | posts channelId =>
    by_cases h : ∃ ch ∈ s.channels, ch.channelId = channelId
    · obtain ⟨ch, hch, rfl⟩ := h
      exact hcounted (hs.posts ch hch)
    · -- there are no posts without their channel
      have hnone : s.postIds channelId = [] := by
        rw [postIds, List.map_eq_nil_iff, List.filter_eq_nil_iff]
        intro p hp hid
        obtain ⟨ch, hch, heq⟩ := hs.inChannel p hp
        exact h ⟨ch, hch, heq.trans (eq_of_beq hid)⟩
      rw [ids, hnone]
      rfl
  | comments channelId postId _ _ =>
    by_cases h : ∃ p ∈ s.posts, p.channelId = channelId ∧ p.postId = postId
    · obtain ⟨p, hp, rfl, rfl⟩ := h
      exact hcounted (hs.comments p hp)
    · -- there are no comments without their post
      have hnone : s.commentIds channelId postId = [] := by
        rw [commentIds, List.map_eq_nil_iff, List.filter_eq_nil_iff]
        intro c hc hid
        obtain ⟨p, hp, hchannel, hpost⟩ := hs.inPost c hc
        rw [Bool.and_eq_true, beq_iff_eq, beq_iff_eq] at hid
        exact h ⟨p, hp, hchannel.trans hid.1, hpost.trans hid.2⟩
      rw [ids, hnone]
      rfl

/-- The rows of a scope are not removed. -/
theorem ids_isPrefix {s' : Store} (h : s.Grows s') (sc : Scope) : sc.ids s <+: sc.ids s' := by
  cases sc with
  | channels => exact h.channelIds
  | posts channelId =>
    have hids : ∀ t : Store, t.postIds channelId =
        (t.postKeys.filter fun k => k.1 == channelId).map Prod.snd := by
      intro t
      rw [postKeys, List.filter_map, List.map_map]
      rfl
    rw [ids, ids, hids, hids]
    exact (h.postKeys.filter _).map _
  | comments channelId postId _ _ =>
    have hids : ∀ t : Store, t.commentIds channelId postId =
        (t.commentKeys.filter fun k => k.1 == channelId && k.2.1 == postId).map
          fun k => k.2.2 := by
      intro t
      rw [commentKeys, List.filter_map, List.map_map]
      rfl
    rw [ids, ids, hids, hids]
    exact (h.commentKeys.filter _).map _

/-- Operations do not make the rows of a scope fewer. -/
theorem length_ids_le_after (s : Store) (ops : List Operation) (sc : Scope) :
    (sc.ids s).length ≤ (sc.ids (s.after ops)).length := by
  have hgrows : s.Grows (s.after ops) :=
    after_keeps (P := fun t => s.Grows t) (.refl s) ops fun _ _ _ h happly =>
      h.trans (.apply happly)
  exact (ids_isPrefix hgrows sc).length_le

end Rows

/-! ## One query -/

section Query

variable {s : Store}

/-- Of rows that stand in the order of their identifiers, a listing by identifier shows the first
ones within the bounds. -/
theorem map_select {α : Type} {c : Criteria} (hfield : c.field = .id) (place : α → SortKeys)
    {rows : List α} (hsorted : (rows.map fun r => (place r).id).Pairwise (· < ·)) :
    (c.select place rows).map (fun r => (place r).id) =
      c.cut ((rows.map fun r => (place r).id).filter c.within) := by
  have hkey : ∀ r, c.key (place r) = (place r).id := fun r => by rw [Criteria.key, hfield]
  have hbefore : (rows.filter fun r => c.within (place r).id).Pairwise fun a b =>
      c.precedes (place a).id (place b).id = true := by
    -- filtered or not, the identifiers ascend
    refine ((List.pairwise_map.1 hsorted).sublist List.filter_sublist).imp fun hlt => ?_
    rw [Criteria.precedes_iff, Criteria.Before, hfield]
    exact Nat.lt_asymm hlt
  simp only [Criteria.select, hkey]
  -- so the order of the criteria leaves the rows where they are
  rw [List.mergeSort_of_pairwise hbefore, List.filter_map, Criteria.cut, Criteria.cut]
  split
  · -- no limit
    rfl
  · -- the first rows, as many as the limit says
    exact List.map_take

/-- Rows that stand in the order of two numbers already. -/
theorem sortByPair_of_pairwise {α : Type} {first second : α → Nat} {rows : List α} {n : Nat}
    (hfirst : ∀ r ∈ rows, first r = n) (hsecond : rows.Pairwise fun a b => second a < second b) :
    sortByPair (fun r => (first r, second r)) rows = rows := by
  refine List.mergeSort_of_pairwise (hsecond.imp_of_mem fun ha hb hlt => ?_)
  rw [decide_eq_true_eq]
  exact .inr ⟨(hfirst _ ha).trans (hfirst _ hb).symm, Nat.le_of_lt hlt⟩

/-- A listing by identifier shows the first identifiers within the bounds. -/
theorem list_eq (hs : s.Numbered) (sc : Scope) {c : Criteria} (hfield : c.field = .id) :
    sc.list s c = c.cut ((sc.ids s).filter c.within) := by
  -- the identifiers ascend, whatever the scope is
  have hsorted : (sc.ids s).Pairwise (· < ·) := by
    rw [ids_eq_range' hs]
    exact List.pairwise_lt_range' 1
  cases sc with
  | channels => exact map_select hfield Channel.sortKeys hsorted
  | posts channelId => exact map_select hfield Post.sortKeys hsorted
  | comments channelId postId hchannel hpost =>
    -- a comment is filtered by both of its numbers, neither of which is zero
    have hfilter : (s.comments.filter fun x =>
          matchesId channelId x.channelId && matchesId postId x.postId) =
        s.comments.filter fun x => x.channelId == channelId && x.postId == postId := by
      refine List.filter_congr fun x _ => ?_
      rw [Bool.eq_iff_iff, Bool.and_eq_true, matchesId_iff, matchesId_iff]
      simp [Meets, hchannel, hpost]
    -- of one post, so that the first number of the order decides nothing
    have hpostId : ∀ x ∈ s.comments.filter (fun x =>
        x.channelId == channelId && x.postId == postId), x.postId = postId := by
      intro x hx
      have hx := (List.mem_filter.1 hx).2
      rw [Bool.and_eq_true, beq_iff_eq, beq_iff_eq] at hx
      exact hx.2
    rw [list, listComments, hfilter, baseOrder, if_pos (by simpa using hchannel),
      @sortByPair_of_pairwise Comment _ _ _ _ hpostId (List.pairwise_map.1 hsorted), List.map_map]
    exact map_select hfield Comment.sortKeys hsorted

/-- A cursor is sent as it stands, and a zero sets no bound. -/
theorem positive?_ofNat {n : Nat} (h : n < 2 ^ 63) :
    Criteria.positive? (.ofNat n) = if n = 0 then none else some (.ofNat n) := by
  -- a number below the sign bit is itself as a signed word
  have hpos : 0 < Int64.ofNat n ↔ n ≠ 0 := by
    rw [Int64.lt_iff_toInt_lt, Int64.toInt_ofNat_of_lt h]
    show (0 : Int) < n ↔ _
    omega
  rw [Criteria.positive?]
  by_cases hzero : n = 0
  · rw [if_neg fun hlt => hpos.1 hlt hzero, if_pos hzero]
  · rw [if_pos (hpos.2 hzero), if_neg hzero]
    rfl

/-- A query answers the next identifiers from `lower` on, as many as there are of those asked
for. -/
theorem query_eq (hs : s.Numbered) (sc : Scope) {count : Int64} (hcount : 0 < count) {lower : Nat}
    (hlower : lower < 2 ^ 63) :
    sc.query s (.ofNat lower) count =
      List.range' (max 1 lower)
        (min count.toNatClampNeg ((sc.ids s).length + 1 - max 1 lower)) := by
  -- what the request comes to
  let c : Criteria :=
    { field := .id, lower := Criteria.positive? (.ofNat lower), upper := none
      limit := some count.toUInt64 }
  have hlimit : Criteria.positive? count = some count.toUInt64 := if_pos hcount
  have hwire : Criteria.ofWire? 1 0 (.ofNat lower) count = some c := by
    rw [Criteria.ofWire?, hlimit]
    rfl
  -- only the lower bound bounds
  have hwithin : c.within = fun n => decide (lower ≤ n) := by
    funext n
    rw [Bool.eq_iff_iff, Criteria.within_iff hwire, decide_eq_true_eq]
    simp only [Criteria.Bounds, c, positive?_ofNat hlower]
    split
    · simp_all
    · have hword : (UInt64.ofNat lower).toNat = lower := Nat.mod_eq_of_lt (by omega)
      simp [hword]
  -- the count as a number
  have hnumber : count.toUInt64.toNat = count.toNatClampNeg := by
    have hsigned : count.toInt = count.toUInt64.toNat := Criteria.toInt_of_positive? hlimit
    rw [Int64.toNatClampNeg, hsigned, Int.toNat_natCast]
  rw [query, hwire]
  show sc.list s c = _
  rw [list_eq hs sc rfl, hwithin, ids_eq_range' hs, filter_le_range', List.length_range']
  show List.take count.toUInt64.toNat _ = _
  rw [hnumber, take_range']

end Query

/-! ## Sessions by their numbers -/

/-- The answers to a client that asks for `k` of consecutive numbers from `start` on, given how many
there are at each query. -/
def pages (k start : Nat) : (sizes : List Nat) → List (List Nat)
  | [] => []
  | size :: sizes =>
    let found := min k (size + 1 - start)
    List.range' start found :: if found = 0 then [] else pages k (start + found) sizes

/-- How many rows there are before each gap and after the last one. -/
def sizes (sc : Scope) (s : Store) : (gaps : List (List Operation)) → List Nat
  | [] => [(sc.ids s).length]
  | gap :: gaps => (sc.ids s).length :: sc.sizes (s.after gap) gaps

/-- The operations of all gaps are those of the first one and of the others. -/
theorem after_flatten_cons (s : Store) (gap : List Operation) (gaps : List (List Operation)) :
    s.after (gap :: gaps).flatten = (s.after gap).after gaps.flatten := by
  rw [List.flatten_cons, after, List.foldl_append]
  rfl

section Sizes

variable {sc : Scope} {s : Store} {gaps : List (List Operation)}

/-- There is one more size than gaps. -/
theorem length_sizes : (sc.sizes s gaps).length = gaps.length + 1 := by
  induction gaps generalizing s with
  | nil => rfl
  | cons gap gaps ih => rw [sizes, List.length_cons, ih, List.length_cons]

/-- There are never fewer rows than at first, nor more than at last. -/
theorem le_of_mem_sizes {n : Nat} (hn : n ∈ sc.sizes s gaps) :
    (sc.ids s).length ≤ n ∧ n ≤ (sc.ids (s.after gaps.flatten)).length := by
  induction gaps generalizing s with
  | nil =>
    obtain rfl : n = (sc.ids s).length := List.mem_singleton.1 hn
    exact ⟨Nat.le_refl _, Nat.le_refl _⟩
  | cons gap gaps ih =>
    have hgap := length_ids_le_after s gap sc
    have hgaps := length_ids_le_after (s.after gap) gaps.flatten sc
    rw [after_flatten_cons]
    -- the size before the first gap, or a later one
    rcases List.mem_cons.1 hn with rfl | hmore
    · omega
    · have hrest := ih hmore
      omega

/-- The sizes never go down. -/
theorem pairwise_sizes : (sc.sizes s gaps).Pairwise (· ≤ ·) := by
  induction gaps generalizing s with
  | nil => exact List.pairwise_singleton _ _
  | cons gap gaps ih =>
    have hgap := length_ids_le_after s gap sc
    refine List.pairwise_cons.2 ⟨fun n hn => ?_, ih⟩
    exact Nat.le_trans hgap (le_of_mem_sizes hn).1

/-- The first size is that of the scope as it is. -/
theorem exists_sizes_eq_cons : ∃ more, sc.sizes s gaps = (sc.ids s).length :: more := by
  cases gaps with
  | nil => exact ⟨[], rfl⟩
  | cons gap gaps => exact ⟨_, rfl⟩

end Sizes

/-- A session depends on the numbers of rows only. -/
theorem session_eq_pages (sc : Scope) {count : Int64} (hcount : 0 < count)
    {gaps : List (List Operation)} {s : Store} (hs : s.Numbered)
    -- the last size is the greatest, and there is a cursor for it
    (hroom : (sc.ids (s.after gaps.flatten)).length + 1 < 2 ^ 63) {lower : Nat}
    (hlower : lower ≤ (sc.ids s).length + 1) :
    sc.session count s lower gaps =
      pages count.toNatClampNeg (max 1 lower) (sc.sizes s gaps) := by
  induction gaps generalizing s lower with
  | nil =>
    have hsize : (sc.ids s).length + 1 < 2 ^ 63 := hroom
    rw [session, query_eq hs sc hcount (by omega)]
    simp only [sizes, pages, ite_self]
  | cons gap gaps ih =>
    have hgap := length_ids_le_after s gap sc
    have hgaps := length_ids_le_after (s.after gap) gaps.flatten sc
    rw [after_flatten_cons] at hroom
    rw [session, query_eq hs sc hcount (by omega), sizes, pages]
    by_cases hfound :
        min count.toNatClampNeg ((sc.ids s).length + 1 - max 1 lower) = 0
    · -- nothing was found, and the client stops
      simp only [List.getLast?_range', hfound, if_true]
    · -- the cursor moves behind the last row that was found
      simp only [List.getLast?_range', if_neg hfound]
      rw [ih (hs.after gap) hroom (by omega)]
      congr 2
      omega

/-! ## What a session gets -/

section Pages

variable {k : Nat}

/-- The answers follow on one another. -/
theorem flatten_pages (k start : Nat) (sizes : List Nat) :
    ∃ n, (pages k start sizes).flatten = List.range' start n := by
  induction sizes generalizing start with
  | nil => exact ⟨0, rfl⟩
  | cons size sizes ih =>
    rw [pages, List.flatten_cons]
    split
    · -- the client stops here
      exact ⟨_, List.append_nil _⟩
    · -- the next answer starts where this one ended
      obtain ⟨n, hn⟩ := ih (start + min k (size + 1 - start))
      exact ⟨_, by rw [hn, List.range'_append_1]⟩

/-- A client that got nothing had asked from behind the last row on. -/
theorem lt_of_getLast?_pages (hk : 0 < k) {start size n : Nat} {sizes : List Nat}
    (hgrow : (size :: sizes).Pairwise (· ≤ ·))
    (h : (pages k start (size :: sizes)).getLast? = some [])
    (hn : (pages k start (size :: sizes)).flatten.length = n) : size < start + n := by
  induction sizes generalizing start size n with
  | nil =>
    simp only [pages, ite_self, List.getLast?_singleton, Option.some_inj] at h
    have hfound : min k (size + 1 - start) = 0 := by simpa using congrArg List.length h
    omega
  | cons next sizes ih =>
    rw [pages] at h hn
    split at h
    · -- nothing was found, so that the count is over the last row
      omega
    · rename_i hfound
      obtain ⟨hle, hrest⟩ := List.pairwise_cons.1 hgrow
      have hnext := hle next List.mem_cons_self
      -- this answer and those behind it
      rw [if_neg hfound, List.flatten_cons, List.length_append, List.length_range'] at hn
      have hlast : (pages k (start + min k (size + 1 - start)) (next :: sizes)).getLast? =
          some [] := by
        rw [pages] at h ⊢
        exact h
      have hlt := ih hrest hlast rfl
      omega

/-- With so many rows left, one of the queries for `k` of them takes one page off. -/
theorem pages_left (hk : 0 < k) {left : Nat} (hleft : 0 < left) :
    (left + k - 1) / k = (left - min k left + k - 1) / k + 1 := by
  rcases Nat.le_total left k with hle | hge
  · -- the last page
    have hlast : (left + k - 1) / k = 1 := Nat.div_eq_of_lt_le (by omega) (by omega)
    have hnone : (left - min k left + k - 1) / k = 0 := Nat.div_eq_of_lt (by omega)
    rw [hlast, hnone]
  · -- a whole page, and others behind it
    rw [Nat.min_eq_left hge, ← Nat.add_div_right _ hk]
    congr 1
    omega

/-- Of a table that does not grow, a client has all rows after as many queries as they take, and one
more tells it so. -/
theorem length_pages (hk : 0 < k) {size : Nat} {sizes : List Nat} (start : Nat)
    (hsame : ∀ n ∈ sizes, n = size) :
    (pages k start sizes).length ≤ (size + 1 - start + k - 1) / k + 1 ∧
      ((size + 1 - start + k - 1) / k < sizes.length →
        (pages k start sizes).getLast? = some []) := by
  induction sizes generalizing start with
  | nil => simp [pages]
  | cons first sizes ih =>
    obtain rfl : first = size := hsame first List.mem_cons_self
    obtain ⟨hlength, hlast⟩ := ih (start + min k (first + 1 - start))
      fun n hn => hsame n (List.mem_cons_of_mem _ hn)
    rw [pages]
    split
    · -- nothing is left to ask for
      rename_i hnone
      rw [hnone]
      simp
    · -- a page is taken off, and the others follow by the induction
      rename_i hfound
      have hleft : first + 1 - (start + min k (first + 1 - start)) =
          first + 1 - start - min k (first + 1 - start) := by omega
      rw [hleft] at hlength hlast
      rw [pages_left hk (by omega : 0 < first + 1 - start)]
      refine ⟨Nat.succ_le_succ hlength, fun hmore => ?_⟩
      have hrest := hlast (Nat.lt_of_succ_lt_succ hmore)
      rw [List.getLast?_cons, hrest]
      rfl

end Pages

/-- A client that pages through a table by identifier, from the first row on, gets every row once
that was there when it began, in the order of the identifiers, whatever is done to the store between
its queries. Of a table of `n` rows to which none is added it has all by `k` at a time after `n / k`
queries, rounded up, and with one more it knows. (The cursor is a signed word: the identifier behind
the last row must be one.) -/
theorem session_complete (ops : List Operation) (sc : Scope) {count : Int64} (hcount : 0 < count)
    (gaps : List (List Operation))
    (hroom : (sc.ids ((empty.after ops).after gaps.flatten)).length + 1 < 2 ^ 63) :
    let s := empty.after ops
    let answers := sc.session count s 0 gaps
    let n := (sc.ids s).length
    let k := count.toNatClampNeg
    answers.flatten.Pairwise (· < ·) ∧
      (answers.getLast? = some [] → ∀ id ∈ sc.ids s, answers.flatten.count id = 1) ∧
      ((sc.ids (s.after gaps.flatten)).length = n →
        answers.length ≤ (n + k - 1) / k + 1 ∧
          ((n + k - 1) / k ≤ gaps.length → answers.getLast? = some [])) := by
  intro s answers n k
  have hs : s.Numbered := numbered_empty.after ops
  have hk : 0 < k := by
    have hpos : 0 < count.toInt := Int64.lt_iff_toInt_lt.1 hcount
    show 0 < count.toInt.toNat
    omega
  -- the answers are settled by the sizes
  have hanswers : answers = pages k 1 (sc.sizes s gaps) :=
    sc.session_eq_pages hcount hs hroom (Nat.zero_le _)
  obtain ⟨m, hm⟩ := flatten_pages k 1 (sc.sizes s gaps)
  rw [hanswers, hm]
  refine ⟨List.pairwise_lt_range' 1, fun hlast id hid => ?_, fun hsame => ?_⟩
  · -- what was received goes as far as the first row that was not there at the beginning
    obtain ⟨more, hsizes⟩ : ∃ more, sc.sizes s gaps = (sc.ids s).length :: more :=
      exists_sizes_eq_cons
    have hlength := congrArg List.length hm
    rw [List.length_range', hsizes] at hlength
    rw [hsizes] at hlast
    have hlt := lt_of_getLast?_pages hk (hsizes ▸ pairwise_sizes) hlast hlength
    rw [ids_eq_range' hs, List.mem_range'_1] at hid
    refine List.count_eq_one_of_mem (List.nodup_range' 1) (List.mem_range'_1.2 ⟨hid.1, ?_⟩)
    omega
  · -- a table to which nothing is added has one size
    have hconstant : ∀ size ∈ sc.sizes s gaps, size = n := by
      intro size hsize
      have hbounds := le_of_mem_sizes hsize
      omega
    obtain ⟨hlength, hlast⟩ := length_pages hk 1 hconstant
    rw [length_sizes, Nat.add_sub_cancel] at hlast
    rw [Nat.add_sub_cancel] at hlength
    exact ⟨hlength, fun hgaps => hlast (Nat.lt_succ_of_le hgaps)⟩

/-- Channels under some names. -/
def creations (names : List String) : List Operation :=
  names.map fun name => .createChannel 0 { (default : ChannelDraft) with name }

/-- Three channels by two at a time, while a fourth one is created after the first query: the client
gets all four. -/
theorem session_complete_channels :
    let s := empty.after (creations ["a", "b", "c"])
    let answers := channels.session 2 s 0 [creations ["d"], []]
    answers = [[1, 2], [3, 4], []] ∧ answers.flatten.Pairwise (· < ·) ∧
      ∀ id ∈ channels.ids s, answers.flatten.count id = 1 := by
  intro s answers
  -- the answers, and what the main result says of them
  have hanswers : answers = [[1, 2], [3, 4], []] :=
    (channels.session_eq_pages (by decide) (numbered_empty.after _) (by decide)
      (Nat.zero_le _)).trans (by decide)
  obtain ⟨hincreasing, hreceived, -⟩ :=
    session_complete (creations ["a", "b", "c"]) channels (by decide : (0 : Int64) < 2)
      [creations ["d"], []] (by decide)
  exact ⟨hanswers, hincreasing, hreceived (congrArg List.getLast? hanswers)⟩

end Scope

end FeedNode.Feed
