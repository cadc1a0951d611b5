import FeedNode.Proofs.Feed.Operation

/-!
# Who subscribes to what

Of all operations two change who subscribes to what, each for the one pair of a user and a channel
that it names.

Main statement: `Store.isSubscribed_apply`.
-/

namespace FeedNode.Feed

/-- Whether a user subscribes to a channel after an operation, given whether it did before. -/
def Operation.subscribed (userId channelId : Nat) (before : Bool) : Operation → Bool
  | .subscribe _ u c => before || (u == userId && c == channelId)
  | .unsubscribe u c => before && !(u == userId && c == channelId)
  | _ => before

namespace Store

variable {s s' : Store} {userId channelId : Nat}

/-- Who subscribes to what depends on the subscriptions only. -/
theorem isSubscribed_congr (h : s'.subscriptions = s.subscriptions) :
    s'.isSubscribed userId channelId = s.isSubscribed userId channelId := by
  rw [isSubscribed, isSubscribed, h]

/-- With the same rows the same users subscribe to the same channels. -/
theorem SameRows.isSubscribed (h : s.SameRows s') (userId channelId : Nat) :
    s'.isSubscribed userId channelId = s.isSubscribed userId channelId :=
  isSubscribed_congr h.subscriptions

/-- The channels that a user is taken to follow are those that it subscribes to. -/
theorem mem_subscribedIds :
    channelId ∈ s.subscribedIds userId ↔ s.isSubscribed userId channelId = true := by
  simp only [subscribedIds, isSubscribed, List.mem_mergeSort, List.mem_map, List.mem_filter,
    List.any_eq_true, Bool.and_eq_true, beq_iff_eq, and_assoc]

/-- Without the rows of one pair nobody else loses a subscription. -/
theorem any_filter_pair (rows : List Subscription) (u c : Nat) :
    ((rows.filter fun x => !(x.userId == u && x.channelId == c)).any fun x =>
        x.userId == userId && x.channelId == channelId) =
      ((rows.any fun x => x.userId == userId && x.channelId == channelId) &&
        !(u == userId && c == channelId)) := by
  rw [List.any_filter]
  by_cases hpair : u = userId ∧ c = channelId
  · -- the pair itself is gone
    obtain ⟨rfl, rfl⟩ := hpair
    simp [Bool.and_comm]
  · -- the row of another pair is kept
    have hother : (u == userId && c == channelId) = false := by simpa using hpair
    have hkept (x : Subscription) :
        (!(x.userId == u && x.channelId == c) &&
            (x.userId == userId && x.channelId == channelId)) =
          (x.userId == userId && x.channelId == channelId) := by
      by_cases hx : x.userId = userId ∧ x.channelId = channelId
      · obtain ⟨rfl, rfl⟩ := hx
        have hdropped : (x.userId == u && x.channelId == c) = false := by
          simpa using fun (hu : x.userId = u) (hc : x.channelId = c) => hpair ⟨hu.symm, hc.symm⟩
        rw [hdropped, Bool.not_false, Bool.true_and]
      · have hnot : (x.userId == userId && x.channelId == channelId) = false := by simpa using hx
        rw [hnot, Bool.and_false]
    simp only [hother, hkept, Bool.not_false, Bool.and_true]

/-- Counting likes leaves the subscriptions. -/
theorem updateLikes_subscriptions (channelId postId commentId : Nat) (f : Nat → Nat) :
    (s.updateLikes channelId postId commentId f).subscriptions = s.subscriptions := by
  rw [updateLikes]
  split <;> rfl

/-- After an operation a user subscribes to a channel if it did before, unless the operation names
the two. -/
theorem isSubscribed_apply (op : Operation) (h : op.apply s = .ok s') (userId channelId : Nat) :
    s'.isSubscribed userId channelId =
      op.subscribed userId channelId (s.isSubscribed userId channelId) := by
  cases op with
  | upsertUser u =>
    rw [← Except.ok.inj h]
    exact (sameRows_upsertUser s u).isSubscribed userId channelId
  | createChannel now d =>
    obtain ⟨-, rfl⟩ := createChannel_ok h
    rfl
  | publishPost now c d =>
    obtain ⟨channel, -, rfl⟩ := publishPost_ok h
    rfl
  | editPost now c p d =>
    obtain ⟨post, -, -, rfl⟩ := editPost_ok h
    rfl
  | deletePost now c p =>
    obtain ⟨post, -, -, rfl⟩ := deletePost_ok h
    rfl
  | postComment now author c p r d =>
    obtain ⟨post, -, -, rfl⟩ := postComment_ok h
    rfl
  | editComment now u c p k d =>
    obtain ⟨comment, -, -, -, rfl⟩ := editComment_ok h
    rfl
  | deleteComment now u isOwner c p k =>
    obtain ⟨comment, -, -, -, rfl⟩ := deleteComment_ok h
    rfl
  | setBlocked now c p k blocked =>
    obtain ⟨comment, -, -, rfl⟩ := setBlocked_ok h
    rfl
  -- likes change counters, which are no subscriptions
  | like now u c p k =>
    obtain ⟨-, -, row, -, rfl⟩ := like_ok h
    exact isSubscribed_congr (updateLikes_subscriptions c p k _)
  | unlike u c p k =>
    obtain ⟨-, -, rfl⟩ := unlike_ok h
    exact isSubscribed_congr (updateLikes_subscriptions c p k _)
  | subscribe now u c =>
    -- the new row stands behind the others
    obtain ⟨-, -, row, rfl, rfl⟩ := subscribe_ok h
    simp [isSubscribed, updateChannel, Operation.subscribed]
  | unsubscribe u c =>
    obtain ⟨-, -, rfl⟩ := unsubscribe_ok h
    exact any_filter_pair s.subscriptions u c

end Store

end FeedNode.Feed
