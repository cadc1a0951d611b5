import FeedNode.Proofs.Auth.Saved
import Mathlib.Algebra.Group.Nat.Defs

/-!
# User identifiers

An identifier that was given to one DID is not given to another as long as the memory lasts. A new
start forgets the identifiers that no token bears, and goes on with the number after the greatest
one that is left: so an identifier is given a second time only after a new start that found no token
with it or with a greater one (`userId_again`). That this happens is shown by a run beside it.

While ids are given out without a new start, the next number is greater than all that are known, and
no two DIDs are known under one number (`Counted`). The number of one DID is its own (`Taken`) until
such a new start.
-/

namespace FeedNode.Auth.Resolver

open Feed (User)

/-! ## What is known of identifiers -/

/-- The DID is known under the identifier: to the memory, by a token, or as the owner's. -/
inductive Known (r : Resolver) (did : String) (userId : Nat) : Prop where
  | listed (h : r.userIds.get? did = some userId)
  | borne {token : String} {u : User} (h : r.tokens.get? token = some u) (hdid : u.did = did)
      (hid : u.userId = userId)
  | owned (howner : r.owner = some did) (hid : userId = ownerUserId)

/-- The step gives an identifier to a DID that has none. -/
def allocates (r : Resolver) : Step → Bool
  | .didAuth name presentation =>
    match r.didAuth name presentation with
    | .ok ((_, u), _) => !r.isOwner u.did && (r.userIds.get? u.did).isNone
    | .error _ => false
  | _ => false

/-- How many identifiers some steps give out. -/
def allocations (r : Resolver) : List Step → Nat
  | [] => 0
  | s :: steps => (r.allocates s).toNat + (r.step s).allocations steps

/-- Some steps and then some more give out what either give out. -/
theorem allocations_append (r : Resolver) (steps steps' : List Step) :
    r.allocations (steps ++ steps') =
      r.allocations steps + (r.after steps).allocations steps' := by
  induction steps generalizing r with
  | nil => simp [allocations, after]
  | cons s steps ih =>
    rw [List.cons_append, allocations, allocations, ih, Nat.add_assoc]
    rfl

/-- A step gives out one at most. -/
theorem allocations_le_length (r : Resolver) (steps : List Step) :
    r.allocations steps ≤ steps.length := by
  induction steps generalizing r with
  | nil => exact Nat.le_refl 0
  | cons s steps ih =>
    have hrest := ih (r.step s)
    have hone := Bool.toNat_le (r.allocates s)
    rw [allocations, List.length_cons]
    omega

/-- The identifiers that are known, after some were given out. -/
structure Counted (given : Nat) (r : Resolver) : Prop where
  two_le : 2 ≤ r.nextUserId.toNat
  next_le : r.nextUserId.toNat ≤ 2 + given
  lt : ∀ did userId, r.Known did userId → userId < r.nextUserId.toNat
  unique : ∀ did did' userId, r.Known did userId → r.Known did' userId → did = did'
  owner : ∀ did, r.Known did ownerUserId → r.owner = some did

/-- The identifier belongs to the DID. -/
structure Taken (did : String) (userId : Nat) (r : Resolver) : Prop where
  lt : userId < r.nextUserId.toNat
  owner : userId = ownerUserId → r.owner = some did
  only : ∀ did', r.Known did' userId → did' = did

section Steps

variable {r r' : Resolver} {given : Nat}

/-- What is known depends on the identifiers, the tokens and the owner only. -/
theorem Known.congr {did : String} {userId : Nat} (h : r'.Known did userId)
    (hids : r'.userIds = r.userIds) (htokens : r'.tokens = r.tokens)
    (howner : r'.owner = r.owner) : r.Known did userId := by
  cases h with
  | listed h => exact .listed (hids ▸ h)
  | borne h hdid hid => exact .borne (htokens ▸ h) hdid hid
  | owned h hid => exact .owned (howner ▸ h) hid

/-- What is known after a sign-in was known, or is what the sign-in found. -/
theorem Issued.known {presentation token : String} {u : User}
    (h : r.Issued presentation token u r') {did : String} {userId : Nat}
    (hknown : r'.Known did userId) :
    r.Known did userId ∨ did = u.did ∧ userId = u.userId := by
  cases hknown with
  -- the identifier of a DID
  | listed hget =>
    rw [h.userIds] at hget
    rcases r.get?_of_userIdFor hget with hold | ⟨hdid, hid⟩
    · exact .inl (.listed hold)
    · exact .inr ⟨hdid, hid.trans h.userId⟩
  -- the identifier of a token
  | borne hget hdid hid =>
    rw [h.tokens, Dict.get?_insert] at hget
    split at hget
    · -- the new token
      obtain rfl := Option.some.inj hget
      exact .inr ⟨hdid.symm, hid.symm⟩
    · exact .inl (.borne hget hdid hid)
  -- the owner's
  | owned howner hid => exact .inl (.owned (h.owner ▸ howner) hid)

/-- What is known after a token was revoked was known before. -/
theorem Known.of_revoke {token did : String} {userId : Nat}
    (h : (r.revoke token).Known did userId) : r.Known did userId := by
  cases h with
  | listed hget => exact .listed (by rwa [revoke, save_userIds] at hget)
  | borne hget hdid hid =>
    rw [revoke, save_tokens, Dict.get?_erase] at hget
    split at hget
    · -- the token itself says nothing any more
      cases hget
    · exact .borne hget hdid hid
  | owned howner hid => exact .owned (by rwa [revoke, save_owner] at howner) hid

/-- What is known after the declaration of the owner was known, or is the owner's number. -/
theorem Known.of_declared {did₀ did : String} {userId : Nat}
    (h : ({ r with owner := some did₀ }.save).Known did userId) :
    r.Known did userId ∨ did = did₀ ∧ userId = ownerUserId := by
  cases h with
  | listed hget => exact .inl (.listed (by rwa [save_userIds] at hget))
  | borne hget hdid hid => exact .inl (.borne (by rwa [save_tokens] at hget) hdid hid)
  | owned howner hid =>
    rw [save_owner] at howner
    exact .inr ⟨(Option.some.inj howner).symm, hid⟩

/-- What a new start knows was known, and is borne by a token unless it is the owner's. -/
theorem Reloaded.known (h : r.Reloaded r') {did : String} {userId : Nat}
    (hknown : r'.Known did userId) :
    r.Known did userId ∧
      (userId = ownerUserId ∨ ∃ token u, r.tokens.get? token = some u ∧ u.userId = userId) := by
  cases hknown with
  | listed hget =>
    obtain ⟨-, token, u, hu, hdid, hid⟩ := h.userIds did userId hget
    exact ⟨.borne hu hdid hid, .inr ⟨token, u, hu, hid⟩⟩
  | borne hget hdid hid =>
    rw [h.tokens] at hget
    exact ⟨.borne hget hdid hid, .inr ⟨_, _, hget, hid⟩⟩
  | owned howner hid => exact ⟨.owned (h.owner ▸ howner) hid, .inl hid⟩

/-- A new resolver knows no identifiers. -/
theorem counted_start : start.Counted 0 where
  two_le := Nat.le_refl 2
  next_le := Nat.le_refl 2
  lt did userId h := by cases h <;> contradiction
  unique did did' userId h := by cases h <;> contradiction
  owner did h := by cases h <;> contradiction

/-- A number that is known is not the greatest word. -/
theorem Counted.toNat_wordAfter (h : r.Counted given) {did : String} {userId : Nat}
    (hknown : r.Known did userId) : (wordAfter userId).toNat = userId + 1 := by
  have hlt := h.lt did userId hknown
  have hnext := r.nextUserId.toNat_lt
  refine Resolver.toNat_wordAfter ?_
  have hsize : UInt64.size = 2 ^ 64 := rfl
  omega

/-- A sign-in finds an identifier that is known, and the next stays the next; or it gives out the
next. -/
theorem Issued.userId_cases {presentation token : String} {u : User}
    (h : r.Issued presentation token u r') (hr : r.Counted given)
    (hroom : r.isOwner u.did = false → r.userIds.get? u.did = none →
      r.nextUserId.toNat + 1 < 2 ^ 64) :
    (r.Known u.did u.userId ∧ r'.nextUserId = r.nextUserId) ∨
    (u.userId = r.nextUserId.toNat ∧ r'.nextUserId.toNat = r.nextUserId.toNat + 1 ∧
      r.isOwner u.did = false ∧ r.userIds.get? u.did = none) := by
  have hid := h.userId
  have hnext := congrArg UInt64.toNat h.nextUserId
  rw [toNat_max] at hnext
  obtain ⟨howner, heq⟩ | ⟨-, userId, hget, heq⟩ | ⟨howner, hnone, heq⟩ := r.userIdFor_cases u.did
  · -- the owner, whose identifier is behind the next one
    rw [heq] at hid hnext
    dsimp only at hid hnext
    have htwo := hr.two_le
    have hword : (wordAfter u.userId).toNat = 2 := by
      rw [← hid]
      rfl
    exact .inl ⟨.owned howner hid.symm, UInt64.toNat_inj.1 (by omega)⟩
  · -- a DID that is known
    rw [heq] at hid hnext
    dsimp only at hid hnext
    have hknown : r.Known u.did u.userId := .listed (hget.trans (congrArg some hid))
    have hword := hr.toNat_wordAfter hknown
    have hlt := hr.lt _ _ hknown
    exact .inl ⟨hknown, UInt64.toNat_inj.1 (by omega)⟩
  · -- a DID that is not, which is given the next one
    have hisOwner : r.isOwner u.did = false := by simpa [isOwner] using howner
    have hroom := hroom hisOwner hnone
    rw [heq] at hid hnext
    dsimp only at hid hnext
    have hadd : (r.nextUserId + 1).toNat = r.nextUserId.toNat + 1 := by
      rw [UInt64.toNat_add]
      exact Nat.mod_eq_of_lt hroom
    -- the next one is behind it again
    have hword : (wordAfter u.userId).toNat = u.userId + 1 := by
      rw [← hid]
      exact toNat_wordAfter hroom
    rw [hadd, hword] at hnext
    exact .inr ⟨hid.symm, by omega, hisOwner, hnone⟩

/-- A sign-in of a DID that is not the owner and has no identifier gives one out. -/
theorem allocates_of_fresh {name presentation token : String} {u : User}
    (hok : r.didAuth name presentation = .ok ((token, u), r')) (howner : r.isOwner u.did = false)
    (hnone : r.userIds.get? u.did = none) : r.allocates (.didAuth name presentation) = true := by
  simp [allocates, hok, howner, hnone]

/-- There is a next number if fewer were given out than there are. -/
theorem Counted.room (h : r.Counted given) {name presentation token : String} {u : User}
    (hok : r.didAuth name presentation = .ok ((token, u), r'))
    (hgiven : given + (r.allocates (.didAuth name presentation)).toNat < 2 ^ 64 - 2)
    (howner : r.isOwner u.did = false) (hnone : r.userIds.get? u.did = none) :
    r.nextUserId.toNat + 1 < 2 ^ 64 := by
  have hle := h.next_le
  rw [allocates_of_fresh hok howner hnone, Bool.toNat_true] at hgiven
  omega

/-- A step that makes nothing known and gives nothing out. -/
theorem Counted.of_known (h : r.Counted given) (more : Nat)
    (hnext : r'.nextUserId = r.nextUserId) (howner : r'.owner = r.owner)
    (hknown : ∀ did userId, r'.Known did userId → r.Known did userId) :
    r'.Counted (given + more) where
  two_le := hnext ▸ h.two_le
  next_le := by
    have hle := h.next_le
    rw [hnext]
    omega
  lt did userId hk := hnext ▸ h.lt did userId (hknown did userId hk)
  unique did did' userId hk hk' := h.unique did did' userId (hknown _ _ hk) (hknown _ _ hk')
  owner did hk := howner ▸ h.owner did (hknown _ _ hk)

/-- One DID becomes known under one number, which was nobody's. -/
theorem Counted.of_new (h : r.Counted given) (did₀ : String) (userId₀ : Nat) {more : Nat}
    (hnext : r.nextUserId.toNat ≤ r'.nextUserId.toNat)
    (hle : r'.nextUserId.toNat ≤ 2 + (given + more)) (hlt : userId₀ < r'.nextUserId.toNat)
    (hnew : ∀ did userId, r'.Known did userId →
      r.Known did userId ∧ userId ≠ userId₀ ∨ did = did₀ ∧ userId = userId₀)
    (howner : userId₀ ≠ ownerUserId → r'.owner = r.owner)
    (howner₀ : userId₀ = ownerUserId → r'.owner = some did₀) : r'.Counted (given + more) where
  two_le := Nat.le_trans h.two_le hnext
  next_le := hle
  lt did userId hk := by
    -- an old identifier is below the old count
    rcases hnew did userId hk with ⟨hold, -⟩ | ⟨-, rfl⟩
    · exact Nat.lt_of_lt_of_le (h.lt did userId hold) hnext
    · exact hlt
  unique did did' userId hk hk' := by
    -- both are known from before
    rcases hnew did userId hk with ⟨hold, hne⟩ | ⟨rfl, heq⟩
    · rcases hnew did' userId hk' with ⟨hold', -⟩ | ⟨-, heq'⟩
      · exact h.unique did did' userId hold hold'
      · exact absurd heq' hne
    · -- one of them is the new DID, whose number is new
      rcases hnew did' userId hk' with ⟨-, hne'⟩ | ⟨rfl, -⟩
      · exact absurd heq hne'
      · rfl
  owner did hk := by
    rcases hnew did ownerUserId hk with ⟨hold, hne⟩ | ⟨rfl, heq⟩
    · exact (howner (Ne.symm hne)).trans (h.owner did hold)
    · exact howner₀ heq.symm

/-- A sign-in counts one more identifier if it gave one out. -/
theorem Counted.issued (h : r.Counted given) {name presentation token : String} {u : User}
    (hok : r.didAuth name presentation = .ok ((token, u), r'))
    (hissued : r.Issued presentation token u r')
    (hgiven : given + (r.allocates (.didAuth name presentation)).toNat < 2 ^ 64 - 2) :
    r'.Counted (given + (r.allocates (.didAuth name presentation)).toNat) := by
  have hle := h.next_le
  have htwo := h.two_le
  rcases hissued.userId_cases h (h.room hok hgiven) with
    ⟨hold, hnext⟩ | ⟨hid, hnext, howner, hnone⟩
  · -- nothing was given out
    refine h.of_known _ hnext hissued.owner fun did userId hk => ?_
    rcases hissued.known hk with hk | ⟨rfl, rfl⟩
    · exact hk
    · exact hold
  · -- the next number was given out, which was nobody's
    have hlt : ∀ did userId, r.Known did userId → userId < u.userId := by
      intro did userId hk
      rw [hid]
      exact h.lt did userId hk
    -- and is not the owner's
    have hone : u.userId ≠ ownerUserId := by
      intro hone
      have hone : u.userId = 1 := hone
      omega
    rw [allocates_of_fresh hok howner hnone, Bool.toNat_true]
    refine h.of_new u.did u.userId (by omega) (by omega) (by omega) (fun did userId hk => ?_)
      (fun _ => hissued.owner) (fun h => absurd h hone)
    rcases hissued.known hk with hold | hfresh
    · exact .inl ⟨hold, Nat.ne_of_lt (hlt did userId hold)⟩
    · exact .inr hfresh

/-- The owner's number was nobody's before there was an owner. -/
theorem Counted.declared (h : r.Counted given) (hnone : r.owner = none) (did : String)
    (more : Nat) : ({ r with owner := some did }.save).Counted (given + more) := by
  have hle := h.next_le
  have htwo := h.two_le
  -- without an owner nobody is known under the owner's number
  have hnobody : ∀ did, ¬r.Known did ownerUserId := by
    intro did hk
    have hsome := h.owner did hk
    rw [hnone] at hsome
    cases hsome
  have hnext : ({ r with owner := some did }.save).nextUserId.toNat = r.nextUserId.toNat :=
    congrArg UInt64.toNat (save_nextUserId _)
  have hone : ownerUserId = 1 := rfl
  refine h.of_new did ownerUserId (by omega) (by omega) (by omega) (fun did' userId hk => ?_)
    (fun hne => absurd rfl hne) fun _ => save_owner _
  rcases hk.of_declared with hk | howned
  · exact .inl ⟨hk, fun heq => hnobody did' (heq ▸ hk)⟩
  · exact .inr howned

/-- A new start knows less, and counts from the greatest number that it knows. -/
theorem Counted.of_reloaded (h : r.Counted given) (hfound : r.Reloaded r') (more : Nat) :
    r'.Counted (given + more) := by
  have hle := h.next_le
  have htwo := hfound.two_le
  -- the count goes no further than it was
  have hnext : r'.nextUserId.toNat ≤ r.nextUserId.toNat := by
    refine hfound.next_le _ h.two_le fun token u hu => ?_
    have hk : r.Known u.did u.userId := .borne hu rfl rfl
    have hlt := h.lt _ _ hk
    rw [h.toNat_wordAfter hk]
    omega
  refine ⟨htwo, by omega, fun did userId hk => ?_, fun did did' userId hk hk' => ?_,
    fun did hk => ?_⟩
  · -- the owner's number, or one that a token bears
    obtain ⟨hold, heq | ⟨token, u, hu, rfl⟩⟩ := hfound.known hk
    · have hone : ownerUserId = 1 := rfl
      omega
    · have hahead := hfound.ahead token u hu
      rw [h.toNat_wordAfter hold] at hahead
      omega
  · -- two DIDs with one number were so before
    exact h.unique did did' userId (hfound.known hk).1 (hfound.known hk').1
  · exact hfound.owner.trans (h.owner did (hfound.known hk).1)

/-- Every step keeps the count. -/
theorem Counted.step (h : r.Counted given) (hs : r.Saved) (s : Step)
    (hgiven : given + (r.allocates s).toNat < 2 ^ 64 - 2) :
    (r.step s).Counted (given + (r.allocates s).toNat) := by
  have hmoves := r.step_moves s
  generalize r.step s = r' at hmoves
  cases hmoves with
  | refused => exact h.of_known _ rfl rfl fun _ _ hk => hk
  -- a challenge makes nothing known
  | signedIn hok hdid hr' =>
    subst hr'
    exact h.of_known _ rfl rfl fun _ _ hk => hk.congr rfl rfl rfl
  | readied ready => exact h.of_known _ rfl rfl fun _ _ hk => hk.congr rfl rfl rfl
  | issued hok hissued => exact h.issued hok hissued hgiven
  | @declared did hnone hdid => exact h.declared hnone (Text.trim did) _
  -- what a revoked token said is forgotten
  | revoked token =>
    exact h.of_known _ (save_nextUserId _) (save_owner _) fun did userId hk => hk.of_revoke
  | reloaded hreload => exact h.of_reloaded (hs.reloaded hreload) _

/-- After a run as many identifiers were given out as its steps gave out. -/
theorem Counted.after (h : r.Counted given) (hs : r.Saved) (steps : List Step)
    (hgiven : given + r.allocations steps < 2 ^ 64 - 2) :
    (r.after steps).Counted (given + r.allocations steps) := by
  induction steps generalizing r given with
  | nil => exact h
  | cons s steps ih =>
    rw [allocations, ← Nat.add_assoc] at hgiven ⊢
    -- the count of the first step is where the rest begins
    exact ih (h.step hs s (by omega)) (hs.step s) hgiven

/-! ## To whom an identifier belongs -/

/-- The identifier that a sign-in finds or gives out belongs to the DID that signed in. -/
theorem Issued.taken {presentation token : String} {u : User}
    (h : r.Issued presentation token u r') (hr' : r'.Counted given) : Taken u.did u.userId r' := by
  -- the new token says so
  have hknown : r'.Known u.did u.userId := by
    have hborne : r'.tokens.get? token = some u := by
      rw [h.tokens, Dict.get?_insert, if_pos rfl]
    exact .borne hborne rfl rfl
  exact ⟨hr'.lt _ _ hknown, fun hone => hr'.owner _ (hone ▸ hknown),
    fun did hk => hr'.unique _ _ _ hk hknown⟩

/-- Every step leaves an identifier to its DID, but for a new start that finds no token with the
identifier or a greater one. -/
theorem Taken.step {did : String} {userId : Nat} (h : Taken did userId r) (hr : r.Counted given)
    (hs : r.Saved) (s : Step) (hgiven : given + (r.allocates s).toNat < 2 ^ 64 - 2) :
    Taken did userId (r.step s) ∨
      s = .reload ∧ ∀ token u, r.tokens.get? token = some u → u.userId < userId := by
  have hlt := h.lt
  have hmoves := r.step_moves s
  generalize r.step s = r' at hmoves
  cases hmoves with
  | refused => exact .inl h
  | signedIn hok hdid hr' =>
    subst hr'
    exact .inl ⟨hlt, h.owner, fun did' hk => h.only did' (hk.congr rfl rfl rfl)⟩
  | readied ready => exact .inl ⟨hlt, h.owner, fun did' hk => h.only did' (hk.congr rfl rfl rfl)⟩
  -- another DID is given the next number, which is greater
  | @issued _ presentation token u _ hok hissued =>
    left
    -- a known identifier was given, or the next one
    rcases hissued.userId_cases hr (hr.room hok hgiven) with ⟨hold, hnext⟩ | ⟨hid, hnext, -⟩
    · refine ⟨hnext ▸ hlt, fun hone => hissued.owner.trans (h.owner hone), fun did' hk => ?_⟩
      rcases hissued.known hk with hk | ⟨rfl, rfl⟩
      · exact h.only did' hk
      · exact h.only u.did hold
    · refine ⟨by omega, fun hone => hissued.owner.trans (h.owner hone), fun did' hk => ?_⟩
      rcases hissued.known hk with hk | ⟨-, heq⟩
      · exact h.only did' hk
      · omega
  -- the owner's number was nobody's
  | @declared did' hnone hdid =>
    have hne : userId ≠ ownerUserId := by
      intro hone
      have hsome := h.owner hone
      rw [hnone] at hsome
      cases hsome
    refine .inl ⟨?_, fun hone => absurd hone hne, fun did'' hk => ?_⟩
    · rw [save_nextUserId]
      exact hlt
    · rcases hk.of_declared with hk | ⟨-, hid⟩
      · exact h.only did'' hk
      · exact absurd hid hne
  -- fewer tokens leave the number to its DID
  | revoked token =>
    refine .inl ⟨?_, fun hone => (save_owner _).trans (h.owner hone),
      fun did' hk => h.only did' hk.of_revoke⟩
    rw [revoke, save_nextUserId]
    exact hlt
  | reloaded hreload =>
    have hfound := hs.reloaded hreload
    by_cases hless : ∀ token u, r.tokens.get? token = some u → u.userId < userId
    · exact .inr ⟨rfl, hless⟩
    · -- the next number is greater than that of the token that is left
      simp only [Classical.not_forall, Nat.not_lt] at hless
      obtain ⟨token, u, hu, hle⟩ := hless
      have hahead := hfound.ahead token u hu
      rw [hr.toNat_wordAfter (.borne hu rfl rfl)] at hahead
      exact .inl ⟨by omega, fun hone => hfound.owner.trans (h.owner hone),
        fun did' hk => h.only did' (hfound.known hk).1⟩

/-- So does every run. -/
theorem Taken.after {did : String} {userId : Nat} (h : Taken did userId r) (hr : r.Counted given)
    (hs : r.Saved) (steps : List Step) (hgiven : given + r.allocations steps < 2 ^ 64 - 2) :
    Taken did userId (r.after steps) ∨
      ∃ front rest, steps = front ++ .reload :: rest ∧
        ∀ token u, (r.after front).tokens.get? token = some u → u.userId < userId := by
  induction steps generalizing r given with
  | nil => exact .inl h
  | cons s steps ih =>
    rw [allocations, ← Nat.add_assoc] at hgiven
    rcases h.step hr hs s (by omega) with htaken | ⟨rfl, hless⟩
    · -- left to its DID by the first step, or lost by it
      rcases ih htaken (hr.step hs s (by omega)) (hs.step s) hgiven with
        htaken | ⟨front, rest, rfl, hless⟩
      · exact .inl htaken
      · exact .inr ⟨s :: front, rest, rfl, hless⟩
    · exact .inr ⟨[], steps, rfl, hless⟩

/-- Whose identifier it is, that DID finds it. -/
theorem Taken.did_eq {did : String} {presentation token : String} {u : User}
    (h : Taken did u.userId r) (hr : r.Counted given) (hissued : r.Issued presentation token u r')
    (hroom : r.isOwner u.did = false → r.userIds.get? u.did = none →
      r.nextUserId.toNat + 1 < 2 ^ 64) : u.did = did := by
  rcases hissued.userId_cases hr hroom with ⟨hold, -⟩ | ⟨hid, -⟩
  · -- a number that is given out is nobody's
    exact h.only u.did hold
  · have hlt := h.lt
    omega

end Steps

/-! ## An identifier given twice -/

/-- The first challenge of another person. -/
def sampleChallenge' : String :=
  "00b6b7601e620caf66fc5faa152f6de1292a1c446641ccadab04f909547f3dbc"

/-- The only token is revoked before a new start, and then another person comes. -/
def sampleLoss : List Step :=
  [.revoke sampleToken, .reload, .signIn "did:b"]

/-- After the only token was lost, another person is given the same identifier. -/
theorem sample_second : ∃ token r',
    ((start.after sampleSignIn).after sampleLoss).didAuth "n" sampleChallenge' =
      .ok ((token, sampleUser "did:b"), r') := by
  have hissued : ((((start.after sampleSignIn).after sampleLoss).didAuth "n"
      sampleChallenge').toOption.map Prod.fst).map Prod.snd = some (sampleUser "did:b") := by
    decide +kernel
  obtain ⟨⟨token, u⟩, hboth, rfl⟩ := Option.map_eq_some_iff.1 hissued
  exact ⟨token, ok_of_toOption hboth⟩

/-- The run of the samples gives out few identifiers. -/
theorem sample_allocations : start.allocations ([.signIn "did:a"] ++
    .didAuth "n" sampleChallenge :: sampleLoss ++ [.didAuth "n" sampleChallenge']) < 2 ^ 64 - 2 :=
  Nat.lt_of_le_of_lt (allocations_le_length start _) (by decide)

/-- An identifier that was given to one DID is given to another only if there was a new start in
between, at a time when no token bore this identifier or a greater one. -/
theorem userId_again {before between : List Step} {name name' presentation presentation' : String}
    {token token' : String} {u u' : User} {r r' : Resolver}
    (hfirst : (start.after before).didAuth name presentation = .ok ((token, u), r))
    (hsecond : (r.after between).didAuth name' presentation' = .ok ((token', u'), r'))
    (hgiven : start.allocations (before ++ .didAuth name presentation :: between ++
      [.didAuth name' presentation']) < 2 ^ 64 - 2)
    (hid : u'.userId = u.userId) (hdid : u'.did ≠ u.did) :
    ∃ front rest, between = front ++ .reload :: rest ∧
      ∀ token v, (r.after front).tokens.get? token = some v → v.userId < u.userId := by
  have hstep := step_didAuth hfirst
  -- the identifiers of the run are those before the sign-in, its own, and those behind it
  simp only [List.append_assoc, allocations_append, List.cons_append, allocations, hstep] at hgiven
  have hsaved := saved_start.after before
  -- the invariants at the first sign-in
  have hbefore := counted_start.after saved_start before (by omega)
  have hcounted := hbefore.step hsaved (.didAuth name presentation) (by omega)
  have hsaved := hsaved.step (.didAuth name presentation)
  rw [hstep] at hcounted hsaved
  have htaken := (didAuth_ok hfirst).taken hcounted
  rcases htaken.after hcounted hsaved between (by omega) with htaken | hlost
  · -- still its DID's, so that the second sign-in is this DID's
    exfalso
    have hcounted := hcounted.after hsaved between (by omega)
    rw [← hid] at htaken
    exact hdid (htaken.did_eq hcounted (didAuth_ok hsecond) (hcounted.room hsecond (by omega)))
  · -- lost by a new start
    exact hlost

/-- In the run of the samples there was such a new start. -/
theorem userId_again_loss : ∃ front rest, sampleLoss = front ++ .reload :: rest ∧
    ∀ token v, ((start.after sampleSignIn).after front).tokens.get? token = some v →
      v.userId < 2 := by
  obtain ⟨token', r', hsecond⟩ := sample_second
  exact userId_again sample_first hsecond sample_allocations rfl (by decide)

/-- Two DIDs can have one identifier, one after the other. -/
theorem userId_of_another :
    ∃ (before between : List Step) (name name' presentation presentation' token token' : String)
      (u u' : User) (r r' : Resolver),
      (start.after before).didAuth name presentation = .ok ((token, u), r) ∧
        (r.after between).didAuth name' presentation' = .ok ((token', u'), r') ∧
        start.allocations (before ++ .didAuth name presentation :: between ++
          [.didAuth name' presentation']) < 2 ^ 64 - 2 ∧
        u'.did ≠ u.did ∧ u'.userId = u.userId := by
  obtain ⟨token', r', hsecond⟩ := sample_second
  exact ⟨_, _, _, _, _, _, _, _, _, _, _, _, sample_first, hsecond, sample_allocations,
    by decide, rfl⟩

end FeedNode.Auth.Resolver
