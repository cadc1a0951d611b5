import FeedNode.Proofs.Auth.UserIds

/-!
# Identifiers given after a start

A resolver that is started from a document counts on from the greatest user identifier in it, in
whatever order the tokens of the document are remembered. The count stops at the greatest word,
which is given to one DID and then to every further one (`Ahead.getElem?_given`). So an identifier
is fresh, that is not the owner's, nobody's in the document and not given before, exactly as long
as there are enough words above those in the document (`given_fresh_iff`).

`Ahead` is kept by every step short of a new start (`Ahead.step`), which also says what the step
gives; the run follows by induction.
-/

namespace FeedNode.Auth.Resolver

open Feed (User)

/-! ## A start -/

/-- The resolver was just started from the document, which holds the table. Nothing is said of the
order in which the tokens of the table were remembered. -/
structure LoadedFrom (content : Option Json.Value) (table : TokenTable) (r : Resolver) : Prop where
  reads : content.elim (some TokenTable.empty) TokenTable.ofJson? = some table
  remembers : ∃ es : List (String × User), es.Perm table.tokens.entries ∧
    r = { es.foldl (fun r (token, u) => r.remember token u) (new table.ownerDid) with
      storage := .document content }

/-- A start in the order of the document is one. -/
theorem loadedFrom_of_load? {content : Option Json.Value} {r : Resolver}
    (h : load? content = some r) : ∃ table, LoadedFrom content table r := by
  cases content with
  | none => exact ⟨.empty, rfl, [], List.Perm.refl _, (Option.some.inj h).symm⟩
  | some v =>
    obtain ⟨table, hreads, hr⟩ := Option.bind_eq_some_iff.1 h
    exact ⟨table, hreads, table.tokens.entries, List.Perm.refl _, (Option.some.inj hr).symm⟩

/-- Every user in the document has a word. -/
theorem LoadedFrom.userId_lt {content : Option Json.Value} {table : TokenTable} {r : Resolver}
    (h : LoadedFrom content table r) {token : String} {u : User}
    (hmem : (token, u) ∈ table.tokens.entries) : u.userId < UInt64.size := by
  have hreads := h.reads
  cases content with
  | none =>
    obtain rfl := Option.some.inj hreads
    cases hmem
  | some v => exact TokenTable.userId_lt_of_ofJson? hreads hmem

/-! ## What a step gives -/

/-- The identifier that a step gives to a DID that has none. -/
def gives? (r : Resolver) (s : Step) : Option Nat :=
  match s with
  | .didAuth name presentation =>
    match r.didAuth name presentation with
    | .ok ((_, u), _) =>
      if r.isOwner u.did = false ∧ r.userIds.get? u.did = none then some u.userId else none
    | .error _ => none
  | _ => none

/-- The identifiers that some steps give, in their order. -/
def given (r : Resolver) : List Step → List Nat
  | [] => []
  | s :: steps => (r.gives? s).toList ++ (r.step s).given steps

/-- A step gives one at most. -/
theorem length_given_le (r : Resolver) (steps : List Step) :
    (r.given steps).length ≤ steps.length := by
  induction steps generalizing r with
  | nil => exact Nat.le_refl 0
  | cons s steps ih =>
    have hrest := ih (r.step s)
    cases hgives : r.gives? s <;> simp [given, hgives] <;> omega

/-- The number after `n`, which is the greatest word where there is none. -/
theorem toNat_wordAfter_eq (n : Nat) : (wordAfter n).toNat = min (n + 1) (UInt64.size - 1) := by
  have hsize : UInt64.size = 18446744073709551616 := rfl
  by_cases hroom : n + 1 < UInt64.size
  · -- there is a word behind the number
    rw [toNat_wordAfter hroom]
    omega
  · -- there is none, so that the greatest one is taken
    rw [wordAfter, if_neg hroom, UInt64.toNat_ofNat_of_lt' (by omega)]
    omega

/-- The next identifier is ahead of the owner's and of all that DIDs have, as far as there is a word
ahead of these. -/
structure Ahead (r : Resolver) : Prop where
  two_le : 2 ≤ r.nextUserId.toNat
  userIds : ∀ did userId, r.userIds.get? did = some userId →
    (wordAfter userId).toNat ≤ r.nextUserId.toNat

section Steps

variable {r r' : Resolver}

/-- What a step does that has no part in identifiers, but for a new start. -/
theorem step_of_not_didAuth {s : Step} (hauth : ∀ name presentation, s ≠ .didAuth name presentation)
    (hstart : s ≠ .reload) :
    (r.step s).nextUserId = r.nextUserId ∧ (r.step s).userIds = r.userIds := by
  have hmoves := r.step_moves s
  generalize r.step s = r' at hmoves
  cases hmoves with
  | refused => exact ⟨rfl, rfl⟩
  | signedIn hok hdid hr' =>
    subst hr'
    exact ⟨rfl, rfl⟩
  | issued hok h => exact absurd rfl (hauth _ _)
  | declared hnone hdid => exact ⟨save_nextUserId _, save_userIds _⟩
  | readied ready => exact ⟨rfl, rfl⟩
  | revoked token => exact ⟨save_nextUserId _, save_userIds _⟩
  | reloaded h => exact absurd rfl hstart

/-- A sign-in leaves the next identifier as it is, or gives it out and counts on. -/
theorem Issued.nextUserId_cases {presentation token : String} {u : User} (hr : r.Ahead)
    (h : r.Issued presentation token u r') :
    (¬(r.isOwner u.did = false ∧ r.userIds.get? u.did = none) ∧ r'.nextUserId = r.nextUserId) ∨
      (r.isOwner u.did = false ∧ r.userIds.get? u.did = none ∧ u.userId = r.nextUserId.toNat ∧
        r'.nextUserId = wordAfter r.nextUserId.toNat) := by
  have hid := h.userId
  have hnext := congrArg UInt64.toNat h.nextUserId
  rw [toNat_max, toNat_wordAfter_eq] at hnext
  have htwo := hr.two_le
  obtain ⟨howner, heq⟩ | ⟨-, userId, hget, heq⟩ | ⟨howner, hnone, heq⟩ := r.userIdFor_cases u.did
  · -- the owner, whose identifier is behind the count
    rw [heq] at hid hnext
    have hone : u.userId = 1 := hid.symm
    dsimp only at hnext
    exact .inl ⟨by simp [isOwner, howner], UInt64.toNat_inj.1 (by omega)⟩
  · -- a DID that has one, which the count is ahead of
    rw [heq] at hid hnext
    dsimp only at hid hnext
    have hbehind := hr.userIds u.did userId hget
    rw [toNat_wordAfter_eq, hid] at hbehind
    exact .inl ⟨by simp [hget], UInt64.toNat_inj.1 (by omega)⟩
  · -- the count goes on behind the identifier, and does not start anew behind the greatest word
    rw [heq] at hid hnext
    dsimp only at hid hnext
    have hlt : r.nextUserId.toNat < UInt64.size := r.nextUserId.toNat_lt
    have hadd : (r.nextUserId + 1).toNat = (r.nextUserId.toNat + 1) % UInt64.size :=
      UInt64.toNat_add _ _
    have hword := toNat_wordAfter_eq r.nextUserId.toNat
    have hsize : UInt64.size = 18446744073709551616 := rfl
    rw [hsize] at hadd hword
    exact .inr ⟨by simpa [isOwner] using howner, hnone, hid.symm, UInt64.toNat_inj.1 (by omega)⟩

/-- The next identifier stays ahead when a token is issued. -/
theorem Issued.ahead {presentation token : String} {u : User} (hr : r.Ahead)
    (h : r.Issued presentation token u r') : r'.Ahead := by
  have hnext := congrArg UInt64.toNat h.nextUserId
  rw [toNat_max] at hnext
  -- the count does not go back
  have hge : r.nextUserId.toNat ≤ r'.nextUserId.toNat := by
    rcases h.nextUserId_cases hr with ⟨-, hsame⟩ | ⟨-, -, -, hword⟩
    · exact Nat.le_of_eq (congrArg UInt64.toNat hsame.symm)
    · have hlt : r.nextUserId.toNat < UInt64.size := r.nextUserId.toNat_lt
      rw [hword, toNat_wordAfter_eq]
      omega
  refine ⟨Nat.le_trans hr.two_le hge, fun did userId hget => ?_⟩
  rw [h.userIds] at hget
  rcases r.get?_of_userIdFor hget with hold | ⟨-, hid⟩
  · -- a DID had its identifier before
    exact Nat.le_trans (hr.userIds did userId hold) hge
  · -- or has just been given it
    rw [hid, h.userId]
    omega

/-- The next identifier stays ahead, whatever is done short of a new start. A step gives nothing, or
the next identifier. -/
theorem Ahead.step (hr : r.Ahead) {s : Step} (hstart : s ≠ .reload) :
    (r.step s).Ahead ∧
      ((r.gives? s = none ∧ (r.step s).nextUserId = r.nextUserId) ∨
        (r.gives? s = some r.nextUserId.toNat ∧
          (r.step s).nextUserId = wordAfter r.nextUserId.toNat)) := by
  by_cases hauth : ∃ name presentation, s = .didAuth name presentation
  · obtain ⟨name, presentation, rfl⟩ := hauth
    cases hok : r.didAuth name presentation with
    | error e =>
      -- refused
      have hsame : r.step (.didAuth name presentation) = r := by
        simp [Resolver.step, hok, Except.toOption]
      rw [hsame]
      exact ⟨hr, .inl ⟨by simp [gives?, hok], rfl⟩⟩
    | ok result =>
      obtain ⟨⟨token, u⟩, r'⟩ := result
      have hissued := didAuth_ok hok
      rw [step_didAuth hok]
      have hcases := hissued.nextUserId_cases hr
      refine ⟨hissued.ahead hr, ?_⟩
      rcases hcases with ⟨hknown, hnext⟩ | ⟨howner, hnone, hid, hnext⟩
      · -- the DID had an identifier, which it keeps
        exact .inl ⟨by simp [gives?, hok, hknown], hnext⟩
      · -- it had none, and was given the next one
        exact .inr ⟨by simp [gives?, hok, howner, hnone, hid], hnext⟩
  · -- no other step has a part in identifiers
    simp only [not_exists] at hauth
    obtain ⟨hnext, hids⟩ := r.step_of_not_didAuth hauth hstart
    have hgives : r.gives? s = none := by
      cases s <;> first | rfl | exact absurd rfl (hauth _ _)
    exact ⟨⟨hnext ▸ hr.two_le, by rw [hnext, hids]; exact hr.userIds⟩, .inl ⟨hgives, hnext⟩⟩

/-! ## What a run gives -/

/-- The identifiers are given in order, and the greatest word is given again and again. -/
theorem Ahead.getElem?_given (hr : r.Ahead) {steps : List Step} (hstart : .reload ∉ steps)
    {i userId : Nat} (hgiven : (r.given steps)[i]? = some userId) :
    userId = min (r.nextUserId.toNat + i) (UInt64.size - 1) := by
  -- the resolver moves with the steps; what it counts from moves only where something is given
  induction steps generalizing r i with
  -- a run without steps gives nothing
  | nil => simp [given] at hgiven
  | cons s steps ih =>
    obtain ⟨hs, hsteps⟩ : .reload ≠ s ∧ .reload ∉ steps := by simpa using hstart
    obtain ⟨hahead, hcases⟩ := hr.step (Ne.symm hs)
    have hlt : r.nextUserId.toNat < UInt64.size := r.nextUserId.toNat_lt
    rcases hcases with ⟨hgives, hnext⟩ | ⟨hgives, hnext⟩
    · -- nothing was given, so the place in the list is the same
      rw [← hnext]
      exact ih hahead hsteps (by simpa [given, hgives] using hgiven)
    · -- something was given, and the next number is given at the next place
      cases i with
      | zero =>
        -- the first identifier is the one that stood next
        have hfirst : r.nextUserId.toNat = userId := by simpa [given, hgives] using hgiven
        omega
      | succ i =>
        -- those behind it are counted from the number after it
        have hlater := ih hahead hsteps (by simpa [given, hgives] using hgiven)
        rw [hnext, toNat_wordAfter_eq] at hlater
        omega

/-- The same for an identifier and those that were given earlier. -/
theorem Ahead.eq_of_given (hr : r.Ahead) {steps : List Step} (hstart : .reload ∉ steps)
    {earlier later : List Nat} {userId : Nat}
    (hgiven : r.given steps = earlier ++ userId :: later) :
    userId = min (r.nextUserId.toNat + earlier.length) (UInt64.size - 1) ∧
      ∀ i, (hi : i < earlier.length) →
        earlier[i] = min (r.nextUserId.toNat + i) (UInt64.size - 1) := by
  constructor
  · apply hr.getElem?_given hstart
    simp [hgiven]
  · intro i hi
    apply hr.getElem?_given hstart
    simp [hgiven, List.getElem?_append_left hi]

end Steps

/-! ## Fresh identifiers -/

section Fresh

variable {content : Option Json.Value} {table : TokenTable} {r : Resolver}

/-- The identifier is not the owner's, nobody's in the table and none of those given earlier. -/
structure Fresh (table : TokenTable) (earlier : List Nat) (userId : Nat) : Prop where
  not_owner : userId ≠ ownerUserId
  not_borne : ∀ token u, (token, u) ∈ table.tokens.entries → u.userId ≠ userId
  not_given : userId ∉ earlier

/-- The count of a resolver that was just started is ahead of the identifiers in the document. -/
theorem LoadedFrom.ahead (h : LoadedFrom content table r) : r.Ahead := by
  obtain ⟨-, es, -, rfl⟩ := h
  have hfold := remembered_foldl es (new table.ownerDid)
  refine ⟨hfold.next_ge, fun did userId hget => ?_⟩
  -- an identifier that is known then is a token's
  rcases hfold.userIds did userId hget with hnone | ⟨-, token, u, hmem, -, rfl⟩
  · cases hnone
  · exact hfold.ahead token u hmem

/-- The count starts behind every identifier in the table. -/
theorem LoadedFrom.wordAfter_le (h : LoadedFrom content table r) {token : String} {u : User}
    (hmem : (token, u) ∈ table.tokens.entries) :
    (wordAfter u.userId).toNat ≤ r.nextUserId.toNat := by
  obtain ⟨-, es, hes, rfl⟩ := h
  exact (remembered_foldl es (new table.ownerDid)).ahead token u (hes.mem_iff.2 hmem)

/-- It starts no later than that. -/
theorem LoadedFrom.nextUserId_le (h : LoadedFrom content table r) {n : Nat} (hn : 2 ≤ n)
    (hbehind : ∀ token u, (token, u) ∈ table.tokens.entries → (wordAfter u.userId).toNat ≤ n) :
    r.nextUserId.toNat ≤ n := by
  obtain ⟨-, es, hes, rfl⟩ := h
  exact (remembered_foldl es (new table.ownerDid)).next_le n hn fun token u hmem =>
    hbehind token u (hes.mem_iff.1 hmem)

/-- In a run without a new start an identifier that is given is fresh exactly if, above each
identifier in the table, there is a word for it and for those given earlier. -/
theorem given_fresh_iff (h : LoadedFrom content table r) {steps : List Step}
    (hstart : .reload ∉ steps) (hfew : steps.length ≤ 2 ^ 32) {earlier later : List Nat}
    {userId : Nat} (hgiven : r.given steps = earlier ++ userId :: later) :
    Fresh table earlier userId ↔ ∀ token u, (token, u) ∈ table.tokens.entries →
      u.userId + 1 + earlier.length < UInt64.size := by
  have hsize : UInt64.size = 18446744073709551616 := rfl
  have hshort : earlier.length ≤ 4294967296 := by
    -- no more is given than there are steps
    have hlength := r.length_given_le steps
    rw [hgiven, List.length_append] at hlength
    exact Nat.le_trans (Nat.le_of_add_right_le hlength) hfew
  have hnext : r.nextUserId.toNat < UInt64.size := r.nextUserId.toNat_lt
  have htwo := h.ahead.two_le
  obtain ⟨hthis, hearlier⟩ := h.ahead.eq_of_given hstart hgiven
  constructor
  · intro hfresh token u hmem
    have hword := h.userId_lt hmem
    have hbehind := h.wordAfter_le hmem
    rw [toNat_wordAfter_eq] at hbehind
    apply Nat.lt_of_not_le
    intro hno
    by_cases htop : u.userId = UInt64.size - 1
    · -- the count starts at the greatest word, which is this user's
      exact hfresh.not_borne token u hmem (by omega)
    · -- the count has reached the greatest word, which was given just before
      have hbefore : earlier.length - 1 < earlier.length := by omega
      have hlast := hearlier (earlier.length - 1) hbefore
      have hsame : earlier[earlier.length - 1] = userId := by omega
      exact hfresh.not_given (hsame ▸ List.getElem_mem hbefore)
  · intro hroom
    -- the count reaches the greatest word only behind all that were given
    have hcount : r.nextUserId.toNat ≤ UInt64.size - 1 - earlier.length := by
      refine h.nextUserId_le (by omega) fun token u hmem => ?_
      have hu := hroom token u hmem
      rw [toNat_wordAfter_eq]
      omega
    refine ⟨?_, fun token u hmem => ?_, fun hmem => ?_⟩
    · -- the owner's identifier is less than any that is given
      have hone : ownerUserId = 1 := rfl
      omega
    · -- and those in the table are less than the count
      have hu := hroom token u hmem
      have hbehind := h.wordAfter_le hmem
      rw [toNat_wordAfter_eq] at hbehind
      omega
    · -- an earlier one would have been given at the same count
      obtain ⟨i, hi, heq⟩ := List.getElem_of_mem hmem
      have hbefore := hearlier i hi
      omega

end Fresh

/-! ## The greatest words -/

/-- A table with one user. -/
def sampleTable (userId : Nat) : TokenTable where
  ownerDid := ""
  tokens := ⟨[("t", { userId, did := "did:x", name := "x", email := "", isOwner := false })]⟩

/-- The resolver that is started from the table. -/
def sampleStart (userId : Nat) : Resolver :=
  { (sampleTable userId).tokens.entries.foldl (fun r (token, u) => r.remember token u) (new "") with
    storage := .document (some (sampleTable userId).toJson) }

/-- A resolver is started from a table with one user, if the user has a word. -/
theorem loadedFrom_sampleStart {userId : Nat} (h : userId < UInt64.size) :
    LoadedFrom (some (sampleTable userId).toJson) (sampleTable userId) (sampleStart userId) where
  reads := TokenTable.ofJson?_toJson (by simp [Dict.Nodup, Dict.keys, sampleTable])
    (by simp [sampleTable, h])
  remembers := ⟨_, List.Perm.refl _, rfl⟩

/-- The next sign-in behind the last word but one is given the greatest word. -/
theorem given_sampleStart : (sampleStart 18446744073709551614).given sampleSignIn =
    [18446744073709551615] := by
  decide +kernel

/-- Behind the last word but one there is room for one identifier. -/
theorem given_fresh_iff_last :
    (sampleStart 18446744073709551614).given sampleSignIn = [18446744073709551615] ∧
      Fresh (sampleTable 18446744073709551614) [] 18446744073709551615 := by
  -- nothing was given before it
  have hgiven : (sampleStart 18446744073709551614).given sampleSignIn =
      [] ++ 18446744073709551615 :: [] := given_sampleStart
  refine ⟨given_sampleStart, (given_fresh_iff (loadedFrom_sampleStart (by decide)) (by decide)
    (by decide) hgiven).2 fun token u hmem => ?_⟩
  simp only [sampleTable, List.mem_singleton, Prod.mk.injEq] at hmem
  obtain ⟨-, rfl⟩ := hmem
  decide

/-- Behind the greatest word there is none: a DID is given the identifier of a user in the table. -/
theorem given_of_another : ∃ (content : Option Json.Value) (table : TokenTable) (r : Resolver)
    (steps : List Step) (earlier later : List Nat) (userId : Nat),
      LoadedFrom content table r ∧ .reload ∉ steps ∧ steps.length ≤ 2 ^ 32 ∧
        r.given steps = earlier ++ userId :: later ∧ ¬Fresh table earlier userId := by
  have hgiven : (sampleStart 18446744073709551615).given sampleSignIn =
      [] ++ 18446744073709551615 :: [] := by
    decide +kernel
  refine ⟨_, _, _, sampleSignIn, _, _, _, loadedFrom_sampleStart (by decide), by decide, by decide,
    hgiven, fun hfresh => ?_⟩
  -- the user in the table bears the greatest word already
  exact hfresh.not_borne "t" _ List.mem_cons_self rfl

end FeedNode.Auth.Resolver
