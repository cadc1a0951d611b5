import FeedNode.Proofs.Auth.UserIds

/-!
# The owner is declared once

Whoever is declared first is the owner for ever, also after a new start: `declared` lists the DIDs
whose declaration was told to be the first, and this list never holds more than the owner
(`Saved.owner_after`). The tokens of the owner are those with the owner's identifier, because the
identifier and the mark are both taken from the owner at the time when the token is issued
(`Issued.isOwner_iff`), and nobody had the identifier before there was an owner (`Counted`).

Main statement: `owner_declared_once`.
-/

namespace FeedNode.Auth.Resolver

open Feed (User)

/-! ## Declarations -/

/-- The DID that a step declares as the owner's, if it is told that its declaration was the
first. -/
def declares (r : Resolver) : Step → List String
  | .declareOwner did =>
    match r.declareOwner did with
    | .ok (true, _) => [Text.trim did]
    | _ => []
  | _ => []

/-- The DIDs that some steps declared, in order. -/
def declared (r : Resolver) : List Step → List String
  | [] => []
  | s :: steps => r.declares s ++ (r.step s).declared steps

section Declarations

variable {r : Resolver} {s : Step}

/-- What a declaration does, whoever the owner is. -/
theorem declareOwner_eq (r : Resolver) (did : String) :
    r.declareOwner did =
      if Text.startsWith (Text.trim did) "did:" = true then
        match r.owner with
        | none => .ok (true, { r with owner := some (Text.trim did) }.save)
        | some owner => if owner = Text.trim did then .ok (false, r) else .error .ownerMismatch
      else .error .ownerNotDid := by
  unfold declareOwner
  by_cases hdid : Text.startsWith (Text.trim did) "did:" = true
  · -- the text names a DID, so that the owner decides
    cases howner : r.owner <;> simp [hdid]
  · -- it names none, whoever the owner is
    simp [hdid]

/-- Only a declaration that was the first changes the owner. -/
theorem Saved.owner_step (h : r.Saved) (s : Step) :
    (r.step s).owner.toList = r.owner.toList ++ r.declares s := by
  -- a declaration may leave the resolver as it was, which `Moves` does not tell from a refusal
  by_cases hs : ∃ did, s = .declareOwner did
  · obtain ⟨did, rfl⟩ := hs
    simp only [Resolver.step, declares, declareOwner_eq]
    by_cases hdid : Text.startsWith (Text.trim did) "did:" = true
    · -- the first declaration
      cases howner : r.owner with
      | none => simp [hdid, Except.toOption]
      -- a further one, of the same DID or of another
      | some owner =>
        by_cases hsame : owner = Text.trim did <;> simp [hdid, hsame, howner, Except.toOption]
    · simp [hdid, Except.toOption]
  · have hnone : r.declares s = [] := by
      cases s with
      | declareOwner did => exact absurd ⟨did, rfl⟩ hs
      | _ => rfl
    -- no other step declares anyone
    have hmoves := r.step_moves s
    generalize r.step s = r' at hmoves
    have hsame : r'.owner = r.owner := by
      cases hmoves with
      | refused => rfl
      | signedIn hok hdid hr' => rw [hr']
      | issued hok hissued => exact hissued.owner
      | @declared did => exact absurd ⟨did, rfl⟩ hs
      | readied ready => rfl
      -- writing the document does not change the owner
      | revoked token => exact save_owner _
      | reloaded hreload => exact (h.reloaded hreload).owner
    rw [hsame, hnone, List.append_nil]

/-- The owner after some steps was the owner before or was declared by them. -/
theorem Saved.owner_after (h : r.Saved) (steps : List Step) :
    (r.after steps).owner.toList = r.owner.toList ++ r.declared steps := by
  induction steps generalizing r with
  | nil => simp [Resolver.after, Resolver.declared]
  | cons s steps ih =>
    have hrest := ih (h.step s)
    -- what the first step declared stands in front of what the rest declares
    rw [h.owner_step s, List.append_assoc] at hrest
    exact hrest

/-- Once there is an owner, nobody else is declared. -/
theorem Saved.owner_stays (h : r.Saved) {did : String} (howner : r.owner = some did)
    (steps : List Step) : (r.after steps).owner = some did := by
  have hafter := h.owner_after steps
  rw [howner] at hafter
  cases hlast : (r.after steps).owner with
  | none => simp [hlast] at hafter
  | some did' =>
    -- there is room for one owner only, and it is the first of the list
    simp only [hlast, Option.toList_some, List.singleton_append, List.cons.injEq] at hafter
    rw [hafter.1]

/-- What is declared is a DID. -/
theorem startsWith_of_declared {did : String} {steps : List Step} (h : did ∈ r.declared steps) :
    Text.startsWith did "did:" = true := by
  induction steps generalizing r with
  | nil => cases h
  | cons s steps ih =>
    -- declared by the first step or by a later one
    rcases List.mem_append.1 h with hfirst | hrest
    · cases s with
      | declareOwner text =>
        simp only [declares, declareOwner_eq] at hfirst
        split at hfirst
        · rename_i hok
          -- the text was checked before it was taken
          split at hok
          · rename_i hdid
            rwa [List.mem_singleton.1 hfirst]
          · cases hok
        · cases hfirst
      | _ => cases hfirst
    · exact ih hrest

/-- Once there is an owner, a declaration is accepted for the same DID only, and does nothing. -/
theorem declareOwner_of_owner {did : String} (howner : r.owner = some did)
    (hdid : Text.startsWith did "did:" = true) (text : String) :
    (Text.trim text = did → r.declareOwner text = .ok (false, r)) ∧
      (Text.trim text ≠ did → ∃ e, r.declareOwner text = .error e) := by
  rw [declareOwner_eq, howner]
  constructor
  · intro hsame
    simp [hsame, hdid]
  · intro hother
    by_cases htext : Text.startsWith (Text.trim text) "did:" = true
    · exact ⟨.ownerMismatch, by simp [htext, Ne.symm hother]⟩
    · exact ⟨.ownerNotDid, by simp [htext]⟩

end Declarations

/-! ## The tokens of the owner -/

/-- The tokens with the mark of the owner are those with the identifier of the owner. -/
def Marked (r : Resolver) : Prop :=
  ∀ token u, r.tokens.get? token = some u → (u.isOwner = true ↔ u.userId = ownerUserId)

section Tokens

variable {r r' : Resolver} {given : Nat}

/-- A new resolver has no tokens to mark. -/
theorem marked_start : start.Marked := by
  intro token u h
  cases h

/-- A token that is issued has the mark if its DID is the owner's at this time. -/
theorem isOwner_of_didAuth {name presentation token : String} {u : User}
    (h : r.didAuth name presentation = .ok ((token, u), r')) : u.isOwner = r.isOwner u.did := by
  unfold didAuth at h
  cases hready : r.isReady with
  | false =>
    -- a resolver that is not ready issues nothing
    rw [hready] at h
    cases h
  | true =>
    cases hdid : r.challenges.get? presentation with
    -- nor does any for a challenge that it does not know
    | none =>
      rw [hready, hdid] at h
      cases h
    | some did =>
      simp only [hready, hdid, Bool.not_true, Bool.false_eq_true, if_false, pure, Except.pure,
        Except.ok.injEq, Prod.mk.injEq] at h
      obtain ⟨⟨-, rfl⟩, -⟩ := h
      -- to look an identifier up does not change the owner
      obtain ⟨userIds, nextUserId, hsame⟩ :=
        userIdFor_same { r with challenges := r.challenges.erase presentation, isReady := true } did
      simp only [isOwner, hsame]

/-- The identifier of the owner is given to the owner and to nobody else. -/
theorem Issued.isOwner_iff {name presentation token : String} {u : User}
    (hissued : r.Issued presentation token u r') (hr : r.Counted given)
    (hok : r.didAuth name presentation = .ok ((token, u), r'))
    (hgiven : given + (r.allocates (.didAuth name presentation)).toNat < 2 ^ 64 - 2) :
    u.isOwner = true ↔ u.userId = ownerUserId := by
  rw [isOwner_of_didAuth hok]
  constructor
  · -- the owner is given the identifier of the owner
    intro howner
    rw [← hissued.userId, userIdFor, if_pos howner]
  · intro hid
    -- and whoever is given this identifier was known by it, or is given the next one
    rcases hissued.userId_cases hr (hr.room hok hgiven) with ⟨hknown, -⟩ | ⟨hnext, -⟩
    · have howner := hr.owner u.did (hid ▸ hknown)
      simp [isOwner, howner]
    · -- the identifiers that are given out start with two
      have htwo := hr.two_le
      have hone : ownerUserId = 1 := rfl
      omega

/-- Every step keeps the marks right. -/
theorem Marked.step (h : r.Marked) (hr : r.Counted given) (hs : r.Saved) (s : Step)
    (hgiven : given + (r.allocates s).toNat < 2 ^ 64 - 2) : (r.step s).Marked := by
  have hmoves := r.step_moves s
  generalize r.step s = r' at hmoves
  cases hmoves with
  | refused => exact h
  | signedIn hok hdid hr' =>
    subst hr'
    exact h
  -- the new token is marked as it should be, the others are as they were
  | issued hok hissued =>
    intro token' v hget
    rw [hissued.tokens, Dict.get?_insert] at hget
    split at hget
    · obtain rfl := Option.some.inj hget
      exact hissued.isOwner_iff hr hok hgiven
    · exact h token' v hget
  | declared hnone hdid =>
    intro token u hget
    rw [save_tokens] at hget
    exact h token u hget
  | readied ready => exact h
  -- revoking a token leaves fewer of them
  | revoked token =>
    intro token' u hget
    rw [revoke, save_tokens, Dict.get?_erase] at hget
    split at hget
    · cases hget
    · exact h token' u hget
  -- a new start finds the tokens that there were
  | reloaded hreload =>
    intro token u hget
    rw [(hs.reloaded hreload).tokens] at hget
    exact h token u hget

/-- So does every run, while there are identifiers to give. -/
theorem Marked.after (h : r.Marked) (hr : r.Counted given) (hs : r.Saved) (steps : List Step)
    (hgiven : given + r.allocations steps < 2 ^ 64 - 2) : (r.after steps).Marked := by
  induction steps generalizing r given with
  | nil => exact h
  | cons s steps ih =>
    rw [allocations, ← Nat.add_assoc] at hgiven
    have hstep : given + (r.allocates s).toNat < 2 ^ 64 - 2 := by omega
    exact ih (h.step hr hs s hstep) (hr.step hs s hstep) (hs.step s) hgiven

/-- A token with the mark is the declared owner's. -/
theorem Marked.owner_eq (h : r.Marked) (hr : r.Counted given) {token : String} {u : User}
    (hget : r.tokens.get? token = some u) (howner : u.isOwner = true) : r.owner = some u.did :=
  hr.owner u.did (.borne hget rfl ((h token u hget).1 howner))

end Tokens

/-! ## Runs -/

/-- The owner is declared at most once in a run and stays; any further declaration is accepted only
for the same DID. The tokens of the owner are those of the identifier one, and no token is the
owner's but one of the DID that was declared. -/
theorem owner_declared_once (before later : List Step)
    (hgiven : start.allocations (before ++ later) < 2 ^ 64 - 2) :
    let r := start.after before
    let r' := start.after (before ++ later)
    (∀ did, r.owner = some did → r'.owner = some did) ∧
      start.declared (before ++ later) = r'.owner.toList ∧
      (∀ did, r'.owner = some did → ∀ text,
        (Text.trim text = did → r'.declareOwner text = .ok (false, r')) ∧
          (Text.trim text ≠ did → ∃ e, r'.declareOwner text = .error e)) ∧
      (∀ token u, (token, u) ∈ r'.tokens.entries →
        (u.isOwner = true ↔ u.userId = ownerUserId) ∧
          (u.isOwner = true → r'.owner = some u.did)) ∧
      ∀ token u, r'.verify token = .ok u → u.isOwner = true → r'.owner = some u.did := by
  intro r r'
  -- the three invariants of a run, from its beginning
  have hsaved : r'.Saved := saved_start.after (before ++ later)
  have hcounted : r'.Counted (0 + start.allocations (before ++ later)) :=
    counted_start.after saved_start _ (by omega)
  have hmarked : r'.Marked := marked_start.after counted_start saved_start _ (by omega)
  have hdeclared : r'.owner.toList = start.declared (before ++ later) :=
    saved_start.owner_after (before ++ later)
  refine ⟨fun did howner => ?_, hdeclared.symm, fun did howner => ?_, fun token u hmem => ?_,
    fun token u hverify => ?_⟩
  · -- the owner stays
    have hlater := (saved_start.after before).owner_stays howner later
    rwa [← after_append] at hlater
  · -- further declarations, by the DID that was declared
    have hmem : did ∈ start.declared (before ++ later) := by simp [← hdeclared, howner]
    exact declareOwner_of_owner howner (startsWith_of_declared hmem)
  · -- tokens that are kept
    have hget := Dict.get?_of_mem hsaved.nodup hmem
    exact ⟨hmarked token u hget, hmarked.owner_eq hcounted hget⟩
  · -- tokens that are verified
    exact hmarked.owner_eq hcounted (verify_eq_ok_iff.1 hverify).2

/-- The owner is declared, with a blank before the DID, and signs in after a new start. -/
theorem owner_declared_once_reload :
    let steps := [.declareOwner " did:a"] ++ .reload :: sampleSignIn
    start.allocations steps < 2 ^ 64 - 2 ∧ start.declared steps = ["did:a"] ∧
      (start.after steps).owner = some "did:a" ∧
      ∃ u, (start.after steps).verify sampleToken = .ok u ∧ u.userId = 1 ∧ u.isOwner = true ∧
        (start.after steps).owner = some u.did := by
  intro steps
  -- the run has few steps, and so gives few identifiers
  have hgiven : start.allocations steps < 2 ^ 64 - 2 :=
    Nat.lt_of_le_of_lt (allocations_le_length start _) (by decide)
  obtain ⟨hstays, -, -, -, hverify⟩ :=
    owner_declared_once [.declareOwner " did:a"] (.reload :: sampleSignIn) hgiven
  have htoken : (start.after steps).verify sampleToken =
      .ok { sampleUser "did:a" with userId := 1, isOwner := true } :=
    verify_eq_ok_iff.2 (by decide +kernel)
  exact ⟨hgiven, by decide +kernel, hstays "did:a" (by decide +kernel), _, htoken, rfl, rfl,
    hverify _ _ htoken rfl⟩

end FeedNode.Auth.Resolver
