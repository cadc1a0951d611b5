import FeedNode.Proofs.Auth.Runs

/-!
# What survives a new start

After every step the document holds the tokens and the owner that the memory holds (`Saved`). So a
new start finds these two as they were, and it never fails (`Saved.reload`). What else the memory
held is gone: the challenges, the count of the sign-ins, and of the user identifiers all that no
token bears.
-/

namespace FeedNode.Auth.Resolver

open Feed (User)

/-! ## Identifiers as words -/

/-- The greater of two words is the greater number. -/
theorem toNat_max (a b : UInt64) : (max a b).toNat = max a.toNat b.toNat := by
  rw [show max a b = if a ≤ b then b else a from rfl]
  split
  · rename_i h
    have := UInt64.le_iff_toNat_le.1 h
    omega
  · rename_i h
    have := mt UInt64.le_iff_toNat_le.2 h
    omega

/-- The word after a number is the number after it, while there is one. -/
theorem toNat_wordAfter {n : Nat} (h : n + 1 < UInt64.size) : (wordAfter n).toNat = n + 1 := by
  rw [wordAfter, if_pos h]
  exact UInt64.toNat_ofNat_of_lt' h

/-! ## Many tokens remembered -/

/-- What is known after some tokens were remembered: the identifiers that were known or that a token
bears, and none that is still to be given is a token's. -/
structure Remembered (r : Resolver) (es : List (String × User)) (r' : Resolver) : Prop where
  tokens : r'.tokens = es.foldl (fun d (token, u) => d.insert token u) r.tokens
  challenges : r'.challenges = r.challenges
  nonce : r'.nonce = r.nonce
  owner : r'.owner = r.owner
  userIds : ∀ did userId, r'.userIds.get? did = some userId → r.userIds.get? did = some userId ∨
    userId ≠ ownerUserId ∧ ∃ token u, (token, u) ∈ es ∧ u.did = did ∧ u.userId = userId
  ahead : ∀ token u, (token, u) ∈ es → (wordAfter u.userId).toNat ≤ r'.nextUserId.toNat
  next_ge : r.nextUserId.toNat ≤ r'.nextUserId.toNat
  next_le : ∀ n, r.nextUserId.toNat ≤ n →
    (∀ token u, (token, u) ∈ es → (wordAfter u.userId).toNat ≤ n) → r'.nextUserId.toNat ≤ n

/-- Many tokens are remembered one after the other. -/
theorem remembered_foldl (es : List (String × User)) (r : Resolver) :
    r.Remembered es (es.foldl (fun r (token, u) => r.remember token u) r) := by
  induction es generalizing r with
  | nil =>
    refine ⟨rfl, rfl, rfl, rfl, fun did userId h => .inl h, fun token u h => ?_, Nat.le_refl _,
      fun n h _ => h⟩
    cases h
  | cons e es ih =>
    obtain ⟨token, u⟩ := e
    -- those behind the first one are remembered on top of it
    have hrest := ih (r.remember token u)
    have hnext : (r.remember token u).nextUserId.toNat =
        max r.nextUserId.toNat (wordAfter u.userId).toNat := toNat_max _ _
    rw [List.foldl_cons]
    generalize es.foldl (fun r (token, u) => r.remember token u) (r.remember token u) = r' at hrest
    refine ⟨hrest.tokens, hrest.challenges, hrest.nonce, hrest.owner, fun did userId h => ?_,
      fun token' v h => ?_, ?_, fun n hn h => ?_⟩
    · -- an identifier that is known was so before them, or is one of theirs
      rcases hrest.userIds did userId h with hold | ⟨hne, token', v, hv, hvdid, hvid⟩
      · -- before them it was known at the start, or is the first one's
        rw [remember] at hold
        dsimp only at hold
        split at hold
        · rename_i hmember
          rw [Dict.get?_insert] at hold
          split at hold
          · rename_i hdid
            obtain rfl : u.userId = userId := Option.some.inj hold
            exact .inr ⟨hmember.1, token, u, List.mem_cons_self, hdid.symm, rfl⟩
          · exact .inl hold
        · exact .inl hold
      · exact .inr ⟨hne, token', v, List.mem_cons_of_mem _ hv, hvdid, hvid⟩
    · -- the next number is ahead of the first one and of the others
      have hge := hrest.next_ge
      rcases List.mem_cons.1 h with heq | hv
      · obtain ⟨-, rfl⟩ := Prod.mk.inj heq
        omega
      · exact hrest.ahead token' v hv
    · -- it does not go back
      have hge := hrest.next_ge
      omega
    · -- and goes no further than it must
      refine hrest.next_le n ?_ fun token' v hv => h token' v (List.mem_cons_of_mem _ hv)
      have hu := h token u List.mem_cons_self
      omega

/-! ## The document -/

/-- The document holds what the memory holds of tokens and owner, and can be read. -/
structure Saved (r : Resolver) : Prop where
  nodup : r.tokens.Nodup
  tokenIds : ∀ token u, r.tokens.get? token = some u → u.userId < UInt64.size
  userIds : ∀ did userId, r.userIds.get? did = some userId → userId < UInt64.size
  owner : r.owner ≠ some ""
  document : ∃ content, r.storage = .document content ∧
    (content = some r.table.toJson ∨ content = none ∧ r.tokens = .empty ∧ r.owner = none)

/-- A new resolver has nothing that should be in the document. -/
theorem saved_start : start.Saved where
  nodup := Dict.nodup_empty
  tokenIds token u h := by cases h
  userIds did userId h := by cases h
  owner h := by cases h
  document := ⟨none, rfl, .inr ⟨rfl, rfl, rfl⟩⟩

/-- What a new start from the document finds. -/
structure Reloaded (r r' : Resolver) : Prop where
  tokens : r'.tokens = r.tokens
  owner : r'.owner = r.owner
  storage : r'.storage = r.storage
  challenges : r'.challenges = .empty
  nonce : r'.nonce = 0
  userIds : ∀ did userId, r'.userIds.get? did = some userId →
    userId ≠ ownerUserId ∧ ∃ token u, r.tokens.get? token = some u ∧ u.did = did ∧ u.userId = userId
  ahead : ∀ token u, r.tokens.get? token = some u →
    (wordAfter u.userId).toNat ≤ r'.nextUserId.toNat
  two_le : 2 ≤ r'.nextUserId.toNat
  next_le : ∀ n, 2 ≤ n →
    (∀ token u, r.tokens.get? token = some u → (wordAfter u.userId).toNat ≤ n) →
      r'.nextUserId.toNat ≤ n

/-- What was written is read. -/
theorem load?_toJson {t : TokenTable} (hkeys : t.tokens.Nodup)
    (hids : ∀ token u, (token, u) ∈ t.tokens.entries → u.userId < UInt64.size) :
    load? (some t.toJson) = some
      { t.tokens.entries.foldl (fun r (token, u) => r.remember token u) (new t.ownerDid) with
        storage := .document (some t.toJson) } := by
  simp only [load?, TokenTable.ofJson?_toJson hkeys hids]
  rfl

/-- A new start never fails. -/
theorem Saved.reload {r : Resolver} (h : r.Saved) : ∃ r', r.reload? = some r' ∧ r.Reloaded r' := by
  obtain ⟨content, hstorage, hcontent⟩ := h.document
  have hreload : r.reload? = load? content := by rw [reload?, hstorage]
  rcases hcontent with rfl | ⟨rfl, htokens, howner⟩
  · -- the tokens are in the document as they are in memory
    have hback : ∀ token u, r.tokens.get? token = some u ↔ (token, u) ∈ r.tokens.entries :=
      fun token u => ⟨Dict.mem_of_get?, Dict.get?_of_mem h.nodup⟩
    have hload := load?_toJson (t := r.table) h.nodup fun token u hmem =>
      h.tokenIds token u ((hback token u).2 hmem)
    have hfold := remembered_foldl r.table.tokens.entries (new r.table.ownerDid)
    generalize r.table.tokens.entries.foldl (fun r (token, u) => r.remember token u)
      (new r.table.ownerDid) = r' at hload hfold
    refine ⟨_, hreload.trans hload, ?_⟩
    exact
      { tokens := hfold.tokens.trans (Dict.ofEntries_entries h.nodup)
        owner := by
          -- the owner is read back, since nobody has the empty DID
          have hnew : (new r.table.ownerDid).owner = r.owner := by
            cases howner : r.owner with
            | none => rw [table, howner]; rfl
            | some did =>
              have hne : did ≠ "" := fun hempty => h.owner (by rw [howner, hempty])
              rw [table, howner]
              exact if_neg hne
          exact hfold.owner.trans hnew
        storage := hstorage.symm
        challenges := hfold.challenges
        nonce := hfold.nonce
        -- what is known is what the tokens say
        userIds := fun did userId hget => by
          rcases hfold.userIds did userId hget with hnone | ⟨hne, token, u, hmem, hu⟩
          · cases hnone
          · exact ⟨hne, token, u, (hback token u).2 hmem, hu⟩
        ahead := fun token u hget => hfold.ahead token u ((hback token u).1 hget)
        two_le := hfold.next_ge
        next_le := fun n hn hle =>
          hfold.next_le n hn fun token u hmem => hle token u ((hback token u).2 hmem) }
  -- nothing was written yet, and there is nothing that should have been
  · refine ⟨start, hreload.trans load?_none, ?_⟩
    exact
      { tokens := htokens.symm
        owner := howner.symm
        storage := hstorage.symm
        challenges := rfl
        nonce := rfl
        userIds := fun did userId hget => by cases hget
        ahead := fun token u hget => by
          rw [htokens] at hget
          cases hget
        two_le := Nat.le_refl 2
        next_le := fun n hn _ => hn }

/-- What a new start gives is what it finds. -/
theorem Saved.reloaded {r r' : Resolver} (h : r.Saved) (hreload : r.reload? = some r') :
    r.Reloaded r' := by
  obtain ⟨r'', hr'', hfound⟩ := h.reload
  rwa [Option.some.inj (hr''.symm.trans hreload)] at hfound

/-- What is written down is saved. -/
theorem saved_save {r : Resolver} {content : Option Json.Value}
    (hstorage : r.storage = .document content) (hnodup : r.tokens.Nodup)
    (htokens : ∀ token u, r.tokens.get? token = some u → u.userId < UInt64.size)
    (huserIds : ∀ did userId, r.userIds.get? did = some userId → userId < UInt64.size)
    (howner : r.owner ≠ some "") : r.save.Saved where
  nodup := by rwa [save_tokens]
  tokenIds := by rwa [save_tokens]
  userIds := by rwa [save_userIds]
  owner := by rwa [save_owner]
  document := ⟨_, save_storage hstorage, .inl rfl⟩

/-- The identifier that a DID's user has or gets fits a word. -/
theorem Saved.userIdFor_lt {r : Resolver} (h : r.Saved) (did : String) :
    (r.userIdFor did).1 < UInt64.size := by
  obtain ⟨-, heq⟩ | ⟨-, userId, hget, heq⟩ | ⟨-, -, heq⟩ := r.userIdFor_cases did
  · -- the owner's identifier
    rw [heq]
    show ownerUserId < UInt64.size
    decide
  · -- one that was given before
    rw [heq]
    exact h.userIds did userId hget
  · -- the next one
    rw [heq]
    exact r.nextUserId.toNat_lt

/-- A token that is issued is in the document with those that there were. -/
theorem Saved.issued {r r' : Resolver} {presentation token : String} {u : User} (h : r.Saved)
    (hissued : r.Issued presentation token u r') : r'.Saved := by
  obtain ⟨content, hstorage, -⟩ := h.document
  have hid := h.userIdFor_lt u.did
  rw [hissued.userId] at hid
  refine ⟨?_, fun token' v hget => ?_, fun did userId hget => ?_, ?_, ?_⟩
  · -- the keys
    rw [hissued.tokens]
    exact Dict.nodup_insert h.nodup _ _
  · -- the identifiers of the tokens
    rw [hissued.tokens, Dict.get?_insert] at hget
    split at hget
    · rwa [← Option.some.inj hget]
    · exact h.tokenIds token' v hget
  · -- the identifiers that are known
    rw [hissued.userIds] at hget
    rcases r.get?_of_userIdFor hget with hold | ⟨-, rfl⟩
    · exact h.userIds did userId hold
    · rwa [hissued.userId]
  · rw [hissued.owner]
    exact h.owner
  · -- and the document, which was written with the token
    exact ⟨_, hissued.storage content hstorage, .inl rfl⟩

/-- A declared owner is in the document. -/
theorem Saved.declared {r : Resolver} {did : String} (h : r.Saved)
    (hdid : Text.startsWith did "did:" = true) : ({ r with owner := some did }.save).Saved := by
  obtain ⟨content, hstorage, -⟩ := h.document
  -- the empty text names no DID
  have hne : did ≠ "" := by
    intro hempty
    rw [hempty] at hdid
    revert hdid
    decide
  have howner : some did ≠ some "" := fun hempty => hne (Option.some.inj hempty)
  exact saved_save (r := { r with owner := some did }) hstorage h.nodup h.tokenIds h.userIds howner

/-- A revoked token is in the document no more. -/
theorem Saved.revoke {r : Resolver} (h : r.Saved) (token : String) : (r.revoke token).Saved := by
  obtain ⟨content, hstorage, -⟩ := h.document
  refine saved_save (r := { r with tokens := r.tokens.erase token }) hstorage
    (Dict.nodup_erase h.nodup token) (fun token' v hget => ?_) h.userIds h.owner
  have hget : (r.tokens.erase token).get? token' = some v := hget
  rw [Dict.get?_erase] at hget
  split at hget
  · -- the token itself stands for nobody
    cases hget
  · exact h.tokenIds token' v hget

/-- A new start leaves the document as it is. -/
theorem Saved.of_reloaded {r r' : Resolver} (h : r.Saved) (hfound : r.Reloaded r') : r'.Saved := by
  obtain ⟨content, hstorage, hcontent⟩ := h.document
  have htable : r'.table = r.table := by rw [table, table, hfound.owner, hfound.tokens]
  refine ⟨?_, ?_, fun did userId hget => ?_, ?_, content, ?_, ?_⟩
  · -- the tokens
    rw [hfound.tokens]
    exact h.nodup
  · rw [hfound.tokens]
    exact h.tokenIds
  · -- every identifier that is known then is a token's
    obtain ⟨-, token, u, hu, -, rfl⟩ := hfound.userIds did userId hget
    exact h.tokenIds token u hu
  · rw [hfound.owner]
    exact h.owner
  · rw [hfound.storage, hstorage]
  · -- the document is the same, and so is the memory that it should hold
    rw [htable, hfound.tokens, hfound.owner]
    exact hcontent

/-- The document is up to date after every step. -/
theorem Saved.step {r : Resolver} (h : r.Saved) (s : Step) : (r.step s).Saved := by
  have hmoves := r.step_moves s
  generalize r.step s = r' at hmoves
  cases hmoves with
  | refused => exact h
  | signedIn hok hdid hr' =>
    subst hr'
    exact ⟨h.nodup, h.tokenIds, h.userIds, h.owner, h.document⟩
  | issued hok hissued => exact h.issued hissued
  | declared hnone hdid => exact h.declared hdid
  | readied ready => exact ⟨h.nodup, h.tokenIds, h.userIds, h.owner, h.document⟩
  | revoked token => exact h.revoke token
  | reloaded hreload => exact h.of_reloaded (h.reloaded hreload)

/-- The document is up to date after every run. -/
theorem Saved.after {r : Resolver} (h : r.Saved) (steps : List Step) : (r.after steps).Saved := by
  induction steps generalizing r with
  | nil => exact h
  | cons s steps ih => exact ih (h.step s)

end FeedNode.Auth.Resolver
