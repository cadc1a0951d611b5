import FeedNode.Proofs.Auth.Saved
import Mathlib.Algebra.Group.Nat.Defs

/-!
# Revoked tokens

A token is made from a challenge, and a challenge from a DID and the number of the sign-in. The
numbers are counted from zero after every new start. So a challenge that was given to a DID can be
given to it again after a new start, and with it the token, even if it was revoked in the meantime.

This is the only way for a revoked token to come back (`revoked_again`): the same DID presents the
same challenge a second time, and there was a new start between the two. As long as the memory
lasts, a challenge that was presented is spent (`Spent`). All this is said of runs in which no two
inputs have one hash.
-/

namespace FeedNode.Auth

open Feed (User)

/-! ## What is hashed -/

/-- The octets that the challenge of a sign-in is the hash of. -/
def challengeInput (did : String) (nonce : UInt64) : Bytes :=
  Text.utf8 did ++ Bytes.bigEndian 8 nonce.toNat

/-- The octets that the token for a challenge is the hash of. -/
def tokenInput (challenge : String) : Bytes :=
  Text.utf8 ("token:" ++ challenge)

/-- No two of the inputs have one hash. -/
def Apart (inputs : List Bytes) : Prop :=
  ∀ a ∈ inputs, ∀ b ∈ inputs, Blake3.hash a = Blake3.hash b → a = b

instance (inputs : List Bytes) : Decidable (Apart inputs) :=
  inferInstanceAs (Decidable (∀ a ∈ inputs, ∀ b ∈ inputs, Blake3.hash a = Blake3.hash b → a = b))

/-- A challenge's octets tell its DID from its number, which takes eight octets. -/
theorem challengeInput_injective {did did' : String} {nonce nonce' : UInt64}
    (h : challengeInput did nonce = challengeInput did' nonce') : did = did' ∧ nonce = nonce' := by
  have hlength : (Bytes.bigEndian 8 nonce.toNat).length =
      (Bytes.bigEndian 8 nonce'.toNat).length := by
    rw [Bytes.length_bigEndian, Bytes.length_bigEndian]
  obtain ⟨hdid, hnonce⟩ := List.append_inj' h hlength
  have hroom : ∀ n : UInt64, n.toNat < Bytes.room 8 := UInt64.toNat_lt
  have hnonce := Bytes.bigEndian_injective (hroom nonce) (hroom nonce') hnonce
  exact ⟨Text.utf8_injective hdid, UInt64.toNat_inj.1 hnonce⟩

/-- A token's octets tell the challenge that it is for. -/
theorem tokenInput_injective {c c' : String} (h : tokenInput c = tokenInput c') : c = c' :=
  (String.append_right_inj "token:").1 (Text.utf8_injective h)

section Apart

variable {inputs : List Bytes}

/-- Of fewer inputs no two have one hash either. -/
theorem Apart.mono {inputs' : List Bytes} (h : Apart inputs') (hsub : inputs ⊆ inputs') :
    Apart inputs :=
  fun a ha b hb => h a (hsub ha) b (hsub hb)

/-- Where the hashes are apart, a challenge has one DID and one number. -/
theorem Apart.challengeFor_injective (h : Apart inputs) {did did' : String} {nonce nonce' : UInt64}
    (hmem : challengeInput did nonce ∈ inputs) (hmem' : challengeInput did' nonce' ∈ inputs)
    (heq : challengeFor did nonce = challengeFor did' nonce') : did = did' ∧ nonce = nonce' :=
  challengeInput_injective (h _ hmem _ hmem' (Bytes.hex_injective heq))

/-- Where the hashes are apart, a token has one challenge. -/
theorem Apart.tokenFor_injective (h : Apart inputs) {c c' : String} (hmem : tokenInput c ∈ inputs)
    (hmem' : tokenInput c' ∈ inputs) (heq : tokenFor c = tokenFor c') : c = c' :=
  tokenInput_injective (h _ hmem _ hmem' (Bytes.hex_injective heq))

end Apart

namespace Resolver

/-- What a step hashes. -/
def hashes (r : Resolver) : Step → List Bytes
  | .signIn document =>
    match r.signIn document, documentDid document with
    | .ok _, .ok did => [challengeInput did r.nonce]
    | _, _ => []
  | .didAuth name presentation =>
    match r.didAuth name presentation with
    | .ok _ => [tokenInput presentation]
    | .error _ => []
  | _ => []

/-- What some steps hash. -/
def hashed (r : Resolver) : List Step → List Bytes
  | [] => []
  | s :: steps => r.hashes s ++ (r.step s).hashed steps

/-- Some steps and then some more hash what either hash, one after the other. -/
theorem hashed_append (r : Resolver) (steps steps' : List Step) :
    r.hashed (steps ++ steps') = r.hashed steps ++ (r.after steps).hashed steps' := by
  induction steps generalizing r with
  | nil => rfl
  | cons s steps ih =>
    rw [List.cons_append, hashed, hashed, ih, List.append_assoc]
    rfl

end Resolver

/-- The step is a sign-in, which takes a number. -/
def Step.isSignIn : Step → Bool
  | .signIn _ => true
  | _ => false

/-- The sign-ins of a run are counted from its first step on. -/
theorem countP_isSignIn_cons (s : Step) (steps : List Step) :
    (s :: steps).countP Step.isSignIn = s.isSignIn.toNat + steps.countP Step.isSignIn := by
  rw [List.countP_cons, Nat.add_comm]
  cases s.isSignIn <;> rfl

namespace Resolver

/-! ## Challenges and their numbers -/

/-- A challenge that can be presented was made with a number below the next one, and the numbers
are no more than the sign-ins. What it is the hash of is among the inputs. -/
structure Challenged (inputs : List Bytes) (signIns : Nat) (r : Resolver) : Prop where
  nonce_le : r.nonce.toNat ≤ signIns
  challenges : ∀ c did, r.challenges.get? c = some did →
    ∃ n, c = challengeFor did n ∧ n.toNat < r.nonce.toNat ∧ challengeInput did n ∈ inputs

/-- The challenge is gone, and its number will not be used again. -/
structure Spent (c : String) (n : UInt64) (r : Resolver) : Prop where
  gone : r.challenges.get? c = none
  passed : n.toNat < r.nonce.toNat

section Steps

variable {r r' : Resolver} {inputs : List Bytes} {signIns : Nat}

/-- Without challenges nothing need be said of their numbers. -/
theorem challenged_of_fresh (hnonce : r.nonce = 0) (hchallenges : r.challenges = .empty)
    (inputs : List Bytes) : r.Challenged inputs 0 where
  nonce_le := by simp [hnonce]
  challenges c did h := by
    rw [hchallenges, Dict.get?_empty] at h
    cases h

/-- A new resolver has no challenges. -/
theorem challenged_start : start.Challenged inputs 0 :=
  challenged_of_fresh rfl rfl inputs

/-- A sign-in that gives a challenge hashes it. -/
theorem mem_hashes_signIn {document challenge did : String}
    (hok : r.signIn document = .ok (challenge, r')) (hdid : documentDid document = .ok did) :
    challengeInput did r.nonce ∈ r.hashes (.signIn document) := by
  rw [hashes, hok, hdid]
  exact List.mem_singleton_self _

/-- A call that is given a token hashes it. -/
theorem mem_hashes_didAuth {name presentation : String} {issued : String × User}
    (hok : r.didAuth name presentation = .ok (issued, r')) :
    tokenInput presentation ∈ r.hashes (.didAuth name presentation) := by
  rw [hashes, hok]
  exact List.mem_singleton_self _

/-- Where no challenge comes up and no number is taken. -/
theorem Challenged.of_get? (h : r.Challenged inputs signIns) (more : Nat)
    (hnonce : r'.nonce = r.nonce)
    (hget : ∀ c did, r'.challenges.get? c = some did → r.challenges.get? c = some did) :
    r'.Challenged inputs (signIns + more) where
  nonce_le := hnonce ▸ Nat.le_add_right_of_le h.nonce_le
  challenges c did hc := hnonce ▸ h.challenges c did (hget c did hc)

/-- A sign-in that ends takes its challenge away. -/
theorem Issued.get?_challenges {presentation token : String} {u : User}
    (hissued : r.Issued presentation token u r') (c did : String)
    (hget : r'.challenges.get? c = some did) : r.challenges.get? c = some did := by
  rw [hissued.challenges, Dict.get?_erase] at hget
  split at hget
  · cases hget
  · exact hget

/-- The next number is greater as long as there are words for it. -/
theorem Challenged.nonce_succ (h : r.Challenged inputs signIns) (hroom : signIns + 1 < 2 ^ 64) :
    (r.nonce + 1).toNat = r.nonce.toNat + 1 := by
  have hle := h.nonce_le
  have hlt : r.nonce.toNat + 1 < 2 ^ 64 := by omega
  rw [UInt64.toNat_add]
  exact Nat.mod_eq_of_lt hlt

/-- A sign-in that starts takes a number for its challenge, those before have smaller ones. -/
theorem Challenged.step (h : r.Challenged inputs signIns) (s : Step) (hs : s = .reload → r.Saved)
    (hinputs : ∀ b ∈ r.hashes s, b ∈ inputs) (hroom : signIns + s.isSignIn.toNat < 2 ^ 64) :
    (r.step s).Challenged inputs (signIns + s.isSignIn.toNat) := by
  have hle := h.nonce_le
  have hmoves := r.step_moves s
  generalize r.step s = r' at hmoves
  cases hmoves with
  | refused => exact h.of_get? _ rfl fun _ _ hget => hget
  | @signedIn document challenge did _ hok hdid hr' =>
    have hsucc := h.nonce_succ hroom
    -- the new challenge has the number that was next
    subst hr'
    refine ⟨?_, fun c did' hget => ?_⟩
    · show (r.nonce + 1).toNat ≤ signIns + 1
      omega
    · by_cases hc : c = challengeFor did r.nonce
      · -- the number was just counted
        rw [Dict.get?_insert, if_pos hc] at hget
        obtain rfl := Option.some.inj hget
        refine ⟨r.nonce, hc, ?_, hinputs _ (mem_hashes_signIn hok hdid)⟩
        show r.nonce.toNat < (r.nonce + 1).toNat
        omega
      · rw [Dict.get?_insert, if_neg hc] at hget
        -- an older challenge has a lower number
        obtain ⟨n, hn, hlt, hmem⟩ := h.challenges c did' hget
        refine ⟨n, hn, ?_, hmem⟩
        show n.toNat < (r.nonce + 1).toNat
        omega
  -- presenting a challenge takes it away
  | issued hok hissued => exact h.of_get? _ hissued.nonce hissued.get?_challenges
  | @declared did hnone hdid =>
    refine h.of_get? _ (save_nonce _) fun c did' hget => ?_
    rwa [save_challenges] at hget
  | readied ready => exact h.of_get? _ rfl fun _ _ hget => hget
  -- revoking a token leaves the challenges
  | revoked token =>
    refine h.of_get? _ (save_nonce _) fun c did hget => ?_
    rwa [revoke, save_challenges] at hget
  | reloaded hreload =>
    -- the numbers are counted from zero, and no challenge is left
    have hfound := (hs rfl).reloaded hreload
    refine ⟨?_, fun c did hget => ?_⟩
    · rw [hfound.nonce]
      exact Nat.zero_le _
    · rw [hfound.challenges] at hget
      cases hget

/-- Where no challenge comes up and no number is taken. -/
theorem Spent.congr {c : String} {n : UInt64} (h : Spent c n r)
    (hchallenges : r'.challenges = r.challenges) (hnonce : r'.nonce = r.nonce) : Spent c n r' where
  gone := hchallenges ▸ h.gone
  passed := hnonce ▸ h.passed

/-- A sign-in spends its challenge. -/
theorem Issued.spent {presentation token : String} {u : User}
    (hissued : r.Issued presentation token u r') {n : UInt64} (hn : n.toNat < r.nonce.toNat) :
    Spent presentation n r' := by
  refine ⟨?_, ?_⟩
  · rw [hissued.challenges, Dict.get?_erase, if_pos rfl]
  · rw [hissued.nonce]
    exact hn

/-- What is spent stays spent until there is a new start. -/
theorem Spent.step {did : String} {n : UInt64} (h : Spent (challengeFor did n) n r)
    (hr : r.Challenged inputs signIns) (hapart : Apart inputs)
    (hmem : challengeInput did n ∈ inputs) {s : Step} (hreload : s ≠ .reload)
    (hinputs : ∀ b ∈ r.hashes s, b ∈ inputs) (hroom : signIns + s.isSignIn.toNat < 2 ^ 64) :
    Spent (challengeFor did n) n (r.step s) := by
  have hmoves := r.step_moves s
  generalize r.step s = r' at hmoves
  cases hmoves with
  | refused => exact h
  | @signedIn document challenge did' _ hok hdid hr' =>
    have hsucc := hr.nonce_succ hroom
    have hpassed := h.passed
    subst hr'
    refine ⟨?_, ?_⟩
    · -- a challenge with a later number is another one
      have hother : challengeFor did n ≠ challengeFor did' r.nonce := by
        -- equal challenges would have equal numbers
        intro heq
        obtain ⟨-, rfl⟩ := hapart.challengeFor_injective hmem
          (hinputs _ (mem_hashes_signIn hok hdid)) heq
        omega
      rw [Dict.get?_insert, if_neg hother]
      exact h.gone
    · show n.toNat < (r.nonce + 1).toNat
      omega
  -- another challenge is taken away, and this one is gone already
  | issued hok hissued =>
    refine ⟨?_, ?_⟩
    · rw [hissued.challenges, Dict.get?_erase, h.gone, ite_self]
    · rw [hissued.nonce]
      exact h.passed
  | declared hnone hdid => exact h.congr (save_challenges _) (save_nonce _)
  | readied ready => exact h.congr rfl rfl
  | revoked token => exact h.congr (save_challenges _) (save_nonce _)
  | reloaded => exact absurd rfl hreload

/-- A token that there is not does not come up but by a sign-in with its challenge. -/
theorem token_of_step (hs : r.Saved) (hapart : Apart inputs) {c : String}
    (hmem : tokenInput c ∈ inputs) {s : Step} (hinputs : ∀ b ∈ r.hashes s, b ∈ inputs)
    (hnone : r.tokens.get? (tokenFor c) = none) :
    (r.step s).tokens.get? (tokenFor c) = none ∨
      ∃ name u r', s = .didAuth name c ∧ r.didAuth name c = .ok ((tokenFor c, u), r') := by
  have hmoves := r.step_moves s
  generalize r.step s = r' at hmoves
  cases hmoves with
  | refused => exact .inl hnone
  | signedIn hok hdid hr' =>
    subst hr'
    exact .inl hnone
  | @issued name presentation token u _ hok hissued =>
    -- another token with this hash would be for the same challenge
    by_cases htoken : tokenFor c = token
    · have hsame : c = presentation := hapart.tokenFor_injective hmem
        (hinputs _ (mem_hashes_didAuth hok)) (htoken.trans hissued.token_eq)
      subst hsame htoken
      exact .inr ⟨name, u, r', rfl, hok⟩
    · rw [hissued.tokens, Dict.get?_insert, if_neg htoken]
      exact .inl hnone
  | declared hno hdid =>
    rw [save_tokens]
    exact .inl hnone
  | readied ready => exact .inl hnone
  -- revoking takes away, and there was none
  | revoked token =>
    rw [revoke, save_tokens, Dict.get?_erase, hnone, ite_self]
    exact .inl rfl
  -- a new start finds the tokens that there were
  | reloaded hreload =>
    have hfound := hs.reloaded hreload
    rw [hfound.tokens]
    exact .inl hnone

/-! ## Runs -/

/-- What a new start finds matters only where there is one. -/
theorem Challenged.run (h : r.Challenged inputs signIns) {steps : List Step}
    (hs : .reload ∈ steps → r.Saved) (hinputs : ∀ b ∈ r.hashed steps, b ∈ inputs)
    (hroom : signIns + steps.countP Step.isSignIn < 2 ^ 64) :
    (r.after steps).Challenged inputs (signIns + steps.countP Step.isSignIn) := by
  induction steps generalizing r signIns with
  | nil => exact h
  | cons s steps ih =>
    -- the sign-ins are counted from the first step on
    rw [countP_isSignIn_cons, ← Nat.add_assoc] at hroom ⊢
    have hfirst : s = .reload → r.Saved := fun hreload => hs (hreload ▸ List.mem_cons_self)
    refine ih (h.step s hfirst (fun b hb => hinputs b ?_) (by omega))
      (fun hreload => (hs (List.mem_cons_of_mem _ hreload)).step s) (fun b hb => hinputs b ?_) hroom
    · exact List.mem_append_left _ hb
    · exact List.mem_append_right _ hb

/-- The same in a resolver whose document is up to date. -/
theorem Challenged.after (h : r.Challenged inputs signIns) (hs : r.Saved) (steps : List Step)
    (hinputs : ∀ b ∈ r.hashed steps, b ∈ inputs)
    (hroom : signIns + steps.countP Step.isSignIn < 2 ^ 64) :
    (r.after steps).Challenged inputs (signIns + steps.countP Step.isSignIn) :=
  h.run (fun _ => hs) hinputs hroom

/-- What is spent stays spent in a run without a new start. -/
theorem Spent.after {did : String} {n : UInt64} (h : Spent (challengeFor did n) n r)
    (hr : r.Challenged inputs signIns) (hapart : Apart inputs)
    (hmem : challengeInput did n ∈ inputs) {steps : List Step} (hreload : .reload ∉ steps)
    (hinputs : ∀ b ∈ r.hashed steps, b ∈ inputs)
    (hroom : signIns + steps.countP Step.isSignIn < 2 ^ 64) :
    Spent (challengeFor did n) n (r.after steps) := by
  induction steps generalizing r signIns with
  | nil => exact h
  | cons s steps ih =>
    rw [countP_isSignIn_cons, ← Nat.add_assoc] at hroom
    rw [List.mem_cons, not_or] at hreload
    have hfirst : ∀ b ∈ r.hashes s, b ∈ inputs :=
      fun b hb => hinputs b (List.mem_append_left _ hb)
    have hsame : s = .reload → r.Saved := fun heq => absurd heq.symm hreload.1
    -- the first step keeps it spent, and keeps the numbers behind the count
    exact ih (h.step hr hapart hmem (Ne.symm hreload.1) hfirst (by omega))
      (hr.step s hsame hfirst (by omega)) hreload.2
      (fun b hb => hinputs b (List.mem_append_right _ hb)) hroom

/-- A token that there is at the end and was not at the beginning came up by a sign-in. -/
theorem token_of_after (hs : r.Saved) (hapart : Apart inputs) {c : String}
    (hmem : tokenInput c ∈ inputs) {steps : List Step}
    (hinputs : ∀ b ∈ r.hashed steps, b ∈ inputs) (hnone : r.tokens.get? (tokenFor c) = none) :
    (r.after steps).tokens.get? (tokenFor c) = none ∨
      ∃ front name rest u r', steps = front ++ .didAuth name c :: rest ∧
        (r.after front).didAuth name c = .ok ((tokenFor c, u), r') := by
  induction steps generalizing r with
  | nil => exact .inl hnone
  | cons s steps ih =>
    have hfirst : ∀ b ∈ r.hashes s, b ∈ inputs :=
      fun b hb => hinputs b (List.mem_append_left _ hb)
    have hrest : ∀ b ∈ (r.step s).hashed steps, b ∈ inputs :=
      fun b hb => hinputs b (List.mem_append_right _ hb)
    -- it came up at the first step, or is none yet
    rcases token_of_step hs hapart hmem hfirst hnone with hstill | ⟨name, u, r', rfl, hok⟩
    · rcases ih (hs.step s) hrest hstill with hstill | ⟨front, name, rest, u, r', rfl, hok⟩
      · exact .inl hstill
      · exact .inr ⟨s :: front, name, rest, u, r', rfl, hok⟩
    · exact .inr ⟨[], name, steps, u, r', rfl, hok⟩

/-- A challenge that is presented again was given to the same DID again, after a new start. -/
theorem Issued.again {c token token' : String} {u u' : User} {r'' : Resolver}
    (hissued : r.Issued c token u r') (hr : r.Challenged inputs signIns) (hapart : Apart inputs)
    {steps : List Step} (hs : .reload ∈ steps → r'.Saved)
    (hinputs : ∀ b ∈ r'.hashed steps, b ∈ inputs)
    (hroom : signIns + steps.countP Step.isSignIn < 2 ^ 64)
    (hagain : (r'.after steps).Issued c token' u' r'') :
    .reload ∈ steps ∧ u'.did = u.did := by
  -- the challenge had a number when it was presented first
  obtain ⟨n, rfl, hlt, hmem⟩ := hr.challenges c u.did hissued.presented
  have hr' : r'.Challenged inputs signIns := hr.of_get? 0 hissued.nonce hissued.get?_challenges
  refine ⟨?_, ?_⟩
  · by_cases hreload : .reload ∈ steps
    · exact hreload
    · -- without one the challenge would still be spent
      have hspent := (hissued.spent hlt).after hr' hapart hmem hreload hinputs hroom
      have hgone := hspent.gone
      rw [hagain.presented] at hgone
      cases hgone
  · -- the second time it has one too, and one challenge has one DID
    obtain ⟨n', heq, -, hmem'⟩ :=
      (hr'.run hs hinputs hroom).challenges _ u'.did hagain.presented
    exact (hapart.challengeFor_injective hmem' hmem heq.symm).1

/-- A token that was revoked stands for nobody. -/
theorem get?_tokens_revoke (r : Resolver) (token : String) :
    (r.revoke token).tokens.get? token = none := by
  rw [revoke, save_tokens, Dict.get?_erase, if_pos rfl]

/-- A token that was issued and revoked, and stands for a user in the end, was issued again. -/
theorem Issued.again_of_revoked {c : String} {u v : User} (hissued : r.Issued c (tokenFor c) u r')
    (hr : r.Challenged inputs signIns) (hs : r'.Saved) (hapart : Apart inputs)
    (hmem : tokenInput c ∈ inputs) {between later : List Step}
    (hinputs : ∀ b ∈ r'.hashed (between ++ .revoke (tokenFor c) :: later), b ∈ inputs)
    (hroom : signIns + (between ++ .revoke (tokenFor c) :: later).countP Step.isSignIn < 2 ^ 64)
    (hverified :
      (((r'.after between).revoke (tokenFor c)).after later).verify (tokenFor c) = .ok v) :
    ∃ front name rest, later = front ++ .didAuth name c :: rest ∧ .reload ∈ between ++ front ∧
      ∃ u' r'', (((r'.after between).revoke (tokenFor c)).after front).didAuth name c =
        .ok ((tokenFor c, u'), r'') ∧ u'.did = u.did := by
  have hrevoked : ((r'.after between).revoke (tokenFor c)).Saved :=
    (hs.after between).step (.revoke (tokenFor c))
  -- what is hashed behind the revocation is hashed in the run
  have hlater : ∀ b ∈ ((r'.after between).revoke (tokenFor c)).hashed later, b ∈ inputs := by
    intro b hb
    refine hinputs b ?_
    rw [hashed_append]
    exact List.mem_append_right _ hb
  rcases token_of_after hrevoked hapart hmem hlater (get?_tokens_revoke _ _) with
    hnone | ⟨front, name, rest, u', r'', rfl, hok⟩
  · -- it never came up again, and yet it stands for someone
    rw [(verify_eq_ok_iff.1 hverified).2] at hnone
    cases hnone
  · -- up to this sign-in the run is `between`, the revocation and `front`
    rw [← List.cons_append, ← List.append_assoc] at hinputs hroom
    have hrun : ((r'.after between).revoke (tokenFor c)).after front =
        r'.after (between ++ .revoke (tokenFor c) :: front) := by
      rw [after_append]
      rfl
    have hback : ∀ b ∈ r'.hashed (between ++ .revoke (tokenFor c) :: front), b ∈ inputs := by
      intro b hb
      refine hinputs b ?_
      rw [hashed_append]
      exact List.mem_append_left _ hb
    have hagain := didAuth_ok hok
    rw [hrun] at hagain
    rw [List.countP_append] at hroom
    obtain ⟨hreload, hdid⟩ := hissued.again hr hapart (fun _ => hs) hback (by omega) hagain
    have hreload : .reload ∈ between ++ front := by
      simpa using hreload
    exact ⟨front, name, rest, rfl, hreload, u', r'', hok, hdid⟩

end Steps

/-! ## A token that comes back -/

/-- The person who signed in first signs in again after a new start. -/
def sampleReturn : List Step :=
  .reload :: sampleSignIn

/-- No two inputs of the run have one hash. -/
theorem sample_apart : Apart (start.hashed
    ([.signIn "did:a"] ++ .didAuth "n" sampleChallenge ::
      ([] ++ .revoke sampleToken :: sampleReturn))) := by
  have htwo : Apart [challengeInput "did:a" 0, tokenInput sampleChallenge] := by
    decide +kernel
  refine htwo.mono ?_
  decide +kernel

/-- At the end of the run the revoked token stands for a user again. -/
theorem sample_verified :
    ((((start.after sampleSignIn).after []).revoke sampleToken).after sampleReturn).verify
      sampleToken = .ok (sampleUser "did:a") :=
  verify_eq_ok_iff.2 (by decide +kernel)

/-- A token that was revoked stands for a user again only if, after a new start, its challenge was
presented again, by the DID that it was issued to before. -/
theorem revoked_again {before between later : List Step} {name c token : String} {u v : User}
    {r : Resolver}
    (hissued : (start.after before).didAuth name c = .ok ((token, u), r))
    (hapart : Apart (start.hashed
      (before ++ .didAuth name c :: (between ++ .revoke token :: later))))
    (hcount : (before ++ .didAuth name c :: (between ++ .revoke token :: later)).countP
      Step.isSignIn < 2 ^ 64)
    (hverified : (((r.after between).revoke token).after later).verify token = .ok v) :
    ∃ front name' rest, later = front ++ .didAuth name' c :: rest ∧ .reload ∈ between ++ front ∧
      ∃ u' r', (((r.after between).revoke token).after front).didAuth name' c =
        .ok ((token, u'), r') ∧ u'.did = u.did := by
  have hfirst := didAuth_ok hissued
  obtain rfl := hfirst.token_eq
  have hstep := step_didAuth hissued
  have hsaved := (saved_start.after before).step (.didAuth name c)
  rw [hstep] at hsaved
  rw [List.countP_append, countP_isSignIn_cons] at hcount
  -- the inputs are those before the token was issued, that of the token, and those after it
  generalize hinputs : start.hashed
    (before ++ .didAuth name c :: (between ++ .revoke (tokenFor c) :: later)) = inputs at hapart
  rw [hashed_append, hashed, hstep] at hinputs
  have hbefore : ∀ b ∈ start.hashed before, b ∈ inputs := fun b hb =>
    hinputs ▸ List.mem_append_left _ hb
  have hmem : tokenInput c ∈ inputs :=
    hinputs ▸ List.mem_append_right _ (List.mem_append_left _ (mem_hashes_didAuth hissued))
  have hafter : ∀ b ∈ r.hashed (between ++ .revoke (tokenFor c) :: later), b ∈ inputs := fun b hb =>
    hinputs ▸ List.mem_append_right _ (List.mem_append_right _ hb)
  have hchallenged := challenged_start.after saved_start before hbefore (by omega)
  exact hfirst.again_of_revoked hchallenged hsaved hapart hmem hafter (by omega) hverified

/-- In the run of the samples its challenge was presented again after a new start. -/
theorem revoked_again_return : ∃ front name rest,
    sampleReturn = front ++ .didAuth name sampleChallenge :: rest ∧ .reload ∈ [] ++ front ∧
      ∃ u r, ((((start.after sampleSignIn).after []).revoke sampleToken).after front).didAuth
        name sampleChallenge = .ok ((sampleToken, u), r) ∧ u.did = "did:a" :=
  revoked_again sample_first sample_apart (by decide) sample_verified

/-- A token that was revoked can stand for a user again. -/
theorem revoked_verified :
    ∃ (before between later : List Step) (name c token : String) (u v : User) (r : Resolver),
      (start.after before).didAuth name c = .ok ((token, u), r) ∧
        Apart (start.hashed
          (before ++ .didAuth name c :: (between ++ .revoke token :: later))) ∧
        (before ++ .didAuth name c :: (between ++ .revoke token :: later)).countP
          Step.isSignIn < 2 ^ 64 ∧
        (((r.after between).revoke token).after later).verify token = .ok v :=
  ⟨_, [], _, _, _, _, _, _, _, sample_first, sample_apart, by decide, sample_verified⟩

end Resolver

end FeedNode.Auth
