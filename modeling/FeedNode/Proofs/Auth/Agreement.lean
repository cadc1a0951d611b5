import FeedNode.Proofs.Auth.Revocation
import Mathlib.Tactic.Choose

/-!
# Every token goes back to a sign-in

As long as a resolver lives, whoever is given a token has presented a challenge that an earlier
sign-in gave, for a document that names the DID of the token's user. No two tokens go back to the
same sign-in: its number makes its challenge its own, and a challenge that was accepted is gone for
good. It does not matter which clients the calls come from, nor in what order they take effect.

All this is said of runs in which no two inputs have one hash and the numbers of the sign-ins are
words (`Lifetime`).

Main statements: `Lifetime.issues_once`, `Lifetime.agreement`.
-/

namespace FeedNode.Auth.Resolver

open Feed (User)

/-- A resolver that has just started. -/
inductive Started : Resolver → Prop where
  | new (ownerDid : String) : Started (new ownerDid)
  | load {content : Option Json.Value} {r : Resolver} (h : load? content = some r) : Started r

/-- A run of calls without a new start, from a resolver that has just started. -/
structure Lifetime (r : Resolver) (steps : List Step) : Prop where
  started : r.Started
  reload : .reload ∉ steps
  apart : Apart (r.hashed steps)
  count : steps.countP Step.isSignIn < 2 ^ 64

/-- The resolver before the call at a place of a run. -/
def before (r : Resolver) (steps : List Step) (i : Nat) : Resolver :=
  r.after (steps.take i)

/-- The call at a place of a run is a sign-in that is given a document for a DID and gives a
challenge. -/
def Issues (r : Resolver) (steps : List Step) (i : Nat) (challenge did : String) : Prop :=
  ∃ document r', steps[i]? = some (.signIn document) ∧ documentDid document = .ok did ∧
    (r.before steps i).signIn document = .ok (challenge, r')

/-- The call at a place of a run presents a challenge and is given a token for a user. -/
def Accepts (r : Resolver) (steps : List Step) (i : Nat) (challenge token : String) (u : User) :
    Prop :=
  ∃ name r', steps[i]? = some (.didAuth name challenge) ∧
    (r.before steps i).didAuth name challenge = .ok ((token, u), r')

section Places

variable {r : Resolver} {steps : List Step} {i j : Nat} {c c' token token' did did' : String}
  {u u' : User}

/-- A place has one call, and the call one answer. -/
theorem Issues.unique (h : r.Issues steps i c did) (h' : r.Issues steps i c' did') : c = c' := by
  obtain ⟨document, r', hs, -, hok⟩ := h
  obtain ⟨document', r'', hs', -, hok'⟩ := h'
  obtain rfl := Step.signIn.inj (Option.some.inj (hs.symm.trans hs'))
  exact congrArg Prod.fst (Except.ok.inj (hok.symm.trans hok'))

/-- A place has one call, which is accepted with one challenge and for one user. -/
theorem Accepts.unique (h : r.Accepts steps i c token u) (h' : r.Accepts steps i c' token' u') :
    c = c' ∧ u = u' := by
  obtain ⟨name, r', hs, hok⟩ := h
  obtain ⟨name', r'', hs', hok'⟩ := h'
  obtain ⟨rfl, rfl⟩ := Step.didAuth.inj (Option.some.inj (hs.symm.trans hs'))
  have hissued := congrArg Prod.fst (Except.ok.inj (hok.symm.trans hok'))
  exact ⟨rfl, congrArg Prod.snd hissued⟩

/-- Nothing has happened before the first call. -/
theorem before_zero (r : Resolver) (steps : List Step) : r.before steps 0 = r := rfl

/-- Before the next place the call at this one has been made. -/
theorem before_succ {s : Step} (h : steps[i]? = some s) :
    r.before steps (i + 1) = (r.before steps i).step s := by
  rw [before, before, List.take_add_one, h]
  exact after_concat r _ s

/-- Behind the end of a run nothing more happens. -/
theorem before_succ_of_none (h : steps[i]? = none) :
    r.before steps (i + 1) = r.before steps i := by
  rw [before, before, List.take_add_one, h]
  simp

/-- The calls between two places. -/
theorem take_eq_append (steps : List Step) (hij : i ≤ j) :
    steps.take j = steps.take i ++ (steps.take j).drop i := by
  have hsplit := List.take_append_drop i (steps.take j)
  rw [List.take_take, Nat.min_eq_left hij] at hsplit
  exact hsplit.symm

/-- Between two places a resolver runs through the calls that stand there. -/
theorem before_eq_after (r : Resolver) (steps : List Step) (hij : i ≤ j) :
    r.before steps j = (r.before steps i).after ((steps.take j).drop i) := by
  rw [before, before, ← after_append, ← take_eq_append steps hij]

/-- What is hashed between two places is hashed in the run. -/
theorem mem_hashed_of_between (hij : i ≤ j) {b : Bytes}
    (hb : b ∈ (r.before steps i).hashed ((steps.take j).drop i)) : b ∈ r.hashed steps := by
  rw [← List.take_append_drop j steps, hashed_append, take_eq_append steps hij, hashed_append]
  exact List.mem_append_left _ (List.mem_append_right _ hb)

/-- What one call hashes is hashed in the run. -/
theorem mem_hashed_of_hashes {s : Step} (h : steps[i]? = some s) {b : Bytes}
    (hb : b ∈ (r.before steps i).hashes s) : b ∈ r.hashed steps := by
  obtain ⟨hlt, hs⟩ := List.getElem?_eq_some_iff.1 h
  have hsplit : steps.take i ++ s :: steps.drop (i + 1) = steps := by
    rw [← hs, ← List.drop_eq_getElem_cons hlt, List.take_append_drop]
  rw [← hsplit, hashed_append, hashed]
  exact List.mem_append_right _ (List.mem_append_left _ hb)

end Places

/-- What is no challenge is refused. -/
theorem didAuth_of_none {r : Resolver} {c : String} (h : r.challenges.get? c = none)
    (name : String) :
    r.didAuth name c = .error (if r.isReady then .invalidChallenge else .notReady) := by
  rw [didAuth, h]
  cases r.isReady <;> rfl

/-! ## A lifetime -/

/-- Whatever tokens were kept, a resolver starts without challenges and counts from zero. -/
theorem Started.fresh {r : Resolver} (h : r.Started) : r.nonce = 0 ∧ r.challenges = .empty := by
  cases h with
  | new ownerDid => exact ⟨rfl, rfl⟩
  | @load content r h =>
    -- remembering a token touches neither the count nor the challenges
    have hfold (entries : List (String × User)) (r : Resolver) :
        (entries.foldl (fun r e => r.remember e.1 e.2) r).nonce = r.nonce ∧
          (entries.foldl (fun r e => r.remember e.1 e.2) r).challenges = r.challenges := by
      induction entries generalizing r with
      | nil => exact ⟨rfl, rfl⟩
      | cons e entries ih => exact ih (r.remember e.1 e.2)
    cases content with
    -- nothing was kept
    | none =>
      obtain rfl := Option.some.inj h
      exact ⟨rfl, rfl⟩
    | some v =>
      -- a table was kept, whose tokens are remembered one by one
      simp only [load?, Option.bind_eq_bind, Option.bind_eq_some_iff, Option.pure_def,
        Option.some.injEq] at h
      obtain ⟨table, -, rfl⟩ := h
      exact hfold table.tokens.entries (.new table.ownerDid)

namespace Lifetime

variable {r : Resolver} {steps : List Step} {i j : Nat} {c c' token token' did did' : String}
  {u u' : User}

/-- Before every call the numbers are no more than the sign-ins so far. -/
theorem challenged (h : r.Lifetime steps) (i : Nat) :
    (r.before steps i).Challenged (r.hashed steps) ((steps.take i).countP Step.isSignIn) := by
  obtain ⟨hnonce, hchallenges⟩ := h.started.fresh
  have hstart := challenged_of_fresh hnonce hchallenges (r.hashed steps)
  have hle : (steps.take i).countP Step.isSignIn ≤ steps.countP Step.isSignIn :=
    (List.take_sublist i steps).countP_le
  have hcount := h.count
  -- a lifetime has no further start, so that nothing need have been saved
  have hreload : .reload ∈ steps.take i → r.Saved := fun hmem =>
    absurd (List.mem_of_mem_take hmem) h.reload
  have hinputs : ∀ b ∈ r.hashed (steps.take i), b ∈ r.hashed steps := fun b hb =>
    mem_hashed_of_between (Nat.zero_le i) hb
  have hrun := hstart.run hreload hinputs (by omega)
  rw [Nat.zero_add] at hrun
  exact hrun

/-- At a sign-in of a lifetime there is a number left to count on to. -/
theorem nonce_succ (h : r.Lifetime steps) {document : String}
    (hs : steps[i]? = some (.signIn document)) :
    ((r.before steps i).nonce + 1).toNat = (r.before steps i).nonce.toNat + 1 := by
  have hcount := h.count
  have hle : (steps.take (i + 1)).countP Step.isSignIn ≤ steps.countP Step.isSignIn :=
    (List.take_sublist (i + 1) steps).countP_le
  rw [List.take_add_one, hs, List.countP_append] at hle
  have hone : (some (Step.signIn document)).toList.countP Step.isSignIn = 1 := rfl
  exact (h.challenged i).nonce_succ (by omega)

/-- A sign-in makes its challenge with the next number, and what it hashes is among the inputs. -/
theorem issues_eq (hi : r.Issues steps i c did) :
    c = challengeFor did (r.before steps i).nonce ∧
      challengeInput did (r.before steps i).nonce ∈ r.hashed steps := by
  obtain ⟨document, r', hs, hdid, hok⟩ := hi
  obtain ⟨did', hdid', hc, -⟩ := signIn_ok hok
  obtain rfl : did = did' := Except.ok.inj (hdid.symm.trans hdid')
  exact ⟨hc, mem_hashed_of_hashes hs (mem_hashes_signIn hok hdid)⟩

/-- After a call either a challenge was issued and its number taken, or no challenge came up. -/
theorem next_cases (h : r.Lifetime steps) (i : Nat) :
    (∃ c did, r.Issues steps i c did ∧
        (r.before steps (i + 1)).nonce.toNat = (r.before steps i).nonce.toNat + 1 ∧
        (r.before steps (i + 1)).challenges = (r.before steps i).challenges.insert c did) ∨
      (r.before steps (i + 1)).nonce = (r.before steps i).nonce ∧
        ∀ c did, (r.before steps (i + 1)).challenges.get? c = some did →
          (r.before steps i).challenges.get? c = some did := by
  cases hs : steps[i]? with
  | none =>
    rw [before_succ_of_none hs]
    exact .inr ⟨rfl, fun _ _ hget => hget⟩
  | some s =>
    rw [before_succ hs]
    -- every call makes one of the moves of a resolver
    have hmoves := (r.before steps i).step_moves s
    generalize (r.before steps i).step s = r' at hmoves
    cases hmoves with
    | refused => exact .inr ⟨rfl, fun _ _ hget => hget⟩
    -- a sign-in gives a challenge and counts on
    | @signedIn document challenge did _ hok hdid hr' =>
      have hsucc := h.nonce_succ hs
      have hissues : r.Issues steps i challenge did := ⟨document, r', hs, hdid, hok⟩
      subst hr'
      exact .inl ⟨challenge, did, hissues, hsucc, by rw [(issues_eq hissues).1]⟩
    -- an acceptance takes challenges away only
    | issued hok hissued => exact .inr ⟨hissued.nonce, hissued.get?_challenges⟩
    | declared hnone hdid =>
      exact .inr ⟨save_nonce _, fun c did hget => by rwa [save_challenges] at hget⟩
    | readied ready => exact .inr ⟨rfl, fun _ _ hget => hget⟩
    | revoked token =>
      exact .inr ⟨save_nonce _, fun c did hget => by rwa [revoke, save_challenges] at hget⟩
    -- there is no further start
    | reloaded hreload => exact absurd (List.mem_of_getElem? hs) h.reload

/-- The numbers never go back. -/
theorem nonce_le (h : r.Lifetime steps) (hij : i ≤ j) :
    (r.before steps i).nonce.toNat ≤ (r.before steps j).nonce.toNat := by
  induction hij with
  | refl => exact Nat.le_refl _
  -- one more call, which counts on or leaves the number
  | @step j hij ih =>
    show _ ≤ (r.before steps (j + 1)).nonce.toNat
    rcases h.next_cases j with ⟨-, -, -, hsucc, -⟩ | ⟨hsame, -⟩
    · omega
    · rw [hsame]
      exact ih

/-- A sign-in leaves a greater number behind. -/
theorem nonce_lt (h : r.Lifetime steps) (hi : r.Issues steps i c did) (hij : i < j) :
    (r.before steps i).nonce.toNat < (r.before steps j).nonce.toNat := by
  obtain ⟨document, r', hs, -, hok⟩ := hi
  obtain ⟨_, -, -, hr'⟩ := signIn_ok hok
  have hstep : (r.before steps i).step (.signIn document) = r' := by rw [step, hok]; rfl
  have hsucc := h.nonce_succ hs
  have hle := h.nonce_le hij
  rw [before_succ hs, hstep, hr'] at hle
  exact Nat.lt_of_lt_of_le (hsucc ▸ Nat.lt_succ_self _) hle

/-- No challenge is issued twice. -/
theorem issues_once (h : r.Lifetime steps) (hi : r.Issues steps i c did)
    (hj : r.Issues steps j c did') : i = j := by
  obtain ⟨hc, hmem⟩ := issues_eq hi
  obtain ⟨hc', hmem'⟩ := issues_eq hj
  -- one challenge has one number, which is taken once
  obtain ⟨-, hnonce⟩ := h.apart.challengeFor_injective hmem hmem' (hc.symm.trans hc')
  rcases Nat.lt_trichotomy i j with hlt | heq | hlt
  · exact absurd (congrArg UInt64.toNat hnonce) (Nat.ne_of_lt (h.nonce_lt hi hlt))
  · exact heq
  · exact absurd (congrArg UInt64.toNat hnonce) (Nat.ne_of_gt (h.nonce_lt hj hlt))

/-- A challenge that can be presented was issued, for the DID that is kept with it. -/
theorem issued_of_get? (h : r.Lifetime steps)
    (hget : (r.before steps i).challenges.get? c = some did) : ∃ j < i, r.Issues steps j c did := by
  induction i generalizing c did with
  -- at the start there are no challenges
  | zero =>
    rw [before_zero, h.started.fresh.2, Dict.get?_empty] at hget
    cases hget
  | succ i ih =>
    rcases h.next_cases i with ⟨c', did', hissues, -, hchallenges⟩ | ⟨-, hkept⟩
    · -- the call issued one, this or another
      rw [hchallenges, Dict.get?_insert] at hget
      split at hget
      · rename_i hc
        obtain rfl := Option.some.inj hget
        exact ⟨i, Nat.lt_succ_self i, hc ▸ hissues⟩
      · obtain ⟨j, hj, hissues⟩ := ih hget
        exact ⟨j, Nat.lt_succ_of_lt hj, hissues⟩
    · -- the call issued none
      obtain ⟨j, hj, hissues⟩ := ih (hkept c did hget)
      exact ⟨j, Nat.lt_succ_of_lt hj, hissues⟩

/-! ## What is accepted -/

/-- A call that is given a token presents a challenge and takes it away. -/
theorem accepts_issued (hi : r.Accepts steps i c token u) :
    (r.before steps i).Issued c token u (r.before steps (i + 1)) := by
  obtain ⟨name, r', hs, hok⟩ := hi
  rw [before_succ hs, step_didAuth hok]
  exact didAuth_ok hok

/-- A challenge that was accepted is not accepted later. -/
theorem not_accepts_of_lt (h : r.Lifetime steps) (hi : r.Accepts steps i c token u) (hij : i < j) :
    ¬ r.Accepts steps j c token' u' := by
  intro hj
  replace hij : i + 1 ≤ j := hij
  have hagain := accepts_issued hj
  rw [before_eq_after r steps hij] at hagain
  -- nothing between the two is a new start, and there are numbers for all of it
  have hreload : .reload ∉ (steps.take j).drop (i + 1) := fun hmem =>
    h.reload (List.mem_of_mem_take (List.mem_of_mem_drop hmem))
  have hroom : (steps.take i).countP Step.isSignIn +
      ((steps.take j).drop (i + 1)).countP Step.isSignIn < 2 ^ 64 := by
    have hcount := h.count
    have hle : (steps.take j).countP Step.isSignIn ≤ steps.countP Step.isSignIn :=
      (List.take_sublist j steps).countP_le
    have hfirst : (steps.take i).countP Step.isSignIn ≤
        (steps.take (i + 1)).countP Step.isSignIn :=
      (List.take_sublist_take_left (Nat.le_succ i)).countP_le
    rw [take_eq_append steps hij, List.countP_append] at hle
    omega
  have hback := (accepts_issued hi).again (h.challenged i) h.apart
    (fun hmem => absurd hmem hreload) (fun b hb => mem_hashed_of_between hij hb) hroom hagain
  exact hreload hback.1

/-- No challenge is accepted twice. -/
theorem accepts_once (h : r.Lifetime steps) (hi : r.Accepts steps i c token u)
    (hj : r.Accepts steps j c token' u') : i = j := by
  rcases Nat.lt_trichotomy i j with hlt | heq | hlt
  · exact absurd hj (h.not_accepts_of_lt hi hlt)
  · exact heq
  · exact absurd hi (h.not_accepts_of_lt hj hlt)

/-- No token is issued twice. -/
theorem token_once (h : r.Lifetime steps) (hi : r.Accepts steps i c token u)
    (hj : r.Accepts steps j c' token u') : i = j := by
  obtain ⟨name, r', hs, hok⟩ := hi
  obtain ⟨name', r'', hs', hok'⟩ := hj
  -- equal tokens would come from equal inputs
  have htoken := (didAuth_ok hok).token_eq.symm.trans (didAuth_ok hok').token_eq
  have hmem := mem_hashed_of_hashes hs (mem_hashes_didAuth hok)
  have hmem' := mem_hashed_of_hashes hs' (mem_hashes_didAuth hok')
  obtain rfl := h.apart.tokenFor_injective hmem hmem' htoken
  exact h.accepts_once ⟨name, r', hs, hok⟩ ⟨name', r'', hs', hok'⟩

/-- What was never issued is refused, and nothing comes of it. -/
theorem refused_of_not_issued (h : r.Lifetime steps) {name : String}
    (hs : steps[i]? = some (.didAuth name c)) (hnever : ∀ j < i, ∀ did, ¬ r.Issues steps j c did) :
    (∃ e, (r.before steps i).didAuth name c = .error e) ∧
      r.before steps (i + 1) = r.before steps i := by
  have hnone : (r.before steps i).challenges.get? c = none := by
    -- what could be presented would have been issued
    cases hget : (r.before steps i).challenges.get? c with
    | none => rfl
    | some did =>
      obtain ⟨j, hj, hissues⟩ := h.issued_of_get? hget
      exact absurd hissues (hnever j hj did)
  have herror := didAuth_of_none hnone name
  refine ⟨⟨_, herror⟩, ?_⟩
  rw [before_succ hs, step, herror]
  rfl

/-- The calls that are given a token are matched one to one with earlier sign-ins that gave the
challenge, for a document that names the user's DID. So no challenge is accepted twice, and no token
issued twice; and what was never issued is refused, and changes nothing. -/
theorem agreement (h : r.Lifetime steps) :
    (∃ signIn : Nat → Nat,
      (∀ i c token u, r.Accepts steps i c token u →
        signIn i < i ∧ r.Issues steps (signIn i) c u.did) ∧
      ∀ i j c c' token token' u u', r.Accepts steps i c token u → r.Accepts steps j c' token' u' →
        signIn i = signIn j → i = j) ∧
    (∀ i j c token token' u u', r.Accepts steps i c token u → r.Accepts steps j c token' u' →
      i = j) ∧
    (∀ i name c, steps[i]? = some (.didAuth name c) →
      (∀ j < i, ∀ did, ¬ r.Issues steps j c did) →
      (∃ e, (r.before steps i).didAuth name c = .error e) ∧
        r.before steps (i + 1) = r.before steps i) ∧
    ∀ i j c c' token token' u u', r.Accepts steps i c token u → r.Accepts steps j c' token' u' →
      i ≠ j → token ≠ token' := by
  -- every acceptance has a sign-in that it goes back to
  have hsource : ∀ i, ∃ k, ∀ c token u, r.Accepts steps i c token u →
      k < i ∧ r.Issues steps k c u.did := by
    intro i
    by_cases haccepts : ∃ c token u, r.Accepts steps i c token u
    · obtain ⟨c, token, u, hi⟩ := haccepts
      obtain ⟨k, hk, hissues⟩ := h.issued_of_get? (accepts_issued hi).presented
      refine ⟨k, fun c' token' u' hi' => ?_⟩
      obtain ⟨rfl, rfl⟩ := hi.unique hi'
      exact ⟨hk, hissues⟩
    · exact ⟨0, fun c token u hi => absurd ⟨c, token, u, hi⟩ haccepts⟩
  choose signIn hsignIn using hsource
  refine ⟨⟨signIn, hsignIn, ?_⟩, ?_, ?_, ?_⟩
  · intro i j c c' token token' u u' hi hj heq
    -- two calls that go back to one sign-in present one challenge
    have hissues := (hsignIn i c token u hi).2
    rw [heq] at hissues
    obtain rfl := hissues.unique (hsignIn j c' token' u' hj).2
    exact h.accepts_once hi hj
  · -- the other three parts hold of each pair or call by itself
    exact fun i j c token token' u u' hi hj => h.accepts_once hi hj
  · exact fun i name c hs hnever => h.refused_of_not_issued hs hnever
  · intro i j c c' token token' u u' hi hj hne htoken
    subst htoken
    exact hne (h.token_once hi hj)

/-- The challenge of another person, who signs in second. -/
def crossedChallenge : String :=
  "c12b49f87a1415b71fe68202957a8730dc6b5aec1c850834edad7ce21434d03c"

/-- The token for this challenge. -/
def crossedToken : String :=
  "251a2663d52fd96b03c25b05c0166389b62c3cc7ad7e2efe132c2a4095d8b45d"

/-- Two people sign in at the same time, and the second one is the first to present a challenge. -/
def crossedSignIns : List Step :=
  [.signIn "did:a", .signIn "did:b", .didAuth "n" crossedChallenge, .didAuth "n" sampleChallenge]

/-- The calls that cross are a lifetime of a new resolver. -/
theorem crossed_lifetime : start.Lifetime crossedSignIns where
  started := .load load?_none
  reload := by decide
  apart := by decide +kernel
  count := by decide

/-- The second person presents a challenge first, and is given the next identifier. -/
theorem crossed_second : start.Accepts crossedSignIns 2 crossedChallenge crossedToken
    (sampleUser "did:b") := by
  have hissued : ((start.before crossedSignIns 2).didAuth "n" crossedChallenge).toOption.map
      Prod.fst = some (crossedToken, sampleUser "did:b") := by
    decide +kernel
  obtain ⟨r', hok⟩ := ok_of_toOption hissued
  exact ⟨"n", r', rfl, hok⟩

/-- The first person presents a challenge second, and is given the identifier after it. -/
theorem crossed_first : start.Accepts crossedSignIns 3 sampleChallenge sampleToken
    { sampleUser "did:a" with userId := 3 } := by
  have hissued : ((start.before crossedSignIns 3).didAuth "n" sampleChallenge).toOption.map
      Prod.fst = some (sampleToken, { sampleUser "did:a" with userId := 3 }) := by
    decide +kernel
  obtain ⟨r', hok⟩ := ok_of_toOption hissued
  exact ⟨"n", r', rfl, hok⟩

/-- Of two people whose calls cross, each one's token goes back to the person's own sign-in. -/
theorem agreement_sample :
    ∃ second first : Nat, second ≠ first ∧
      second < 2 ∧ start.Issues crossedSignIns second crossedChallenge "did:b" ∧
      first < 3 ∧ start.Issues crossedSignIns first sampleChallenge "did:a" := by
  obtain ⟨⟨signIn, hsignIn, hapart⟩, -⟩ := crossed_lifetime.agreement
  obtain ⟨hsecond, hissues⟩ := hsignIn 2 _ _ _ crossed_second
  obtain ⟨hfirst, hissues'⟩ := hsignIn 3 _ _ _ crossed_first
  -- the sign-ins are told apart, though either challenge was there when the other was presented
  have hne : signIn 2 ≠ signIn 3 := fun heq =>
    absurd (hapart 2 3 _ _ _ _ _ _ crossed_second crossed_first heq) (by decide)
  exact ⟨signIn 2, signIn 3, hne, hsecond, hissues, hfirst, hissues'⟩

end Lifetime

end FeedNode.Auth.Resolver
