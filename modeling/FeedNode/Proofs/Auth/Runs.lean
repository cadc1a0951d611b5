import FeedNode.Auth.Resolver
import FeedNode.Proofs.Auth.TokenTableRoundTrip

/-!
# Runs of a resolver

What can be done to a resolver that keeps its tokens in a document, as data, and what each step does
(`Moves`). A run starts where there is no document yet. Every other property of a run is proved from
`step_moves`, one case for each kind of step.
-/

namespace FeedNode.Auth

open Feed (User)

/-- Something that is done to a resolver. -/
inductive Step where
  | signIn (document : String)
  | didAuth (name presentation : String)
  | declareOwner (did : String)
  | setReady (ready : Bool)
  | revoke (token : String)
  /-- A new start from the document. -/
  | reload
deriving DecidableEq, Repr

namespace Resolver

/-- The resolver after a step; one that is refused changes nothing. -/
def step (r : Resolver) : Step → Resolver
  | .signIn document => (r.signIn document).toOption.elim r Prod.snd
  | .didAuth name presentation => (r.didAuth name presentation).toOption.elim r Prod.snd
  | .declareOwner did => (r.declareOwner did).toOption.elim r Prod.snd
  | .setReady ready => r.setReady ready
  | .revoke token => r.revoke token
  | .reload => r.reload?.getD r

/-- The resolver after some steps. -/
def after (r : Resolver) (steps : List Step) : Resolver :=
  steps.foldl step r

/-- The resolver on a document that is still to be written. -/
def start : Resolver :=
  { new "" with storage := .document none }

/-- A new start without a document is a new resolver. -/
theorem load?_none : load? none = some start := rfl

/-- Some steps and then some more are one run. -/
theorem after_append (r : Resolver) (steps steps' : List Step) :
    r.after (steps ++ steps') = (r.after steps).after steps' := by
  rw [after, after, after, List.foldl_append]

/-- The last step of a run is made behind the others. -/
theorem after_concat (r : Resolver) (steps : List Step) (s : Step) :
    r.after (steps ++ [s]) = (r.after steps).step s := by
  rw [after_append]
  rfl

/-- A step that is given a token leaves the resolver that gave it. -/
theorem step_didAuth {r r' : Resolver} {name presentation : String} {issued : String × User}
    (h : r.didAuth name presentation = .ok (issued, r')) :
    r.step (.didAuth name presentation) = r' := by
  rw [step, h]
  rfl

/-! ## What a step does -/

/-- What a sign-in does that ends well: `r` is the resolver before it, `u` the token's user. -/
structure Issued (r : Resolver) (presentation token : String) (u : User) (r' : Resolver) :
    Prop where
  presented : r.challenges.get? presentation = some u.did
  token_eq : token = tokenFor presentation
  userId : (r.userIdFor u.did).1 = u.userId
  tokens : r'.tokens = r.tokens.insert token u
  challenges : r'.challenges = r.challenges.erase presentation
  userIds : ∀ did, r'.userIds.get? did = (r.userIdFor u.did).2.userIds.get? did
  nextUserId : r'.nextUserId = max (r.userIdFor u.did).2.nextUserId (wordAfter u.userId)
  nonce : r'.nonce = r.nonce
  owner : r'.owner = r.owner
  storage : ∀ content, r.storage = .document content →
    r'.storage = .document (some r'.table.toJson)

/-- What a step does, if it does anything. -/
inductive Moves (r : Resolver) : Step → Resolver → Prop where
  | refused (s : Step) : Moves r s r
  | signedIn {document challenge did : String} {r' : Resolver}
      (hok : r.signIn document = .ok (challenge, r')) (hdid : documentDid document = .ok did)
      (hr' : r' = { r with
        nonce := r.nonce + 1
        challenges := r.challenges.insert (challengeFor did r.nonce) did }) :
      Moves r (.signIn document) r'
  | issued {name presentation token : String} {u : User} {r' : Resolver}
      (hok : r.didAuth name presentation = .ok ((token, u), r'))
      (h : r.Issued presentation token u r') : Moves r (.didAuth name presentation) r'
  | declared {did : String} (hnone : r.owner = none)
      (hdid : Text.startsWith (Text.trim did) "did:" = true) :
      Moves r (.declareOwner did) { r with owner := some (Text.trim did) }.save
  | readied (ready : Bool) : Moves r (.setReady ready) (r.setReady ready)
  | revoked (token : String) : Moves r (.revoke token) (r.revoke token)
  | reloaded {r' : Resolver} (h : r.reload? = some r') : Moves r .reload r'

section Steps

variable {r r' : Resolver}

/-! Writing the document changes nothing else. -/

@[simp] theorem save_tokens (r : Resolver) : r.save.tokens = r.tokens := by
  rw [save]
  split <;> rfl

@[simp] theorem save_challenges (r : Resolver) : r.save.challenges = r.challenges := by
  rw [save]
  split <;> rfl

@[simp] theorem save_userIds (r : Resolver) : r.save.userIds = r.userIds := by
  rw [save]
  split <;> rfl

@[simp] theorem save_nextUserId (r : Resolver) : r.save.nextUserId = r.nextUserId := by
  rw [save]
  split <;> rfl

@[simp] theorem save_owner (r : Resolver) : r.save.owner = r.owner := by
  rw [save]
  split <;> rfl

@[simp] theorem save_nonce (r : Resolver) : r.save.nonce = r.nonce := by
  rw [save]
  split <;> rfl

@[simp] theorem save_table (r : Resolver) : r.save.table = r.table := by
  rw [table, table, save_owner, save_tokens]

/-- After writing, the document is that of the memory. -/
theorem save_storage {content : Option Json.Value} (h : r.storage = .document content) :
    r.save.storage = .document (some r.save.table.toJson) := by
  rw [save_table, save, h]

/-- The identifier that a DID's user has or gets. -/
theorem userIdFor_cases (r : Resolver) (did : String) :
    (r.owner = some did ∧ r.userIdFor did = (ownerUserId, r)) ∨
      (r.owner ≠ some did ∧ ∃ userId, r.userIds.get? did = some userId ∧
        r.userIdFor did = (userId, r)) ∨
      (r.owner ≠ some did ∧ r.userIds.get? did = none ∧
        r.userIdFor did = (r.nextUserId.toNat,
          { r with
            userIds := r.userIds.insert did r.nextUserId.toNat
            nextUserId := r.nextUserId + 1 })) := by
  by_cases howner : r.owner = some did
  · -- the owner
    have hisOwner : r.isOwner did = true := by simp [isOwner, howner]
    exact .inl ⟨howner, by rw [userIdFor, if_pos hisOwner]⟩
  · have hisOwner : ¬r.isOwner did = true := by simp [isOwner, howner]
    rw [userIdFor, if_neg hisOwner]
    cases hget : r.userIds.get? did with
    -- a DID that has an identifier
    | some userId => exact .inr (.inl ⟨howner, userId, rfl, rfl⟩)
    -- a DID that has none, which is given the next one
    | none => exact .inr (.inr ⟨howner, rfl, rfl⟩)

/-- Nothing but the identifiers changes where one is looked up. -/
theorem userIdFor_same (r : Resolver) (did : String) :
    ∃ userIds nextUserId, (r.userIdFor did).2 = { r with userIds, nextUserId } := by
  obtain ⟨-, h⟩ | ⟨-, userId, -, h⟩ | ⟨-, -, h⟩ := r.userIdFor_cases did
  · exact ⟨r.userIds, r.nextUserId, by rw [h]⟩
  · exact ⟨r.userIds, r.nextUserId, by rw [h]⟩
  · exact ⟨_, _, by rw [h]⟩

/-- Afterwards the identifier is the one that the DID has, unless it is the owner's. -/
theorem get?_userIdFor (r : Resolver) (did : String) :
    (r.userIdFor did).1 = ownerUserId ∨
      (r.userIdFor did).2.userIds.get? did = some (r.userIdFor did).1 := by
  obtain ⟨-, h⟩ | ⟨-, userId, hget, h⟩ | ⟨-, -, h⟩ := r.userIdFor_cases did
  · exact .inl (by rw [h])
  · exact .inr (by rw [h]; exact hget)
  · exact .inr (by rw [h, Dict.get?_insert, if_pos rfl])

/-- Nothing more is known afterwards than before, but for that identifier. -/
theorem get?_of_userIdFor (r : Resolver) {did did' : String} {userId : Nat}
    (h : (r.userIdFor did).2.userIds.get? did' = some userId) :
    r.userIds.get? did' = some userId ∨ did' = did ∧ userId = (r.userIdFor did).1 := by
  obtain ⟨-, heq⟩ | ⟨-, _, -, heq⟩ | ⟨-, -, heq⟩ := r.userIdFor_cases did
  · rw [heq] at h
    exact .inl h
  · rw [heq] at h
    exact .inl h
  · rw [heq, Dict.get?_insert] at h
    -- the DID that was looked up, or another
    split at h
    · rename_i hdid
      exact .inr ⟨hdid, by rw [heq, ← Option.some.inj h]⟩
    · exact .inl h

/-- The identifier does not depend on the challenges. -/
theorem userIdFor_challenges (r : Resolver) (challenges : Dict String String) (did : String) :
    { r with challenges }.userIdFor did =
      ((r.userIdFor did).1, { (r.userIdFor did).2 with challenges }) := by
  have hisOwner : { r with challenges }.isOwner did = r.isOwner did := rfl
  rw [userIdFor, userIdFor, hisOwner]
  split
  · rfl
  · dsimp only
    split <;> rfl

/-- To remember a token that was issued for a DID adds nothing to what is known of the DID. -/
theorem get?_userIds_remember {token : String} {u : User}
    (h : u.userId = ownerUserId ∨ r.userIds.get? u.did = some u.userId) (did : String) :
    (r.remember token u).userIds.get? did = r.userIds.get? did := by
  rw [remember]
  dsimp only
  split
  · -- the identifier of a DID that is not the owner's is noted
    rename_i hmember
    rw [Dict.get?_insert]
    split
    · rename_i hdid
      rw [hdid]
      exact (h.resolve_left hmember.1).symm
    · rfl
  · rfl

/-- What is issued is remembered with the identifier that was found, and written down. -/
theorem issued_insert {presentation : String} {u : User}
    (hpresented : r.challenges.get? presentation = some u.did)
    (huserId : (r.userIdFor u.did).1 = u.userId)
    (hr' : r' = { (r.userIdFor u.did).2 with challenges := r.challenges.erase presentation }) :
    r.Issued presentation (tokenFor presentation) u (r'.insert (tokenFor presentation) u) := by
  -- looking the identifier up leaves everything but the identifiers
  obtain ⟨userIds, nextUserId, hsame⟩ := r.userIdFor_same u.did
  have hknown : u.userId = ownerUserId ∨ r'.userIds.get? u.did = some u.userId := by
    rw [hr', ← huserId]
    -- so that the token adds nothing to what is known of the DID
    exact r.get?_userIdFor u.did
  have hids : r'.userIds = (r.userIdFor u.did).2.userIds := by rw [hr']
  have hnext : r'.nextUserId = (r.userIdFor u.did).2.nextUserId := by rw [hr']
  rw [hsame] at hr'
  rw [insert]
  refine ⟨hpresented, rfl, huserId, ?_, ?_, fun did => ?_, ?_, ?_, ?_, fun content h => ?_⟩
  · -- the token and the challenge
    rw [save_tokens, hr']
    rfl
  · rw [save_challenges, hr']
    rfl
  · -- the identifiers and the next one
    rw [save_userIds, ← hids]
    exact get?_userIds_remember hknown did
  · rw [save_nextUserId, ← hnext]
    rfl
  · -- what has no part in it
    rw [save_nonce, hr']
    rfl
  · rw [save_owner, hr']
    rfl
  · -- and the document, which holds the token now
    have hdocument : (r'.remember (tokenFor presentation) u).storage = .document content := by
      rw [hr']
      exact h
    exact save_storage hdocument

/-- A sign-in that gives a challenge was given a document for a DID, and takes the next number. -/
theorem signIn_ok {document challenge : String} (h : r.signIn document = .ok (challenge, r')) :
    ∃ did, documentDid document = .ok did ∧ challenge = challengeFor did r.nonce ∧
      r' = { r with
        nonce := r.nonce + 1
        challenges := r.challenges.insert (challengeFor did r.nonce) did } := by
  rw [signIn] at h
  cases hready : r.isReady with
  | false =>
    rw [hready] at h
    cases h
  -- no DID in the document
  | true =>
    cases hdid : documentDid document with
    | error e =>
      rw [hready, hdid] at h
      cases h
    -- the challenge is made from the DID and the number
    | ok did =>
      rw [hready, hdid] at h
      obtain ⟨rfl, rfl⟩ := Prod.mk.inj (Except.ok.inj h)
      exact ⟨did, rfl, rfl, by rw [← hready]⟩

/-- A call that is given a token presented a challenge that there was, and takes it away. -/
theorem didAuth_ok {name presentation token : String} {u : User}
    (h : r.didAuth name presentation = .ok ((token, u), r')) :
    r.Issued presentation token u r' := by
  -- the resolver was ready
  have hready : r.isReady = true := by
    cases hready : r.isReady with
    | true => rfl
    | false =>
      rw [didAuth, hready] at h
      cases h
  cases hdid : r.challenges.get? presentation with
  -- the challenge is unknown
  | none =>
    rw [didAuth, hready, hdid] at h
    cases h
  | some did =>
    -- it is known, and the rest is what a sign-in does
    have hfound := userIdFor_challenges r (r.challenges.erase presentation) did
    have hpass : ¬(!r.isReady) = true := by
      rw [hready]
      decide
    rw [didAuth, hdid, if_neg hpass] at h
    obtain ⟨hissued, rfl⟩ := Prod.mk.inj (Except.ok.inj h)
    obtain ⟨rfl, rfl⟩ := Prod.mk.inj hissued
    exact issued_insert hdid (congrArg Prod.fst hfound).symm (congrArg Prod.snd hfound)

/-- A token is verified for the user that it stands for, while the resolver is ready. -/
theorem verify_eq_ok_iff {token : String} {u : User} :
    r.verify token = .ok u ↔ r.isReady = true ∧ r.tokens.get? token = some u := by
  rw [verify]
  cases r.isReady with
  | false => simp
  | true => cases r.tokens.get? token <;> simp

/-- A declaration that is accepted changes nothing, or sets the owner where there was none. -/
theorem declareOwner_ok {did : String} {isFirst : Bool}
    (h : r.declareOwner did = .ok (isFirst, r')) :
    r' = r ∨ r.owner = none ∧ Text.startsWith (Text.trim did) "did:" = true ∧
      r' = { r with owner := some (Text.trim did) }.save := by
  rw [declareOwner] at h
  split at h
  · -- the text names no DID
    cases h
  · rename_i hdid
    split at h
    · -- the first declaration
      rename_i hnone
      obtain ⟨-, rfl⟩ := Prod.mk.inj (Except.ok.inj h)
      exact .inr ⟨hnone, by simpa using hdid, rfl⟩
    · split at h
      · -- another one, for the owner
        obtain ⟨-, rfl⟩ := Prod.mk.inj (Except.ok.inj h)
        exact .inl rfl
      · -- or for somebody else
        cases h

/-- Every step makes one of the moves. -/
theorem step_moves (r : Resolver) (s : Step) : r.Moves s (r.step s) := by
  cases s with
  | signIn document =>
    rw [step]
    cases h : r.signIn document with
    | error e => exact .refused _
    | ok result =>
      obtain ⟨challenge, r'⟩ := result
      obtain ⟨did, hdid, -, hr'⟩ := signIn_ok h
      exact .signedIn h hdid hr'
  | didAuth name presentation =>
    rw [step]
    cases h : r.didAuth name presentation with
    | error e => exact .refused _
    | ok result =>
      obtain ⟨⟨token, u⟩, r'⟩ := result
      exact .issued h (didAuth_ok h)
  | declareOwner did =>
    rw [step]
    cases h : r.declareOwner did with
    | error e => exact .refused _
    | ok result =>
      obtain ⟨isFirst, r'⟩ := result
      obtain hsame | ⟨hnone, hdid, hr'⟩ := declareOwner_ok h
      · -- accepted again
        show r.Moves (.declareOwner did) r'
        rw [hsame]
        exact .refused _
      · -- accepted for the first time
        show r.Moves (.declareOwner did) r'
        rw [hr']
        exact .declared hnone hdid
  | setReady ready => exact .readied ready
  | revoke token => exact .revoked token
  | reload =>
    rw [step]
    cases h : r.reload? with
    | none => exact .refused _
    | some r' => exact .reloaded h

end Steps

/-! ## A run -/

/-- The first challenge of the person who signs in first. -/
def sampleChallenge : String :=
  "527c376079aa257f0737dd4f853dd5795f9e07fb379b6e084c7569e5a376e4ab"

/-- The token for the challenge. -/
def sampleToken : String :=
  "63ed8ed36f4040fd7cbc6753a9265cc4c630b3b57dcc0701ec43233fa6da00bb"

/-- A person signs in. -/
def sampleSignIn : List Step :=
  [.signIn "did:a", .didAuth "n" sampleChallenge]

/-- The user of the person who signs in first. -/
def sampleUser (did : String) : User where
  userId := 2
  did := did
  name := "n"
  email := ""
  isOwner := false

/-- A result whose first part is known has a second part. -/
theorem ok_of_toOption {α β ε : Type} {x : Except ε (α × β)} {a : α}
    (h : x.toOption.map Prod.fst = some a) : ∃ b, x = .ok (a, b) := by
  cases x with
  | error e => cases h
  | ok result =>
    obtain ⟨a', b⟩ := result
    obtain rfl : a' = a := Option.some.inj h
    exact ⟨b, rfl⟩

/-- In the run of the samples the first person is given the sample token. -/
theorem sample_first : (start.after [.signIn "did:a"]).didAuth "n" sampleChallenge =
    .ok ((sampleToken, sampleUser "did:a"), start.after sampleSignIn) := by
  have hissued : ((start.after [.signIn "did:a"]).didAuth "n" sampleChallenge).toOption.map
      Prod.fst = some (sampleToken, sampleUser "did:a") := by
    decide +kernel
  obtain ⟨r, hfirst⟩ := ok_of_toOption hissued
  have hsteps : sampleSignIn = [.signIn "did:a"] ++ [.didAuth "n" sampleChallenge] := rfl
  rw [hsteps, after_concat, step_didAuth hfirst, hfirst]

end Resolver

end FeedNode.Auth
