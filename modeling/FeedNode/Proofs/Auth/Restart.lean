import FeedNode.Proofs.Auth.Saved

/-!
# Restarts

Besides the steps that peers cause, the program that holds a resolver may record a token for a user
of its choice. Both leave the document up to date, so whatever was done, and however often the
resolver was started anew on the way, the next start loses no token and no owner: of every token it
says what the running resolver says while it is ready.

Main statement: `resumes_after`.
-/

namespace FeedNode.Auth

open Feed (User)

/-- Something that is done to a resolver, by a peer or by the program that holds it. -/
inductive Deed where
  | step (s : Step)
  /-- A token is recorded for a user, whose identifier is a word. -/
  | insert (token : String) (u : User) (hword : u.userId < UInt64.size)

namespace Resolver

/-- The resolver after a deed. -/
def perform (r : Resolver) : Deed → Resolver
  | .step s => r.step s
  | .insert token u _ => r.insert token u

/-- The resolver after some deeds. -/
def performAll (r : Resolver) (deeds : List Deed) : Resolver :=
  deeds.foldl perform r

/-! ## The document is kept up to date -/

/-- A token that is recorded for a user is written down with those that there were. -/
theorem Saved.insert {r : Resolver} (h : r.Saved) (token : String) {u : User}
    (hword : u.userId < UInt64.size) : (r.insert token u).Saved := by
  obtain ⟨content, hstorage, -⟩ := h.document
  -- the memory after the token, which is what is written
  have hnew : r.Remembered [(token, u)] (r.remember token u) := remembered_foldl [(token, u)] r
  refine saved_save (r := r.remember token u) hstorage (Dict.nodup_insert h.nodup token u)
    (fun token' v hget => ?_) (fun did userId hget => ?_) h.owner
  · rw [hnew.tokens, List.foldl_cons, List.foldl_nil, Dict.get?_insert] at hget
    -- the token itself, or another one
    split at hget
    · rwa [← Option.some.inj hget]
    · exact h.tokenIds token' v hget
  · -- an identifier that was known, or the user's
    rcases hnew.userIds did userId hget with hold | ⟨-, token', v, hmem, -, rfl⟩
    · exact h.userIds did userId hold
    · rw [List.mem_singleton, Prod.mk.injEq] at hmem
      rwa [hmem.2]

/-- The document is up to date after every deed. -/
theorem Saved.perform {r : Resolver} (h : r.Saved) (deed : Deed) : (r.perform deed).Saved := by
  cases deed with
  | step s => exact h.step s
  | insert token u hword => exact h.insert token hword

/-- The document is up to date after any deeds. -/
theorem Saved.performAll {r : Resolver} (h : r.Saved) (deeds : List Deed) :
    (r.performAll deeds).Saved := by
  induction deeds generalizing r with
  | nil => exact h
  | cons deed deeds ih => exact ih (h.perform deed)

/-! ## A new start -/

/-- Remembering tokens does not make a resolver ready or unready. -/
theorem foldl_remember_isReady (es : List (String × User)) (r : Resolver) :
    (es.foldl (fun r (token, u) => r.remember token u) r).isReady = r.isReady := by
  induction es generalizing r with
  | nil => rfl
  | cons e es ih => exact ih (r.remember e.1 e.2)

/-- A resolver that was just started is ready. -/
theorem isReady_of_load? {content : Option Json.Value} {r : Resolver}
    (h : load? content = some r) : r.isReady = true := by
  cases content with
  | none =>
    -- nothing was kept
    rw [← Option.some.inj h]
    rfl
  | some v =>
    -- a table was kept, whose tokens are remembered one by one
    obtain ⟨table, -, hr⟩ := Option.bind_eq_some_iff.1 h
    rw [← Option.some.inj hr]
    exact foldl_remember_isReady table.tokens.entries (new table.ownerDid)

/-- The resolver `r'` is ready and takes the place of `r`: it knows as many tokens, the same owner,
and of every token it says what `r` says when it is ready. -/
structure Resumes (r r' : Resolver) : Prop where
  isReady : r'.isReady = true
  size : r'.tokens.size = r.tokens.size
  owner : r'.owner = r.owner
  verify : ∀ token, r'.verify token = (r.setReady true).verify token

/-- What a new start finds is enough to take the place of the resolver. -/
theorem Reloaded.resumes {r r' : Resolver} (h : r.Reloaded r') (hready : r'.isReady = true) :
    r.Resumes r' where
  isReady := hready
  size := by rw [h.tokens]
  owner := h.owner
  verify token := by rw [verify, verify, setReady, h.tokens, hready]

/-- Whatever was done to a resolver since there was no document, a new start from its document
succeeds and takes its place. -/
theorem resumes_after (deeds : List Deed) :
    let r := start.performAll deeds
    ∃ content r', r.storage = .document content ∧ load? content = some r' ∧ r.Resumes r' := by
  intro r
  have hsaved : r.Saved := saved_start.performAll deeds
  obtain ⟨content, hstorage, -⟩ := hsaved.document
  obtain ⟨r', hreload, hfound⟩ := hsaved.reload
  -- the document is the one that a new start reads
  have hload : load? content = some r' := by rwa [reload?, hstorage] at hreload
  exact ⟨content, r', hstorage, hload, hfound.resumes (isReady_of_load? hload)⟩

end Resolver

end FeedNode.Auth
