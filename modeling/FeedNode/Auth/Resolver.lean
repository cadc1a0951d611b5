import FeedNode.Auth.TokenTable
import FeedNode.Hash.Blake3
import FeedNode.Json.Reader
import FeedNode.Rpc.ErrorCode
import FeedNode.Text.Blank
import FeedNode.Text.Utf8

/-!
# The token resolver

It knows which user an access token stands for, and issues tokens. A person signs in with a
document that names a DID and gets a challenge; who presents a challenge gets a token for its DID.
Every DID has one user identifier, the owner's is 1. The owner is declared once and for all.

A resolver may keep its tokens in a document. The document is written anew after every change of
the tokens or the owner; `reload` is a new start from it, without the challenges and the
identifiers that only the memory held.
-/

namespace FeedNode.Auth

open Feed (User)

/-- The user identifier of the owner. -/
def ownerUserId : Nat := 1

/-- Why the resolver refused. -/
inductive AuthError where
  | notReady
  | invalidToken
  | invalidChallenge
  | unreadableDocument
  | notDid
  | ownerNotDid
  | ownerMismatch
deriving DecidableEq, Repr

namespace AuthError

/-- The text of a refusal, where it is fixed. -/
def message? : AuthError → Option String
  | .notReady => some "did layer not ready"
  | .invalidToken => some "access token not recognized"
  | .invalidChallenge => some "unknown or expired challenge"
  | .unreadableDocument => none
  | .notDid => some "bad did document: not a did"
  | .ownerNotDid => some "bad did document: owner is not a did"
  | .ownerMismatch => some "service already owned by another did"

/-- The code that a peer is told. -/
def code : AuthError → Rpc.ErrorCode
  | .notReady => .notReady
  | .invalidToken | .invalidChallenge => .invalidToken
  | .unreadableDocument | .notDid | .ownerNotDid => .invalidArgument
  | .ownerMismatch => .notAuthorized

end AuthError

/-- The BLAKE3 hash of some octets, in hexadecimal. -/
def digest (b : Bytes) : String :=
  (Blake3.hash b).hex

/-- A short name of a token that may be shown. -/
def fingerprint (token : String) : String :=
  Bytes.hex ((Blake3.hash (Text.utf8 token)).take 8)

/-- The challenge for the sign-in with a given number. -/
def challengeFor (did : String) (nonce : UInt64) : String :=
  digest (Text.utf8 did ++ Bytes.bigEndian 8 nonce.toNat)

/-- The token that a challenge is exchanged for. -/
def tokenFor (challenge : String) : String :=
  digest (Text.utf8 ("token:" ++ challenge))

/-- The DID that a document names: the field `id` of a JSON object, or the document itself. -/
def documentDid (document : String) : Except AuthError String :=
  let document := Text.trim document
  if Text.startsWith document "\x7b" then
    let did? := do
      let members ← (← Json.parse? document).members?
      (← Json.Value.onlyValue? members "id").bind Json.Value.text?
    match did? with
    | some did => .ok did
    | none => .error .unreadableDocument
  else if Text.startsWith document "did:" then .ok document
  else .error .notDid

/-- Where a resolver keeps its tokens. -/
inductive Storage where
  | memory
  /-- In a document, which is there or is still to be written. -/
  | document (content : Option Json.Value)
deriving Inhabited

/-- What a resolver knows. -/
structure Resolver where
  tokens : Dict String User
  /-- The DIDs of the challenges that were issued and not yet presented. -/
  challenges : Dict String String
  /-- The user identifiers of the DIDs other than the owner's. -/
  userIds : Dict String Nat
  nextUserId : UInt64
  owner : Option String
  isReady : Bool
  nonce : UInt64
  storage : Storage
deriving Inhabited

namespace Resolver

/-- A resolver that keeps its tokens in memory. An empty owner is none. -/
def new (ownerDid : String) : Resolver where
  tokens := .empty
  challenges := .empty
  userIds := .empty
  nextUserId := .ofNat (ownerUserId + 1)
  owner := if ownerDid = "" then none else some ownerDid
  isReady := true
  nonce := 0
  storage := .memory

/-- The number after `n`, or the greatest word. -/
def wordAfter (n : Nat) : UInt64 :=
  if n + 1 < UInt64.size then .ofNat (n + 1) else .ofNat (UInt64.size - 1)

/-- Records a token, and keeps the identifiers that are still to be given ahead of its user's. -/
def remember (r : Resolver) (token : String) (u : User) : Resolver :=
  { r with
    tokens := r.tokens.insert token u
    userIds :=
      if u.userId ≠ ownerUserId ∧ u.did ≠ "" then r.userIds.insert u.did u.userId else r.userIds
    nextUserId := max r.nextUserId (wordAfter u.userId) }

/-- The tokens and the owner as they are kept. -/
def table (r : Resolver) : TokenTable where
  ownerDid := r.owner.getD ""
  tokens := r.tokens

/-- Writes the document, if there is one. -/
def save (r : Resolver) : Resolver :=
  match r.storage with
  | .memory => r
  | .document _ => { r with storage := .document (some r.table.toJson) }

/-- A resolver on a document that may not be there yet; `none` if the document is no table. -/
def load? (content : Option Json.Value) : Option Resolver := do
  let table ← match content with
    | none => some TokenTable.empty
    | some v => TokenTable.ofJson? v
  let r := table.tokens.entries.foldl (fun r (token, u) => r.remember token u) (new table.ownerDid)
  return { r with storage := .document content }

/-- A new start from the document. A resolver in memory stays as it is. -/
def reload? (r : Resolver) : Option Resolver :=
  match r.storage with
  | .memory => some r
  | .document content => load? content

/-- Makes the resolver ready, or not ready. -/
def setReady (r : Resolver) (ready : Bool) : Resolver :=
  { r with isReady := ready }

/-- Records a token. -/
def insert (r : Resolver) (token : String) (u : User) : Resolver :=
  (r.remember token u).save

/-- Forgets a token. -/
def revoke (r : Resolver) (token : String) : Resolver :=
  { r with tokens := r.tokens.erase token }.save

/-- The DID is the owner's. -/
def isOwner (r : Resolver) (did : String) : Bool :=
  r.owner == some did

/-- The user that a token stands for. -/
def verify (r : Resolver) (token : String) : Except AuthError User :=
  if !r.isReady then .error .notReady
  else
    match r.tokens.get? token with
    | some u => .ok u
    | none => .error .invalidToken

/-- Starts a sign-in; gives the challenge. -/
def signIn (r : Resolver) (document : String) : Except AuthError (String × Resolver) := do
  if !r.isReady then throw .notReady
  let did ← documentDid document
  let challenge := challengeFor did r.nonce
  return (challenge,
    { r with nonce := r.nonce + 1, challenges := r.challenges.insert challenge did })

/-- The identifier of a DID's user, a new one for a DID that has none. -/
def userIdFor (r : Resolver) (did : String) : Nat × Resolver :=
  if r.isOwner did then (ownerUserId, r)
  else
    match r.userIds.get? did with
    | some userId => (userId, r)
    | none =>
      let userId := r.nextUserId.toNat
      (userId,
        { r with userIds := r.userIds.insert did userId, nextUserId := r.nextUserId + 1 })

/-- Ends a sign-in; gives the new token and its user. -/
def didAuth (r : Resolver) (name presentation : String) :
    Except AuthError ((String × User) × Resolver) := do
  if !r.isReady then throw .notReady
  match r.challenges.get? presentation with
  | none => throw .invalidChallenge
  | some did =>
    let r := { r with challenges := r.challenges.erase presentation }
    let (userId, r) := r.userIdFor did
    let u : User := { userId, did, name, email := "", isOwner := r.isOwner did }
    let token := tokenFor presentation
    return ((token, u), r.insert token u)

/-- Declares the owner; tells whether this was the first declaration. -/
def declareOwner (r : Resolver) (did : String) : Except AuthError (Bool × Resolver) :=
  let did := Text.trim did
  if !Text.startsWith did "did:" then .error .ownerNotDid
  else
    match r.owner with
    | none => .ok (true, { r with owner := some did }.save)
    | some owner => if owner = did then .ok (false, r) else .error .ownerMismatch

end Resolver

end FeedNode.Auth
