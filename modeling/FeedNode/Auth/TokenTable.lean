import FeedNode.Dict
import FeedNode.Feed.Record
import FeedNode.Json.Value

/-!
# The token table

The table of access tokens and the users they stand for, together with the declared owner, as it is
kept in a JSON document. Fields that a document lacks are empty, fields that it has too many are
ignored, and of two users under one token the later counts.
-/

namespace FeedNode.Auth

open Feed (User)

/-- Access tokens, and the owner if one is declared. -/
structure TokenTable where
  /-- Empty until an owner is declared. -/
  ownerDid : String
  tokens : Dict String User
deriving Inhabited

namespace TokenTable

/-- The table without owner and tokens. -/
def empty : TokenTable where
  ownerDid := ""
  tokens := .empty

/-- A user in the document. -/
def userJson (u : User) : Json.Value :=
  .record [("user_id", .ofNat u.userId), ("did", .ofText u.did), ("name", .ofText u.name),
    ("email", .ofText u.email), ("is_owner", .bool u.isOwner)]

/-- The table as a document. -/
def toJson (t : TokenTable) : Json.Value :=
  .record [("owner_did", .ofText t.ownerDid),
    ("tokens", .record (t.tokens.entries.map fun (token, u) => (token, userJson u)))]

/-- Reads a user from a document. -/
def readUser? (v : Json.Value) : Option User := do
  match ← v.slots? ["user_id", "did", "name", "email", "is_owner"] with
  | [userId, did, name, email, isOwner] =>
    return {
      userId := ← Json.Value.field? Json.Value.word? 0 userId
      did := ← Json.Value.field? Json.Value.text? "" did
      name := ← Json.Value.field? Json.Value.text? "" name
      email := ← Json.Value.field? Json.Value.text? "" email
      isOwner := ← Json.Value.field? Json.Value.bool? false isOwner }
  | _ => none

/-- Reads the users under their tokens. -/
def readTokens? (v : Json.Value) : Option (Dict String User) := do
  let members ← v.members?
  let entries ← members.mapM fun (token, v) => (readUser? v).map fun u => (token, u)
  return .ofEntries entries

/-- Reads a table from a document. -/
def ofJson? (v : Json.Value) : Option TokenTable := do
  match ← v.slots? ["owner_did", "tokens"] with
  | [ownerDid, tokens] =>
    return {
      ownerDid := ← Json.Value.field? Json.Value.text? "" ownerDid
      tokens := ← Json.Value.field? readTokens? .empty tokens }
  | _ => none

end TokenTable

end FeedNode.Auth
