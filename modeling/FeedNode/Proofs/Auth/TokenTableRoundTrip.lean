import FeedNode.Auth.TokenTable
import FeedNode.Proofs.MessagePack.Slots

/-!
# The token table is read as it was written

A table reads back from the document that it is kept in, with its tokens in their order, if no token
is in it twice and every user identifier fits a word of the document. In what is read from any
document every user identifier fits a word.

Main statements: `TokenTable.ofJson?_toJson` and `TokenTable.userId_lt_of_ofJson?`.
-/

namespace FeedNode

namespace Json.Value

/-- A record has its fields as members. -/
theorem members?_record (fields : List (String × Value)) :
    (record fields).members? = some fields := by
  induction fields with
  | nil => rfl
  | cons field fields ih =>
    simp only [record, members?, List.map_cons, List.mapM_cons] at ih ⊢
    rw [ih]
    rfl

/-- An object gives its fields by their names. -/
theorem slots?_record (names : List String) (fields : List (String × Value)) :
    slots? names (record fields) = names.mapM fun name => onlyValue? fields name := by
  rw [slots?.eq_def]
  simp only [record]
  have hmembers := members?_record fields
  rw [record] at hmembers
  rw [hmembers]
  rfl

end Json.Value

namespace Auth.TokenTable

open Feed (User)
open Json

/-- A user reads back whose identifier fits a word. -/
theorem readUser?_userJson {u : User} (h : u.userId < UInt64.size) :
    readUser? (userJson u) = some u := by
  -- each of the five fields is found in its slot
  have hslots : (userJson u).slots? ["user_id", "did", "name", "email", "is_owner"] =
      some [some (.ofNat u.userId), some (.ofText u.did), some (.ofText u.name),
        some (.ofText u.email), some (.bool u.isOwner)] := by
    rw [userJson, Value.slots?_record]
    rfl
  -- the identifier is read as a word
  have hword : (Value.ofNat u.userId).word? = some u.userId := by
    rw [Value.ofNat, Value.word?, if_pos h]
  simp [readUser?, hslots, Value.field?, hword, Value.text?, Value.ofText, Value.bool?]

/-- Users under their tokens read back. -/
theorem readTokens?_record {tokens : Dict String User} (hkeys : tokens.Nodup)
    (hids : ∀ token u, (token, u) ∈ tokens.entries → u.userId < UInt64.size) :
    readTokens? (.record (tokens.entries.map fun (token, u) => (token, userJson u))) =
      some tokens := by
  -- the entries one by one
  have hentries : (tokens.entries.map fun e => (e.1, userJson e.2)).mapM
      (fun e => (readUser? e.2).map fun u => (e.1, u)) = some tokens.entries := by
    generalize tokens.entries = es at hids
    induction es with
    | nil => rfl
    | cons e es ih =>
      have hu := readUser?_userJson (hids e.1 e.2 List.mem_cons_self)
      have hes := ih fun token u hmem => hids token u (List.mem_cons_of_mem _ hmem)
      simp only [List.map_cons, List.mapM_cons, hu, hes]
      rfl
  simp only [readTokens?, Value.members?_record]
  show ((tokens.entries.map fun e => (e.1, userJson e.2)).mapM
    (fun e => (readUser? e.2).map fun u => (e.1, u)) >>=
      fun entries => some (Dict.ofEntries entries)) = some tokens
  -- no token is in the table twice, so that the dictionary is the same
  rw [hentries]
  exact congrArg some (Dict.ofEntries_entries hkeys)

/-- A table reads back from its document. -/
theorem ofJson?_toJson {t : TokenTable} (hkeys : t.tokens.Nodup)
    (hids : ∀ token u, (token, u) ∈ t.tokens.entries → u.userId < UInt64.size) :
    ofJson? t.toJson = some t := by
  -- the two fields are found in their slots
  have hread := readTokens?_record hkeys hids
  rw [toJson]
  generalize Value.record (t.tokens.entries.map fun (token, u) => (token, userJson u)) = tokens
    at hread
  -- the users under their tokens have been read already
  have hslots : (Value.record [("owner_did", .ofText t.ownerDid), ("tokens", tokens)]).slots?
      ["owner_did", "tokens"] = some [some (.ofText t.ownerDid), some tokens] := by
    rw [Value.slots?_record]
    rfl
  rw [ofJson?, hslots]
  simp [Value.field?, Value.text?, Value.ofText, hread]

/-! ## Identifiers are words -/

/-- A number that is read as a word fits one. -/
theorem word?_lt {v : Value} {n : Nat} (h : v.word? = some n) : n < UInt64.size := by
  unfold Value.word? at h
  split at h
  · split at h
    · rename_i hlt
      rwa [← Option.some.inj h]
    · cases h
  · cases h

/-- A user that is read has a word. -/
theorem userId_lt_of_readUser? {v : Value} {u : User} (h : readUser? v = some u) :
    u.userId < UInt64.size := by
  obtain ⟨slots, -, h⟩ := Option.bind_eq_some_iff.1 h
  split at h
  · rename_i slot _ _ _ _
    -- the slots are read one after the other, and the first one is the identifier
    obtain ⟨userId, hread, h⟩ := Option.bind_eq_some_iff.1 h
    obtain ⟨_, -, h⟩ := Option.bind_eq_some_iff.1 h
    obtain ⟨_, -, h⟩ := Option.bind_eq_some_iff.1 h
    obtain ⟨_, -, h⟩ := Option.bind_eq_some_iff.1 h
    obtain ⟨_, -, h⟩ := Option.bind_eq_some_iff.1 h
    obtain rfl := Option.some.inj h
    cases slot with
    | none =>
      -- a field that is absent is zero
      have hzero : 0 = userId := Option.some.inj hread
      simp [← hzero]
    | some v => exact word?_lt hread
  · cases h

/-- In a table that is read every user has a word. -/
theorem userId_lt_of_ofJson? {v : Value} {t : TokenTable} (h : ofJson? v = some t) {token : String}
    {u : User} (hmem : (token, u) ∈ t.tokens.entries) : u.userId < UInt64.size := by
  obtain ⟨slots, -, h⟩ := Option.bind_eq_some_iff.1 h
  split at h
  · rename_i _ slot
    obtain ⟨_, -, h⟩ := Option.bind_eq_some_iff.1 h
    obtain ⟨tokens, hread, h⟩ := Option.bind_eq_some_iff.1 h
    obtain rfl := Option.some.inj h
    cases slot with
    -- no users are read
    | none =>
      have hempty : Dict.empty = tokens := Option.some.inj hread
      subst hempty
      cases hmem
    -- every user was read from a member
    | some v =>
      obtain ⟨members, -, h⟩ := Option.bind_eq_some_iff.1 hread
      obtain ⟨entries, hentries, h⟩ := Option.bind_eq_some_iff.1 h
      obtain rfl := Option.some.inj h
      have hentry : (token, u) ∈ entries :=
        (Dict.mem_foldl_insert hmem).resolve_left List.not_mem_nil
      rw [MessagePack.mapM_eq_filterMap] at hentries
      split at hentries
      · rw [← Option.some.inj hentries] at hentry
        obtain ⟨member, -, hmember⟩ := List.mem_filterMap.1 hentry
        obtain ⟨u', hu', heq⟩ := Option.map_eq_some_iff.1 hmember
        obtain ⟨-, rfl⟩ := Prod.mk.inj heq
        exact userId_lt_of_readUser? hu'
      · cases hentries
  · cases h

end Auth.TokenTable

end FeedNode
