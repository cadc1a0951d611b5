import FeedNode.Rpc.Decoding

/-!
# What a head says

A head is what the entries of an envelope say under four keys. Under a key they say what its last
entry says, and nothing if the value there is of the wrong type: an earlier entry does not come back
into force. `Says` is this rule, without regard to how the entries are searched.

Main statements: `heads_iff` and `decodeIn_of_names`.
-/

namespace FeedNode.Rpc

open MessagePack

/-- The key of an entry. -/
def HasKey (key : String) (e : Value × Value) : Prop :=
  e.1.text? = some key

instance (key : String) : DecidablePred (HasKey key) :=
  fun e => inferInstanceAs (Decidable (e.1.text? = some key))

/-- What entries say under a key: what its last entry is taken for, or nothing if it has none. -/
inductive Says {α : Type} (entries : List (Value × Value)) (key : String)
    (take : Value → Option α) : Option α → Prop where
  | nothing (h : ∀ e ∈ entries, ¬HasKey key e) : Says entries key take none
  | last {before after : List (Value × Value)} {e : Value × Value}
    (hsplit : entries = before ++ e :: after) (hkey : HasKey key e)
    (hafter : ∀ e' ∈ after, ¬HasKey key e') : Says entries key take (take e.2)

/-- The head of an envelope with these entries. -/
structure Heads (entries : List (Value × Value)) (head : Head) : Prop where
  version : Says entries "version" Value.text? head.version
  jsonrpc : Says entries "jsonrpc" Value.text? head.jsonrpc
  method : Says entries "method" Value.text? head.method
  id : Says entries "id" Value.unsigned? head.id

/-- The last entry with a key is the last of those that have it. -/
theorem last?_eq_getLast? (entries : List (Value × Value)) (key : String) :
    Head.last? entries key = ((entries.filter (HasKey key ·)).getLast?).map (·.2) := by
  have hkey : ∀ e : Value × Value, (e.1.text? == some key) = decide (HasKey key e) :=
    fun e => Bool.beq_eq_decide_eq _ _
  rw [Head.last?, ← List.head?_filter, List.filter_reverse, List.head?_reverse]
  simp only [hkey]

variable {entries : List (Value × Value)}

/-- What entries say under a key is what is taken from the last entry that has it. -/
theorem says_iff {α : Type} {key : String} {take : Value → Option α} {x : Option α} :
    Says entries key take x ↔ x = (Head.last? entries key).bind take := by
  rw [last?_eq_getLast?]
  constructor
  · rintro (hnone | ⟨hsplit, hkey, hafter⟩)
    · -- no entry is kept
      have hempty : entries.filter (HasKey key ·) = [] := by
        simpa [List.filter_eq_nil_iff] using hnone
      simp [hempty]
    · -- nothing behind the entry is kept, so that it stands last among those that are
      rename_i before after e
      have hrest : after.filter (HasKey key ·) = [] := by
        simpa [List.filter_eq_nil_iff] using hafter
      simp [hsplit, List.filter_append, hkey, hrest]
  · rintro rfl
    cases hlast : (entries.filter (HasKey key ·)).getLast? with
    -- the key is nowhere
    | none =>
      rw [List.getLast?_eq_none_iff, List.filter_eq_nil_iff] at hlast
      exact .nothing (by simpa using hlast)
    | some e =>
      -- the list is cut open where the last of the kept entries stands
      obtain ⟨kept, hkept⟩ := List.getLast?_eq_some_iff.1 hlast
      obtain ⟨before, tail, hentries, -, htail⟩ := List.filter_eq_append_iff.1 hkept
      obtain ⟨between, after, htail', -, hkey, hafter⟩ := List.filter_eq_cons_iff.1 htail
      rw [List.filter_eq_nil_iff] at hafter
      have hsplit : entries = (before ++ between) ++ e :: after := by
        rw [hentries, htail', List.append_assoc]
      exact .last hsplit (by simpa using hkey) (by simpa using hafter)

/-- There is one head for every list of entries, and it is the one that a reader finds. -/
theorem heads_iff {head : Head} : Heads entries head ↔ head = Head.ofEntries entries := by
  constructor
  · -- each of the four parts is what is said under its key
    rintro ⟨hversion, hjsonrpc, hmethod, hid⟩
    rw [says_iff] at hversion hjsonrpc hmethod hid
    cases head
    simp only at hversion hjsonrpc hmethod hid
    rw [hversion, hjsonrpc, hmethod, hid]
    rfl
  · -- and what is found under the keys is said there
    rintro rfl
    exact ⟨says_iff.2 rfl, says_iff.2 rfl, says_iff.2 rfl, says_iff.2 rfl⟩

/-! ## Heads of a call -/

/-- Octets that hold a map are read as its entries. -/
theorem readEntries_of_unpack? {octets rest : Bytes}
    (h : Value.unpack? maxLevels octets = some (.map entries, rest)) :
    readEntries octets = .ok entries := by
  rw [readEntries, h]

/-- The head names a version in the way of a dialect; the legacy dialect has 1.0 only. -/
def Head.Names (head : Head) (v : Version) : Dialect → Prop
  | .versioned => head.version = some v.text
  | .legacy => head.jsonrpc = some legacyMark ∧ v = .v1

/-- Reads a request of a dialect. -/
def decodeIn : Dialect → Bytes → Except WireError Decoded
  | .versioned => decode
  | .legacy => decodeLegacy

/-- A call whose head has all that it needs is typed by its version. -/
theorem decodeIn_of_names {octets : Bytes} {v : Version} {d : Dialect} {method : String}
    {id : UInt64} (hread : readEntries octets = .ok entries)
    (hnames : (Head.ofEntries entries).Names v d)
    (hmethod : (Head.ofEntries entries).method = some method)
    (hid : (Head.ofEntries entries).id = some id) :
    decodeIn d octets = decodeTyped d v method id entries := by
  -- the head is taken apart before the dialect decides which of its parts count
  generalize hhead : Head.ofEntries entries = head at hnames hmethod hid
  obtain ⟨version, jsonrpc, method', id'⟩ := head
  obtain rfl : method' = some method := hmethod
  obtain rfl : id' = some id := hid
  cases d with
  | versioned =>
    obtain rfl : version = some v.text := hnames
    simp only [decodeIn, decode, hread, bind, Except.bind, hhead, Version.ofText?_text]
  | legacy =>
    obtain ⟨rfl, rfl⟩ : jsonrpc = some legacyMark ∧ v = .v1 := hnames
    simp only [decodeIn, decodeLegacy, hread, bind, Except.bind, hhead, if_true]

end FeedNode.Rpc
