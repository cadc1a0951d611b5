import FeedNode.Proofs.Node.Answers
import FeedNode.Proofs.Rpc.Heads

/-!
# From a head to a fate

Before a handler sees a message, its head and its params decide what becomes of it, in a fixed
order: is there a method, is there a protocol, is the version one of the two, is the method
registered, do the params have the layout of the method, is the identifier not zero. The first
question that is answered with no turns the message down, in the dialect that its head asks for.
`Fate.ofHead` is this order; a version under the key of the versioned dialect is all that matters if
there is one, and the key of the legacy dialect is looked at only if there is none.

Main statement: `respond_fate`.
-/

namespace FeedNode

namespace Rpc

open MessagePack

/-- What becomes of a message before a handler sees it. -/
inductive Fate where
  | refused (d : Dialect) (code : ErrorCode)
  | routed (request : Request)

namespace Fate

/-- The fate of a call in a dialect: of one whose version is not known, and else by its method, its
params and its identifier. -/
def ofCall (d : Dialect) (version : Option Version) (method : String) (id : UInt64)
    (entries : List (Value × Value)) : Fate :=
  match version with
  | none => .refused d .unsupportedVersion
  | some v =>
    match Method.ofName? method with
    | none => .refused d .unimplemented
    | some m =>
      match readParams? v m entries with
      | none => .refused d .unreadableRequest
      | some params =>
        if id = 0 then .refused d .invalidArgument
        else .routed { dialect := d, version := v, method, id, params }

/-- The version that a mark of the legacy dialect stands for. -/
def markVersion? (mark : String) : Option Version :=
  if mark = legacyMark then some .v1 else none

/-- The fate of a message with a head and an identifier. -/
def ofHead (head : Head) (id : UInt64) (entries : List (Value × Value)) : Fate :=
  match head.method with
  | none => .refused .versioned .unimplemented
  | some method =>
    match head.version, head.jsonrpc with
    | some version, _ => ofCall .versioned (Version.ofText? version) method id entries
    | none, some mark => ofCall .legacy (markVersion? mark) method id entries
    | none, none => .refused .versioned .unimplemented

end Fate

/-- The error that turns a message down; in the versioned dialect it is stamped 2.0. -/
def turnDown (d : Dialect) (code : ErrorCode) (id : UInt64) : Response where
  dialect := d
  version :=
    match d with
    | .versioned => .v2
    | .legacy => .v1
  id := id
  body := .error code.detail

/-- An error in answer to a call turns it down; the legacy dialect has 1.0 only. -/
theorem failureFor_eq_turnDown {r : Request} (h : r.dialect = .legacy → r.version = .v1)
    (code : ErrorCode) : Response.failureFor r code = turnDown r.dialect code r.id := by
  simp only [Response.failureFor, turnDown]
  cases hd : r.dialect with
  | versioned => rfl
  | legacy => rw [h hd]

/-! ## Both readers -/

/-- A call whose protocol is named: one that is not known leaves it untyped. -/
def decodeNamed (d : Dialect) (version : Option Version) (method : String) (id : UInt64)
    (entries : List (Value × Value)) : Except WireError Decoded :=
  match version with
  | some v => decodeTyped d v method id entries
  | none =>
    let stamp := match d with
      | .versioned => .current
      | .legacy => .v1
    .ok { request := .untyped d stamp method id, status := .unsupportedVersion }

variable {octets : Bytes} {entries : List (Value × Value)} {id : UInt64}

/-- The versioned reader takes a head with a version and a method, and no other. -/
theorem decode_of_entries (hread : readEntries octets = .ok entries)
    (hid : (Head.ofEntries entries).id = some id) :
    decode octets =
      match (Head.ofEntries entries).version, (Head.ofEntries entries).method with
      | some version, some method =>
        decodeNamed .versioned (Version.ofText? version) method id entries
      | _, _ => .error (.incomplete .versioned) := by
  simp only [decode, hread, bind, Except.bind]
  generalize Head.ofEntries entries = head at hid
  obtain ⟨version, jsonrpc, method, id'⟩ := head
  simp only at hid
  subst hid
  -- by the four parts of the head
  cases version with
  | none => rfl
  | some version =>
    cases method with
    | none => rfl
    | some method =>
      cases hv : Version.ofText? version <;> simp only [decodeNamed, hv]

/-- The legacy reader takes a head with a mark and a method, and no other. -/
theorem decodeLegacy_of_entries (hread : readEntries octets = .ok entries)
    (hid : (Head.ofEntries entries).id = some id) :
    decodeLegacy octets =
      match (Head.ofEntries entries).jsonrpc, (Head.ofEntries entries).method with
      | some mark, some method => decodeNamed .legacy (Fate.markVersion? mark) method id entries
      | _, _ => .error (.incomplete .legacy) := by
  simp only [decodeLegacy, hread, bind, Except.bind]
  generalize Head.ofEntries entries = head at hid
  obtain ⟨version, jsonrpc, method, id'⟩ := head
  simp only at hid
  subst hid
  cases jsonrpc with
  -- no mark
  | none => rfl
  | some mark =>
    cases method with
    | none => rfl
    | some method =>
      simp only [Fate.markVersion?, decodeNamed]
      split <;> rfl

/-- A call of a method that is not registered is not typed. -/
theorem not_processed_of_unknown {d : Dialect} {version : Option Version} {method : String}
    (hmethod : Method.ofName? method = none) {decoded : Decoded}
    (h : decodeNamed d version method id entries = .ok decoded) :
    decoded.isProcessed = false := by
  cases version with
  | none =>
    -- the version comes first
    simp only [decodeNamed, Except.ok.injEq] at h
    rw [← h]
    rfl
  | some v =>
    -- and then the method
    simp only [decodeNamed, decodeTyped, hmethod, Except.ok.injEq] at h
    rw [← h]
    rfl

/-- Only a method that is not registered leaves a call unknown. -/
theorem ofName?_of_unknown {d : Dialect} {version : Option Version} {method : String}
    {decoded : Decoded} (h : decodeNamed d version method id entries = .ok decoded)
    (hstatus : decoded.status = .unknownMethod) : Method.ofName? method = none := by
  cases version with
  | none =>
    simp only [decodeNamed, Except.ok.injEq] at h
    rw [← h] at hstatus
    cases hstatus
  | some v =>
    simp only [decodeNamed, decodeTyped] at h
    split at h
    · -- no such method
      rename_i hnone
      exact hnone
    · split at h
      · -- params that are not readable
        cases h
      · -- a call that is read is not unknown
        rw [← Except.ok.inj h] at hstatus
        cases hstatus

/-- Nothing but its params can be wrong with a call whose protocol is named. -/
theorem eq_badParams_of_error {d : Dialect} {version : Option Version} {method : String}
    {e : WireError} (h : decodeNamed d version method id entries = .error e) :
    e = .badParams id method := by
  cases version with
  | none => cases h
  | some v =>
    simp only [decodeNamed, decodeTyped] at h
    split at h
    · -- no such method, which is no error yet
      cases h
    · split at h
      · -- the params
        exact (Except.error.inj h).symm
      · cases h

end Rpc

namespace Node

open Delivery (Peer)
open Rpc (Decoded Dialect Fate Head Heads Method Request Version)

variable {octets : Bytes} {entries : List (MessagePack.Value × MessagePack.Value)} {id : UInt64}

/-- The legacy dialect is asked again about a method that is not registered, and has no other
answer: what the versioned dialect reads is what is read. -/
theorem decodeAny_of_decode (hread : Rpc.readEntries octets = .ok entries)
    (hid : (Head.ofEntries entries).id = some id) {decoded : Decoded}
    (h : Rpc.decode octets = .ok decoded) : decodeAny octets = .ok decoded := by
  simp only [decodeAny, h]
  split
  · rename_i hstatus
    -- both dialects look for the same method
    rw [Rpc.decode_of_entries hread hid] at h
    rw [Rpc.decodeLegacy_of_entries hread hid]
    split at h
    · rename_i version method _ hmethod
      have hnone := Rpc.ofName?_of_unknown h hstatus
      rw [hmethod]
      split
      · rename_i legacy hlegacy
        split at hlegacy
        · rename_i mark method' _ hmethod'
          obtain rfl : method = method' := Option.some.inj hmethod'
          simp [Rpc.not_processed_of_unknown hnone hlegacy]
        · cases hlegacy
      · rfl
    · cases h
  · -- the call is known, and not asked again
    rfl

/-- A head with a version and a method is read in the versioned dialect. -/
theorem decodeAny_versioned (hread : Rpc.readEntries octets = .ok entries)
    (hid : (Head.ofEntries entries).id = some id) {version method : String}
    (hversion : (Head.ofEntries entries).version = some version)
    (hmethod : (Head.ofEntries entries).method = some method) :
    decodeAny octets =
      (Rpc.decodeNamed .versioned (Version.ofText? version) method id entries).mapError
        (Prod.mk .versioned) := by
  have hdecode := Rpc.decode_of_entries hread hid
  simp only [hversion, hmethod] at hdecode
  cases hnamed : Rpc.decodeNamed .versioned (Version.ofText? version) method id entries with
  -- what the versioned dialect reads
  | ok decoded => exact decodeAny_of_decode hread hid (hdecode.trans hnamed)
  | error e =>
    -- what it does not read, for the params
    obtain rfl := Rpc.eq_badParams_of_error hnamed
    simp only [decodeAny, hdecode.trans hnamed]
    rfl

/-- A head without a version is read in the legacy dialect. -/
theorem decodeAny_legacy (hread : Rpc.readEntries octets = .ok entries)
    (hid : (Head.ofEntries entries).id = some id) {mark method : String}
    (hversion : (Head.ofEntries entries).version = none)
    (hmark : (Head.ofEntries entries).jsonrpc = some mark)
    (hmethod : (Head.ofEntries entries).method = some method) :
    decodeAny octets =
      (Rpc.decodeNamed .legacy (Fate.markVersion? mark) method id entries).mapError
        (Prod.mk .legacy) := by
  have hdecode := Rpc.decode_of_entries hread hid
  -- the versioned dialect reads nothing without a version
  simp only [hversion] at hdecode
  have hlegacy := Rpc.decodeLegacy_of_entries hread hid
  simp only [hmark, hmethod] at hlegacy
  cases hnamed : Rpc.decodeNamed .legacy (Fate.markVersion? mark) method id entries with
  | ok decoded => simp only [decodeAny, hdecode, hlegacy.trans hnamed, Except.mapError]
  | error e =>
    obtain rfl := Rpc.eq_badParams_of_error hnamed
    simp only [decodeAny, hdecode, hlegacy.trans hnamed, Except.mapError]

/-- Without a method, or without either protocol, neither dialect reads a call. -/
theorem decodeAny_incomplete (hread : Rpc.readEntries octets = .ok entries)
    (hid : (Head.ofEntries entries).id = some id)
    (h : (Head.ofEntries entries).method = none ∨
      (Head.ofEntries entries).version = none ∧ (Head.ofEntries entries).jsonrpc = none) :
    decodeAny octets = .error (.versioned, .incomplete .versioned) := by
  have hdecode := Rpc.decode_of_entries hread hid
  have hlegacy := Rpc.decodeLegacy_of_entries hread hid
  have hnone : Rpc.decode octets = .error (.incomplete .versioned) ∧
      Rpc.decodeLegacy octets = .error (.incomplete .legacy) := by
    rw [hdecode, hlegacy]
    rcases h with hmethod | ⟨hversion, hmark⟩
    · -- no method
      rw [hmethod]
      exact ⟨by split <;> simp_all, by split <;> simp_all⟩
    · -- no protocol
      rw [hversion, hmark]
      exact ⟨rfl, rfl⟩
  simp only [decodeAny, hnone.1, hnone.2]

/-! ## What the peer is told -/

/-- What comes of a message by its fate: an error with its identifier, or what the handler of the
call does. -/
def outcome (s : Services) (peer : Peer) (id : UInt64) : Fate → Services × List Output
  | .refused d code => (s, [.enqueue (Rpc.turnDown d code id)])
  | .routed request =>
    match serve s peer request with
    | (s, .ok out) => (s, out)
    | (s, .error code) => (s, [.enqueue (.failureFor request code)])

variable {s : Services} {peer : Peer}

/-- A call whose protocol is named meets its fate. -/
theorem respond_named {d : Dialect} {version : Option Version} {method : String}
    (hv : ∀ v, version = some v → d = .legacy → v = .v1)
    (h : decodeAny octets =
      (Rpc.decodeNamed d version method id entries).mapError (Prod.mk d)) :
    respond s peer octets = outcome s peer id (Fate.ofCall d version method id entries) := by
  cases version with
  | none =>
    -- the version is not known
    simp only [Rpc.decodeNamed, Except.mapError] at h
    simp only [respond, h, Fate.ofCall, outcome]
    cases d <;> rfl
  | some v =>
    have hanswer (params : Rpc.Params) (code : Rpc.ErrorCode) :
        Rpc.Response.failureFor { dialect := d, version := v, method, id, params } code =
          Rpc.turnDown d code id :=
      Rpc.failureFor_eq_turnDown (hv v rfl) code
    simp only [Rpc.decodeNamed, Rpc.decodeTyped] at h
    cases hm : Method.ofName? method with
    -- no such method
    | none =>
      simp only [hm, Except.mapError] at h
      simp only [respond, h, Fate.ofCall, hm, outcome, Request.untyped, hanswer]
    | some m =>
      cases hparams : Rpc.readParams? v m entries with
      -- the params are not readable
      | none =>
        simp only [hm, hparams, Except.mapError] at h
        simp only [respond, h, Rpc.WireError.id?, Option.or, Fate.ofCall, hm, hparams, outcome]
        cases d <;> rfl
      | some params =>
        simp only [hm, hparams, Except.mapError] at h
        simp only [respond, h, Fate.ofCall, hm, hparams]
        split
        · -- the identifier is zero
          simp only [outcome, hanswer]
        · -- a handler takes it
          rfl

/-- A head that is not complete is turned down in the versioned dialect. -/
theorem respond_incomplete (hread : Rpc.readEntries octets = .ok entries)
    (hid : (Head.ofEntries entries).id = some id)
    (h : (Head.ofEntries entries).method = none ∨
      (Head.ofEntries entries).version = none ∧ (Head.ofEntries entries).jsonrpc = none) :
    respond s peer octets = outcome s peer id (.refused .versioned .unimplemented) := by
  have hpeek : Rpc.peekId octets = some id := by
    simp only [Rpc.peekId, hread, hid]
  simp only [respond, decodeAny_incomplete hread hid h, Rpc.WireError.id?, Option.or, hpeek]
  rfl

/-- What comes of a message with an identifier is fixed by its head and its params, in the order of
`Fate.ofHead`; every error that turns it down has the identifier of the message. That the legacy
dialect is asked again about a method that the versioned one does not know changes nothing. -/
theorem respond_fate {rest : Bytes} {head : Head}
    (hread : MessagePack.Value.unpack? Rpc.maxLevels octets = some (.map entries, rest))
    (hhead : Heads entries head) (hid : head.id = some id) (s : Services) (peer : Peer) :
    respond s peer octets = outcome s peer id (Fate.ofHead head id entries) ∧
      ∀ decoded, Rpc.decode octets = .ok decoded → decodeAny octets = .ok decoded := by
  have hentries := Rpc.readEntries_of_unpack? hread
  obtain rfl := Rpc.heads_iff.1 hhead
  refine ⟨?_, fun decoded h => decodeAny_of_decode hentries hid h⟩
  -- the questions of the ladder are asked in their order
  cases hmethod : (Head.ofEntries entries).method with
  | none =>
    simp only [Fate.ofHead, hmethod]
    exact respond_incomplete hentries hid (.inl hmethod)
  | some method =>
    cases hversion : (Head.ofEntries entries).version with
    | some version =>
      simp only [Fate.ofHead, hmethod, hversion]
      -- the versioned dialect has both versions
      exact respond_named (fun _ _ hd => by cases hd)
        (decodeAny_versioned hentries hid hversion hmethod)
    | none =>
      cases hmark : (Head.ofEntries entries).jsonrpc with
      | none =>
        simp only [Fate.ofHead, hmethod, hversion, hmark]
        exact respond_incomplete hentries hid (.inr ⟨hversion, hmark⟩)
      | some mark =>
        simp only [Fate.ofHead, hmethod, hversion, hmark]
        refine respond_named ?_ (decodeAny_legacy hentries hid hversion hmark hmethod)
        intro v hv _
        -- the legacy one has the first only
        simp only [Fate.markVersion?] at hv
        split at hv
        · exact (Option.some.inj hv).symm
        · cases hv

/-- Entries that contradict one another. -/
def contradictoryEntries : List (MessagePack.Value × MessagePack.Value) :=
  [(.text "version", .text "3.0"), (.text "jsonrpc", .text "2.0"), (.text "id", .unsigned 0),
    (.text "method", .text "teleport"), (.text "version", .text "2.0"),
    (.text "jsonrpc", .unsigned 2), (.text "id", .unsigned 5)]

/-- The later entries count, and what they leave asks for a method that there is not. -/
theorem respond_fate_teleport :
    let octets := (MessagePack.Value.map contradictoryEntries).pack
    let head : Head :=
      { version := some "2.0", jsonrpc := none, method := some "teleport", id := some 5 }
    MessagePack.Value.unpack? Rpc.maxLevels octets = some (.map contradictoryEntries, []) ∧
      Heads contradictoryEntries head ∧ head.id = some 5 ∧
      respond sampleNode.services "member" octets =
        (sampleNode.services, [.enqueue (Rpc.turnDown .versioned .unimplemented 5)]) ∧
      ∀ decoded, Rpc.decode octets = .ok decoded → decodeAny octets = .ok decoded := by
  have hread : MessagePack.Value.unpack? Rpc.maxLevels
      (MessagePack.Value.map contradictoryEntries).pack =
        some (.map contradictoryEntries, []) := by rfl
  intro octets head
  have hhead : Heads contradictoryEntries head := Rpc.heads_iff.2 (by decide +kernel)
  obtain ⟨hrespond, hretry⟩ := respond_fate hread hhead rfl sampleNode.services "member"
  exact ⟨hread, hhead, rfl, hrespond, hretry⟩

end Node

end FeedNode
