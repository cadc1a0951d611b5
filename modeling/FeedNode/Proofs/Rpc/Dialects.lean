import FeedNode.Proofs.Rpc.RequestRoundTrip

/-!
# One call in both dialects

A call of version 1.0 may come in the versioned dialect or in the legacy one, under another first
entry and with everything behind it the same. The octets of its params are whatever the peer sent:
any MessagePack value, in any form, or no value at all.

Main statements: by `readEntries_callOctets` the octets can be read in both dialects or in neither,
and by `decodeTyped_callFields` both find the same call in them, or the same fault.
-/

namespace FeedNode.MessagePack.Value

/-- Some things read, and then some more. -/
theorem readMany?_add {α : Type} (item : Bytes → Option (α × Bytes)) (n k : Nat) (s : Bytes) :
    readMany? item (n + k) s =
      (readMany? item n s).bind fun (xs, rest) =>
        (readMany? item k rest).map fun (ys, rest) => (xs ++ ys, rest) := by
  induction n generalizing s with
  -- nothing in front of the further things
  | zero =>
    rw [Nat.zero_add]
    show readMany? item k s = (readMany? item k s).map id
    rw [Option.map_id_fun, id]
  | succ n ih =>
    rw [Nat.succ_add, readMany?, readMany?]
    -- nothing can be read
    cases item s with
    | none => rfl
    | some first =>
      -- one thing is read, and the rest of both sides by the hypothesis of the induction
      simp only [Option.bind_eq_bind, Option.bind_some, ih, Option.pure_def]
      cases readMany? item n first.2 with
      | none => rfl
      | some more =>
        simp only [Option.bind_some]
        cases readMany? item k more.2 with
        | none => rfl
        | some last => rfl

/-- A text under another name has no part in what is found under a name. -/
theorem slots?_cons_text {name key : String} (h : Text.utf8 key ≠ Text.utf8 name) (s : String)
    (entries : List (Value × Value)) :
    slots? [name] (.map ((.text key, .text s) :: entries)) = slots? [name] (.map entries) := by
  -- the further entry is well keyed, so that it does not spoil the others
  have hcons : keyedEntries? ((.text key, .text s) :: entries) =
      (keyedEntries? entries).map ((.name (Text.utf8 key), .text s) :: ·) := by
    rw [keyedEntries?, List.mapM_cons]
    show (keyedEntries? entries).bind (fun keyed => some (_ :: keyed)) = _
    cases keyedEntries? entries <;> rfl
  simp only [slots?, hcons]
  cases keyedEntries? entries with
  | none => rfl
  -- and it is selected by no name but its own
  | some keyed => simp [onlyValue?, FieldKey.selects, h]

end FeedNode.MessagePack.Value

namespace FeedNode.Rpc

open MessagePack

/-- The entries of a call of version 1.0, up to its params. -/
def callFields (d : Dialect) (method : String) (id : UInt64) : List (String × Value) :=
  [protocolField d .v1, ("method", .text method), ("id", .unsigned id)]

/-- The octets of the last entry of a call, if it has any params. -/
def paramsOctets (params : Option Bytes) : Bytes :=
  (params.map fun octets => (Value.text "params").pack ++ octets).getD []

/-- The octets of a call of version 1.0 whose params are some octets, or that has none. -/
def callOctets (d : Dialect) (method : String) (id : UInt64) (params : Option Bytes) : Bytes :=
  (Header.map (3 + params.toList.length)).octets ++
    (Value.packEntries (textEntries (callFields d method id)) ++ paramsOctets params)

/-- The params among the entries of a call. -/
def paramsField (params : Option Value) : List (String × Value) :=
  params.toList.map fun v => ("params", v)

/-- A call of version 1.0 is written so. -/
theorem encode_eq_callOctets {r : Request} (h : r.version = .v1) :
    r.encode = callOctets r.dialect r.method r.id (some (r.params.write .v1).pack) := by
  simp [Request.encode, Request.value, Value.record, Value.pack, callOctets, callFields,
    textEntries, paramsOctets, Value.packEntries, h]

/-- The levels that are left for what stands in an envelope. -/
def innerLevels : Nat :=
  maxLevels - 1

variable {method : String} {id : UInt64}

/-- There is room on the wire for the entries of a call up to its params. -/
theorem writable_callFields (hmethod : Text.utf8Length method < 2 ^ 32) (d : Dialect) :
    (Value.record (callFields d method id)).Writable := by
  have hversion : (Value.text Version.v1.text).Writable := Value.writable_text (by decide)
  have hmark : (Value.text legacyMark).Writable := Value.writable_text (by decide)
  have hname := Value.writable_text hmethod
  have hid : (Value.unsigned id).Writable := trivial
  refine Value.writable_record (by simp [callFields]) ?_ ?_
  · -- the names of the entries
    cases d <;> simp [callFields, protocolField] <;> decide
  · -- and their values
    cases d <;> simp [callFields, protocolField, hversion, hmark, hname, hid]

/-- The entries of a call up to its params are a map of plain values. -/
theorem height_callFields (d : Dialect) (method : String) (id : UInt64) :
    (Value.record (callFields d method id)).height ≤ 2 := by
  refine Value.height_record_le (Nat.le_refl 1) ?_
  cases d <;> simp [callFields, protocolField, Value.height_text, Value.height]

/-- The first entries of a call are read as what they are, in either dialect. -/
theorem readEntries_callOctets_eq (hmethod : Text.utf8Length method < 2 ^ 32) (id : UInt64)
    (d : Dialect) (params : Option Bytes) :
    readEntries (callOctets d method id params) =
      match Value.readMany? (Value.readKeyed? (Value.unpack? innerLevels)) params.toList.length
        (paramsOctets params) with
      | none => .error .unreadable
      | some (es, _) => .ok (textEntries (callFields d method id) ++ es) := by
  let front := textEntries (callFields d method id)
  -- one entry more for the params, if there are any
  have hcount : 3 + params.toList.length < 2 ^ 32 := by
    cases params <;> simp
  -- the entries are no higher than what may stand in an envelope
  have hheight : Value.heightEntries front ≤ innerLevels := by
    have hle : Value.heightEntries front + 1 ≤ 2 := by
      have hrecord := height_callFields d method id
      rwa [Value.record, Value.height] at hrecord
    have hroom : 1 ≤ innerLevels := by decide
    omega
  have hlevels : maxLevels = innerLevels + 1 := rfl
  -- the three entries are read first, and leave the octets of the params to be read
  have hfront := Value.readMany?_packEntries front (writable_callFields hmethod d).2 innerLevels
    hheight (paramsOctets params)
  rw [readEntries, callOctets, hlevels, Value.unpack?_octets (h := .map _) hcount,
    Value.readBody?, Value.readMany?_add, show 3 = front.length from rfl, hfront]
  simp only [Option.bind_some]
  -- behind them stand the params, or nothing
  cases Value.readMany? (Value.readKeyed? (Value.unpack? innerLevels)) params.toList.length
    (paramsOctets params) <;> rfl

/-- The octets of a call cannot be read, or its entries are those of the call. -/
theorem readEntries_callOctets (hmethod : Text.utf8Length method < 2 ^ 32) (id : UInt64)
    (params : Option Bytes) :
    (∀ d, readEntries (callOctets d method id params) = .error .unreadable) ∨
      ∃ value : Option Value, ∀ d, readEntries (callOctets d method id params) =
        .ok (textEntries (callFields d method id ++ paramsField value)) := by
  simp only [readEntries_callOctets_eq hmethod]
  cases params with
  | none => exact .inr ⟨none, fun d => rfl⟩
  | some octets =>
    -- nothing is known of these octets, but they are read without regard to the dialect
    have hkey := Value.unpack?_pack (.text "params") (Value.writable_text (by decide)) innerLevels
      (by decide) octets
    have hlast : Value.readMany? (Value.readKeyed? (Value.unpack? innerLevels)) 1
          ((Value.text "params").pack ++ octets) =
        (Value.unpack? innerLevels octets).map fun found =>
          ([(.text "params", found.1)], found.2) := by
      simp only [Value.readMany?, Value.readKeyed?, hkey, Option.bind_eq_bind, Option.bind_some]
      cases Value.unpack? innerLevels octets <;> rfl
    have hcount : (some octets).toList.length = 1 := rfl
    simp only [hcount, paramsOctets, Option.map_some, Option.getD_some, hlast]
    cases Value.unpack? innerLevels octets with
    | none => exact .inl fun d => rfl
    | some found =>
      refine .inr ⟨some found.1, fun d => ?_⟩
      rw [textEntries, textEntries, List.map_append]
      rfl

/-! ## The two readings -/

variable (method id) (value : Option Value)

/-- What a reader finds at the head of a call. -/
theorem ofEntries_callFields (d : Dialect) :
    Head.ofEntries (textEntries (callFields d method id ++ paramsField value)) =
      (Request.untyped d .v1 method id).head := by
  have htext (s : String) : (some (Value.text s)).bind Value.text? = some s := by
    rw [Option.bind_some, Value.text?_text]
  have hid : (some (Value.unsigned id)).bind Value.unsigned? = some id := by
    rw [Option.bind_some, FieldKind.unsigned?_unsigned]
  -- the head has either key, and nothing of it depends on the params
  cases d <;> cases value <;>
    simp [Head.ofEntries, last?_textEntries, callFields, protocolField, paramsField, Request.head,
      Request.untyped, htext, hid, -Option.bind_some]

/-- The params of a call are found behind either first entry. -/
theorem readParams?_callFields (d : Dialect) (m : Method) :
    readParams? .v1 m (textEntries (callFields d method id ++ paramsField value)) =
      readParams? .v1 m
        (textEntries ([("method", .text method), ("id", .unsigned id)] ++ paramsField value)) := by
  -- the params are looked for by their name, and the first entry has another one
  have hslots : Value.slots? ["params"]
        (.map (textEntries (callFields d method id ++ paramsField value))) =
      Value.slots? ["params"] (.map
        (textEntries ([("method", .text method), ("id", .unsigned id)] ++ paramsField value))) := by
    cases d with
    | versioned => exact Value.slots?_cons_text (by decide) _ _
    | legacy => exact Value.slots?_cons_text (by decide) _ _
  rw [readParams?, readParams?, hslots]

/-- Both dialects find the same call, or find the same fault with its params. -/
theorem decodeTyped_callFields :
    (∀ d, decodeTyped d .v1 method id (textEntries (callFields d method id ++ paramsField value)) =
        .error (.badParams id method)) ∨
      ∃ (request : Request) (status : DecodeStatus), ∀ d,
        decodeTyped d .v1 method id (textEntries (callFields d method id ++ paramsField value)) =
          .ok { request := { request with dialect := d }, status } := by
  simp only [decodeTyped, readParams?_callFields]
  cases Method.ofName? method with
  -- an unknown method is not typed, whatever its params are
  | none =>
    exact .inr ⟨.untyped .versioned .v1 method id, .unknownMethod, fun d => rfl⟩
  | some m =>
    dsimp only
    split
    · -- its params cannot be read
      exact .inl fun d => rfl
    · -- its params are read, and the dialect is noted beside them
      rename_i params _
      let request : Request := { dialect := .versioned, version := .v1, method, id, params }
      exact .inr ⟨request, .processed, fun d => rfl⟩

variable {method id value} {octets : Bytes}

/-- A call in the versioned dialect is typed there and lacks the mark of the legacy one. -/
theorem decode_versioned_call
    (h : readEntries octets =
      .ok (textEntries (callFields .versioned method id ++ paramsField value))) :
    decode octets = decodeTyped .versioned .v1 method id
        (textEntries (callFields .versioned method id ++ paramsField value)) ∧
      decodeLegacy octets = .error (.incomplete .legacy) := by
  simp only [decode, decodeLegacy, h, bind, Except.bind, ofEntries_callFields, Request.head,
    Request.untyped, if_true, reduceCtorEq, if_false, Version.ofText?_text, and_self]

/-- A call in the legacy dialect is typed there and lacks a version. -/
theorem decode_legacy_call
    (h : readEntries octets =
      .ok (textEntries (callFields .legacy method id ++ paramsField value))) :
    decode octets = .error (.incomplete .versioned) ∧
      decodeLegacy octets = decodeTyped .legacy .v1 method id
        (textEntries (callFields .legacy method id ++ paramsField value)) := by
  simp only [decode, decodeLegacy, h, bind, Except.bind, ofEntries_callFields, Request.head,
    Request.untyped, if_true, reduceCtorEq, if_false, and_self]

end FeedNode.Rpc
