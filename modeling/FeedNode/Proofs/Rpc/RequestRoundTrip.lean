import FeedNode.Proofs.MessagePack.RecordRoundTrip
import FeedNode.Rpc.Decoding

/-!
# Requests read back

A request is read twice over the same octets: once for its head, once for its params. Both readings
meet what the one writer wrote, in every version and in both dialects. What a 1.0 layout leaves out
comes back as a placeholder, and nothing else is lost.

Main statement: `decode_encode`.
-/

namespace FeedNode.Rpc

open MessagePack

/-! ## What a version keeps of the params -/

namespace Params

/-- The params as a version shows them: 1.0 has placeholders where 2.0 added a field. -/
def seenIn : Version → Params → Params
  | .v1, .call .createChannel a => .call .createChannel { a with tipMethods := "NA", proof := "NA" }
  | .v1, .call .publishPost a =>
    .call .publishPost { a with thumbnails := [], hashId := "NA", proof := "NA" }
  | .v1, .call .editPost a =>
    .call .editPost { a with thumbnails := [], hashId := "NA", proof := "NA" }
  | .v1, .call .postComment a =>
    .call .postComment { a with thumbnails := [], hashId := "NA", proof := "NA" }
  | .v1, .call .editComment a =>
    .call .editComment { a with thumbnails := [], hashId := "NA", proof := "NA" }
  | _, p => p

/-- There is room on the wire for every text and every octet string among the arguments. -/
def Fits : Params → Prop
  | .call m args => (m.layout .v2).Fits (m.narrow args .v2)
  | .unknown => True

instance : (p : Params) → Decidable p.Fits
  | .call m args => inferInstanceAs (Decidable ((m.layout .v2).Fits (m.narrow args .v2)))
  | .unknown => inferInstanceAs (Decidable True)

/-- Arguments that are narrowed to a version and widened again are those that it shows. -/
theorem call_widen_narrow (v : Version) (m : Method) (args : m.Args) :
    call m (m.widen v (m.narrow args v)) = (call m args).seenIn v := by
  cases v <;> cases m <;> rfl

end Params

/-! ## Layouts of the methods -/

namespace Method

/-- No layout has two fields of one name. -/
theorem nodup_names (m : Method) (v : Version) : (m.layout v).names.Nodup := by
  cases v <;> cases m <;> decide

/-- No layout has more than nine fields. -/
theorem length_layout_le (m : Method) (v : Version) : (m.layout v).length ≤ 9 := by
  cases v <;> cases m <;> decide

/-- The names of fields are short. -/
theorem utf8Length_names_le (m : Method) (v : Version) :
    ∀ name ∈ (m.layout v).names, Text.utf8Length name ≤ 18 := by
  cases v <;> cases m <;> decide

/-- The names of methods are short. -/
theorem utf8Length_name_le (m : Method) : Text.utf8Length m.name ≤ 34 := by
  cases m <;> decide

/-- Only one call takes no arguments, and it has one value only. -/
theorem zeroArgs_eq {m : Method} (h : m.takesNothing = true) (args : m.Args) :
    m.zeroArgs = args := by
  cases m <;> first | rfl | exact absurd h (by decide)

/-- Arguments for which there is room fit the layout of either version. -/
theorem fits_narrow {m : Method} {args : m.Args} (h : (Params.call m args).Fits) (v : Version) :
    (m.layout v).Fits (m.narrow args v) := by
  cases v with
  -- the 2.0 layout is the 1.0 layout with the new fields behind it
  | v1 => exact (Layout.fits_append.1 h).1
  | v2 => exact h

end Method

/-! ## The params of an envelope -/

namespace Params

/-- The params of a call are written as a well-formed value. -/
theorem wellFormed_write (v : Version) (p : Params) : (p.write v).wellFormed = true := by
  cases p with
  | unknown => rfl
  | call m args =>
    rw [write]
    split
    · rfl
    · exact Layout.wellFormed_write _ _

/-- The params of a call are a map of plain values at most. -/
theorem height_write_le (v : Version) (p : Params) : (p.write v).height ≤ 2 := by
  cases p with
  | unknown => exact Nat.le_succ 1
  | call m args =>
    rw [write]
    split
    · exact Nat.le_succ 1
    · exact Layout.height_write_le _ _

/-- There is room on the wire for params that fit. -/
theorem writable_write {p : Params} (h : p.Fits) (v : Version) : (p.write v).Writable := by
  cases p with
  | unknown => trivial
  | call m args =>
    rw [write]
    split
    · trivial
    -- no layout has more than nine fields, and no name more than 18 octets
    · have hlen := m.length_layout_le v
      refine Layout.writable_write (by omega) ?_ (Method.fits_narrow h v)
      intro name hname
      have hle := m.utf8Length_names_le v name hname
      omega

/-- The params of a method that takes any read back, 1.0 with its placeholders. -/
theorem read?_write (v : Version) {m : Method} (hm : m.takesNothing = false) (args : m.Args) :
    read? v m (some ((call m args).write v)) = some ((call m args).seenIn v) := by
  -- the row reads back by the layout of the version
  have hrow := Layout.read?_write (m.nodup_names v) (m.narrow args v)
  rw [write, hm, if_neg Bool.false_ne_true]
  -- a row is written as a map, so that it is not taken for absent params
  show ((m.layout v).read? ((m.layout v).write (m.narrow args v))).map _ = _
  rw [hrow, Option.map_some, call_widen_narrow]

end Params

/-! ## The head of an envelope -/

/-- The entries of a record with text keys. -/
def textEntries (fields : List (String × Value)) : List (Value × Value) :=
  fields.map fun (name, v) => (.text name, v)

/-- The octets of a record are read as its entries. -/
theorem readEntries_record {fields : List (String × Value)} (hw : (Value.record fields).Writable)
    (hn : (Value.record fields).height ≤ maxLevels) :
    readEntries (Value.record fields).pack = .ok (textEntries fields) := by
  have hread := Value.unpack?_pack _ hw maxLevels hn []
  rw [List.append_nil] at hread
  rw [readEntries, hread]
  rfl

/-- Under a key a record says what stands in its last field of that name. -/
theorem last?_textEntries (fields : List (String × Value)) (key : String) :
    Head.last? (textEntries fields) key =
      (fields.reverse.find? fun f => f.1 == key).map (·.2) := by
  -- the key of an entry is the text of its name
  have hkey (name : String) : ((Value.text name).text? == some key) = (name == key) := by
    rw [Value.text?_text]
    rfl
  simp only [Head.last?, textEntries, ← List.map_reverse, List.find?_map, Option.map_map]
  simp only [Function.comp_def, hkey]

namespace Request

/-- The fields of a call, in order. -/
def fields (r : Request) : List (String × Value) :=
  [protocolField r.dialect r.version, ("method", .text r.method), ("id", .unsigned r.id),
    ("params", r.params.write r.version)]

/-- The head that a reader finds in a call. -/
def head (r : Request) : Head where
  version := if r.dialect = .versioned then some r.version.text else none
  jsonrpc := if r.dialect = .legacy then some legacyMark else none
  method := some r.method
  id := some r.id

/-- A reader finds the head of a call in its fields. -/
theorem ofEntries_fields (r : Request) : Head.ofEntries (textEntries r.fields) = r.head := by
  obtain ⟨d, v, method, id, params⟩ := r
  -- what is taken from a text or a number is the text or the number
  have htext (s : String) : (some (Value.text s)).bind Value.text? = some s := by
    rw [Option.bind_some, Value.text?_text]
  have hid : (some (Value.unsigned id)).bind Value.unsigned? = some id := by
    rw [Option.bind_some, FieldKind.unsigned?_unsigned]
  cases d <;>
    simp [Head.ofEntries, last?_textEntries, fields, protocolField, head, htext, hid,
      -Option.bind_some]

/-- No two fields of a call have one name. -/
theorem nodup_fields (r : Request) : (r.fields.map Prod.fst).Nodup := by
  obtain ⟨d, v, method, id, params⟩ := r
  cases d <;> simp [fields, protocolField]

/-- Everything in the fields of a call is well formed. -/
theorem wellFormed_fields (r : Request) : ∀ f ∈ r.fields, f.2.wellFormed = true := by
  have hparams := r.params.wellFormed_write r.version
  cases hd : r.dialect <;>
    simp [fields, protocolField, hd, hparams, Value.text, Value.wellFormed]

/-- A reader has levels enough for a call. -/
theorem height_value_le (r : Request) : (Value.record r.fields).height ≤ maxLevels := by
  -- the params are the highest of the fields
  have hle : (Value.record r.fields).height ≤ 2 + 1 := by
    refine Value.height_record_le (by decide) ?_
    have hparams := r.params.height_write_le r.version
    cases hd : r.dialect <;>
      simp [fields, protocolField, hd, hparams, Value.height_text, Value.height]
  exact Nat.le_trans hle (by decide)

/-- There is room on the wire for a call whose method and params have room. -/
theorem writable_value {r : Request} (hmethod : Text.utf8Length r.method < 2 ^ 32)
    (hparams : r.params.Fits) : (Value.record r.fields).Writable := by
  have hversion : (Value.text r.version.text).Writable :=
    Value.writable_text (by cases r.version <;> decide)
  have hmark : (Value.text legacyMark).Writable := Value.writable_text (by decide)
  have hname := Value.writable_text hmethod
  have hid : (Value.unsigned r.id).Writable := trivial
  have hwrite := Params.writable_write hparams r.version
  -- the names of the fields
  refine Value.writable_record (by simp [fields]) ?_ ?_
  · cases hd : r.dialect <;> simp [fields, protocolField, hd] <;> decide
  · -- and what stands under them
    cases hd : r.dialect <;>
      simp [fields, protocolField, hd, hversion, hmark, hname, hid, hwrite]

/-- The octets of a call are read as its fields. -/
theorem readEntries_encode {r : Request} (hmethod : Text.utf8Length r.method < 2 ^ 32)
    (hparams : r.params.Fits) : readEntries r.encode = .ok (textEntries r.fields) :=
  readEntries_record (writable_value hmethod hparams) r.height_value_le

end Request

/-! ## The params in an envelope -/

/-- The params of a call are found among its fields and read as its version shows them. -/
theorem readParams?_fields {r : Request} {m : Method} {args : m.Args}
    (hp : r.params = .call m args) :
    readParams? r.version m (textEntries r.fields) = some (r.params.seenIn r.version) := by
  rw [readParams?]
  split
  · rename_i hm
    -- params that carry nothing are not looked at
    rw [m.zeroArgs_eq hm args, hp]
    cases m <;> first | (cases r.version <;> rfl) | exact absurd hm (by decide)
  · rename_i hm
    -- the second reading looks for one field among those of the whole envelope
    have hslots := Value.slots?_record r.fields [("params", r.params.write r.version)]
      r.wellFormed_fields r.nodup_fields (by simp [Request.fields])
    have hread := Params.read?_write r.version (Bool.eq_false_iff.2 hm) args
    rw [← hp] at hread
    show (Value.slots? ["params"] (.record r.fields)).bind _ = _
    rw [show ["params"] = [("params", r.params.write r.version)].map Prod.fst from rfl, hslots,
      Option.bind_some]
    exact hread

/-- A call of a known method is typed with the params that its version shows. -/
theorem decodeTyped_fields {r : Request} {m : Method} {args : m.Args}
    (hp : r.params = .call m args) (hm : r.method = m.name) (d : Dialect) :
    decodeTyped d r.version r.method r.id (textEntries r.fields) =
      .ok
        { request := { r with dialect := d, params := r.params.seenIn r.version }
          status := .processed } := by
  simp only [decodeTyped, hm, Method.ofName?_name, readParams?_fields hp]

/-! ## Whole requests -/

namespace Request

variable {r : Request}

/-- A call of the versioned dialect is typed by the version that it names. -/
theorem decode_versioned (hd : r.dialect = .versioned)
    (hread : readEntries r.encode = .ok (textEntries r.fields)) :
    decode r.encode =
      decodeTyped .versioned r.version r.method r.id (textEntries r.fields) := by
  simp only [decode, hread, bind, Except.bind, ofEntries_fields, head, hd, if_true,
    Version.ofText?_text]

/-- A call of the legacy dialect is typed as one of version 1.0. -/
theorem decodeLegacy_legacy (hd : r.dialect = .legacy)
    (hread : readEntries r.encode = .ok (textEntries r.fields)) :
    decodeLegacy r.encode = decodeTyped .legacy .v1 r.method r.id (textEntries r.fields) := by
  simp only [decodeLegacy, hread, bind, Except.bind, ofEntries_fields, head, hd, if_true]

/-- The versioned dialect misses its key in a call of the legacy one. -/
theorem decode_legacy (hd : r.dialect = .legacy)
    (hread : readEntries r.encode = .ok (textEntries r.fields)) :
    decode r.encode = .error (.incomplete .versioned) := by
  simp only [decode, hread, bind, Except.bind, ofEntries_fields, head, hd, reduceCtorEq, if_false]

end Request

/-- Every call reads back in the dialect it was written in, with what its version shows of the
params; a call of the legacy dialect is no call of the versioned one. -/
theorem decode_encode {m : Method} {args : m.Args} (h : (Params.call m args).Fits) (v : Version)
    (id : UInt64) :
    decode (Request.make v id (.call m args)).encode =
        .ok
          { request :=
              { dialect := .versioned, version := v, method := m.name, id
                params := (Params.call m args).seenIn v }
            status := .processed } ∧
      decodeLegacy (Request.makeLegacy id (.call m args)).encode =
        .ok
          { request :=
              { dialect := .legacy, version := .v1, method := m.name, id
                params := (Params.call m args).seenIn .v1 }
            status := .processed } ∧
      decode (Request.makeLegacy id (.call m args)).encode = .error (.incomplete .versioned) := by
  have hname : Text.utf8Length m.name < 2 ^ 32 := by
    have hle := m.utf8Length_name_le
    omega
  -- the octets of either dialect are read as its own fields
  have hread : readEntries (Request.make v id (.call m args)).encode = _ :=
    Request.readEntries_encode hname h
  have hlegacy : readEntries (Request.makeLegacy id (.call m args)).encode = _ :=
    Request.readEntries_encode hname h
  refine ⟨?_, ?_, ?_⟩
  · rw [Request.decode_versioned rfl hread]
    exact decodeTyped_fields rfl rfl .versioned
  · rw [Request.decodeLegacy_legacy rfl hlegacy]
    exact decodeTyped_fields rfl rfl .legacy
  · exact Request.decode_legacy rfl hlegacy

/-- A comment in which every field that 2.0 added is set, and one is empty. -/
theorem decode_encode_comment :
    let args : PostCommentArgs :=
      { token := "T", channelId := 1, postId := 18446744073709551615, referId := 0
        content := [0, 1, 0xc1], thumbnails := [7], hashId := "h", proof := "" }
    (Params.call .postComment args).Fits ∧
      decode (Request.make .v1 9 (.call .postComment args)).encode =
        .ok
          { request :=
              { dialect := .versioned, version := .v1, method := "post_comment", id := 9
                params :=
                  .call .postComment { args with thumbnails := [], hashId := "NA", proof := "NA" } }
            status := .processed } := by
  intro args
  have h : (Params.call .postComment args).Fits := by decide
  exact ⟨h, (decode_encode h .v1 9).1⟩

end FeedNode.Rpc
