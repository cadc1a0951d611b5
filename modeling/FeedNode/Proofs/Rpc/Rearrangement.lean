import FeedNode.Proofs.MessagePack.Slots
import FeedNode.Proofs.Rpc.Heads
import FeedNode.Proofs.Rpc.RequestRoundTrip

/-!
# Calls with their entries rearranged

A peer may write the entries of an envelope, and those of its params, in any order, and may add
entries that this node does not know: those of later versions, or of its own. Two readers walk the
entries, one for the head and one for the params, and each finds what it looks for wherever it
stands, among values of every kind.

Main statement: `decodeIn_rearranged`.
-/

namespace FeedNode.Rpc

open MessagePack
open MessagePack.Value (Scattered)

/-! ## Rearranged envelopes -/

/-- The params of a call on the wire, with the entries of a map rearranged among others that the
layout does not have. -/
inductive Params.Rearranged (v : Version) : Params → Value → Prop where
  | nil {m : Method} {args : m.Args} (hm : m.takesNothing = true) :
    Rearranged v (.call m args) .nil
  | map {m : Method} {args : m.Args} {entries : List (Value × Value)}
    (hm : m.takesNothing = false)
    (h : Scattered (m.layout v).names ((m.layout v).fields (m.narrow args v)) entries) :
    Rearranged v (.call m args) (.map entries)

namespace Request

/-- The fields of a call, with some value as its params. -/
def fieldsWith (r : Request) (p : Value) : List (String × Value) :=
  [protocolField r.dialect r.version, ("method", .text r.method), ("id", .unsigned r.id),
    ("params", p)]

/-- The entries of a call, rearranged among others that its dialect does not have, with params that
are rearranged in themselves. -/
def Rearranged (r : Request) (entries : List (Value × Value)) : Prop :=
  ∃ p, r.params.Rearranged r.version p ∧
    Scattered (r.fields.map Prod.fst) (r.fieldsWith p) entries

end Request

/-! ## The head -/

/-- A field of its own is found under its key, wherever it stands. -/
theorem last?_scattered {known : List String} {fields : List (String × Value)}
    {entries : List (Value × Value)} (h : Scattered known fields entries)
    (hnd : (fields.map Prod.fst).Nodup) {key : String} (hkey : key ∈ known) {v : Value}
    (hmem : (key, v) ∈ fields) : Head.last? entries key = some v := by
  obtain ⟨extra, hperm, hextra⟩ := h
  -- what is kept under a key is a matter of the names
  have hfilter (fs : List (String × Value)) :
      (textEntries fs).filter (HasKey key ·) = textEntries (fs.filter fun f => f.1 == key) := by
    rw [textEntries, List.filter_map]
    congr 1
    simp [HasKey, Function.comp_def, Bool.beq_eq_decide_eq]
  -- no further entry has the key
  have hother : ∀ f ∈ extra, f.1 ≠ key := by
    rintro f hf rfl
    exact (hextra f hf).1 hkey
  -- one entry is left of those with the key, so that their order is no matter
  have hkept : (entries.filter (HasKey key ·)).Perm
      ((textEntries (fields ++ extra)).filter (HasKey key ·)) := hperm.filter _
  rw [hfilter, List.filter_append, Value.filter_fst_eq_nil hother, List.append_nil,
    Value.filter_fst_eq hnd hmem] at hkept
  rw [last?_eq_getLast?, List.perm_singleton.1 hkept]
  rfl

/-! ## The params -/

variable {v : Version} {m : Method} {args : m.Args}

namespace Params

/-- Rearranged params are well formed, whatever stands among them. -/
theorem Rearranged.wellFormed {params : Params} {p : Value} (h : params.Rearranged v p) :
    p.wellFormed = true := by
  cases h with
  | nil _ => rfl
  | map _ h =>
    exact h.wellFormed
      (Layout.forall_mem_fields (·.wellFormed = true) FieldKind.wellFormed_write _ _)

/-- The params as they are written are a rearrangement of themselves. -/
theorem rearranged_write (v : Version) (m : Method) (args : m.Args) :
    (call m args).Rearranged v ((call m args).write v) := by
  cases hm : m.takesNothing with
  | true =>
    -- nothing is written as nil
    rw [write, if_pos hm]
    exact .nil hm
  | false =>
    -- a row is written as a map of its fields and no others
    rw [write, if_neg (by simp [hm])]
    exact .map hm (.refl _ _)

/-- Rearranged params read as the params that the version shows. -/
theorem read?_rearranged (hm : m.takesNothing = false) {p : Value}
    (h : (call m args).Rearranged v p) : read? v m (some p) = some ((call m args).seenIn v) := by
  cases h with
  | nil hm' => simp [hm] at hm'
  | map _ h =>
    rw [← read?_write v hm args, write, if_neg (by simp [hm])]
    -- neither map is taken for absent params
    show ((m.layout v).read? _).map _ = ((m.layout v).read? _).map _
    rw [Layout.read?_scattered h]

end Params

namespace Request

variable {r : Request} {entries : List (Value × Value)}

/-- The fields of a call as they are written are a rearrangement of themselves. -/
theorem rearranged_fields (hp : r.params = .call m args) : r.Rearranged (textEntries r.fields) := by
  refine ⟨r.params.write r.version, ?_, .refl _ _⟩
  rw [hp]
  exact Params.rearranged_write r.version m args

/-- The params of a rearranged call read as those that its version shows. -/
theorem readParams?_rearranged (hp : r.params = .call m args) (h : r.Rearranged entries) :
    readParams? r.version m entries = some (r.params.seenIn r.version) := by
  cases hm : m.takesNothing with
  | true =>
    -- nothing is looked for, neither here nor in the call as it is written
    rw [← readParams?_fields hp, readParams?, readParams?, if_pos hm, if_pos hm]
  | false =>
    obtain ⟨p, hparams, hscattered⟩ := h
    -- everything in the envelope is well formed
    have hwf : ∀ f ∈ r.fieldsWith p, f.2.wellFormed = true := by
      have hwell := hparams.wellFormed
      cases hd : r.dialect <;>
        simp [fieldsWith, protocolField, hd, hwell, Value.text, Value.wellFormed]
    -- so that the params are found in their one slot
    have hslots : Value.slots? ["params"] (.map entries) = some [some p] :=
      (Value.slots?_scattered hscattered (by simp [fields]) hwf).trans
        (Value.slots?_record (r.fieldsWith p) [("params", p)] hwf r.nodup_fields
          (by simp [fieldsWith]))
    rw [hp] at hparams ⊢
    rw [readParams?, if_neg (by simp [hm])]
    simp only [hslots, Option.bind_eq_bind]
    exact Params.read?_rearranged hm hparams

/-! ## Whole calls -/

/-- Every rearrangement of a call is read as one and the same. -/
theorem decodeIn_of_rearranged (hp : r.params = .call m args) (hmethod : r.method = m.name)
    (hversion : r.dialect = .legacy → r.version = .v1) (h : r.Rearranged entries) {octets : Bytes}
    (hread : readEntries octets = .ok entries) :
    decodeIn r.dialect octets =
      .ok
        { request := { r with params := r.params.seenIn r.version }
          status := .processed } := by
  have hparams := readParams?_rearranged hp h
  obtain ⟨p, -, hscattered⟩ := h
  have hfind {key : String} {v : Value} (hmem : (key, v) ∈ r.fieldsWith p) :
      Head.last? entries key = some v := by
    have hkey : key ∈ (r.fieldsWith p).map Prod.fst := List.mem_map.2 ⟨(key, v), hmem, rfl⟩
    -- every field of the call is found under its key
    exact last?_scattered hscattered r.nodup_fields hkey hmem
  -- everything that the head needs is among the fields of the call itself
  have hnames : (Head.ofEntries entries).Names r.version r.dialect := by
    cases hd : r.dialect with
    | versioned =>
      show (Head.last? entries "version").bind Value.text? = _
      rw [hfind (v := .text r.version.text) (by simp [fieldsWith, protocolField, hd]),
        Option.bind_some, Value.text?_text]
    | legacy =>
      refine ⟨?_, hversion hd⟩
      show (Head.last? entries "jsonrpc").bind Value.text? = _
      rw [hfind (v := .text legacyMark) (by simp [fieldsWith, protocolField, hd]),
        Option.bind_some, Value.text?_text]
  have hname : (Head.ofEntries entries).method = some r.method := by
    show (Head.last? entries "method").bind Value.text? = _
    rw [hfind (v := .text r.method) (by simp [fieldsWith]), Option.bind_some, Value.text?_text]
  have hid : (Head.ofEntries entries).id = some r.id := by
    show (Head.last? entries "id").bind Value.unsigned? = _
    rw [hfind (v := .unsigned r.id) (by simp [fieldsWith]), Option.bind_some,
      FieldKind.unsigned?_unsigned]
  rw [decodeIn_of_names hread hnames hname hid]
  simp only [decodeTyped, hmethod, Method.ofName?_name, hparams]

end Request

/-- The order of the entries has no part in what is read of a call, neither in the envelope nor in
the params, and neither have further entries under keys that the dialect, or the layout of the
method in its version, does not have. Every call reads as it does in its own order, from any octets
that hold the rearranged entries, and from those in which they are written again. -/
theorem decodeIn_rearranged {r : Request} {id : UInt64}
    (hr : r = .make v id (.call m args) ∨ r = .makeLegacy id (.call m args))
    (hw : r.value.Writable) {entries : List (Value × Value)} (h : r.Rearranged entries) :
    (∀ octets rest, Value.unpack? maxLevels octets = some (.map entries, rest) →
      decodeIn r.dialect octets = decodeIn r.dialect r.encode) ∧
    ((Value.map entries).Writable → (Value.map entries).height ≤ maxLevels →
      decodeIn r.dialect (Value.map entries).pack = decodeIn r.dialect r.encode) := by
  obtain ⟨hp, hmethod, hversion⟩ : r.params = .call m args ∧ r.method = m.name ∧
      (r.dialect = .legacy → r.version = .v1) := by
    obtain rfl | rfl := hr
    · exact ⟨rfl, rfl, fun hd => by cases hd⟩
    · exact ⟨rfl, rfl, fun _ => rfl⟩
  have hread (octets rest : Bytes)
      (hoctets : Value.unpack? maxLevels octets = some (.map entries, rest)) :
      decodeIn r.dialect octets = decodeIn r.dialect r.encode := by
    have hentries := readEntries_of_unpack? hoctets
    -- the call as it is written is a rearrangement of itself
    have hencode : readEntries r.encode = .ok (textEntries r.fields) :=
      readEntries_record hw r.height_value_le
    rw [Request.decodeIn_of_rearranged hp hmethod hversion h hentries,
      Request.decodeIn_of_rearranged hp hmethod hversion (Request.rearranged_fields hp) hencode]
  refine ⟨hread, fun hentries hheight => ?_⟩
  have hback := Value.unpack?_pack _ hentries maxLevels hheight []
  rw [List.append_nil] at hback
  -- the entries written again are octets that hold them
  exact hread _ _ hback

/-- The params of a 1.0 post from the last to the first, among fields of 2.0. -/
def turnedParams : List (Value × Value) :=
  [(.text "thumbnails", .bool true), (.text "thumbnails", .array [.text "x"]),
    (.text "content", .bin [7]), (.text "channel_id", .unsigned 1),
    (.text "access_token", .text "T")]

/-- The envelope of these params from the last entry to the first, among entries of nobody and of
the legacy dialect. -/
def turnedPost : List (Value × Value) :=
  [(.text "trace", .array [.ext 5 [0xc1], .map [(.nil, .float64 0)]]), (.text "jsonrpc", .nil),
    (.text "params", .map turnedParams), (.text "id", .unsigned 3),
    (.text "method", .text "publish_post"), (.text "version", .text "1.0")]

/-- A post that is turned round is read as it is in its own order. -/
theorem decodeIn_rearranged_post :
    let args : PublishPostArgs :=
      { token := "T", channelId := 1, content := [7], thumbnails := [], hashId := "", proof := "" }
    let r : Request := .make .v1 3 (.call .publishPost args)
    r.value.Writable ∧ r.Rearranged turnedPost ∧ (Value.map turnedPost).Writable ∧
      (Value.map turnedPost).height ≤ maxLevels ∧
      decodeIn r.dialect (Value.map turnedPost).pack = decodeIn r.dialect r.encode := by
  intro args r
  have hw : r.value.Writable := Request.writable_value (by decide) (by decide)
  -- the params: two further entries, and the three fields turned round
  have hparams : r.params.Rearranged r.version (.map turnedParams) := by
    refine .map rfl ⟨[("thumbnails", .array [.text "x"]), ("thumbnails", .bool true)], ?_, ?_⟩
    · exact (List.Perm.of_eq (by rfl)).trans (List.reverse_perm _)
    · decide
  -- the envelope: two further entries, and the four fields turned round
  have hr : r.Rearranged turnedPost := by
    refine ⟨.map turnedParams, hparams,
      [("jsonrpc", .nil), ("trace", .array [.ext 5 [0xc1], .map [(.nil, .float64 0)]])], ?_, ?_⟩
    · exact (List.Perm.of_eq (by rfl)).trans (List.reverse_perm _)
    · decide
  have hturned : (Value.map turnedPost).Writable := by
    simp only [turnedPost, turnedParams, Value.text, Value.Writable, Value.WritableEntries,
      Value.WritableItems]
    decide
  have hheight : (Value.map turnedPost).height ≤ maxLevels := by decide
  -- so the turned call reads as the plain one
  exact ⟨hw, hr, hturned, hheight,
    (decodeIn_rearranged (.inl rfl) hw hr).2 hturned hheight⟩

end FeedNode.Rpc
