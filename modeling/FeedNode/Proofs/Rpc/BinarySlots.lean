import FeedNode.Proofs.MessagePack.Slots
import FeedNode.Proofs.Rpc.Heads
import FeedNode.Proofs.Rpc.RequestRoundTrip

/-!
# Strings in binary slots

A binary parameter is written as a `bin`. What its reader makes of a `str` depends on the octets of
the `str`, not on how its length was written nor on the form of the params around it: octets that
are UTF-8 are refused, and the params with them; other octets are taken as if they stood in a `bin`.

Main statement: `decodeIn_str_in_binary_slot`. An envelope is cut open twice for it, at its params
and at the slot in them, so that the two values that may stand there can be compared.
-/

namespace FeedNode.Rpc

open MessagePack
open MessagePack.Value (EntryHole Hole)

/-! ## Envelopes with open params -/

section Envelope

variable {E : Value → List (Value × Value)} (hE : EntryHole "params" 0 E)
include hE

/-- What is found under another key does not depend on the params. -/
theorem last?_hole {key : String} (hkey : key ≠ "params") (p p' : Value) :
    Head.last? (E p) key = Head.last? (E p') key := by
  obtain ⟨before, after, hfield, hsel⟩ := hE
  -- the entry of the params is not kept, whatever stands in it
  have hother (p : Value) : ¬HasKey key (_, p) := fun h => hkey (Value.eq_of_selects hfield hsel h)
  simp only [last?_eq_getLast?, List.filter_append, List.filter_cons, hother, decide_false,
    Bool.false_eq_true, if_false]

/-- The head of an envelope has nothing of its params. -/
theorem ofEntries_hole (p p' : Value) : Head.ofEntries (E p) = Head.ofEntries (E p') := by
  simp only [Head.ofEntries, last?_hole hE (by decide : "version" ≠ "params") p p',
    last?_hole hE (by decide : "jsonrpc" ≠ "params") p p',
    last?_hole hE (by decide : "method" ≠ "params") p p',
    last?_hole hE (by decide : "id" ≠ "params") p p']

/-- Where an envelope has its params, they are read by themselves; an envelope in which nothing is
found has none, whatever stands there. -/
theorem readParams?_hole {m : Method} (hm : m.takesNothing = false) (v : Version) :
    ∃ found : Bool, ∀ p : Value,
      readParams? v m (E p) =
        if p.wellFormed && found then Params.read? v m (some p) else none := by
  -- a method with params looks for them among the entries
  have hread (p : Value) : readParams? v m (E p) =
      (Value.slots? ["params"] (.map (E p))).bind fun slots =>
        Params.read? v m (slots.head?.join) := by
    rw [readParams?, if_neg (by simp [hm])]
    rfl
  -- params that are not well formed spoil the whole envelope
  have hill (p : Value) (hp : p.wellFormed = false) :
      Value.slots? ["params"] (.map (E p)) = none := by
    obtain ⟨before, after, -, -⟩ := hE
    exact Value.slots?_of_not_wellFormed (List.mem_append_right _ List.mem_cons_self) hp
  -- otherwise the search shows the params in its one slot, or finds nothing anywhere
  have hshows : Value.Shows 0 fun p => Value.slots? ["params"] (.map (E p)) :=
    Value.shows_slots? (by decide) rfl (.map hE)
  obtain hnone | ⟨before, after, hlen, hsome⟩ := hshows
  · refine ⟨false, fun p => ?_⟩
    cases hp : p.wellFormed with
    | false => simp [hread, hill p hp]
    | true => simp [hread, hnone p hp]
  · -- the params are the first slot and the only one
    obtain rfl := List.length_eq_zero_iff.1 hlen
    refine ⟨true, fun p => ?_⟩
    cases hp : p.wellFormed with
    | false => simp [hread, hill p hp]
    | true => simp [hread, hsome p hp]

end Envelope

/-! ## Params with an open binary slot -/

variable {v : Version} {m : Method} {position : Nat} {name : String}

/-- A method that has a field takes something. -/
theorem takesNothing_of_field {f : Field} (hf : (m.layout v)[position]? = some f) :
    m.takesNothing = false := by
  cases hm : m.takesNothing with
  | false => rfl
  | true =>
    -- the one method without params has no fields in either version
    have hempty : m.layout v = [] := by
      cases v <;> cases m <;> first | rfl | exact absurd hm (by decide)
    rw [hempty] at hf
    cases hf

/-- Params with an open slot are a record, which is read by its layout. -/
theorem read?_record {P : Value → Value} (hP : Hole name position P) (x : Value) :
    Params.read? v m (some (P x)) =
      ((m.layout v).read? (P x)).map fun row => .call m (m.widen v row) := by
  cases hP <;> rfl

/-- In a binary slot a `str` that is UTF-8 spoils the params, and another stands for the `bin` of
its octets. -/
theorem readParams?_str {P : Value → Value} {E : Value → List (Value × Value)}
    (hf : (m.layout v)[position]? = some ⟨name, .octets⟩) (hP : Hole name position P)
    (hE : EntryHole "params" 0 E) (b : Bytes) :
    readParams? v m (E (P (.str b))) =
      if (Text.ofUtf8? b).isSome then none else readParams? v m (E (P (.bin b))) := by
  -- where the params of the envelope are read
  obtain ⟨found, hfound⟩ := readParams?_hole hE (takesNothing_of_field hf) v
  -- and where the slot is read in them
  obtain ⟨more, hmore⟩ := Layout.read?_hole (m.nodup_names v) hf hP
  -- a `str` and a `bin` are well formed alike, so that both envelopes are read alike
  have hwf : (P (.str b)).wellFormed = (P (.bin b)).wellFormed := hP.wellFormed_congr rfl
  rw [hfound, hfound, hwf, read?_record hP, read?_record hP, hmore _ rfl, hmore _ rfl]
  show (if _ then ((if (Text.ofUtf8? b).isNone then some b else none).bind more).map _
    else none) = _
  cases Text.ofUtf8? b with
  -- octets that are no text are taken
  | none => rfl
  -- and a text is refused
  | some s => simp

/-! ## Whole requests -/

/-- A `str` in a binary slot of an envelope that is otherwise in order: if it is UTF-8, the params
are bad, and the error has the identifier of the envelope; if it is not, the request is read as the
one in which the same octets stand in a `bin`. The widths that were used on the wire have no part in
it, nor has the form of the params, nor what else stands in them. -/
theorem decodeIn_str_in_binary_slot {d : Dialect} {P : Value → Value}
    {E : Value → List (Value × Value)} (hf : (m.layout v)[position]? = some ⟨name, .octets⟩)
    (hP : Hole name position P) (hE : EntryHole "params" 0 E) {head : Head} {id : UInt64}
    {b octets rest : Bytes}
    (hread : Value.unpack? maxLevels octets = some (.map (E (P (.str b))), rest))
    (hhead : Heads (E (P (.str b))) head) (hnames : head.Names v d)
    (hmethod : head.method = some m.name) (hid : head.id = some id) :
    ((Text.ofUtf8? b).isSome → decodeIn d octets = .error (.badParams id m.name)) ∧
      ((Text.ofUtf8? b).isNone → ∀ octets' rest',
        Value.unpack? maxLevels octets' = some (.map (E (P (.bin b))), rest') →
          decodeIn d octets = decodeIn d octets') := by
  -- the head decides the call, and its params are all that is left to read
  obtain rfl := heads_iff.1 hhead
  have hstr := readParams?_str hf hP hE b
  rw [decodeIn_of_names (readEntries_of_unpack? hread) hnames hmethod hid, decodeTyped,
    Method.ofName?_name]
  constructor
  · -- the text spoils the params
    intro htext
    rw [if_pos htext] at hstr
    simp only [hstr]
  · intro hnone octets' rest' hread'
    -- both envelopes have one head
    rw [ofEntries_hole hE _ (P (.bin b))] at hnames hmethod hid
    rw [if_neg (by simpa using hnone)] at hstr
    simp only [decodeIn_of_names (readEntries_of_unpack? hread') hnames hmethod hid, decodeTyped,
      Method.ofName?_name, hstr]

/-- A post whose params are an array of the base fields, with some value as its content. -/
def postOf (content : Value) : List (Value × Value) :=
  [(.text "version", .text "2.0"), (.text "method", .text "publish_post"),
    (.text "id", .unsigned 3), (.text "params", .array [.text "T", .unsigned 1, content])]

/-- Content that is a text is refused. -/
theorem decodeIn_text_content :
    let octets := (Value.map (postOf (.text "hello"))).pack
    Value.unpack? maxLevels octets = some (.map (postOf (.text "hello")), []) ∧
      decodeIn .versioned octets = .error (.badParams 3 "publish_post") := by
  -- the octets are those of the envelope
  have hread : Value.unpack? maxLevels (Value.map (postOf (.text "hello"))).pack =
      some (.map (postOf (.text "hello")), []) := by rfl
  -- the content is the third of the params
  have hslot : Hole "content" 2 fun content => .array ([.text "T", .unsigned 1] ++ content :: []) :=
    .array _ _ rfl
  have hparams : EntryHole "params" 0 fun p =>
      (postOf .nil).take 3 ++ (Value.text "params", p) :: [] :=
    .mk _ _ rfl (by decide +kernel)
  -- and the head has all that a call needs
  have hhead : Heads (postOf (.text "hello"))
      { version := some "2.0", jsonrpc := none, method := some "publish_post", id := some 3 } :=
    heads_iff.2 (by decide +kernel)
  have hboth := decodeIn_str_in_binary_slot (d := .versioned) (v := .v2) (m := .publishPost)
    (by rfl) hslot hparams hread hhead rfl rfl rfl
  exact ⟨hread, hboth.1 (by decide +kernel)⟩

/-- Content that is a `str` of one stray octet is taken, though it is no `bin`. -/
theorem decodeIn_stray_octet :
    let octets := (Value.map (postOf (.str [0xff]))).pack
    Value.unpack? maxLevels octets = some (.map (postOf (.str [0xff])), []) ∧
      decodeIn .versioned octets =
        .ok
          { request :=
              { dialect := .versioned, version := .v2, method := "publish_post", id := 3
                params :=
                  .call .publishPost
                    { token := "T", channelId := 1, content := [0xff], thumbnails := []
                      hashId := "", proof := "" } }
            status := .processed } :=
  ⟨by rfl, by rfl⟩

end FeedNode.Rpc
