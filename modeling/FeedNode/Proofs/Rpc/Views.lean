import FeedNode.Proofs.MessagePack.Data
import FeedNode.Rpc.Envelope
import FeedNode.Rpc.View

/-!
# Answers and notices as a client sees them

An answer is one map of three entries: the key of the dialect, the id, and the result or the error.
A notice has the method and the params instead of the id and the body. A client that knows nothing
of the method reads back just that, and the maps in the result have the fields of the payload in
the order of their declaration.

Main statement: `decodeView_outgoing`. It rests on one fact for every payload, that its value says
what the payload is (`Payload.datum?_value`, `News.datum?_value`): whether there is room for the
value on the wire, and that a reader has levels enough for it, follow from what is said.
-/

namespace FeedNode.Rpc

open MessagePack

/-! ## What rows say -/

/-- The fields of a comment, in order. -/
def CommentEntry.datum (e : CommentEntry) : Datum :=
  .present
    [("channel_id", some (.word e.channelId)), ("post_id", some (.word e.postId)),
      ("comment_id", some (.word e.commentId)), ("refer_comment_id", some (.word e.referId)),
      ("status", some (.number e.status.toNat)), ("user_did", some (.text e.userDid)),
      ("user_name", some (.text e.userName)), ("content", some (.octets e.content)),
      ("likes", some (.word e.likes)), ("created_at", some (.word e.createdAt)),
      ("updated_at", some (.word e.updatedAt)), ("thumbnails", e.thumbnails.map .octets),
      ("hash_id", e.hashId.map .text), ("proof", e.proof.map .text)]

/-- The fields of the counters of a post, in order. -/
def PostCountEntry.datum (e : PostCountEntry) : Datum :=
  .fields
    [("channel_id", .word e.channelId), ("post_id", .word e.postId),
      ("comments_count", .word e.comments), ("likes_count", .word e.likes)]

/-- The fields of a number of subscribers, in order. -/
def SubscriberCountEntry.datum (e : SubscriberCountEntry) : Datum :=
  .fields [("channel_id", .word e.channelId), ("subscribers_count", .word e.subscribers)]

/-- The fields of a channel, in order. -/
def ChannelEntry.datum (e : ChannelEntry) : Datum :=
  .present
    [("id", some (.word e.channelId)), ("name", some (.text e.name)),
      ("introduction", some (.text e.introduction)), ("subscribers", some (.word e.subscribers)),
      ("last_update", some (.word e.lastUpdate)), ("avatar", some (.octets e.avatar)),
      ("tip_methods", e.tipMethods.map .text), ("proof", e.proof.map .text)]

/-- The fields of an owner's channel, in order. -/
def OwnChannelEntry.datum (e : OwnChannelEntry) : Datum :=
  .fields
    [("id", .word e.channelId), ("name", .text e.name), ("introduction", .text e.introduction),
      ("subscribers", .word e.subscribers)]

/-- The fields of a post, in order. -/
def PostEntry.datum (e : PostEntry) : Datum :=
  .present
    [("channel_id", some (.word e.channelId)), ("id", some (.word e.postId)),
      ("content", some (.octets e.content)), ("comments", some (.word e.comments)),
      ("likes", some (.word e.likes)), ("created_at", some (.word e.createdAt)),
      ("thumbnails", e.thumbnails.map .octets), ("hash_id", e.hashId.map .text),
      ("proof", e.proof.map .text)]

/-- The fields of a comment of one post, in order. -/
def PostCommentEntry.datum (e : PostCommentEntry) : Datum :=
  .fields
    [("channel_id", .word e.channelId), ("post_id", .word e.postId), ("id", .word e.commentId),
      ("comment_id", .word e.referId), ("user_name", .text e.userName),
      ("content", .octets e.content), ("likes", .word e.likes), ("created_at", .word e.createdAt)]

/-- The mark of the last page, and then the rows under their name. -/
def Page.datum {α : Type} (name : String) (row : α → Datum) (p : Page α) : Datum :=
  .fields [("is_last", .flag p.isLast), (name, .list (p.rows.map row))]

/-- The value of a comment says its fields, and which of those of 2.0 it has. -/
theorem CommentEntry.datum?_value (e : CommentEntry) : e.value.datum? = some e.datum := by
  refine Value.datum?_record ?_
  have hstatus : Datum.word e.status.toUInt64 = .number e.status.toNat := by simp [Datum.word]
  -- each of the fields that 2.0 added is there or not
  cases e.thumbnails <;> cases e.hashId <;> cases e.proof <;>
    simp [optional, Value.Says, hstatus]

/-- The value of the counters of a post says them. -/
theorem PostCountEntry.datum?_value (e : PostCountEntry) : e.value.datum? = some e.datum :=
  Value.datum?_record (by simp [Value.Says])

/-- The value of a number of subscribers says it. -/
theorem SubscriberCountEntry.datum?_value (e : SubscriberCountEntry) :
    e.value.datum? = some e.datum :=
  Value.datum?_record (by simp [Value.Says])

/-- The value of a channel says its fields, and which of those of 2.0 it has. -/
theorem ChannelEntry.datum?_value (e : ChannelEntry) : e.value.datum? = some e.datum := by
  refine Value.datum?_record ?_
  cases e.tipMethods <;> cases e.proof <;> simp [optional, Value.Says]

/-- The value of an owner's channel says its fields. -/
theorem OwnChannelEntry.datum?_value (e : OwnChannelEntry) : e.value.datum? = some e.datum :=
  Value.datum?_record (by simp [Value.Says])

/-- The value of a post says its fields, and which of those of 2.0 it has. -/
theorem PostEntry.datum?_value (e : PostEntry) : e.value.datum? = some e.datum := by
  refine Value.datum?_record ?_
  cases e.thumbnails <;> cases e.hashId <;> cases e.proof <;> simp [optional, Value.Says]

/-- The value of a comment of one post says its fields. -/
theorem PostCommentEntry.datum?_value (e : PostCommentEntry) : e.value.datum? = some e.datum :=
  Value.datum?_record (by simp [Value.Says])

/-- The value of a page says its mark and its rows, if the rows say what they are. -/
theorem Page.datum?_value {α : Type} {write : α → Value} {datum : α → Datum}
    (h : ∀ a, (write a).datum? = some (datum a)) (name : String) (p : Page α) :
    (p.value name write).datum? = some (p.datum name datum) := by
  -- the rows are one list, and say what they say one by one
  have hrows := Value.datum?_array_map h p.rows
  exact Value.datum?_record (by simp [Value.Says, hrows])

/-! ## How high rows are -/

/-- A comment has plain fields. -/
theorem CommentEntry.height_datum_le (e : CommentEntry) : e.datum.height ≤ 2 :=
  Datum.height_present_le (Nat.le_refl 1) (by simp [Datum.height])

/-- The counters of a post are plain fields. -/
theorem PostCountEntry.height_datum_le (e : PostCountEntry) : e.datum.height ≤ 2 :=
  Datum.height_fields_le (Nat.le_refl 1) (by simp)

/-- A number of subscribers has plain fields. -/
theorem SubscriberCountEntry.height_datum_le (e : SubscriberCountEntry) : e.datum.height ≤ 2 :=
  Datum.height_fields_le (Nat.le_refl 1) (by simp)

/-- A channel has plain fields. -/
theorem ChannelEntry.height_datum_le (e : ChannelEntry) : e.datum.height ≤ 2 :=
  Datum.height_present_le (Nat.le_refl 1) (by simp [Datum.height])

/-- An owner's channel has plain fields. -/
theorem OwnChannelEntry.height_datum_le (e : OwnChannelEntry) : e.datum.height ≤ 2 :=
  Datum.height_fields_le (Nat.le_refl 1) (by simp [Datum.height])

/-- A post has plain fields. -/
theorem PostEntry.height_datum_le (e : PostEntry) : e.datum.height ≤ 2 :=
  Datum.height_present_le (Nat.le_refl 1) (by simp [Datum.height])

/-- A comment of one post has plain fields. -/
theorem PostCommentEntry.height_datum_le (e : PostCommentEntry) : e.datum.height ≤ 2 :=
  Datum.height_fields_le (Nat.le_refl 1) (by simp [Datum.height])

/-- A page is two levels higher than its rows. -/
theorem Page.height_datum_le {α : Type} {datum : α → Datum} (h : ∀ a, (datum a).height ≤ 2)
    (name : String) (p : Page α) : (p.datum name datum).height ≤ 4 := by
  -- the list of the rows
  have hrows : (Datum.list (p.rows.map datum)).height ≤ 3 :=
    Datum.height_list_le (by simpa using fun a _ => h a)
  exact Datum.height_fields_le (by decide) (by simp [Datum.height] at hrows ⊢; omega)

/-! ## What payloads say -/

/-- A text, or nothing. -/
def Payload.orNothing (s : Option String) : Datum :=
  (s.map .text).getD .nothing

/-- What a result says, if it is not empty. -/
def Payload.datum? : Payload → Option Datum
  | .empty => none
  | .challenge text => some (.fields [("jwt_challenge", .text text)])
  | .token text => some (.fields [("access_token", .text text)])
  | .ownership phase did transaction =>
    some (.fields [("phase", .text phase), ("did", orNothing did),
      ("transaction_payload", orNothing transaction)])
  | .comments page => some (page.datum "comments" CommentEntry.datum)
  | .postCounts page => some (page.datum "posts" PostCountEntry.datum)
  | .subscriberCounts page => some (page.datum "channels" SubscriberCountEntry.datum)
  | .created id => some (.fields [("id", .word id)])
  | .channels rows => some (.list (rows.map ChannelEntry.datum))
  | .ownChannels rows => some (.list (rows.map OwnChannelEntry.datum))
  | .channel row => some row.datum
  | .posts rows => some (.list (rows.map PostEntry.datum))
  | .postComments rows => some (.list (rows.map PostCommentEntry.datum))
  | .statistics did clients =>
    some (.fields [("did", .text did), ("connecting_clients", .word clients)])
  | .serviceVersion version code =>
    some (.fields [("version", .text version), ("version_code", .number code.toInt)])

/-- What a notification says, if it is not empty. -/
def News.datum? : News → Option Datum
  | .empty => none
  | .post channelId postId content createdAt =>
    some (.fields [("channel_id", .word channelId), ("id", .word postId),
      ("content", .octets content), ("created_at", .word createdAt)])
  | .comment channelId postId commentId referId userName content createdAt =>
    some (.fields [("channel_id", .word channelId), ("post_id", .word postId),
      ("id", .word commentId), ("comment_id", .word referId), ("user_name", .text userName),
      ("content", .octets content), ("created_at", .word createdAt)])
  | .likes channelId postId commentId count =>
    some (.fields [("channel_id", .word channelId), ("post_id", .word postId),
      ("comment_id", .word commentId), ("count", .word count)])

namespace Payload

/-- A text that may be missing is written as itself or as nil. -/
theorem datum?_textOrNil (s : Option String) : (textOrNil s).datum? = some (orNothing s) := by
  cases s with
  | none => rfl
  | some s => exact Value.datum?_text s

/-- The value of a result says what the result is, and nil says that it is empty. -/
theorem datum?_value (p : Payload) : p.value.datum? = some (p.datum?.getD .nothing) := by
  cases p with
  | empty => rfl
  -- records of their own
  | challenge | token | created | statistics | serviceVersion =>
    exact Value.datum?_record (by simp [Value.Says])
  | ownership => exact Value.datum?_record (by simp [Value.Says, datum?_textOrNil])
  -- pages of rows
  | comments page => exact page.datum?_value CommentEntry.datum?_value "comments"
  | postCounts page => exact page.datum?_value PostCountEntry.datum?_value "posts"
  | subscriberCounts page => exact page.datum?_value SubscriberCountEntry.datum?_value "channels"
  -- rows without a page
  | channels rows => exact Value.datum?_array_map ChannelEntry.datum?_value rows
  | ownChannels rows => exact Value.datum?_array_map OwnChannelEntry.datum?_value rows
  | channel row => exact row.datum?_value
  | posts rows => exact Value.datum?_array_map PostEntry.datum?_value rows
  | postComments rows => exact Value.datum?_array_map PostCommentEntry.datum?_value rows

/-- A text that may be missing is a plain value. -/
theorem height_orNothing (s : Option String) : (orNothing s).height = 1 := by
  cases s <;> rfl

/-- A list of rows is one level higher than they are. -/
theorem height_rows_le {α : Type} {datum : α → Datum} (h : ∀ a, (datum a).height ≤ 2)
    (rows : List α) : (Datum.list (rows.map datum)).height ≤ 4 := by
  have hrows : (Datum.list (rows.map datum)).height ≤ 2 + 1 :=
    Datum.height_list_le (by simpa using fun a _ => h a)
  omega

/-- Rows in a page are the highest that a result gets. -/
theorem height_datum_le (p : Payload) : (p.datum?.getD .nothing).height ≤ 4 := by
  -- a record of plain values is a map and nothing more
  have hrecord {fields : List (String × Datum)} (h : ∀ f ∈ fields, f.2.height ≤ 1) :
      (Datum.fields fields).height ≤ 4 :=
    Nat.le_trans (Datum.height_fields_le (Nat.le_refl 1) h) (by decide)
  cases p with
  | empty => exact Nat.le_of_lt_succ (by decide)
  | challenge | token | created | statistics | serviceVersion =>
    exact hrecord (by simp [Datum.height])
  | ownership => exact hrecord (by simp [Datum.height, height_orNothing])
  -- a page is the highest of them
  | comments page => exact page.height_datum_le CommentEntry.height_datum_le "comments"
  | postCounts page => exact page.height_datum_le PostCountEntry.height_datum_le "posts"
  | subscriberCounts page =>
    exact page.height_datum_le SubscriberCountEntry.height_datum_le "channels"
  -- rows without a page are one level lower
  | channels rows => exact height_rows_le ChannelEntry.height_datum_le rows
  | ownChannels rows => exact height_rows_le OwnChannelEntry.height_datum_le rows
  | channel row => exact Nat.le_trans row.height_datum_le (by decide)
  | posts rows => exact height_rows_le PostEntry.height_datum_le rows
  | postComments rows => exact height_rows_le PostCommentEntry.height_datum_le rows

end Payload

namespace News

/-- The value of a notification says what it is, and nil says that it is empty. -/
theorem datum?_value (news : News) : news.value.datum? = some (news.datum?.getD .nothing) := by
  cases news with
  | empty => rfl
  | _ => exact Value.datum?_record (by simp [Value.Says])

/-- A notification has plain fields. -/
theorem height_datum_le (news : News) : (news.datum?.getD .nothing).height ≤ 2 := by
  cases news with
  | empty => exact Nat.le_succ 1
  | _ => exact Datum.height_fields_le (Nat.le_refl 1) (by simp [Datum.height])

end News

/-! ## What envelopes say -/

/-- The first entry of an envelope: the text of the version, or the mark of the legacy dialect. -/
def protocolDatum : Dialect → Version → String × Datum
  | .versioned, v => ("version", .text v.text)
  | .legacy, _ => ("jsonrpc", .text "2.0")

namespace Body

/-- The last entry of an answer. -/
def datum : Body → String × Datum
  | .result payload => ("result", payload.datum?.getD .nothing)
  | .error detail =>
    ("error", .fields [("code", .number detail.number.toInt), ("message", .text detail.message)])

/-- What the result says, if the body is one and is not empty. -/
def resultDatum? : Body → Option Datum
  | .result payload => payload.datum?
  | .error _ => none

/-- The error, if the body is one. -/
def detail? : Body → Option ErrorDetail
  | .result _ => none
  | .error detail => some detail

end Body

/-- The entries of an answer: the protocol, the id, and the result or the error. -/
def Response.entries (r : Response) : List (String × Datum) :=
  [protocolDatum r.dialect r.version, ("id", .word r.id), r.body.datum]

/-- The entries of a notice: the protocol, the method and the params. -/
def Notice.entries (n : Notice) : List (String × Datum) :=
  [protocolDatum n.dialect n.version, ("method", .text n.method),
    ("params", n.news.datum?.getD .nothing)]

/-- There is room on the wire for every text, every octet string and every list of rows. -/
def Response.Fits (r : Response) : Prop :=
  (Datum.fields r.entries).fits = true

/-- There is room on the wire for every text and every octet string. -/
def Notice.Fits (n : Notice) : Prop :=
  (Datum.fields n.entries).fits = true

instance (r : Response) : Decidable r.Fits :=
  inferInstanceAs (Decidable ((Datum.fields r.entries).fits = true))

instance (n : Notice) : Decidable n.Fits :=
  inferInstanceAs (Decidable ((Datum.fields n.entries).fits = true))

/-- The octets are one map with these entries in this order, and nothing follows it. -/
def IsRecord (s : Bytes) (entries : List (String × Datum)) : Prop :=
  ∃ v, Value.unpack? (EnvelopeView.maxNesting + 1) s = some (v, []) ∧
    v.datum? = some (.fields entries)

/-! ## Views -/

namespace EnvelopeView

/-- The view names the protocol by the key of the dialect and by no other. -/
structure Speaks (view : EnvelopeView) (d : Dialect) (v : Version) : Prop where
  version : view.version = if d = .versioned then some v.text else none
  jsonrpc : view.jsonrpc = if d = .legacy then some "2.0" else none

/-- A part of the view says this, or is absent if there is nothing to say. -/
def Says (part : Option Value) (d : Option Datum) : Prop :=
  part.map Value.datum? = d.map some

/-- The view shows the answer and nothing else. -/
structure Shows (view : EnvelopeView) (r : Response) : Prop extends
    view.Speaks r.dialect r.version where
  method : view.method = none
  id : view.id = some r.id
  params : view.params = none
  result : Says view.result r.body.resultDatum?
  error : view.error = r.body.detail?

/-- The view shows the notice and nothing else. -/
structure ShowsNotice (view : EnvelopeView) (n : Notice) : Prop extends
    view.Speaks n.dialect n.version where
  method : view.method = some n.method
  id : view.id = none
  params : Says view.params n.news.datum?
  result : view.result = none
  error : view.error = none

/-- The parts of the view that do not name the protocol are what stands under their names. -/
structure ReadRest (fields : List (String × Value)) (view : EnvelopeView) : Prop where
  method : optional? FieldKind.readText? (fields.lookup "method") = some view.method
  id : optional? Value.unsigned? (fields.lookup "id") = some view.id
  params : optional? some (fields.lookup "params") = some view.params
  result : optional? some (fields.lookup "result") = some view.result
  error : optional? readDetail? (fields.lookup "error") = some view.error

/-- Every part of the view is what stands under its name among the fields of a record. -/
structure ReadFrom (fields : List (String × Value)) (view : EnvelopeView) : Prop extends
    ReadRest fields view where
  version : optional? FieldKind.readText? (fields.lookup "version") = some view.version
  jsonrpc : optional? FieldKind.readText? (fields.lookup "jsonrpc") = some view.jsonrpc

/-- A record is read as the view that has the value of each field in its part. -/
theorem ofValue?_record {fields : List (String × Value)} {view : EnvelopeView}
    (hread : ReadFrom fields view) (hnd : (fields.map Prod.fst).Nodup)
    (hw : (Value.record fields).Writable) (hheight : (Value.record fields).height ≤ maxNesting) :
    ofValue? (Value.record fields) = some view := by
  -- a record with room on the wire is well formed and not too deep
  have hwf := Value.wellFormed_of_writable _ hw
  have hnesting := Nat.le_trans (Value.nesting_le_height _) hheight
  -- each of the seven parts has a slot of its own
  have hslots : (Value.record fields).slots? names =
      some [fields.lookup "version", fields.lookup "jsonrpc", fields.lookup "method",
        fields.lookup "id", fields.lookup "params", fields.lookup "result",
        fields.lookup "error"] :=
    Value.slots?_record_lookup hwf hnd
  rw [ofValue?, hwf, if_neg (by simpa using hnesting), hslots]
  simp only [Option.bind_eq_bind, Option.bind_some, hread.version, hread.jsonrpc, hread.method,
    hread.id, hread.params, hread.result, hread.error, Option.pure_def]

/-- A part that is not nil is read for what it is. -/
theorem optional?_of_ne_nil {α : Type} (read? : Value → Option α) {v : Value} (h : v ≠ .nil) :
    optional? read? (some v) = (read? v).map some := by
  cases v with
  | nil => exact absurd rfl h
  | _ => rfl

/-- What is written in a place of its own is read back from there; nil is nothing. -/
theorem exists_part {v : Value} {d : Option Datum} (h : v.datum? = some (d.getD .nothing))
    (hd : d ≠ some .nothing) : ∃ part, optional? some (some v) = some part ∧ Says part d := by
  cases d with
  -- nothing is said, so that nil is written
  | none =>
    cases Value.eq_nil_of_datum? h
    exact ⟨none, rfl, rfl⟩
  -- something is said, which nil does not say
  | some d =>
    have hv : v ≠ .nil := by
      rintro rfl
      exact hd h.symm
    exact ⟨some v, optional?_of_ne_nil some hv, congrArg some h⟩

/-- A text in a part is read back. -/
theorem optional?_readText?_text (s : String) :
    optional? FieldKind.readText? (some (.text s)) = some (some s) := by
  have htext : FieldKind.readText? (.text s) = some s := FieldKind.read?_write .text s
  rw [optional?_of_ne_nil _ (by simp [Value.text]), htext, Option.map_some]

/-- A number in a part is read back. -/
theorem optional?_unsigned (n : UInt64) :
    optional? Value.unsigned? (some (.unsigned n)) = some (some n) := by
  rw [optional?_of_ne_nil _ (by simp), FieldKind.unsigned?_unsigned, Option.map_some]

/-- The detail of an error is read back from its record. -/
theorem readDetail?_record (detail : ErrorDetail) :
    readDetail? (.record [("code", .int detail.number), ("message", .text detail.message)]) =
      some detail := by
  have hnumber : (Value.int detail.number).wellFormed = true :=
    FieldKind.wellFormed_write .signed detail.number
  have hmessage : (Value.text detail.message).wellFormed = true :=
    FieldKind.wellFormed_write .text detail.message
  -- both of its fields are found in their slots
  have hslots : (Value.record [("code", .int detail.number),
        ("message", .text detail.message)]).slots? ["code", "message"] =
      some [some (.int detail.number), some (.text detail.message)] :=
    Value.slots?_record_lookup (Value.wellFormed_record (by simp [hnumber, hmessage])) (by simp)
  have htext : FieldKind.readText? (.text detail.message) = some detail.message :=
    FieldKind.read?_write .text detail.message
  rw [readDetail?, hslots]
  simp only [Option.bind_eq_bind, Option.bind_some, FieldKind.signed?_int, htext, Option.pure_def]

/-! ### Behind the key of the dialect -/

/-- The names of both dialects and those of the fields are all distinct. -/
def Distinct (fields : List (String × Value)) : Prop :=
  ("version" :: "jsonrpc" :: fields.map Prod.fst).Nodup

section Protocol

variable {d : Dialect} {v : Version} {rest : List (String × Value)} {view : EnvelopeView}

/-- Behind the key of either dialect the names are still distinct. -/
theorem Distinct.nodup (h : Distinct rest) : ((protocolField d v :: rest).map Prod.fst).Nodup := by
  obtain ⟨hversion, hjsonrpc, hrest⟩ : "version" ∉ "jsonrpc" :: rest.map Prod.fst ∧
      "jsonrpc" ∉ rest.map Prod.fst ∧ (rest.map Prod.fst).Nodup := by
    rwa [Distinct, List.nodup_cons, List.nodup_cons] at h
  -- the key of the other dialect is left out
  cases d with
  | versioned => exact List.nodup_cons.2 ⟨List.not_mem_of_not_mem_cons hversion, hrest⟩
  | legacy => exact List.nodup_cons.2 ⟨hjsonrpc, hrest⟩

/-- Nothing is found under a name that no field has. -/
theorem lookup_eq_none {name : String} (h : name ∉ rest.map Prod.fst) :
    rest.lookup name = none := by
  rw [List.lookup_eq_none_iff]
  intro f hf
  rw [bne_iff_ne]
  rintro rfl
  exact h (List.mem_map_of_mem hf)

/-- Under any other name the key of the dialect is not in the way. -/
theorem lookup_protocolField {name : String} (hversion : name ≠ "version")
    (hjsonrpc : name ≠ "jsonrpc") :
    (protocolField d v :: rest).lookup name = rest.lookup name := by
  rw [← beq_eq_false_iff_ne] at hversion hjsonrpc
  cases d <;> simp only [protocolField, List.lookup_cons, hversion, hjsonrpc]

/-- The key of the dialect is found, the key of the other one is not, and the rest is read as it
is. -/
theorem ReadRest.behind_protocolField (hrest : ReadRest rest view) (hspeaks : view.Speaks d v)
    (hnd : Distinct rest) : ReadFrom (protocolField d v :: rest) view where
  version := by
    rw [hspeaks.version]
    cases d with
    | versioned => exact optional?_readText?_text v.text
    -- the key of the versioned dialect is nowhere
    | legacy =>
      have hnone : rest.lookup "version" = none :=
        lookup_eq_none (List.not_mem_of_not_mem_cons (List.nodup_cons.1 hnd).1)
      rw [protocolField, List.lookup_cons, hnone]
      rfl
  jsonrpc := by
    rw [hspeaks.jsonrpc]
    cases d with
    -- the key of the legacy dialect is nowhere
    | versioned =>
      have hnone : rest.lookup "jsonrpc" = none :=
        lookup_eq_none (List.nodup_cons.1 (List.nodup_cons.1 hnd).2).1
      rw [protocolField, List.lookup_cons, hnone]
      rfl
    | legacy => exact optional?_readText?_text "2.0"
  -- the other parts stand behind the key
  method := by
    rw [lookup_protocolField (by decide) (by decide)]
    exact hrest.method
  id := by
    rw [lookup_protocolField (by decide) (by decide)]
    exact hrest.id
  params := by
    rw [lookup_protocolField (by decide) (by decide)]
    exact hrest.params
  result := by
    rw [lookup_protocolField (by decide) (by decide)]
    exact hrest.result
  error := by
    rw [lookup_protocolField (by decide) (by decide)]
    exact hrest.error

/-- The first entry of an envelope says the protocol. -/
theorem says_protocolField (d : Dialect) (v : Version) :
    Value.Says (protocolField d v) (protocolDatum d v) := by
  cases d <;> exact ⟨rfl, Value.datum?_text _⟩

/-- The first entry of an envelope has a plain value. -/
theorem height_protocolDatum (d : Dialect) (v : Version) : (protocolDatum d v).2.height = 1 := by
  cases d <;> rfl

/-- An envelope is read back as a whole, and as a view of the fields that it has. -/
theorem isRecord_envelope {entries : List (String × Datum)}
    (hsaid : List.Forall₂ Value.Says rest entries)
    (hfits : (Datum.fields (protocolDatum d v :: entries)).fits = true)
    (hheight : ∀ e ∈ entries, e.2.height ≤ 4) (hnd : Distinct rest)
    (hspeaks : view.Speaks d v) (hrest : ReadRest rest view) :
    IsRecord (Value.record (protocolField d v :: rest)).pack (protocolDatum d v :: entries) ∧
      decodeView (Value.record (protocolField d v :: rest)).pack = .ok view := by
  have hdatum := Value.datum?_record (.cons (says_protocolField d v) hsaid)
  -- what is said settles that there is room on the wire, and how high the value is
  obtain ⟨hw, hsame⟩ := Value.written_of_datum? _ hdatum hfits
  have hlow : (Value.record (protocolField d v :: rest)).height ≤ maxNesting := by
    have hle : (Datum.fields (protocolDatum d v :: entries)).height ≤ 4 + 1 := by
      refine Datum.height_fields_le (by decide) (List.forall_mem_cons.2 ⟨?_, hheight⟩)
      rw [height_protocolDatum]
      decide
    rw [hsame]
    exact Nat.le_trans hle (by decide)
  -- so the octets are read back as the value
  have hunpack := Value.unpack?_pack _ hw (maxNesting + 1) (Nat.le_succ_of_le hlow) []
  rw [List.append_nil] at hunpack
  refine ⟨⟨_, hunpack, hdatum⟩, ?_⟩
  -- and the value as the view
  have hview := ofValue?_record (hrest.behind_protocolField hspeaks hnd) hnd.nodup hw hlow
  simp only [decodeView, hunpack, Option.bind_some, hview]

end Protocol

end EnvelopeView

/-! ## Answers -/

/-- Nothing is said by the empty result only. -/
theorem Payload.datum?_ne_nothing (p : Payload) : p.datum? ≠ some .nothing := by
  cases p <;> simp [datum?, Page.datum, ChannelEntry.datum, Datum.present]

namespace Body

/-- The last entry of an answer says its result or its error. -/
theorem says_bodyField (body : Body) : Value.Says (Response.bodyField body) body.datum := by
  cases body with
  | result payload => exact ⟨rfl, payload.datum?_value⟩
  | error detail => exact ⟨rfl, Value.datum?_record (by simp [Value.Says])⟩

/-- The last entry of an answer is as high as a page at most. -/
theorem height_datum_le (body : Body) : body.datum.2.height ≤ 4 := by
  cases body with
  | result payload => exact payload.height_datum_le
  | error detail =>
    have hle : (Body.error detail).datum.2.height ≤ 1 + 1 :=
      Datum.height_fields_le (Nat.le_refl 1) (by simp [Datum.height])
    exact Nat.le_trans hle (by decide)

/-- The last entry of an answer is read back as its result, which says what the answer does, or as
its error. -/
theorem exists_readRest (body : Body) (id : UInt64) (version jsonrpc : Option String) :
    ∃ result, EnvelopeView.Says result body.resultDatum? ∧
      EnvelopeView.ReadRest [("id", .unsigned id), Response.bodyField body]
        { version, jsonrpc, method := none, id := some id, params := none, result
          error := body.detail? } := by
  have hid := EnvelopeView.optional?_unsigned id
  cases body with
  -- a result stands in its own part, and there is no error
  | result payload =>
    obtain ⟨result, hread, hsaid⟩ :=
      EnvelopeView.exists_part payload.datum?_value payload.datum?_ne_nothing
    exact ⟨result, hsaid, rfl, hid, rfl, hread, rfl⟩
  -- an error stands in its own part, and there is no result
  | error detail =>
    refine ⟨none, rfl, rfl, hid, rfl, rfl, ?_⟩
    show EnvelopeView.optional? _ (some (.record _)) = _
    rw [EnvelopeView.optional?_of_ne_nil _ (by simp [Value.record]),
      EnvelopeView.readDetail?_record, Option.map_some]
    rfl

end Body

/-- An answer is one map of its entries, and a client sees in it what the answer says. -/
theorem Response.isRecord_encode {r : Response} (h : r.Fits) :
    IsRecord r.encode r.entries ∧ ∃ view, decodeView r.encode = .ok view ∧ view.Shows r := by
  obtain ⟨d, v, id, body⟩ := r
  obtain ⟨result, hsaid, hrest⟩ := body.exists_readRest id
    (if d = .versioned then some v.text else none) (if d = .legacy then some "2.0" else none)
  -- the entries behind the protocol, as they are written and as they are said
  have hentries : List.Forall₂ Value.Says [("id", .unsigned id), bodyField body]
      [("id", .word id), body.datum] :=
    .cons ⟨rfl, Value.datum?_unsigned id⟩ (.cons body.says_bodyField .nil)
  obtain ⟨hrecord, hview⟩ :=
    EnvelopeView.isRecord_envelope hentries h (by simp [body.height_datum_le])
      (by cases body <;> simp [EnvelopeView.Distinct, bodyField]) ⟨rfl, rfl⟩ hrest
  exact ⟨hrecord, _, hview, ⟨⟨rfl, rfl⟩, rfl, rfl, rfl, hsaid, rfl⟩⟩

/-! ## Notices -/

/-- Nothing is said by the empty notification only. -/
theorem News.datum?_ne_nothing (news : News) : news.datum? ≠ some .nothing := by
  cases news <;> simp [datum?]

/-- A notice is one map of its entries, and a client sees in it what the notice says. -/
theorem Notice.isRecord_encode {n : Notice} (h : n.Fits) :
    IsRecord n.encode n.entries ∧ ∃ view, decodeView n.encode = .ok view ∧ view.ShowsNotice n := by
  obtain ⟨d, v, method, news⟩ := n
  obtain ⟨params, hparams, hsaid⟩ :=
    EnvelopeView.exists_part news.datum?_value news.datum?_ne_nothing
  -- a notice has a method and params, and no other part
  have hrest : EnvelopeView.ReadRest [("method", .text method), ("params", news.value)]
      { version := if d = .versioned then some v.text else none
        jsonrpc := if d = .legacy then some "2.0" else none
        method := some method, id := none, params, result := none, error := none } :=
    ⟨EnvelopeView.optional?_readText?_text method, rfl, hparams, rfl, rfl⟩
  -- the entries behind the protocol, as they are written and as they are said
  have hentries : List.Forall₂ Value.Says [("method", .text method), ("params", news.value)]
      [("method", .text method), ("params", news.datum?.getD .nothing)] :=
    .cons ⟨rfl, Value.datum?_text method⟩ (.cons ⟨rfl, news.datum?_value⟩ .nil)
  have hheight := Nat.le_trans news.height_datum_le (by decide : 2 ≤ 4)
  obtain ⟨hrecord, hview⟩ :=
    EnvelopeView.isRecord_envelope hentries h (by simp [Datum.height, hheight])
      (by simp [EnvelopeView.Distinct]) ⟨rfl, rfl⟩ hrest
  exact ⟨hrecord, _, hview, ⟨⟨rfl, rfl⟩, rfl, rfl, hsaid, rfl, rfl⟩⟩

/-! ## Both -/

/-- Every answer and every notice is one map of three entries, in their order and with nothing
behind it, and is read back as what it says and nothing else. -/
theorem decodeView_outgoing :
    (∀ r : Response, r.Fits →
      IsRecord r.encode r.entries ∧ ∃ view, decodeView r.encode = .ok view ∧ view.Shows r) ∧
      ∀ n : Notice, n.Fits →
        IsRecord n.encode n.entries ∧
          ∃ view, decodeView n.encode = .ok view ∧ view.ShowsNotice n :=
  ⟨fun _ h => Response.isRecord_encode h, fun _ h => Notice.isRecord_encode h⟩

/-- A channel in the legacy dialect, without the fields that 2.0 added, and a notice of likes in the
versioned one. -/
theorem decodeView_outgoing_channel :
    let r : Response :=
      { dialect := .legacy, version := .v1, id := 18446744073709551615
        body := .result (.channel
          { channelId := 1, name := "n", introduction := "", subscribers := 300, lastUpdate := 9
            avatar := [0xc1], tipMethods := none, proof := none }) }
    let n : Notice :=
      { dialect := .versioned, version := .v2, method := "new_likes"
        news := .likes 1 2 0 65536 }
    r.Fits ∧ n.Fits ∧
      IsRecord r.encode
        [("jsonrpc", .text "2.0"), ("id", .number 18446744073709551615),
          ("result", .fields
            [("id", .number 1), ("name", .text "n"), ("introduction", .text ""),
              ("subscribers", .number 300), ("last_update", .number 9),
              ("avatar", .octets [0xc1])])] ∧
      (∃ view, decodeView r.encode = .ok view ∧ view.version = none ∧ view.error = none) ∧
      IsRecord n.encode
        [("version", .text "2.0"), ("method", .text "new_likes"),
          ("params", .fields
            [("channel_id", .number 1), ("post_id", .number 2), ("comment_id", .number 0),
              ("count", .number 65536)])] ∧
      ∃ view, decodeView n.encode = .ok view ∧ view.method = some "new_likes" ∧ view.id = none := by
  intro r n
  have hr : r.Fits := by decide
  have hn : n.Fits := by decide
  -- both records and both views are had from the general facts
  obtain ⟨hrecord, view, hview, hshows⟩ := decodeView_outgoing.1 r hr
  obtain ⟨hrecord', view', hview', hshows'⟩ := decodeView_outgoing.2 n hn
  exact ⟨hr, hn, hrecord, ⟨view, hview, hshows.version, hshows.error⟩, hrecord', view', hview',
    hshows'.method, hshows'.id⟩

end FeedNode.Rpc
