import FeedNode.Proofs.MessagePack.PackedLength
import FeedNode.Proofs.Rpc.Pages
import FeedNode.Rpc.Envelope
import Mathlib.Algebra.Order.BigOperators.Group.List
import Mathlib.Algebra.Order.Group.Nat

/-!
# The estimate of a page is no underestimate

Pages are cut by an estimate: what a row takes at most (`wireSize`), and what an answer takes at
most around its rows (`pageOverhead`). Nothing is written for it. It holds against what is written:
a row is never longer than its estimate, and an answer with a page never longer than the overhead
and the estimates of its rows.

Main statements: `CommentEntry.length_pack_le` and its likes for the other rows, and
`Response.length_encode_le`.
-/

namespace FeedNode.Rpc

open MessagePack

/-! ## Rows -/

/-- The octets of a field that may be absent, given what its value takes at most. -/
theorem fieldsLength_optional_le {α : Type} (name : String) {write : α → Value} {length : α → Nat}
    (h : ∀ a, (write a).pack.length ≤ 5 + length a) (x : Option α) :
    Value.fieldsLength (optional name (x.map write)) ≤
      (x.map fun a => textFieldSize name (length a)).getD 0 := by
  cases x with
  | none => simp [optional]
  | some a =>
    have ha := h a
    simp only [optional, textFieldSize, Option.map_some, Option.getD_some,
      Value.fieldsLength_cons, Value.fieldsLength_nil]
    omega

/-- A field that may be absent is one field at most. -/
theorem length_optional_le (name : String) (v : Option Value) : (optional name v).length ≤ 1 := by
  cases v <;> simp [optional]

/-- A field that may be absent has a short name, whether it is there or not. -/
theorem shortNames_optional {name : String} (h : Text.utf8Length name < 0x20) (v : Option Value) :
    Value.ShortNames (optional name v) := by
  cases v <;> simp [optional, h]

/-- A comment is no longer on the wire than it is reckoned to be. -/
theorem CommentEntry.length_pack_le (e : CommentEntry) : e.value.pack.length ≤ wireSize e := by
  -- at most the three fields that 2.0 added are there besides the eleven of 1.0
  have hfew : (optional "thumbnails" (e.thumbnails.map Value.bin)).length +
      (optional "hash_id" (e.hashId.map Value.text)).length +
      (optional "proof" (e.proof.map Value.text)).length ≤ 3 := by
    have hthumbnails := length_optional_le "thumbnails" (e.thumbnails.map Value.bin)
    have hhash := length_optional_le "hash_id" (e.hashId.map Value.text)
    have hproof := length_optional_le "proof" (e.proof.map Value.text)
    omega
  -- every field by itself
  have hthumbnails := fieldsLength_optional_le "thumbnails" Value.length_pack_bin_le e.thumbnails
  have hhash := fieldsLength_optional_le "hash_id" Value.length_pack_text_le e.hashId
  have hproof := fieldsLength_optional_le "proof" Value.length_pack_text_le e.proof
  have hchannel := Value.length_pack_unsigned_le e.channelId
  have hpost := Value.length_pack_unsigned_le e.postId
  have hcomment := Value.length_pack_unsigned_le e.commentId
  have hrefer := Value.length_pack_unsigned_le e.referId
  have hstatus := Value.length_pack_unsigned_le e.status.toUInt64
  have hdid := Value.length_pack_text_le e.userDid
  have hname := Value.length_pack_text_le e.userName
  have hcontent := Value.length_pack_bin_le e.content
  have hlikes := Value.length_pack_unsigned_le e.likes
  have hcreated := Value.length_pack_unsigned_le e.createdAt
  have hupdated := Value.length_pack_unsigned_le e.updatedAt
  -- then all of them together, behind a header of one octet
  rw [CommentEntry.value, Value.length_pack_record]
  · simp only [textFieldSize] at hthumbnails hhash hproof
    simp only [wireSize, numberFieldSizes, numberFieldSize, textFieldSize, List.foldl_cons,
      List.foldl_nil, Value.fieldsLength_append, Value.fieldsLength_cons, Value.fieldsLength_nil]
    omega
  · simp only [List.length_append, List.length_cons, List.length_nil]
    omega
  · simp +decide [shortNames_optional]

/-- The counters of a post are no longer on the wire than they are reckoned to be. -/
theorem PostCountEntry.length_pack_le (e : PostCountEntry) : e.value.pack.length ≤ wireSize e := by
  have hchannel := Value.length_pack_unsigned_le e.channelId
  have hpost := Value.length_pack_unsigned_le e.postId
  have hcomments := Value.length_pack_unsigned_le e.comments
  have hlikes := Value.length_pack_unsigned_le e.likes
  rw [PostCountEntry.value, Value.length_pack_record (by simp) (by simp +decide)]
  simp only [wireSize, numberFieldSizes, numberFieldSize, List.foldl_cons, List.foldl_nil,
    Value.fieldsLength_cons, Value.fieldsLength_nil]
  omega

/-- A number of subscribers is no longer on the wire than it is reckoned to be. -/
theorem SubscriberCountEntry.length_pack_le (e : SubscriberCountEntry) :
    e.value.pack.length ≤ wireSize e := by
  have hchannel := Value.length_pack_unsigned_le e.channelId
  have hsubscribers := Value.length_pack_unsigned_le e.subscribers
  rw [SubscriberCountEntry.value, Value.length_pack_record (by simp) (by simp +decide)]
  simp only [wireSize, numberFieldSizes, numberFieldSize, List.foldl_cons, List.foldl_nil,
    Value.fieldsLength_cons, Value.fieldsLength_nil]
  omega

/-- The texts and octets of a comment are all so short that a header can tell their length. -/
structure CommentEntry.Short (e : CommentEntry) : Prop where
  userDid : Text.utf8Length e.userDid < UInt32.size
  userName : Text.utf8Length e.userName < UInt32.size
  content : e.content.length < UInt32.size
  thumbnails : ∀ b, e.thumbnails = some b → b.length < UInt32.size
  hashId : ∀ s, e.hashId = some s → Text.utf8Length s < UInt32.size
  proof : ∀ s, e.proof = some s → Text.utf8Length s < UInt32.size

/-- A field that may be absent is reckoned by the length that a header can tell. -/
theorem textFieldSize_optional_le {α : Type} (name : String) {length : α → Nat} {x : Option α}
    (h : ∀ a, x = some a → length a < UInt32.size) :
    (x.map fun a => textFieldSize name (length a)).getD 0 ≤
      Text.utf8Length name + 6 + UInt32.size := by
  cases x with
  | none => simp
  | some a =>
    have ha := h a rfl
    simp only [Option.map_some, Option.getD_some, textFieldSize]
    omega

/-- What a short comment is reckoned to take can be reckoned in words. -/
theorem CommentEntry.Short.wireSize_lt {e : CommentEntry} (h : e.Short) :
    wireSize e < UInt64.size := by
  have hdid := h.userDid
  have hname := h.userName
  have hcontent := h.content
  have hthumbnails := textFieldSize_optional_le "thumbnails" h.thumbnails
  have hhash := textFieldSize_optional_le "hash_id" h.hashId
  have hproof := textFieldSize_optional_le "proof" h.proof
  have hnumbers : numberFieldSizes ["channel_id", "post_id", "comment_id", "refer_comment_id",
      "status", "likes", "created_at", "updated_at"] = 154 := by decide
  have hdidName : Text.utf8Length "user_did" = 8 := rfl
  have hnameName : Text.utf8Length "user_name" = 9 := rfl
  have hcontentName : Text.utf8Length "content" = 7 := rfl
  have hthumbnailsName : Text.utf8Length "thumbnails" = 10 := rfl
  have hhashName : Text.utf8Length "hash_id" = 7 := rfl
  have hproofName : Text.utf8Length "proof" = 5 := rfl
  have htold : UInt32.size = 4294967296 := rfl
  have hwords : UInt64.size = 18446744073709551616 := rfl
  -- six texts of less than `UInt32.size` each, and numbers and names of a fixed size
  simp only [textFieldSize] at hthumbnails hhash hproof
  simp only [wireSize, textFieldSize, hnumbers]
  omega

/-- No row that is sent in pages is longer on the wire than it is reckoned to be, whichever of its
fields are there; and the reckoning does not leave the words. -/
theorem rows_within_wireSize :
    (∀ e : CommentEntry, e.Short → e.value.pack.length ≤ wireSize e ∧ wireSize e < UInt64.size) ∧
      (∀ e : PostCountEntry,
        e.value.pack.length ≤ wireSize e ∧ wireSize e < UInt64.size) ∧
      ∀ e : SubscriberCountEntry,
        e.value.pack.length ≤ wireSize e ∧ wireSize e < UInt64.size := by
  refine ⟨fun e h => ⟨e.length_pack_le, h.wireSize_lt⟩, fun e => ⟨e.length_pack_le, ?_⟩,
    fun e => ⟨e.length_pack_le, ?_⟩⟩
  · -- the fields of counters are all numbers, so that their estimate is one number
    show 1 + numberFieldSizes ["channel_id", "post_id", "comments_count", "likes_count"] <
      UInt64.size
    decide
  · show 1 + numberFieldSizes ["channel_id", "subscribers_count"] < UInt64.size
    decide

/-- A comment with the greatest numbers and some of the fields that 2.0 added. -/
def sampleEntry : CommentEntry where
  channelId := 0xffffffffffffffff
  postId := 0xffffffffffffffff
  commentId := 0xffffffffffffffff
  referId := 0xffffffffffffffff
  status := 0xff
  userDid := "did:a"
  userName := "a name that takes an octet more in its header"
  content := []
  likes := 0xffffffffffffffff
  createdAt := 0xffffffffffffffff
  updatedAt := 0xffffffffffffffff
  thumbnails := some [1, 2, 3]
  hashId := none
  proof := some ""

/-- The sample is short, and so it keeps within what it is reckoned to take. -/
theorem rows_within_wireSize_sample : sampleEntry.Short ∧
    sampleEntry.value.pack.length ≤ wireSize sampleEntry ∧ wireSize sampleEntry < UInt64.size := by
  have hshort : sampleEntry.Short := by
    constructor <;> simp +decide
  exact ⟨hshort, rows_within_wireSize.1 sampleEntry hshort⟩

/-! ## Pages -/

/-- What the rows of a result take at most, for the results that are sent in pages. -/
def Payload.rowSizes : Payload → List Nat
  | .comments page => page.rows.map wireSize
  | .postCounts page => page.rows.map wireSize
  | .subscriberCounts page => page.rows.map wireSize
  | _ => []

/-- What the rows of an answer take at most, for the answers that carry a page. -/
def Response.rowSizes (r : Response) : List Nat :=
  match r.body with
  | .result payload => payload.rowSizes
  | .error _ => []

/-- A page: its mark, the header of its rows and the rows. -/
theorem Page.length_pack_value_le {α : Type} [WireSize α] {name : String} {row : α → Value}
    (hname : Text.utf8Length name ≤ 8) (hrow : ∀ a, (row a).pack.length ≤ wireSize a)
    (p : Page α) : (p.value name row).pack.length ≤ 24 + (p.rows.map wireSize).sum := by
  have hmark : Text.utf8Length "is_last" = 7 := rfl
  have harray := Value.length_pack_array_le (p.rows.map row)
  -- the rows are summed under the estimates of the rows
  have hrows : ((p.rows.map row).map fun v => v.pack.length).sum ≤ (p.rows.map wireSize).sum := by
    rw [List.map_map]
    exact List.sum_le_sum fun a _ => hrow a
  rw [Page.value, Value.length_pack_record (by simp) (by simp +decide; omega)]
  simp only [Value.fieldsLength_cons, Value.fieldsLength_nil, Value.length_pack_bool]
  omega

/-- A result with a page takes its mark and its name besides the rows. -/
theorem Payload.length_pack_value_le {payload : Payload} (h : payload.rowSizes ≠ []) :
    payload.value.pack.length ≤ 24 + payload.rowSizes.sum := by
  cases payload
  case comments page =>
    exact page.length_pack_value_le (by decide) CommentEntry.length_pack_le
  case postCounts page =>
    exact page.length_pack_value_le (by decide) PostCountEntry.length_pack_le
  case subscriberCounts page =>
    exact page.length_pack_value_le (by decide) SubscriberCountEntry.length_pack_le
  -- the others carry no page
  all_goals exact absurd rfl h

/-- Either dialect takes twelve octets to name the protocol. -/
theorem fieldsLength_protocolField (d : Dialect) (v : Version) (fields : List (String × Value)) :
    Value.fieldsLength (protocolField d v :: fields) = 12 + Value.fieldsLength fields := by
  have hlength : Value.fieldsLength [protocolField d v] = 12 := by
    cases d <;> cases v <;> decide
  rw [← List.singleton_append, Value.fieldsLength_append, hlength]

/-- Either dialect names the protocol in few octets. -/
theorem shortNames_protocolField (d : Dialect) (v : Version) :
    Value.ShortNames [protocolField d v] := by
  cases d <;> simp +decide [protocolField]

/-- An answer with a page is no longer than the overhead and what its rows take at most. -/
theorem Response.length_encode_le {r : Response} (h : r.rowSizes ≠ []) :
    r.encode.length ≤ pageOverhead + r.rowSizes.sum := by
  obtain ⟨dialect, version, id, body⟩ := r
  cases body with
  | error detail => exact absurd rfl h
  | result payload =>
    -- the id, the payload and the names around them
    have hid := Value.length_pack_unsigned_le id
    have hpayload := Payload.length_pack_value_le h
    have hidName : Text.utf8Length "id" = 2 := rfl
    have hresultName : Text.utf8Length "result" = 6 := rfl
    have hnames : Value.ShortNames [protocolField dialect version, ("id", .unsigned id),
        ("result", payload.value)] := by
      rw [← List.singleton_append, Value.shortNames_append]
      exact ⟨shortNames_protocolField dialect version, by simp +decide⟩
    -- three fields behind a header of one octet
    show (Value.record _).pack.length ≤ pageOverhead + payload.rowSizes.sum
    rw [bodyField, Value.length_pack_record (by simp) hnames, fieldsLength_protocolField]
    simp only [Value.fieldsLength_cons, Value.fieldsLength_nil, pageOverhead]
    omega

/-- The answer carries rows, and more than one of them only if they are reckoned to fit. -/
structure Response.Reckoned (ceiling : Nat) (r : Response) : Prop where
  ne_nil : r.rowSizes ≠ []
  fit : 2 ≤ r.rowSizes.length → pageOverhead + r.rowSizes.sum ≤ ceiling

/-- An answer is reckoned by its rows if they are those of a page that was cut. -/
theorem Response.Reckoned.of_page {α : Type} [WireSize α] {ceiling : Nat} {rows : List α}
    {page : Page α} {r : Response} (hpage : page ∈ Page.split ceiling wireSize rows)
    (hsizes : r.rowSizes = page.rows.map wireSize) : r.Reckoned ceiling := by
  have hne := (Page.cover_split ceiling wireSize rows).ne_nil page hpage
  have hfit := Page.fit_of_mem_split hpage
  constructor
  · simpa [hsizes] using hne
  · rw [hsizes, List.length_map]
    exact hfit

/-- What is reckoned to fit does fit. -/
theorem Response.Reckoned.length_encode_le {ceiling : Nat} {r : Response} (h : r.Reckoned ceiling)
    (hrows : 2 ≤ r.rowSizes.length ∨ ∃ size, r.rowSizes = [size] ∧ pageOverhead + size ≤ ceiling) :
    r.encode.length ≤ ceiling := by
  have hlength := Response.length_encode_le h.ne_nil
  rcases hrows with htwo | ⟨size, hsize, hfits⟩
  · -- several rows were put on one page because they fit
    have hfit := h.fit htwo
    omega
  · -- one row is alone whether it fits or not, but here it does
    rw [hsize, List.sum_singleton] at hlength
    omega

end FeedNode.Rpc
