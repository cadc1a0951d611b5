import FeedNode.MessagePack.Codec
import Mathlib.Algebra.GroupWithZero.Nat

/-!
# How long values are on the wire

A header says in at most nine octets what a number is, and in at most five how much follows. A
record is its header and then, for each of its fields, the name behind one octet and the value, as
long as there are few fields and their names are short.

Main statement: `Value.length_pack_record`.
-/

namespace FeedNode.MessagePack

/-! ## Headers -/

namespace Header

/-- A number behind a format octet takes its width and one octet. -/
@[simp] theorem length_sized (format : UInt8) (width n : Nat) :
    (sized format width n).length = width + 1 := by
  simp [sized]

/-- A number that is not negative takes nine octets at most. -/
theorem length_unsignedOctets_le (n : UInt64) : (unsignedOctets n).length ≤ 9 := by
  unfold unsignedOctets
  -- one case for each width that a number may be written in
  repeat' split
  all_goals simp

/-- The header of a text takes five octets at most. -/
theorem length_str_le (n : Nat) : (str n).octets.length ≤ 5 := by
  unfold octets
  dsimp only
  repeat' split
  all_goals simp

/-- The header of a short text is one octet. -/
theorem length_str_short {n : Nat} (h : n < 0x20) : (str n).octets.length = 1 := by
  simp [octets, h]

/-- The header of octets takes five octets at most. -/
theorem length_bin_le (n : Nat) : (bin n).octets.length ≤ 5 := by
  unfold octets
  dsimp only
  repeat' split
  all_goals simp

/-- The header of an array takes five octets at most. -/
theorem length_array_le (n : Nat) : (array n).octets.length ≤ 5 := by
  unfold octets
  dsimp only
  repeat' split
  all_goals simp

/-- The header of a map with few entries is one octet. -/
theorem length_map_short {n : Nat} (h : n < 0x10) : (map n).octets.length = 1 := by
  simp [octets, h]

end Header

/-! ## Values -/

namespace Value

/-- A truth value takes one octet. -/
@[simp] theorem length_pack_bool (b : Bool) : (bool b).pack.length = 1 := by
  simp [pack, Header.atomOctets]

/-- A number that is not negative takes nine octets at most, as a value. -/
theorem length_pack_unsigned_le (n : UInt64) : (unsigned n).pack.length ≤ 9 := by
  simp only [pack, Header.atomOctets]
  exact Header.length_unsignedOctets_le n

/-- A text takes its own octets and five more at most. -/
theorem length_pack_text_le (s : String) : (text s).pack.length ≤ 5 + Text.utf8Length s := by
  have hheader := Header.length_str_le (Text.utf8Length s)
  simp only [text, pack, List.length_append, Text.length_utf8]
  omega

/-- A short text takes its own octets and one more. -/
theorem length_pack_text_short {s : String} (h : Text.utf8Length s < 0x20) :
    (text s).pack.length = Text.utf8Length s + 1 := by
  simp only [text, pack, List.length_append, Text.length_utf8, Header.length_str_short h]
  omega

/-- Octets take themselves and five more at most. -/
theorem length_pack_bin_le (b : Bytes) : (bin b).pack.length ≤ 5 + b.length := by
  have hheader := Header.length_bin_le b.length
  simp only [pack, List.length_append]
  omega

/-- Items take what each of them takes. -/
theorem length_packItems (items : List Value) :
    (packItems items).length = (items.map fun v => v.pack.length).sum := by
  induction items with
  | nil => simp [packItems]
  | cons v items ih => simp [packItems, ih]

/-- An array takes what its items take and five octets more at most. -/
theorem length_pack_array_le (items : List Value) :
    (array items).pack.length ≤ 5 + (items.map fun v => v.pack.length).sum := by
  have hheader := Header.length_array_le items.length
  simp only [pack, List.length_append, length_packItems]
  omega

/-! ## Records -/

/-- The octets of some fields whose names are short. -/
def fieldsLength (fields : List (String × Value)) : Nat :=
  (fields.map fun (name, v) => Text.utf8Length name + 1 + v.pack.length).sum

@[simp] theorem fieldsLength_nil : fieldsLength [] = 0 := rfl

@[simp] theorem fieldsLength_cons (name : String) (v : Value) (fields : List (String × Value)) :
    fieldsLength ((name, v) :: fields) =
      Text.utf8Length name + 1 + v.pack.length + fieldsLength fields := rfl

/-- The octets of some fields and of more are those of both. -/
@[simp] theorem fieldsLength_append (fields more : List (String × Value)) :
    fieldsLength (fields ++ more) = fieldsLength fields + fieldsLength more := by
  simp [fieldsLength]

/-- Every name has an octet for a header. -/
def ShortNames (fields : List (String × Value)) : Prop :=
  ∀ f ∈ fields, Text.utf8Length f.1 < 0x20

@[simp] theorem shortNames_nil : ShortNames [] := by
  simp [ShortNames]

/-- The names of some fields are short if the first is and the others are. -/
@[simp] theorem shortNames_cons (name : String) (v : Value) (fields : List (String × Value)) :
    ShortNames ((name, v) :: fields) ↔ Text.utf8Length name < 0x20 ∧ ShortNames fields := by
  simp [ShortNames]

/-- The names of some fields and of more are short if both are. -/
@[simp] theorem shortNames_append (fields more : List (String × Value)) :
    ShortNames (fields ++ more) ↔ ShortNames fields ∧ ShortNames more := by
  simp [ShortNames, or_imp, forall_and]

/-- Fields with short names take what `fieldsLength` says. -/
theorem length_packEntries {fields : List (String × Value)} (hnames : ShortNames fields) :
    (packEntries (fields.map fun (name, v) => (.text name, v))).length = fieldsLength fields := by
  induction fields with
  | nil => simp [packEntries]
  | cons f fields ih =>
    obtain ⟨name, v⟩ := f
    obtain ⟨hname, hmore⟩ := (shortNames_cons _ _ _).1 hnames
    -- one octet for the header of the name, then the name and the value, then the other fields
    rw [List.map_cons, packEntries, List.length_append, List.length_append, ih hmore,
      length_pack_text_short hname, fieldsLength_cons]
    omega

/-- A record of few fields with short names: its header, and its fields. -/
theorem length_pack_record {fields : List (String × Value)} (hcount : fields.length < 0x10)
    (hnames : ShortNames fields) : (record fields).pack.length = 1 + fieldsLength fields := by
  have hmap : (fields.map fun (name, v) => (text name, v)).length < 0x10 := by
    simpa using hcount
  rw [record, pack, List.length_append, Header.length_map_short hmap, length_packEntries hnames]

end Value

end FeedNode.MessagePack
