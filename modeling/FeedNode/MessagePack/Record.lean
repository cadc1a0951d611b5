import FeedNode.MessagePack.Codec

/-!
# Records on the wire

A record is a list of named fields of known kinds, its `Layout`; a `Row` of a layout holds one
value for each field. `Layout.write` writes a row as a map with the names as keys, in order.

Reading is more generous. A record may come as a map, whose keys are names (as `str` or `bin`) or
field numbers (in an unsigned format) and may name fields that the layout does not have, or as an
array of its first fields in order. `slots?` finds the value given for each field, whichever form
was used; `Layout.read?` then reads every slot by the field's kind and fills the absent ones with
zero, the empty text or no octets.
-/

namespace FeedNode.MessagePack

/-- How the key of a record's map names a field. -/
inductive FieldKey where
  | name (octets : Bytes)
  | index (n : Nat)
deriving DecidableEq

namespace FieldKey

/-- The key names the field called `name` that stands at `position`. -/
def selects (name : String) (position : Nat) : FieldKey → Bool
  | .name b => b == Text.utf8 name
  | .index n => n == position

end FieldKey

namespace Value

/-- The field that a map key names; only texts, octets and unsigned formats can. -/
def fieldKey? : Value → Option FieldKey
  | .str b => some (.name b)
  | .bin b => some (.name b)
  | .unsigned n => some (.index n.toNat)
  | _ => none

/-- The entries of a record's map under their field keys, if every key names a field and every
value is well formed. -/
def keyedEntries? (entries : List (Value × Value)) : Option (List (FieldKey × Value)) :=
  entries.mapM fun (k, v) =>
    if v.wellFormed then k.fieldKey?.map fun key => (key, v) else none

/-- The only value given for the field called `name` at `position`: `some none` if there is none,
`none` if there are several. -/
def onlyValue? (entries : List (FieldKey × Value)) (name : String) (position : Nat) :
    Option (Option Value) :=
  match entries.filter fun (key, _) => key.selects name position with
  | [] => some none
  | [(_, v)] => some (some v)
  | _ => none

/-- The value given for each of the fields `names`, from either form of a record. -/
def slots? (names : List String) : Value → Option (List (Option Value))
  | .map entries => do
    let entries ← keyedEntries? entries
    names.zipIdx.mapM fun (name, position) => onlyValue? entries name position
  | .array items =>
    if items.length ≤ names.length then
      some (items.map some ++ List.replicate (names.length - items.length) none)
    else none
  | _ => none

end Value

/-- What a field of a record holds. -/
inductive FieldKind where
  | text
  | unsigned
  | signed
  | octets
deriving DecidableEq, Repr

namespace FieldKind

/-- The values of a field of each kind. -/
@[reducible] def Carrier : FieldKind → Type
  | .text => String
  | .unsigned => UInt64
  | .signed => Int64
  | .octets => Bytes

/-- The value of a field that is absent. -/
def zero : (kind : FieldKind) → kind.Carrier
  | .text => ""
  | .unsigned => 0
  | .signed => 0
  | .octets => []

/-- The value shown for a field that an old layout does not have. -/
def placeholder : (kind : FieldKind) → kind.Carrier
  | .text => "NA"
  | .unsigned => 0
  | .signed => 0
  | .octets => []

/-- A field's value on the wire. -/
def write : (kind : FieldKind) → kind.Carrier → Value
  | .text => .text
  | .unsigned => .unsigned
  | .signed => .int
  | .octets => .bin

/-- Reads a text: a `str` or a `bin` that holds UTF-8. -/
def readText? : Value → Option String
  | .str b => Text.ofUtf8? b
  | .bin b => Text.ofUtf8? b
  | _ => none

/-- Reads octets: a `bin`, or a `str` whose octets are no text. -/
def readOctets? : Value → Option Bytes
  | .bin b => some b
  | .str b => if (Text.ofUtf8? b).isNone then some b else none
  | _ => none

/-- Reads a field's value by its kind. -/
def read? : (kind : FieldKind) → Value → Option kind.Carrier
  | .text => readText?
  | .unsigned => Value.unsigned?
  | .signed => Value.signed?
  | .octets => readOctets?

end FieldKind

/-- A named field of a record. -/
structure Field where
  name : String
  kind : FieldKind
deriving DecidableEq, Repr

/-- The fields of a record, in order. -/
abbrev Layout := List Field

namespace Layout

/-- One value for each field of a layout. -/
@[reducible] def Row : Layout → Type
  | [] => Unit
  | f :: fs => f.kind.Carrier × Row fs

/-- The names of the fields. -/
def names (l : Layout) : List String :=
  l.map Field.name

/-- The row of a record that gives no field. -/
def zeroRow : (l : Layout) → l.Row
  | [] => ()
  | f :: fs => (f.kind.zero, zeroRow fs)

/-- The row shown for fields that an old layout does not have. -/
def placeholderRow : (l : Layout) → l.Row
  | [] => ()
  | f :: fs => (f.kind.placeholder, placeholderRow fs)

/-- A row of two layouts, one after the other. -/
def append : {l m : Layout} → l.Row → m.Row → Row (l ++ m)
  | [], _, _, r => r
  | _ :: _, _, (x, xs), r => (x, append xs r)

/-- The two parts of a row of two layouts, one after the other. -/
def split : (l : Layout) → {m : Layout} → Row (l ++ m) → l.Row × m.Row
  | [], _, r => ((), r)
  | _ :: fs, _, (x, xs) => ((x, (split fs xs).1), (split fs xs).2)

/-- The name and the written value of each field. -/
def fields : (l : Layout) → l.Row → List (String × Value)
  | [], _ => []
  | f :: fs, (x, xs) => (f.name, f.kind.write x) :: fields fs xs

/-- A row on the wire: a map with the field names as keys, in order. -/
def write (l : Layout) (row : l.Row) : Value :=
  .record (l.fields row)

/-- Reads each slot by its field's kind; an empty slot holds the zero of the kind. -/
def readSlots? : (l : Layout) → List (Option Value) → Option l.Row
  | [], [] => some ()
  | f :: fs, slot :: slots => do
    let x ← match slot with
      | none => some f.kind.zero
      | some v => f.kind.read? v
    let xs ← readSlots? fs slots
    return (x, xs)
  | _, _ => none

/-- Reads a record in either form. -/
def read? (l : Layout) (v : Value) : Option l.Row :=
  (v.slots? l.names).bind l.readSlots?

@[simp] theorem split_append {l m : Layout} (r : l.Row) (s : m.Row) :
    split l (append r s) = (r, s) := by
  induction l with
  | nil => rfl
  | cons f fs ih =>
    obtain ⟨x, xs⟩ := r
    simp [append, split, ih]

end Layout

end FeedNode.MessagePack
