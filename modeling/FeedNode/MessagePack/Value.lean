import FeedNode.Text.Utf8

/-!
# MessagePack values

`Value` is one MessagePack value as it stands on the wire. It keeps what a reader can tell apart:
an integer of an unsigned format from one of a signed format, a `str` from a `bin`, the bits of a
float, and the reserved first octet `0xc1`. It does not keep which of several widths was used.

Texts are kept as octets, because a `str` on the wire need not be UTF-8; `Value.text` and
`Value.text?` go between a `str` and a `String`.
-/

namespace FeedNode.MessagePack

/-- A MessagePack value. -/
inductive Value where
  | nil
  /-- The octet `0xc1`, which no value starts with. -/
  | reserved
  | bool (b : Bool)
  /-- An integer in a positive `fixint` or `uint` format. -/
  | unsigned (n : UInt64)
  /-- An integer in a negative `fixint` or `int` format. -/
  | signed (n : Int64)
  | float32 (bits : UInt32)
  | float64 (bits : UInt64)
  | str (octets : Bytes)
  | bin (octets : Bytes)
  | ext (tag : Int8) (octets : Bytes)
  | array (items : List Value)
  | map (entries : List (Value × Value))
deriving Inhabited, Repr

namespace Value

/-- A text as a `str`. -/
def text (s : String) : Value :=
  .str (Text.utf8 s)

/-- The text of a `str` that holds UTF-8. -/
def text? : Value → Option String
  | .str b => Text.ofUtf8? b
  | _ => none

/-- An integer in the format that its sign asks for. -/
def int (n : Int64) : Value :=
  if n < 0 then .signed n else .unsigned n.toUInt64

/-- The number of an integer of either format. -/
def int? : Value → Option Int
  | .unsigned n => some n.toNat
  | .signed n => some n.toInt
  | _ => none

/-- The number of an integer that fits an unsigned 64-bit word. -/
def unsigned? (v : Value) : Option UInt64 :=
  v.int?.bind fun n => if 0 ≤ n ∧ n < UInt64.size then some (.ofNat n.toNat) else none

/-- The number of an integer that fits a signed 64-bit word. -/
def signed? (v : Value) : Option Int64 :=
  v.int?.bind fun n =>
    if Int64.minValue.toInt ≤ n ∧ n ≤ Int64.maxValue.toInt then some (.ofInt n) else none

/-- A map with text keys. -/
def record (fields : List (String × Value)) : Value :=
  .map (fields.map fun (name, v) => (.text name, v))

mutual

/-- No reserved octet stands anywhere in the value. -/
def wellFormed : Value → Bool
  | .reserved => false
  | .array items => wellFormedItems items
  | .map entries => wellFormedEntries entries
  | _ => true

/-- No reserved octet stands anywhere in the items. -/
def wellFormedItems : List Value → Bool
  | [] => true
  | v :: vs => v.wellFormed && wellFormedItems vs

/-- No reserved octet stands anywhere in the entries. -/
def wellFormedEntries : List (Value × Value) → Bool
  | [] => true
  | (k, v) :: es => k.wellFormed && v.wellFormed && wellFormedEntries es

end

mutual

/-- How many arrays, maps and extensions are open at once where the value nests deepest. -/
def nesting : Value → Nat
  | .ext _ _ => 1
  | .array items => nestingItems items + 1
  | .map entries => nestingEntries entries + 1
  | _ => 0

/-- The deepest nesting among the items. -/
def nestingItems : List Value → Nat
  | [] => 0
  | v :: vs => max v.nesting (nestingItems vs)

/-- The deepest nesting among the keys and values of the entries. -/
def nestingEntries : List (Value × Value) → Nat
  | [] => 0
  | (k, v) :: es => max (max k.nesting v.nesting) (nestingEntries es)

end

@[simp] theorem text?_text (s : String) : (text s).text? = some s := by
  simp [text, text?]

end Value

end FeedNode.MessagePack
