import FeedNode.MessagePack.Header

/-!
# Writing and reading MessagePack values

`Value.pack` writes a value in its shortest form. `Value.unpack?` reads the value that some octets
start with, in any form, and gives the octets that follow it; it refuses values that are cut short
and values that nest deeper than a given number of levels.
-/

namespace FeedNode.MessagePack

namespace Value

mutual

/-- The octets of a value, every header in its shortest form. -/
def pack : Value → Bytes
  | .str b => (Header.str b.length).octets ++ b
  | .bin b => (Header.bin b.length).octets ++ b
  | .ext tag b => (Header.ext tag b.length).octets ++ b
  | .array items => (Header.array items.length).octets ++ packItems items
  | .map entries => (Header.map entries.length).octets ++ packEntries entries
  | v => Header.atomOctets v

/-- The octets of items, one after another. -/
def packItems : List Value → Bytes
  | [] => []
  | v :: vs => v.pack ++ packItems vs

/-- The octets of entries, each a key and its value. -/
def packEntries : List (Value × Value) → Bytes
  | [] => []
  | (k, v) :: es => k.pack ++ (v.pack ++ packEntries es)

end

/-- `count` things read one after another. -/
def readMany? {α : Type} (item : Bytes → Option (α × Bytes)) :
    (count : Nat) → Bytes → Option (List α × Bytes)
  | 0, s => some ([], s)
  | count + 1, s => do
    let (x, s) ← item s
    let (xs, s) ← readMany? item count s
    return (x :: xs, s)

/-- A key and its value, each read by `item`. -/
def readKeyed? (item : Bytes → Option (Value × Bytes)) (s : Bytes) :
    Option ((Value × Value) × Bytes) := do
  let (k, s) ← item s
  let (v, s) ← item s
  return ((k, v), s)

/-- What a header announces, with items and entries read by `item`. -/
def readBody? (item : Bytes → Option (Value × Bytes)) (s : Bytes) :
    Header → Option (Value × Bytes)
  | .atom v => some (v, s)
  | .str n => (s.split? n).map fun (b, rest) => (.str b, rest)
  | .bin n => (s.split? n).map fun (b, rest) => (.bin b, rest)
  | .ext tag n => (s.split? n).map fun (b, rest) => (.ext tag b, rest)
  | .array n => (readMany? item n s).map fun (vs, rest) => (.array vs, rest)
  | .map n => (readMany? (readKeyed? item) n s).map fun (es, rest) => (.map es, rest)

/-- The value that the octets start with, nested at most `levels` deep (a scalar has one level),
and what follows it. -/
def unpack? : (levels : Nat) → Bytes → Option (Value × Bytes)
  | 0, _ => none
  | levels + 1, s => do
    let (header, s) ← Header.read? s
    readBody? (unpack? levels) s header

end Value

end FeedNode.MessagePack
