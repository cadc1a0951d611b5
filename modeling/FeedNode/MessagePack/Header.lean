import FeedNode.MessagePack.Value

/-!
# The first octets of a MessagePack value

A value starts with a `Header`, which says what kind it is and either holds the whole value or
tells how many octets, items or entries follow. `Header.octets` writes a header in its shortest
form and `Header.read?` reads one in any form.
-/

namespace FeedNode.MessagePack

/-- What the first octets of a value say. -/
inductive Header where
  /-- A value without a body. -/
  | atom (v : Value)
  | str (length : Nat)
  | bin (length : Nat)
  | ext (tag : Int8) (length : Nat)
  | array (count : Nat)
  | map (count : Nat)

namespace Header

/-- A format octet and a number of `width` octets. -/
def sized (format : UInt8) (width n : Nat) : Bytes :=
  format :: Bytes.bigEndian width n

/-- The shortest format of an unsigned integer. -/
def unsignedOctets (n : UInt64) : Bytes :=
  if n < 0x80 then [n.toUInt8]
  else if n < 0x100 then sized 0xcc 1 n.toNat
  else if n < 0x10000 then sized 0xcd 2 n.toNat
  else if n < 0x100000000 then sized 0xce 4 n.toNat
  else sized 0xcf 8 n.toNat

/-- The shortest format of an integer; one that is not negative takes an unsigned format. -/
def signedOctets (n : Int64) : Bytes :=
  if 0 ≤ n then unsignedOctets n.toUInt64
  else if -0x20 ≤ n then [n.toUInt64.toUInt8]
  else if -0x80 ≤ n then sized 0xd0 1 n.toUInt64.toNat
  else if -0x8000 ≤ n then sized 0xd1 2 n.toUInt64.toNat
  else if -0x80000000 ≤ n then sized 0xd2 4 n.toUInt64.toNat
  else sized 0xd3 8 n.toUInt64.toNat

/-- The octets of a value without a body. -/
def atomOctets : Value → Bytes
  | .nil => [0xc0]
  | .bool b => [if b then 0xc3 else 0xc2]
  | .unsigned n => unsignedOctets n
  | .signed n => signedOctets n
  | .float32 bits => sized 0xca 4 bits.toNat
  | .float64 bits => sized 0xcb 8 bits.toNat
  | _ => [0xc1]

/-- The header in its shortest form. -/
def octets : Header → Bytes
  | .atom v => atomOctets v
  | .str n =>
    if n < 0x20 then [0xa0 + .ofNat n]
    else if n < 0x100 then sized 0xd9 1 n
    else if n < 0x10000 then sized 0xda 2 n
    else sized 0xdb 4 n
  | .bin n =>
    if n < 0x100 then sized 0xc4 1 n
    else if n < 0x10000 then sized 0xc5 2 n
    else sized 0xc6 4 n
  | .ext tag n =>
    (if n = 1 then [0xd4]
    else if n = 2 then [0xd5]
    else if n = 4 then [0xd6]
    else if n = 8 then [0xd7]
    else if n = 16 then [0xd8]
    else if n < 0x100 then sized 0xc7 1 n
    else if n < 0x10000 then sized 0xc8 2 n
    else sized 0xc9 4 n) ++ [tag.toUInt8]
  | .array n =>
    if n < 0x10 then [0x90 + .ofNat n]
    else if n < 0x10000 then sized 0xdc 2 n
    else sized 0xdd 4 n
  | .map n =>
    if n < 0x10 then [0x80 + .ofNat n]
    else if n < 0x10000 then sized 0xde 2 n
    else sized 0xdf 4 n

/-- The number that `width` octets write in two's complement. -/
def twosComplement (width n : Nat) : Int64 :=
  .ofInt (Int.bmod n (Bytes.room width))

/-- A number of `width` octets, made into a header. -/
def readSized? (width : Nat) (make : Nat → Header) (s : Bytes) : Option (Header × Bytes) :=
  (Bytes.readNat? width s).map fun (n, rest) => (make n, rest)

/-- The type octet of an extension of known length. -/
def readTag? (length : Nat) : Bytes → Option (Header × Bytes)
  | [] => none
  | tag :: rest => some (.ext tag.toInt8 length, rest)

/-- The length, in `width` octets, and the type octet of an extension. -/
def readExt? (width : Nat) (s : Bytes) : Option (Header × Bytes) :=
  (Bytes.readNat? width s).bind fun (n, rest) => readTag? n rest

/-- The header that `format`, an octet from `0xc0` to `0xdf`, announces. -/
def readFormat? (format : UInt8) (s : Bytes) : Option (Header × Bytes) :=
  match format with
  | 0xc0 => some (.atom .nil, s)
  | 0xc2 => some (.atom (.bool false), s)
  | 0xc3 => some (.atom (.bool true), s)
  | 0xc4 => readSized? 1 .bin s
  | 0xc5 => readSized? 2 .bin s
  | 0xc6 => readSized? 4 .bin s
  | 0xc7 => readExt? 1 s
  | 0xc8 => readExt? 2 s
  | 0xc9 => readExt? 4 s
  | 0xca => readSized? 4 (fun n => .atom (.float32 (.ofNat n))) s
  | 0xcb => readSized? 8 (fun n => .atom (.float64 (.ofNat n))) s
  | 0xcc => readSized? 1 (fun n => .atom (.unsigned (.ofNat n))) s
  | 0xcd => readSized? 2 (fun n => .atom (.unsigned (.ofNat n))) s
  | 0xce => readSized? 4 (fun n => .atom (.unsigned (.ofNat n))) s
  | 0xcf => readSized? 8 (fun n => .atom (.unsigned (.ofNat n))) s
  | 0xd0 => readSized? 1 (fun n => .atom (.signed (twosComplement 1 n))) s
  | 0xd1 => readSized? 2 (fun n => .atom (.signed (twosComplement 2 n))) s
  | 0xd2 => readSized? 4 (fun n => .atom (.signed (twosComplement 4 n))) s
  | 0xd3 => readSized? 8 (fun n => .atom (.signed (twosComplement 8 n))) s
  | 0xd4 => readTag? 1 s
  | 0xd5 => readTag? 2 s
  | 0xd6 => readTag? 4 s
  | 0xd7 => readTag? 8 s
  | 0xd8 => readTag? 16 s
  | 0xd9 => readSized? 1 .str s
  | 0xda => readSized? 2 .str s
  | 0xdb => readSized? 4 .str s
  | 0xdc => readSized? 2 .array s
  | 0xdd => readSized? 4 .array s
  | 0xde => readSized? 2 .map s
  | 0xdf => readSized? 4 .map s
  | _ => some (.atom .reserved, s)

/-- The header that the octets start with, in any form, and what follows it. -/
def read? : Bytes → Option (Header × Bytes)
  | [] => none
  | first :: rest =>
    if first < 0x80 then some (.atom (.unsigned first.toUInt64), rest)
    else if first < 0x90 then some (.map (first - 0x80).toNat, rest)
    else if first < 0xa0 then some (.array (first - 0x90).toNat, rest)
    else if first < 0xc0 then some (.str (first - 0xa0).toNat, rest)
    else if 0xe0 ≤ first then some (.atom (.signed (twosComplement 1 first.toNat)), rest)
    else readFormat? first rest

end Header

end FeedNode.MessagePack
