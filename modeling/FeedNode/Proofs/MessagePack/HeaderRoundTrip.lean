import FeedNode.MessagePack.Codec
import Mathlib.Algebra.Group.Nat.Defs

/-!
# Headers read back

`Header.read?` accepts every width of a format, `Header.octets` writes the shortest one. Whatever
the writer chose, the reader finds the same header again and stops exactly where it ends.

Main statement: `Header.read?_octets`, for every header that `Header.Writable` admits.
-/

namespace FeedNode.MessagePack.Header

open Bytes (bigEndian room)

/-! ## Numbers after a format octet -/

/-- A number of so many octets reads back modulo what they have room for. -/
theorem readNat?_bigEndian_mod (width n : Nat) (rest : Bytes) :
    Bytes.readNat? width (bigEndian width n ++ rest) = some (n % room width, rest) := by
  have hs := Bytes.split?_append (bigEndian width n) rest
  rw [Bytes.length_bigEndian] at hs
  simp only [Bytes.readNat?, hs, Option.map_some, Bytes.toNatBE_bigEndian_mod]

/-- A format octet whose reader takes a number of `width` octets reads that number back, as far as
there was room for it. -/
theorem read?_sized_mod (make : Nat → Header) {format : UInt8} {width : Nat}
    (hf : ∀ s, read? (format :: s) = readSized? width make s) (n : Nat) (rest : Bytes) :
    read? (sized format width n ++ rest) = some (make (n % room width), rest) := by
  rw [sized, List.cons_append, hf, readSized?, readNat?_bigEndian_mod]
  rfl

/-- A format octet whose reader takes so many octets reads back a number that they have room for. -/
theorem read?_sized (make : Nat → Header) {format : UInt8} {width : Nat}
    (hf : ∀ s, read? (format :: s) = readSized? width make s) {n : Nat} (h : n < room width)
    (rest : Bytes) : read? (sized format width n ++ rest) = some (make n, rest) := by
  rw [read?_sized_mod make hf, Nat.mod_eq_of_lt h]

/-! ## The first octet -/

/-- The first octet decides by its number. -/
theorem read?_cons (first : UInt8) (rest : Bytes) :
    read? (first :: rest) =
      if first.toNat < 0x80 then some (.atom (.unsigned first.toUInt64), rest)
      else if first.toNat < 0x90 then some (.map (first - 0x80).toNat, rest)
      else if first.toNat < 0xa0 then some (.array (first - 0x90).toNat, rest)
      else if first.toNat < 0xc0 then some (.str (first - 0xa0).toNat, rest)
      else if 0xe0 ≤ first.toNat then
        some (.atom (.signed (twosComplement 1 first.toNat)), rest)
      else readFormat? first rest := by
  simp only [read?, UInt8.lt_iff_toNat_lt, UInt8.le_iff_toNat_le]
  rfl

/-- A small number is added to the format octet. -/
theorem toNat_base_add {base : UInt8} {n : Nat} (h : base.toNat + n < 256) :
    (base + .ofNat n).toNat = base.toNat + n := by
  rw [UInt8.toNat_add, UInt8.toNat_ofNat']
  omega

/-- A small number is found again behind the format octet that it was added to. -/
theorem base_add_sub (base : UInt8) {n : Nat} (h : n < 256) :
    (base + .ofNat n - base).toNat = n := by
  have hcancel : base + .ofNat n - base = UInt8.ofNat n := by grind
  rw [hcancel, UInt8.toNat_ofNat', Nat.mod_eq_of_lt h]

/-- A short map is read off its first octet. -/
theorem read?_fixmap {n : Nat} (h : n < 0x10) (rest : Bytes) :
    read? ((0x80 + .ofNat n) :: rest) = some (.map n, rest) := by
  have hfirst : (0x80 + UInt8.ofNat n).toNat = 0x80 + n := toNat_base_add (by simp; omega)
  -- the first octet lies in the range of short maps, behind that of small numbers
  rw [read?_cons, hfirst, if_neg (by omega), if_pos (by omega), base_add_sub _ (by omega)]

/-- A short array is read off its first octet. -/
theorem read?_fixarray {n : Nat} (h : n < 0x10) (rest : Bytes) :
    read? ((0x90 + .ofNat n) :: rest) = some (.array n, rest) := by
  have hfirst : (0x90 + UInt8.ofNat n).toNat = 0x90 + n := toNat_base_add (by simp; omega)
  -- here the ranges of small numbers and of short maps are passed first
  rw [read?_cons, hfirst, if_neg (by omega), if_neg (by omega), if_pos (by omega),
    base_add_sub _ (by omega)]

/-- A short text is read off its first octet. -/
theorem read?_fixstr {n : Nat} (h : n < 0x20) (rest : Bytes) :
    read? ((0xa0 + .ofNat n) :: rest) = some (.str n, rest) := by
  have hfirst : (0xa0 + UInt8.ofNat n).toNat = 0xa0 + n := toNat_base_add (by simp; omega)
  -- here the ranges of small numbers, maps and arrays are passed first
  rw [read?_cons, hfirst, if_neg (by omega), if_neg (by omega), if_neg (by omega),
    if_pos (by omega), base_add_sub _ (by omega)]

/-- An octet from `0xe0` is a negative integer. -/
theorem read?_negative {first : UInt8} (h : 0xe0 ≤ first.toNat) (rest : Bytes) :
    read? (first :: rest) = some (.atom (.signed (twosComplement 1 first.toNat)), rest) := by
  rw [read?_cons, if_neg (by omega), if_neg (by omega), if_neg (by omega), if_neg (by omega),
    if_pos h]

/-! ## Integers -/

/-- A format of `width` octets for unsigned integers. -/
theorem read?_sized_unsigned {format : UInt8} {width : Nat}
    (hf : ∀ s, read? (format :: s) = readSized? width (fun n => .atom (.unsigned (.ofNat n))) s)
    {n : UInt64} (h : n.toNat < room width) (rest : Bytes) :
    read? (sized format width n.toNat ++ rest) = some (.atom (.unsigned n), rest) := by
  rw [read?_sized _ hf h, UInt64.ofNat_toNat]

/-- A number that is not negative reads back, whichever width it was written in. -/
theorem read?_unsignedOctets (n : UInt64) (rest : Bytes) :
    read? (unsignedOctets n ++ rest) = some (.atom (.unsigned n), rest) := by
  simp only [unsignedOctets]
  split
  · rename_i h
    -- a number below 0x80 is its own format octet
    have hn : n.toNat < 128 := UInt64.lt_iff_toNat_lt.1 h
    have hlt : n.toUInt8.toNat < 0x80 := by
      rw [UInt64.toNat_toUInt8]
      omega
    have hback : n.toUInt8.toUInt64 = n := by
      rw [← UInt64.toNat_inj, UInt8.toNat_toUInt64, UInt64.toNat_toUInt8]
      omega
    rw [List.singleton_append, read?_cons, if_pos hlt, hback]
  split
  · rename_i h
    -- one octet, two, four or eight: the first that has room
    exact read?_sized_unsigned (fun _ => rfl) (UInt64.lt_iff_toNat_lt.1 h) rest
  split
  · rename_i h
    exact read?_sized_unsigned (fun _ => rfl) (UInt64.lt_iff_toNat_lt.1 h) rest
  split
  · rename_i h
    exact read?_sized_unsigned (fun _ => rfl) (UInt64.lt_iff_toNat_lt.1 h) rest
  · exact read?_sized_unsigned (fun _ => rfl) n.toNat_lt rest

/-- The low octets of a word write it in two's complement, if it lies in their range. -/
theorem twosComplement_toNat {width : Nat} {n : Int64} (hdvd : room width ∣ 2 ^ 64)
    (hlo : -(room width : Int) ≤ n.toInt * 2) (hhi : n.toInt * 2 < room width) :
    twosComplement width (n.toUInt64.toNat % room width) = n := by
  -- the width divides the word, so cutting the word off first changes nothing
  have hword : n.toInt = Int.bmod n.toUInt64.toNat (2 ^ 64) :=
    BitVec.toInt_eq_toNat_bmod n.toBitVec
  have hlow : Int.bmod n.toUInt64.toNat (room width) = n.toInt := by
    rw [← Int.bmod_bmod_of_dvd hdvd, ← hword]
    exact Int.bmod_eq_of_le_mul_two hlo hhi
  rw [twosComplement, Int.natCast_emod, Int.emod_bmod, hlow, Int64.ofInt_toInt]

/-- A format of `width` octets for negative integers. -/
theorem read?_sized_signed {format : UInt8} {width : Nat}
    (hf : ∀ s, read? (format :: s) =
      readSized? width (fun n => .atom (.signed (twosComplement width n))) s)
    (hdvd : room width ∣ 2 ^ 64) {n : Int64} (hlo : -(room width : Int) ≤ n.toInt * 2)
    (hneg : n.toInt < 0) (rest : Bytes) :
    read? (sized format width n.toUInt64.toNat ++ rest) = some (.atom (.signed n), rest) := by
  rw [read?_sized_mod _ hf, twosComplement_toNat hdvd hlo (by omega)]

/-- A negative number reads back, whichever width it was written in. -/
theorem read?_signedOctets {n : Int64} (h : n < 0) (rest : Bytes) :
    read? (signedOctets n ++ rest) = some (.atom (.signed n), rest) := by
  have hneg : n.toInt < 0 := Int64.lt_iff_toInt_lt.1 h
  have hnot : ¬ 0 ≤ n := by
    rw [Int64.le_iff_toInt_le]
    exact Int.not_le.2 hneg
  rw [signedOctets, if_neg hnot]
  split
  · rename_i hge
    -- a number from -32 is its own format octet, in two's complement
    have hlo : -32 ≤ n.toInt := Int64.le_iff_toInt_le.1 hge
    have hword : n.toInt = Int.bmod n.toUInt64.toNat (2 ^ 64) :=
      BitVec.toInt_eq_toNat_bmod n.toBitVec
    have hlow : n.toUInt64.toUInt8.toNat = n.toUInt64.toNat % room 1 := UInt64.toNat_toUInt8 _
    have hfirst : 0xe0 ≤ n.toUInt64.toUInt8.toNat := by
      rw [UInt64.toNat_toUInt8]
      simp only [Int.bmod] at hword
      split at hword <;> omega
    -- the low octet is the number in two's complement, since the number lies in its range
    rw [List.singleton_append, read?_negative hfirst, hlow, twosComplement_toNat (by decide)]
    · show -(256 : Int) ≤ _
      omega
    · show _ < (256 : Int)
      omega
  split
  · rename_i hge
    -- from here on the shortest format with room for the sign is written
    have hlo : -128 ≤ n.toInt := Int64.le_iff_toInt_le.1 hge
    exact read?_sized_signed (fun _ => rfl) (by decide) (show -(256 : Int) ≤ _ by omega) hneg rest
  split
  · rename_i hge
    have hlo : -32768 ≤ n.toInt := Int64.le_iff_toInt_le.1 hge
    exact read?_sized_signed (fun _ => rfl) (by decide) (show -(65536 : Int) ≤ _ by omega) hneg rest
  split
  · rename_i hge
    have hlo : -2147483648 ≤ n.toInt := Int64.le_iff_toInt_le.1 hge
    exact read?_sized_signed (fun _ => rfl) (by decide) (show -(4294967296 : Int) ≤ _ by omega)
      hneg rest
  · have hlo : -9223372036854775808 ≤ n.toInt := n.le_toInt
    exact read?_sized_signed (fun _ => rfl) (by decide)
      (show -(18446744073709551616 : Int) ≤ _ by omega) hneg rest

/-! ## Lengths and counts -/

/-- The header of a text reads back. -/
theorem read?_str {n : Nat} (h : n < 2 ^ 32) (rest : Bytes) :
    read? ((Header.str n).octets ++ rest) = some (.str n, rest) := by
  simp only [octets]
  split
  · rename_i hn
    -- in the first octet itself
    exact read?_fixstr hn rest
  split
  · rename_i hn
    -- in one octet, two or four behind it
    exact read?_sized .str (fun _ => rfl) hn rest
  split
  · rename_i hn
    exact read?_sized .str (fun _ => rfl) hn rest
  · exact read?_sized .str (fun _ => rfl) h rest

/-- The header of octets reads back. -/
theorem read?_bin {n : Nat} (h : n < 2 ^ 32) (rest : Bytes) :
    read? ((Header.bin n).octets ++ rest) = some (.bin n, rest) := by
  simp only [octets]
  split
  · rename_i hn
    -- in one octet, two or four behind the format
    exact read?_sized .bin (fun _ => rfl) hn rest
  split
  · rename_i hn
    exact read?_sized .bin (fun _ => rfl) hn rest
  · exact read?_sized .bin (fun _ => rfl) h rest

/-- The header of an array reads back. -/
theorem read?_array {n : Nat} (h : n < 2 ^ 32) (rest : Bytes) :
    read? ((Header.array n).octets ++ rest) = some (.array n, rest) := by
  simp only [octets]
  split
  · rename_i hn
    -- in the first octet itself
    exact read?_fixarray hn rest
  split
  · rename_i hn
    -- in two octets behind it, or four
    exact read?_sized .array (fun _ => rfl) hn rest
  · exact read?_sized .array (fun _ => rfl) h rest

/-- The header of a map reads back. -/
theorem read?_map {n : Nat} (h : n < 2 ^ 32) (rest : Bytes) :
    read? ((Header.map n).octets ++ rest) = some (.map n, rest) := by
  simp only [octets]
  split
  · rename_i hn
    -- in the first octet itself
    exact read?_fixmap hn rest
  split
  · rename_i hn
    -- in two octets behind it, or four
    exact read?_sized .map (fun _ => rfl) hn rest
  · exact read?_sized .map (fun _ => rfl) h rest

/-! ## Extensions -/

/-- An extension whose length is written has its type octet after the length. -/
theorem read?_sized_ext {format : UInt8} {width : Nat}
    (hf : ∀ s, read? (format :: s) = readExt? width s) {n : Nat} (h : n < room width) (tag : Int8)
    (rest : Bytes) :
    read? (sized format width n ++ [tag.toUInt8] ++ rest) = some (.ext tag n, rest) := by
  rw [sized, List.append_assoc, List.cons_append, hf, readExt?, readNat?_bigEndian_mod,
    Nat.mod_eq_of_lt h]
  rfl

/-- The header of an extension reads back. -/
theorem read?_ext {n : Nat} (h : n < 2 ^ 32) (tag : Int8) (rest : Bytes) :
    read? ((Header.ext tag n).octets ++ rest) = some (.ext tag n, rest) := by
  simp only [octets]
  -- the lengths 1, 2, 4, 8 and 16 have formats of their own
  split
  · rename_i hn
    subst hn
    rfl
  split
  · rename_i hn
    subst hn
    rfl
  split
  · rename_i hn
    subst hn
    rfl
  split
  · rename_i hn
    subst hn
    rfl
  split
  · rename_i hn
    subst hn
    rfl
  split
  · rename_i hn
    -- any other length stands in one octet, two or four
    exact read?_sized_ext (fun _ => rfl) hn tag rest
  split
  · rename_i hn
    exact read?_sized_ext (fun _ => rfl) hn tag rest
  · exact read?_sized_ext (fun _ => rfl) h tag rest

/-! ## Every header -/

/-- The header can be written: a value without a body stands in the format that its number asks
for, and four octets have room for every length. -/
def Writable : Header → Prop
  | .atom .nil | .atom (.bool _) | .atom (.unsigned _) => True
  | .atom (.float32 _) | .atom (.float64 _) => True
  | .atom (.signed n) => n < 0
  | .atom _ => False
  | .str n | .bin n | .ext _ n | .array n | .map n => n < 2 ^ 32

/-- A written header reads back, with what follows it. -/
theorem read?_octets {h : Header} (hw : h.Writable) (rest : Bytes) :
    read? (h.octets ++ rest) = some (h, rest) := by
  match h, hw with
  | .atom .nil, _ => rfl
  | .atom (.bool true), _ => rfl
  | .atom (.bool false), _ => rfl
  | .atom (.unsigned n), _ => exact read?_unsignedOctets n rest
  | .atom (.signed n), hneg => exact read?_signedOctets hneg rest
  | .atom (.float32 bits), _ =>
    have hread : read? (sized 0xca 4 bits.toNat ++ rest) = _ :=
      read?_sized (fun n => .atom (.float32 (.ofNat n))) (fun _ => rfl) bits.toNat_lt rest
    rwa [UInt32.ofNat_toNat] at hread
  | .atom (.float64 bits), _ =>
    have hread : read? (sized 0xcb 8 bits.toNat ++ rest) = _ :=
      read?_sized (fun n => .atom (.float64 (.ofNat n))) (fun _ => rfl) bits.toNat_lt rest
    rwa [UInt64.ofNat_toNat] at hread
  | .str _, hn => exact read?_str hn rest
  | .bin _, hn => exact read?_bin hn rest
  | .ext tag _, hn => exact read?_ext hn tag rest
  | .array _, hn => exact read?_array hn rest
  | .map _, hn => exact read?_map hn rest

end FeedNode.MessagePack.Header
