/-!
# Octet strings

`Bytes` is the type of everything that is read from or written to a wire: a list of octets.
The module holds the two readings that every binary format here is made of, a fixed number of
octets taken off the front (`split?`) and an unsigned number written most significant octet first
(`bigEndian`, `toNatBE`), and the lower-case hexadecimal text of an octet string (`hex`).

Main statements:

* `split?_eq_some_iff`: `split? n s` answers `(a, b)` exactly when `s = a ++ b` and `a` has `n`
  octets.
* `toNatBE_bigEndian`: a number that `width` octets have room for reads back from them.
* `bigEndian_toNatBE`: every string of octets is the number in it, written.
* `hex_injective`: octets are read off their hexadecimal text.
-/

namespace FeedNode

/-- A string of octets. -/
abbrev Bytes := List UInt8

namespace Bytes

/-- How many numbers `width` octets have room for. -/
def room : (width : Nat) → Nat
  | 0 => 1
  | width + 1 => 256 * room width

/-- The `width` low octets of `n`, most significant first. -/
def bigEndian : (width : Nat) → (n : Nat) → Bytes
  | 0, _ => []
  | width + 1, n => UInt8.ofNat (n / room width) :: bigEndian width n

/-- The number written by `s`, most significant octet first. -/
def toNatBE (s : Bytes) : Nat :=
  s.foldl (fun n b => 256 * n + b.toNat) 0

/-- The first `n` octets and what follows them, if there are that many. -/
def split? (n : Nat) (s : Bytes) : Option (Bytes × Bytes) :=
  let front := s.take n
  if front.length = n then some (front, s.drop n) else none

/-- An unsigned number of `width` octets off the front of `s`. -/
def readNat? (width : Nat) (s : Bytes) : Option (Nat × Bytes) :=
  (s.split? width).map fun (front, rest) => (front.toNatBE, rest)

/-- The lower-case hexadecimal digit of a number below 16. -/
def hexDigit (n : Nat) : Char :=
  if n < 10 then Char.ofNat ('0'.toNat + n) else Char.ofNat ('a'.toNat + (n - 10))

/-- Two lower-case hexadecimal digits for each octet. -/
def hex (s : Bytes) : String :=
  String.ofList (s.flatMap fun b => [hexDigit (b.toNat / 16), hexDigit (b.toNat % 16)])

@[simp] theorem length_bigEndian (width n : Nat) : (bigEndian width n).length = width := by
  induction width with
  | zero => rfl
  | succ width ih => simp [bigEndian, ih]

/-- Taking octets off the front splits them, and gives nothing but such a split. -/
theorem split?_eq_some_iff {n : Nat} {s a b : Bytes} :
    s.split? n = some (a, b) ↔ s = a ++ b ∧ a.length = n := by
  simp only [split?]
  constructor
  · split
    · rename_i h
      rintro ⟨⟩
      exact ⟨(List.take_append_drop n s).symm, h⟩
    · simp
  · rintro ⟨rfl, rfl⟩
    simp

/-- As many octets as were put in front are taken off again. -/
@[simp] theorem split?_append (a b : Bytes) : (a ++ b).split? a.length = some (a, b) :=
  split?_eq_some_iff.2 ⟨rfl, rfl⟩

/-- A leading part of the octets counts for `room length` times as much as what follows. -/
theorem foldl_toNatBE (s : Bytes) (acc : Nat) :
    s.foldl (fun n b => 256 * n + b.toNat) acc = acc * room s.length + s.toNatBE := by
  induction s generalizing acc with
  | nil => simp [toNatBE, room]
  | cons b s ih =>
    simp only [toNatBE, List.foldl_cons, List.length_cons]
    -- both sides are sums over the rest of the octets, which start from different numbers
    rw [ih, ih (256 * 0 + b.toNat), room]
    grind

@[simp] theorem toNatBE_nil : toNatBE [] = 0 := rfl

/-- The first octet counts for more than all that follow. -/
theorem toNatBE_cons (b : UInt8) (s : Bytes) :
    toNatBE (b :: s) = b.toNat * room s.length + s.toNatBE := by
  rw [toNatBE, List.foldl_cons, foldl_toNatBE, Nat.mul_zero, Nat.zero_add]

/-- As many octets as are there hold the number modulo what they have room for. -/
theorem toNatBE_bigEndian_mod (width n : Nat) :
    (bigEndian width n).toNatBE = n % room width := by
  induction width with
  | zero => simp [bigEndian, room, Nat.mod_one]
  | succ width ih =>
    -- the first octet has the quotient by the room behind it, and the rest the remainder
    rw [bigEndian, toNatBE_cons, ih, length_bigEndian, UInt8.toNat_ofNat', room,
      Nat.mul_comm 256, Nat.mod_mul, Nat.add_comm, Nat.mul_comm (room width)]

/-- A number reads back from its octets when they have room for it. -/
theorem toNatBE_bigEndian {width n : Nat} (h : n < room width) :
    (bigEndian width n).toNatBE = n := by
  rw [toNatBE_bigEndian_mod, Nat.mod_eq_of_lt h]

/-- Two numbers that the octets have room for are not written alike. -/
theorem bigEndian_injective {width m n : Nat} (hm : m < room width) (hn : n < room width)
    (h : bigEndian width m = bigEndian width n) : m = n := by
  rw [← toNatBE_bigEndian hm, h, toNatBE_bigEndian hn]

/-- What is written in octets is less than what they have room for. -/
theorem toNatBE_lt_room (s : Bytes) : s.toNatBE < room s.length := by
  induction s with
  | nil => simp [room]
  | cons b s ih =>
    -- the first octet is a digit to the base 256, and the rest is less than one unit of it
    have hb : (b.toNat + 1) * room s.length ≤ 256 * room s.length :=
      Nat.mul_le_mul_right _ b.toNat_lt
    rw [toNatBE_cons, List.length_cons, room]
    rw [Nat.add_mul, Nat.one_mul] at hb
    omega

/-- As many octets hold a number in one way only. -/
theorem toNatBE_injective {s t : Bytes} (hlen : s.length = t.length)
    (h : s.toNatBE = t.toNatBE) : s = t := by
  induction s generalizing t with
  | nil => exact (List.length_eq_zero_iff.1 hlen.symm).symm
  | cons b s ih =>
    obtain ⟨c, t, rfl⟩ := List.exists_cons_of_length_eq_add_one hlen.symm
    have hlen : s.length = t.length := Nat.succ.inj hlen
    rw [toNatBE_cons, toNatBE_cons, hlen] at h
    -- the octets behind the first count less than it
    have hs := toNatBE_lt_room s
    have ht := toNatBE_lt_room t
    rw [hlen] at hs
    -- the rests are what is left modulo the room behind the first octet, so they agree; and so do
    -- the first octets then
    have hmod := congrArg (· % room t.length) h
    simp only [Nat.mul_add_mod_self_right, Nat.mod_eq_of_lt hs, Nat.mod_eq_of_lt ht] at hmod
    rw [hmod, Nat.add_right_cancel_iff] at h
    have hb : b = c := UInt8.toNat_inj.1 (Nat.eq_of_mul_eq_mul_right (by omega) h)
    rw [hb, ih hlen hmod]

/-- Octets are the number in them, written in as many octets. -/
theorem bigEndian_toNatBE (s : Bytes) : bigEndian s.length s.toNatBE = s :=
  toNatBE_injective (length_bigEndian _ _) (toNatBE_bigEndian (toNatBE_lt_room s))

/-- Reading a number that was just written gives it back, with what follows it. -/
theorem readNat?_bigEndian {width n : Nat} (h : n < room width) (rest : Bytes) :
    readNat? width (bigEndian width n ++ rest) = some (n, rest) := by
  have hs := split?_append (bigEndian width n) rest
  rw [length_bigEndian] at hs
  simp [readNat?, hs, toNatBE_bigEndian h]

/-- Two hexadecimal digits are told apart. -/
theorem hexDigit_injective {m n : Nat} (hm : m < 16) (hn : n < 16)
    (h : hexDigit m = hexDigit n) : m = n := by
  have hall : ∀ m n : Fin 16, hexDigit m = hexDigit n → m = n := by decide
  exact congrArg Fin.val (hall ⟨m, hm⟩ ⟨n, hn⟩ h)

/-- Octets are read off their hexadecimal text. -/
theorem hex_injective {s t : Bytes} (h : s.hex = t.hex) : s = t := by
  have hchars := String.ofList_injective h
  clear h
  -- two digits for each octet, so both texts are consumed in step
  induction s generalizing t with
  | nil =>
    cases t with
    | nil => rfl
    | cons y t => cases hchars
  | cons x s ih =>
    cases t with
    | nil => cases hchars
    | cons y t =>
      simp only [List.flatMap_cons, List.cons_append, List.nil_append, List.cons.injEq] at hchars
      obtain ⟨hhigh, hlow, hrest⟩ := hchars
      -- an octet is determined by its quotient and its remainder by sixteen
      have hx := x.toNat_lt
      have hy := y.toNat_lt
      have hhigh := hexDigit_injective (by omega) (by omega) hhigh
      have hlow := hexDigit_injective (by omega) (by omega) hlow
      have hxy : x = y := UInt8.toNat_inj.1 (by omega)
      rw [hxy, ih hrest]

end Bytes

end FeedNode
