import FeedNode.Proofs.MessagePack.HeaderRoundTrip

/-!
# Values read back

`Value.unpack?` inverts `Value.pack` on every value that can be written, whatever octets follow it,
as long as the reader is given as many levels as the value is high.

Main statement: `Value.unpack?_pack`. The arrays and maps in a value are lists, so that the proof
goes by the same three-fold recursion as the writer: values, items, entries.
-/

namespace FeedNode.MessagePack.Value

mutual

/-- The value can be written: there is room for every length in it, a signed integer is negative,
and the reserved octet does not stand in it. -/
def Writable : Value → Prop
  | .reserved => False
  | .signed n => n < 0
  | .str b => b.length < 2 ^ 32
  | .bin b => b.length < 2 ^ 32
  | .ext _ b => b.length < 2 ^ 32
  | .array items => items.length < 2 ^ 32 ∧ WritableItems items
  | .map entries => entries.length < 2 ^ 32 ∧ WritableEntries entries
  | _ => True

/-- Every item can be written. -/
def WritableItems : List Value → Prop
  | [] => True
  | v :: vs => v.Writable ∧ WritableItems vs

/-- Every key and every value of the entries can be written. -/
def WritableEntries : List (Value × Value) → Prop
  | [] => True
  | (k, v) :: es => k.Writable ∧ v.Writable ∧ WritableEntries es

end

mutual

/-- How many levels a reader needs for the value; a value without parts has one. -/
def height : Value → Nat
  | .array items => heightItems items + 1
  | .map entries => heightEntries entries + 1
  | _ => 1

/-- The levels that all of the items need. -/
def heightItems : List Value → Nat
  | [] => 0
  | v :: vs => max v.height (heightItems vs)

/-- The levels that all keys and values of the entries need. -/
def heightEntries : List (Value × Value) → Nat
  | [] => 0
  | (k, v) :: es => max (max k.height v.height) (heightEntries es)

end

/-! ## One value -/

/-- Reading takes the header off and goes on with what it announces. -/
theorem unpack?_octets {h : Header} (hw : h.Writable) (levels : Nat) (rest : Bytes) :
    unpack? (levels + 1) (h.octets ++ rest) = readBody? (unpack? levels) rest h := by
  rw [unpack?, Header.read?_octets hw]
  rfl

/-- A value without a body is read back at any depth. -/
theorem unpack?_atom {v : Value} (hw : (Header.atom v).Writable) {levels : Nat} (hl : 0 < levels)
    (rest : Bytes) : unpack? levels (Header.atomOctets v ++ rest) = some (v, rest) := by
  obtain ⟨levels, rfl⟩ := Nat.exists_eq_add_of_lt hl
  exact unpack?_octets hw _ rest

/-! ## All values -/

mutual

/-- A written value reads back, with what follows it. -/
theorem unpack?_pack : (v : Value) → v.Writable → ∀ levels, v.height ≤ levels →
    ∀ rest, unpack? levels (v.pack ++ rest) = some (v, rest)
  | .nil, _, _, hl, rest => unpack?_atom (v := .nil) trivial hl rest
  | .bool b, _, _, hl, rest => unpack?_atom (v := .bool b) trivial hl rest
  | .unsigned n, _, _, hl, rest => unpack?_atom (v := .unsigned n) trivial hl rest
  | .signed n, hw, _, hl, rest => unpack?_atom (v := .signed n) hw hl rest
  | .float32 b, _, _, hl, rest => unpack?_atom (v := .float32 b) trivial hl rest
  | .float64 b, _, _, hl, rest => unpack?_atom (v := .float64 b) trivial hl rest
  -- what has a body takes one level for its header, and its parts get what is left
  | .str b, hw, levels + 1, _, rest => by
    rw [pack, List.append_assoc, unpack?_octets (h := .str b.length) hw, readBody?,
      Bytes.split?_append]
    rfl
  | .bin b, hw, levels + 1, _, rest => by
    rw [pack, List.append_assoc, unpack?_octets (h := .bin b.length) hw, readBody?,
      Bytes.split?_append]
    rfl
  | .ext tag b, hw, levels + 1, _, rest => by
    rw [pack, List.append_assoc, unpack?_octets (h := .ext tag b.length) hw, readBody?,
      Bytes.split?_append]
    rfl
  | .array items, hw, levels + 1, hl, rest => by
    rw [Writable] at hw
    rw [height] at hl
    rw [pack, List.append_assoc, unpack?_octets (h := .array items.length) hw.1, readBody?,
      readMany?_packItems items hw.2 levels (by omega)]
    rfl
  | .map entries, hw, levels + 1, hl, rest => by
    rw [Writable] at hw
    rw [height] at hl
    rw [pack, List.append_assoc, unpack?_octets (h := .map entries.length) hw.1, readBody?,
      readMany?_packEntries entries hw.2 levels (by omega)]
    rfl

/-- Written items read back one after another. -/
theorem readMany?_packItems : (vs : List Value) → WritableItems vs →
    ∀ levels, heightItems vs ≤ levels → ∀ rest,
    readMany? (unpack? levels) vs.length (packItems vs ++ rest) = some (vs, rest)
  | [], _, _, _, _ => rfl
  | v :: vs, hw, levels, hl, rest => by
    rw [WritableItems] at hw
    rw [heightItems] at hl
    -- the first item is followed by the octets of the others
    have hfirst := unpack?_pack v hw.1 levels (by omega) (packItems vs ++ rest)
    have hmore := readMany?_packItems vs hw.2 levels (by omega) rest
    simp only [packItems, List.length_cons, readMany?, List.append_assoc, hfirst, hmore,
      Option.bind_eq_bind, Option.bind_some, Option.pure_def]

/-- Written entries read back one after another. -/
theorem readMany?_packEntries : (es : List (Value × Value)) → WritableEntries es →
    ∀ levels, heightEntries es ≤ levels → ∀ rest,
    readMany? (readKeyed? (unpack? levels)) es.length (packEntries es ++ rest) = some (es, rest)
  | [], _, _, _, _ => rfl
  | (k, v) :: es, hw, levels, hl, rest => by
    rw [WritableEntries] at hw
    rw [heightEntries] at hl
    -- the key is followed by its value, and the value by the other entries
    have hkey := unpack?_pack k hw.1 levels (by omega) (v.pack ++ (packEntries es ++ rest))
    have hvalue := unpack?_pack v hw.2.1 levels (by omega) (packEntries es ++ rest)
    have hmore := readMany?_packEntries es hw.2.2 levels (by omega) rest
    simp only [packEntries, List.length_cons, readMany?, readKeyed?, List.append_assoc, hkey,
      hvalue, hmore, Option.bind_eq_bind, Option.bind_some, Option.pure_def]

end

/-! ## What can be written, and what a reader accepts -/

mutual

/-- What can be written holds no reserved octet. -/
theorem wellFormed_of_writable : (v : Value) → v.Writable → v.wellFormed = true
  | .reserved, h => h.elim
  | .nil, _ | .bool _, _ | .unsigned _, _ | .signed _, _ | .float32 _, _ | .float64 _, _
  | .str _, _ | .bin _, _ | .ext _ _, _ => rfl
  | .array items, h => by
    rw [wellFormed]
    exact wellFormedItems_of_writable items h.2
  | .map entries, h => by
    rw [wellFormed]
    exact wellFormedEntries_of_writable entries h.2

/-- Items that can be written hold no reserved octet. -/
theorem wellFormedItems_of_writable : (vs : List Value) → WritableItems vs →
    wellFormedItems vs = true
  | [], _ => rfl
  | v :: vs, h => by
    rw [wellFormedItems, wellFormed_of_writable v h.1, wellFormedItems_of_writable vs h.2]
    rfl

/-- Entries that can be written hold no reserved octet. -/
theorem wellFormedEntries_of_writable : (es : List (Value × Value)) → WritableEntries es →
    wellFormedEntries es = true
  | [], _ => rfl
  | (k, v) :: es, h => by
    rw [wellFormedEntries, wellFormed_of_writable k h.1, wellFormed_of_writable v h.2.1,
      wellFormedEntries_of_writable es h.2.2]
    rfl

end

mutual

/-- What is open at once is no more than the levels that a reader needs. -/
theorem nesting_le_height : (v : Value) → v.nesting ≤ v.height
  | .reserved | .nil | .bool _ | .unsigned _ | .signed _ | .float32 _ | .float64 _ | .str _
  | .bin _ | .ext _ _ => by simp [nesting, height]
  | .array items => Nat.succ_le_succ (nestingItems_le items)
  | .map entries => Nat.succ_le_succ (nestingEntries_le entries)

/-- What is open at once in some items is no more than the levels that they need. -/
theorem nestingItems_le : (vs : List Value) → nestingItems vs ≤ heightItems vs
  | [] => Nat.le_refl 0
  | v :: vs => by
    -- the items are read one after another, so the highest of them decides on both sides
    have hv := nesting_le_height v
    have hvs := nestingItems_le vs
    rw [nestingItems, heightItems]
    omega

/-- What is open at once in some entries is no more than the levels that they need. -/
theorem nestingEntries_le : (es : List (Value × Value)) → nestingEntries es ≤ heightEntries es
  | [] => Nat.le_refl 0
  | (k, v) :: es => by
    -- a key is read before its value, and neither is open while the other is read
    have hk := nesting_le_height k
    have hv := nesting_le_height v
    have hes := nestingEntries_le es
    rw [nestingEntries, heightEntries]
    omega

end

end FeedNode.MessagePack.Value
