import FeedNode.MessagePack.Codec

/-!
# Where a reading stops

The octets of a value say themselves where it ends: a length or a count stands in front of every
body, and whatever follows the value is neither looked at nor needed. A reading with this property
is `SelfDelimiting`; it is kept by reading one thing after another, so that it climbs from single
headers to whole values.

Main statements:

* `Value.selfDelimiting_unpack?`: what a value is does not depend on what follows it.
* `SelfDelimiting.eq_none`: octets that are cut short anywhere are not read at all.
-/

namespace FeedNode.MessagePack

/-- What the reading finds, and where it stops, does not depend on what follows. -/
def SelfDelimiting {α : Type} (read : Bytes → Option (α × Bytes)) : Prop :=
  ∀ ⦃s x rest⦄, read s = some (x, rest) → ∀ t, read (s ++ t) = some (x, rest ++ t)

namespace SelfDelimiting

variable {α β : Type} {read : Bytes → Option (α × Bytes)}

/-- Octets that are all needed for what is read in them are not read without the last of them. -/
theorem eq_none (h : SelfDelimiting read) {p q : Bytes} {x : α}
    (hread : read (p ++ q) = some (x, [])) (hq : q ≠ []) : read p = none := by
  cases hp : read p with
  | none => rfl
  | some found =>
    obtain ⟨y, rest⟩ := found
    -- what was read in the front part would leave the octets behind it over
    have hmore := h hp q
    rw [hread] at hmore
    simp only [Option.some.injEq, Prod.mk.injEq, List.nil_eq, List.append_eq_nil_iff] at hmore
    exact absurd hmore.2.2 hq

/-- Nothing is needed for what is there without reading. -/
theorem pure (x : α) : SelfDelimiting fun s => some (x, s) := by
  intro s y rest h t
  simp only [Option.some.injEq, Prod.mk.injEq] at h ⊢
  obtain ⟨rfl, rfl⟩ := h
  exact ⟨rfl, rfl⟩

/-- What is found may be turned into something else. -/
theorem map (h : SelfDelimiting read) (f : α → β) :
    SelfDelimiting fun s => (read s).map fun (x, rest) => (f x, rest) := by
  intro s y rest hs t
  obtain ⟨⟨x, rest'⟩, hx, heq⟩ := Option.map_eq_some_iff.1 hs
  simp only [Prod.mk.injEq] at heq
  obtain ⟨rfl, rfl⟩ := heq
  simp only [h hx t, Option.map_some]

/-- One reading after another, where the second may depend on what the first one found. -/
theorem bind {next : α → Bytes → Option (β × Bytes)} (h : SelfDelimiting read)
    (hnext : ∀ x, SelfDelimiting (next x)) :
    SelfDelimiting fun s => (read s).bind fun (x, rest) => next x rest := by
  intro s y rest hs t
  obtain ⟨⟨x, rest'⟩, hx, hy⟩ := Option.bind_eq_some_iff.1 hs
  simp only [h hx t, Option.bind_some]
  exact hnext x hy t

/-- One of two readings, by a condition that is known beforehand. -/
theorem ite (c : Prop) [Decidable c] {read' : Bytes → Option (α × Bytes)}
    (h : SelfDelimiting read) (h' : SelfDelimiting read') :
    SelfDelimiting fun s => if c then read s else read' s := by
  by_cases hc : c
  · simpa [hc] using h
  · simpa [hc] using h'

/-- So many octets are taken off whatever stands behind them. -/
theorem split? (n : Nat) : SelfDelimiting (Bytes.split? n) := by
  intro s front rest h t
  obtain ⟨rfl, hlen⟩ := Bytes.split?_eq_some_iff.1 h
  rw [Bytes.split?_eq_some_iff, List.append_assoc]
  exact ⟨rfl, hlen⟩

/-- A number of so many octets is read whatever stands behind it. -/
theorem readNat? (width : Nat) : SelfDelimiting (Bytes.readNat? width) :=
  (split? width).map Bytes.toNatBE

end SelfDelimiting

open SelfDelimiting

/-! ## Headers -/

namespace Header

/-- A number behind a format octet says itself where it ends. -/
theorem selfDelimiting_readSized? (width : Nat) (make : Nat → Header) :
    SelfDelimiting (readSized? width make) :=
  (readNat? width).map make

/-- The type of an extension is one octet. -/
theorem selfDelimiting_readTag? (length : Nat) : SelfDelimiting (readTag? length) := by
  intro s header rest h t
  cases s with
  | nil => simp [readTag?] at h
  | cons tag s =>
    simp only [readTag?, Option.some.injEq, Prod.mk.injEq] at h
    obtain ⟨rfl, rfl⟩ := h
    rfl

/-- The length of an extension and its type say themselves where they end. -/
theorem selfDelimiting_readExt? (width : Nat) : SelfDelimiting (readExt? width) :=
  (readNat? width).bind selfDelimiting_readTag?

/-- What stands behind a format octet says itself where it ends. -/
theorem selfDelimiting_readFormat? (format : UInt8) : SelfDelimiting (readFormat? format) := by
  unfold readFormat?
  -- every format is a value on its own, a number of some width, or the start of an extension
  split
  all_goals
    first
    | exact .pure _
    | exact selfDelimiting_readSized? _ _
    | exact selfDelimiting_readTag? _
    | exact selfDelimiting_readExt? _

/-- A header says itself where it ends. -/
theorem selfDelimiting_read? : SelfDelimiting read? := by
  intro s header rest h t
  cases s with
  | nil => simp [read?] at h
  | cons first s =>
    -- the first octet decides, whatever stands behind it
    have hbehind : SelfDelimiting fun s => read? (first :: s) :=
      .ite _ (.pure _) (.ite _ (.pure _) (.ite _ (.pure _) (.ite _ (.pure _) (.ite _ (.pure _)
        (selfDelimiting_readFormat? first)))))
    exact hbehind h t

end Header

/-! ## Values -/

namespace Value

/-- So many things of one kind say themselves where they end, if one does. -/
theorem selfDelimiting_readMany? {α : Type} {item : Bytes → Option (α × Bytes)}
    (h : SelfDelimiting item) (count : Nat) : SelfDelimiting (readMany? item count) := by
  induction count with
  | zero => exact .pure []
  | succ count ih => exact h.bind fun x => ih.bind fun xs => .pure (x :: xs)

/-- A key and its value say themselves where they end, if values do. -/
theorem selfDelimiting_readKeyed? {item : Bytes → Option (Value × Bytes)}
    (h : SelfDelimiting item) : SelfDelimiting (readKeyed? item) :=
  h.bind fun k => h.bind fun v => .pure (k, v)

/-- The body that a header announces says itself where it ends, if its parts do. -/
theorem selfDelimiting_readBody? {item : Bytes → Option (Value × Bytes)}
    (h : SelfDelimiting item) (header : Header) :
    SelfDelimiting fun s => readBody? item s header := by
  cases header with
  | atom v => exact .pure v
  | str n => exact (SelfDelimiting.split? n).map Value.str
  | bin n => exact (SelfDelimiting.split? n).map Value.bin
  | ext tag n => exact (SelfDelimiting.split? n).map (Value.ext tag)
  | array n => exact (selfDelimiting_readMany? h n).map Value.array
  | map n => exact (selfDelimiting_readMany? (selfDelimiting_readKeyed? h) n).map Value.map

/-- A value is read in the same way whatever follows it. -/
theorem selfDelimiting_unpack? (levels : Nat) : SelfDelimiting (unpack? levels) := by
  induction levels with
  -- without a level nothing is read
  | zero =>
    intro s v rest h
    cases h
  -- a header says what its body is read as, and the body is one level deeper
  | succ levels ih => exact Header.selfDelimiting_read?.bind (selfDelimiting_readBody? ih)

end Value

end FeedNode.MessagePack
