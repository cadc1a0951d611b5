import FeedNode.Proofs.MessagePack.Slots
import Mathlib.Data.List.Forall2

/-!
# What values say

A `Datum` is what a reader makes of a value: a number, a text, octets, a list, or named fields in
the order in which they stand. `Value.datum?` reads it off a value whose maps have text keys and
whose integers have the format of their sign, which are the values that this node writes.

What a value says tells also whether there is room on the wire for it (`Datum.fits`) and how many
levels a reader needs (`Datum.height`).

Main statements:

* `Value.written_of_datum?`: what is said decides whether the value can be written, and how high it
  is.
* `Value.datum?_record`: a record says what its values say, under their names and in order.
-/

namespace FeedNode.MessagePack

/-- What a value says. -/
inductive Datum where
  | nothing
  | flag (b : Bool)
  | number (n : Int)
  | text (s : String)
  | octets (b : Bytes)
  | list (items : List Datum)
  | fields (entries : List (String × Datum))

namespace Datum

/-- The number of an unsigned word. -/
def word (n : UInt64) : Datum :=
  .number n.toNat

/-- Fields in order, without those that are absent. -/
def present (entries : List (String × Option Datum)) : Datum :=
  .fields (entries.filterMap fun (name, d) => d.map fun d => (name, d))

mutual

/-- There is room on the wire for every length in the datum. -/
def fits : Datum → Bool
  | .text s => decide (Text.utf8Length s < 2 ^ 32)
  | .octets b => decide (b.length < 2 ^ 32)
  | .list items => decide (items.length < 2 ^ 32) && fitsItems items
  | .fields entries => decide (entries.length < 2 ^ 32) && fitsEntries entries
  | .nothing | .flag _ | .number _ => true

/-- There is room on the wire for every item. -/
def fitsItems : List Datum → Bool
  | [] => true
  | d :: ds => d.fits && fitsItems ds

/-- There is room on the wire for every name and every value of the entries. -/
def fitsEntries : List (String × Datum) → Bool
  | [] => true
  | (name, d) :: es => decide (Text.utf8Length name < 2 ^ 32) && d.fits && fitsEntries es

end

mutual

/-- How many levels a reader needs. -/
def height : Datum → Nat
  | .list items => heightItems items + 1
  | .fields entries => heightEntries entries + 1
  | .nothing | .flag _ | .number _ | .text _ | .octets _ => 1

/-- The levels that all of the items need. -/
def heightItems : List Datum → Nat
  | [] => 0
  | d :: ds => max d.height (heightItems ds)

/-- The levels that all names and values of the entries need. -/
def heightEntries : List (String × Datum) → Nat
  | [] => 0
  | (_, d) :: es => max (max 1 d.height) (heightEntries es)

end

/-- A word needs one level. -/
@[simp] theorem height_word (n : UInt64) : (word n).height = 1 := rfl

/-- A list is one level higher than its items. -/
theorem height_list_le {ds : List Datum} {n : Nat} (h : ∀ d ∈ ds, d.height ≤ n) :
    (list ds).height ≤ n + 1 := by
  rw [height]
  refine Nat.succ_le_succ ?_
  -- the items need no more than the highest of them
  induction ds with
  | nil => exact Nat.zero_le n
  | cons d ds ih =>
    have hd := h d List.mem_cons_self
    have hmore := ih fun d' hd' => h d' (List.mem_cons_of_mem _ hd')
    rw [heightItems]
    omega

/-- Fields are one level higher than what they say, and than their names. -/
theorem height_fields_le {es : List (String × Datum)} {n : Nat} (hn : 1 ≤ n)
    (h : ∀ e ∈ es, e.2.height ≤ n) : (fields es).height ≤ n + 1 := by
  rw [height]
  refine Nat.succ_le_succ ?_
  induction es with
  | nil => exact Nat.zero_le n
  | cons e es ih =>
    have he := h e List.mem_cons_self
    have hmore := ih fun e' he' => h e' (List.mem_cons_of_mem _ he')
    rw [heightEntries]
    omega

/-- Fields are one level higher than those of them that are there. -/
theorem height_present_le {es : List (String × Option Datum)} {n : Nat} (hn : 1 ≤ n)
    (h : ∀ e ∈ es, ∀ d ∈ e.2, d.height ≤ n) : (present es).height ≤ n + 1 := by
  refine height_fields_le hn fun e he => ?_
  -- what is there comes from a field that says something
  obtain ⟨⟨name, d?⟩, hmem, hd⟩ := List.mem_filterMap.1 he
  obtain ⟨d, hd', rfl⟩ := Option.map_eq_some_iff.1 hd
  exact h _ hmem d hd'

end Datum

namespace Value

mutual

/-- What the value says. -/
def datum? : Value → Option Datum
  | .nil => some .nothing
  | .bool b => some (.flag b)
  | .unsigned n => some (.number n.toNat)
  | .signed n => if n < 0 then some (.number n.toInt) else none
  | .str b => (Text.ofUtf8? b).map .text
  | .bin b => some (.octets b)
  | .array items => (itemData? items).map .list
  | .map entries => (entryData? entries).map .fields
  | .reserved | .float32 _ | .float64 _ | .ext _ _ => none

/-- What the items say. -/
def itemData? : List Value → Option (List Datum)
  | [] => some []
  | v :: vs => do
    let d ← v.datum?
    let ds ← itemData? vs
    return d :: ds

/-- What the entries say, each under its text. -/
def entryData? : List (Value × Value) → Option (List (String × Datum))
  | [] => some []
  | (k, v) :: es => do
    let name ← k.text?
    let d ← v.datum?
    let ds ← entryData? es
    return (name, d) :: ds

end

/-! ## Reading what was written -/

@[simp] theorem datum?_nil : nil.datum? = some .nothing := rfl

@[simp] theorem datum?_bool (b : Bool) : (bool b).datum? = some (.flag b) := rfl

@[simp] theorem datum?_bin (b : Bytes) : (bin b).datum? = some (.octets b) := rfl

/-- A text says its characters. -/
@[simp] theorem datum?_text (s : String) : (text s).datum? = some (.text s) := by
  rw [text, datum?, Text.ofUtf8?_utf8, Option.map_some]

/-- A word says its number. -/
@[simp] theorem datum?_unsigned (n : UInt64) : (unsigned n).datum? = some (.word n) := by
  rw [datum?, Datum.word]

/-- Only nil says nothing. -/
theorem eq_nil_of_datum? {v : Value} (h : v.datum? = some .nothing) : v = .nil := by
  cases v <;> simp [datum?] at h ⊢

/-- An integer of either sign says its number. -/
@[simp] theorem datum?_int (n : Int64) : (int n).datum? = some (.number n.toInt) := by
  have hint := FieldKind.int?_int n
  rw [int] at hint ⊢
  -- a negative integer stands in the format of its sign, any other in that of words
  split at hint <;> rename_i hneg
  · rw [if_pos hneg, datum?, if_pos hneg]
  · rw [if_neg hneg, datum?, Option.some.inj hint]

/-- A list says what its items say. -/
theorem datum?_array_map {α : Type} {write : α → Value} {datum : α → Datum}
    (h : ∀ a, (write a).datum? = some (datum a)) (rows : List α) :
    (array (rows.map write)).datum? = some (.list (rows.map datum)) := by
  -- items are written and read in step
  have hitems : itemData? (rows.map write) = some (rows.map datum) := by
    induction rows with
    | nil => rfl
    | cons a rows ih =>
      simp only [List.map_cons, itemData?, h, ih, Option.bind_eq_bind, Option.bind_some,
        Option.pure_def]
  rw [datum?, hitems, Option.map_some]

/-- The value of a field says what the entry of a datum has under the same name. -/
def Says (f : String × Value) (e : String × Datum) : Prop :=
  f.1 = e.1 ∧ f.2.datum? = some e.2

/-- A record says what its values say, under their names and in order. -/
theorem datum?_record {fields : List (String × Value)} {entries : List (String × Datum)}
    (h : List.Forall₂ Says fields entries) :
    (record fields).datum? = some (.fields entries) := by
  -- the induction is on fields and entries together, which agree one by one
  have hentries : entryData? (fields.map fun f => (.text f.1, f.2)) = some entries := by
    induction h with
    | nil => rfl
    | cons hsaid _ ih =>
      obtain ⟨hname, hdatum⟩ := hsaid
      simp only [List.map_cons, entryData?, text?_text, hname, hdatum, ih, Option.bind_eq_bind,
        Option.bind_some, Option.pure_def]
  exact congrArg (Option.map Datum.fields) hentries

/-! ## What the data tell of the values -/

/-- Items say what the first says and then what the others say. -/
theorem itemData?_cons {v : Value} {vs : List Value} {data : List Datum}
    (h : itemData? (v :: vs) = some data) :
    ∃ d ds, v.datum? = some d ∧ itemData? vs = some ds ∧ data = d :: ds := by
  simp only [itemData?, Option.bind_eq_bind, Option.bind_eq_some_iff, Option.pure_def,
    Option.some.injEq] at h
  obtain ⟨d, hd, ds, hds, rfl⟩ := h
  exact ⟨d, ds, hd, hds, rfl⟩

/-- Entries say what the first says under its text, and then what the others say. -/
theorem entryData?_cons {k v : Value} {es : List (Value × Value)} {data : List (String × Datum)}
    (h : entryData? ((k, v) :: es) = some data) :
    ∃ name d ds, k = text name ∧ v.datum? = some d ∧ entryData? es = some ds ∧
      data = (name, d) :: ds := by
  simp only [entryData?, Option.bind_eq_bind, Option.bind_eq_some_iff, Option.pure_def,
    Option.some.injEq] at h
  obtain ⟨name, hname, d, hd, ds, hds, rfl⟩ := h
  refine ⟨name, d, ds, ?_, hd, hds, rfl⟩
  -- only a text says characters, and these determine it
  cases k with
  | str b => rw [text, ← Text.ofUtf8?_eq_some_iff.1 hname]
  | _ => cases hname

mutual

/-- A value that says something can be written if there is room for what it says, and is as high
as that. -/
theorem written_of_datum? : (v : Value) → {d : Datum} → v.datum? = some d → d.fits = true →
    v.Writable ∧ v.height = d.height
  | .nil, _, h, _ | .bool _, _, h, _ | .unsigned _, _, h, _ => by
    cases h
    exact ⟨trivial, rfl⟩
  | .signed n, _, h, _ => by
    rw [datum?, Option.ite_none_right_eq_some] at h
    obtain ⟨hneg, hd⟩ := h
    cases hd
    exact ⟨hneg, rfl⟩
  | .str b, _, h, hfits => by
    obtain ⟨s, hs, rfl⟩ := Option.map_eq_some_iff.1 h
    -- a text is determined by what it says
    rw [Text.ofUtf8?_eq_some_iff.1 hs]
    exact ⟨writable_text (of_decide_eq_true hfits), rfl⟩
  | .bin b, _, h, hfits => by
    cases h
    have hlen : b.length < 2 ^ 32 := of_decide_eq_true hfits
    exact ⟨hlen, rfl⟩
  | .array items, _, h, hfits => by
    obtain ⟨ds, hds, rfl⟩ := Option.map_eq_some_iff.1 h
    rw [Datum.fits, Bool.and_eq_true, decide_eq_true_iff] at hfits
    obtain ⟨hlen, hw, hheight⟩ := written_of_itemData? items hds hfits.2
    exact ⟨⟨hlen ▸ hfits.1, hw⟩, congrArg (· + 1) hheight⟩
  | .map entries, _, h, hfits => by
    obtain ⟨es, hes, rfl⟩ := Option.map_eq_some_iff.1 h
    rw [Datum.fits, Bool.and_eq_true, decide_eq_true_iff] at hfits
    obtain ⟨hlen, hw, hheight⟩ := written_of_entryData? entries hes hfits.2
    exact ⟨⟨hlen ▸ hfits.1, hw⟩, congrArg (· + 1) hheight⟩

/-- The same of items, of which there are as many as data. -/
theorem written_of_itemData? : (vs : List Value) → {ds : List Datum} → itemData? vs = some ds →
    Datum.fitsItems ds = true →
    ds.length = vs.length ∧ WritableItems vs ∧ heightItems vs = Datum.heightItems ds
  | [], _, h, _ => by
    cases h
    exact ⟨rfl, trivial, rfl⟩
  | v :: vs, _, h, hfits => by
    obtain ⟨d, ds, hd, hds, rfl⟩ := itemData?_cons h
    rw [Datum.fitsItems, Bool.and_eq_true] at hfits
    obtain ⟨hwritable, hheight⟩ := written_of_datum? v hd hfits.1
    obtain ⟨hlen, hmore, hheights⟩ := written_of_itemData? vs hds hfits.2
    refine ⟨congrArg (· + 1) hlen, ⟨hwritable, hmore⟩, ?_⟩
    rw [heightItems, Datum.heightItems, hheight, hheights]

/-- The same of entries. -/
theorem written_of_entryData? : (es : List (Value × Value)) → {ds : List (String × Datum)} →
    entryData? es = some ds → Datum.fitsEntries ds = true →
    ds.length = es.length ∧ WritableEntries es ∧ heightEntries es = Datum.heightEntries ds
  | [], _, h, _ => by
    cases h
    exact ⟨rfl, trivial, rfl⟩
  | (k, v) :: es, _, h, hfits => by
    obtain ⟨name, d, ds, rfl, hd, hds, rfl⟩ := entryData?_cons h
    simp only [Datum.fitsEntries, Bool.and_eq_true, decide_eq_true_iff] at hfits
    obtain ⟨⟨hname, hfits⟩, hmoreFits⟩ := hfits
    obtain ⟨hwritable, hheight⟩ := written_of_datum? v hd hfits
    obtain ⟨hlen, hmore, hheights⟩ := written_of_entryData? es hds hmoreFits
    refine ⟨congrArg (· + 1) hlen, ⟨writable_text hname, hwritable, hmore⟩, ?_⟩
    rw [heightEntries, Datum.heightEntries, height_text, hheight, hheights]

end

end Value

end FeedNode.MessagePack
