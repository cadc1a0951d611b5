import FeedNode.MessagePack.Record
import FeedNode.Proofs.MessagePack.ValueRoundTrip

/-!
# Records read back

A row that is written as a map is found again field by field: every slot of the record holds the
value of its own field, and reading it by the field's kind gives the field back.

Main statements:

* `Value.slots?_record`: the slots of a written record are its values, in order.
* `Layout.read?_write`: reading a written row gives the row.
* `Layout.writable_write`: a row whose texts and octets fit can be written.
-/

namespace FeedNode

namespace MessagePack

/-! ## Finding the fields of a map -/

namespace Value

/-- The entries of a record under field keys, as a reader sees them. -/
def named (fields : List (String × Value)) : List (FieldKey × Value) :=
  fields.map fun (name, v) => (.name (Text.utf8 name), v)

/-- The key of a field is its name. -/
theorem fieldKey?_text (s : String) : (text s).fieldKey? = some (.name (Text.utf8 s)) := rfl

/-- A text has no parts. -/
theorem height_text (s : String) : (text s).height = 1 := by
  simp [text, height]

/-- The entries of a record are its fields, each under its name. -/
theorem keyedEntries?_record {fields : List (String × Value)}
    (hwf : ∀ f ∈ fields, f.2.wellFormed = true) :
    keyedEntries? (fields.map fun (name, v) => (.text name, v)) = some (named fields) := by
  induction fields with
  | nil => rfl
  | cons f fields ih =>
    obtain ⟨name, v⟩ := f
    have hv : v.wellFormed = true := hwf (name, v) List.mem_cons_self
    have hmore := ih fun f hf => hwf f (List.mem_cons_of_mem _ hf)
    simp only [keyedEntries?] at hmore
    simp only [keyedEntries?, List.map_cons, List.mapM_cons, hv, hmore, if_true, fieldKey?_text,
      named, Option.map_some, Option.bind_eq_bind, Option.bind_some, Option.pure_def]

/-- Among the entries of a record those that a name selects are the fields of this name. -/
theorem filter_selects_named (fields : List (String × Value)) (name : String) (position : Nat) :
    (named fields).filter (fun (key, _) => key.selects name position) =
      named (fields.filter fun f => f.1 == name) := by
  -- keys are compared as octets, and no two names have the same
  have hsel (t : String) : (Text.utf8 t == Text.utf8 name) = (t == name) := by
    rw [Bool.eq_iff_iff, beq_iff_eq, beq_iff_eq]
    exact ⟨Text.utf8_injective, congrArg _⟩
  induction fields with
  | nil => rfl
  | cons f fields ih =>
    simp only [named, List.map_cons, List.filter_cons, FieldKey.selects, hsel] at ih ⊢
    split
    · rw [List.map_cons, ih]
    · exact ih

/-- Where no field has the name, none is found. -/
theorem filter_fst_eq_nil {fields : List (String × Value)} {name : String}
    (h : ∀ f ∈ fields, f.1 ≠ name) : fields.filter (fun f => f.1 == name) = [] := by
  rw [List.filter_eq_nil_iff]
  intro f hf hname
  exact h f hf (beq_iff_eq.1 hname)

/-- Of fields with distinct names, one is found under each name. -/
theorem filter_fst_eq {fields : List (String × Value)} (hnd : (fields.map Prod.fst).Nodup)
    {name : String} {v : Value} (hmem : (name, v) ∈ fields) :
    fields.filter (fun f => f.1 == name) = [(name, v)] := by
  induction fields with
  | nil => simp at hmem
  | cons f fields ih =>
    rw [List.map_cons, List.nodup_cons] at hnd
    cases List.mem_cons.1 hmem with
    | inl hf =>
      -- the field stands here, and no later one has its name
      subst hf
      have hother : ∀ g ∈ fields, g.1 ≠ name := by
        intro g hg hname
        exact hnd.1 (List.mem_map.2 ⟨g, hg, hname⟩)
      rw [List.filter_cons, if_pos (beq_self_eq_true name), filter_fst_eq_nil hother]
    | inr hlater =>
      -- the field stands further back, so that this one has another name
      have hne : f.1 ≠ name := by
        intro heq
        exact hnd.1 (List.mem_map.2 ⟨(name, v), hlater, heq.symm⟩)
      rw [List.filter_cons, if_neg (by simpa using hne), ih hnd.2 hlater]

/-- The only value under the name of a field is the field's. -/
theorem onlyValue?_named {fields : List (String × Value)} (hnd : (fields.map Prod.fst).Nodup)
    {name : String} {v : Value} (hmem : (name, v) ∈ fields) (position : Nat) :
    onlyValue? (named fields) name position = some (some v) := by
  rw [onlyValue?, filter_selects_named, filter_fst_eq hnd hmem]
  rfl

/-- Names that are looked up one after another among fields with distinct names. -/
theorem mapM_onlyValue?_named {fields wanted : List (String × Value)}
    (hnd : (fields.map Prod.fst).Nodup) (hsub : ∀ f ∈ wanted, f ∈ fields) (start : Nat) :
    (((wanted.map Prod.fst).zipIdx start).mapM fun (name, position) =>
      onlyValue? (named fields) name position) = some (wanted.map fun f => some f.2) := by
  induction wanted generalizing start with
  | nil => rfl
  | cons f wanted ih =>
    -- the first name is looked up, and then the others, all among the same fields
    have hfirst := onlyValue?_named hnd (hsub f List.mem_cons_self) start
    have hmore := ih (fun g hg => hsub g (List.mem_cons_of_mem _ hg)) (start + 1)
    simp only [List.map_cons, List.zipIdx_cons, List.mapM_cons, hfirst, hmore, Option.bind_eq_bind,
      Option.bind_some, Option.pure_def]

/-- The slots of some fields of a written record are their values. -/
theorem slots?_record (fields wanted : List (String × Value))
    (hwf : ∀ f ∈ fields, f.2.wellFormed = true) (hnd : (fields.map Prod.fst).Nodup)
    (hsub : ∀ f ∈ wanted, f ∈ fields) :
    (record fields).slots? (wanted.map Prod.fst) = some (wanted.map fun f => some f.2) := by
  rw [record, slots?, keyedEntries?_record hwf]
  exact mapM_onlyValue?_named hnd hsub 0

/-- A text that fits can be written. -/
theorem writable_text {s : String} (h : Text.utf8Length s < 2 ^ 32) : (text s).Writable := by
  show (Text.utf8 s).length < 2 ^ 32
  rwa [Text.length_utf8]

/-- A record can be written if its names and values can. -/
theorem writable_record {fields : List (String × Value)} (hlen : fields.length < 2 ^ 32)
    (hname : ∀ f ∈ fields, Text.utf8Length f.1 < 2 ^ 32) (hval : ∀ f ∈ fields, f.2.Writable) :
    (record fields).Writable := by
  refine ⟨by simpa using hlen, ?_⟩
  -- the number of fields is bounded once and for all, not by the induction
  clear hlen
  induction fields with
  | nil => trivial
  | cons f fields ih =>
    refine ⟨writable_text (hname f List.mem_cons_self), hval f List.mem_cons_self, ?_⟩
    exact ih (fun g hg => hname g (List.mem_cons_of_mem _ hg))
        (fun g hg => hval g (List.mem_cons_of_mem _ hg))

/-- A record is one level higher than its values. -/
theorem height_record_le {fields : List (String × Value)} {n : Nat} (hn : 1 ≤ n)
    (h : ∀ f ∈ fields, f.2.height ≤ n) : (record fields).height ≤ n + 1 := by
  rw [record, height]
  refine Nat.succ_le_succ ?_
  induction fields with
  | nil => exact Nat.zero_le n
  | cons f fields ih =>
    -- the name of a field has one level, and its value no more than all values
    have hf := h f List.mem_cons_self
    have hmore := ih fun g hg => h g (List.mem_cons_of_mem _ hg)
    rw [List.map_cons, heightEntries, height_text]
    omega

/-- A record is well formed if its values are. -/
theorem wellFormed_record {fields : List (String × Value)}
    (hwf : ∀ f ∈ fields, f.2.wellFormed = true) : (record fields).wellFormed = true := by
  rw [record, wellFormed]
  induction fields with
  | nil => rfl
  | cons f fields ih =>
    have hmore := ih fun g hg => hwf g (List.mem_cons_of_mem _ hg)
    rw [List.map_cons, wellFormedEntries, hwf f List.mem_cons_self, hmore]
    rfl

end Value

/-! ## Fields -/

namespace FieldKind

/-- There is room on the wire for the length of the value. -/
def Fits : (kind : FieldKind) → kind.Carrier → Prop
  | .text, s => Text.utf8Length s < 2 ^ 32
  | .octets, b => b.length < 2 ^ 32
  | .unsigned, _ | .signed, _ => True

instance : (kind : FieldKind) → (x : kind.Carrier) → Decidable (kind.Fits x)
  | .text, s => inferInstanceAs (Decidable (Text.utf8Length s < 2 ^ 32))
  | .octets, b => inferInstanceAs (Decidable (b.length < 2 ^ 32))
  | .unsigned, _ | .signed, _ => inferInstanceAs (Decidable True)

/-- An integer of either sign has its number. -/
theorem int?_int (n : Int64) : (Value.int n).int? = some n.toInt := by
  rw [Value.int]
  split
  · rfl
  · rename_i hneg
    have hpos : 0 ≤ n.toInt := by
      rw [Int64.lt_iff_toInt_lt] at hneg
      exact Int.not_lt.1 hneg
    -- a number that is not negative is its own word
    have hword : n.toInt = Int.bmod n.toUInt64.toNat (2 ^ 64) :=
      BitVec.toInt_eq_toNat_bmod n.toBitVec
    have hlt := n.toUInt64.toNat_lt
    simp only [Int.bmod] at hword
    rw [Value.int?, Option.some_inj]
    split at hword <;> omega

/-- A signed field reads its integer back. -/
theorem signed?_int (n : Int64) : (Value.int n).signed? = some n := by
  have hlo := n.le_toInt
  have hhi := n.toInt_lt
  have hmin : Int64.minValue.toInt = -2 ^ 63 := rfl
  have hmax : Int64.maxValue.toInt = 2 ^ 63 - 1 := rfl
  rw [Value.signed?, int?_int, Option.bind_some, if_pos (by omega), Int64.ofInt_toInt]

/-- An unsigned field reads its word back. -/
theorem unsigned?_unsigned (n : UInt64) : (Value.unsigned n).unsigned? = some n := by
  have hlt : (n.toNat : Int) < UInt64.size := by exact_mod_cast n.toNat_lt
  rw [Value.unsigned?, Value.int?, Option.bind_some, if_pos ⟨by omega, hlt⟩, Int.toNat_natCast,
    UInt64.ofNat_toNat]

/-- A written field reads back by its kind. -/
theorem read?_write (kind : FieldKind) (x : kind.Carrier) : kind.read? (kind.write x) = some x := by
  cases kind with
  | text => exact Text.ofUtf8?_utf8 x
  | unsigned => exact unsigned?_unsigned x
  | signed => exact signed?_int x
  | octets => rfl

/-- What a field writes is well formed. -/
theorem wellFormed_write (kind : FieldKind) (x : kind.Carrier) :
    (kind.write x).wellFormed = true := by
  cases kind with
  | signed =>
    simp only [write, Value.int]
    split <;> simp [Value.wellFormed]
  | _ => simp [write, Value.text, Value.wellFormed]

/-- What a field writes has no parts. -/
theorem height_write (kind : FieldKind) (x : kind.Carrier) : (kind.write x).height = 1 := by
  cases kind with
  | signed =>
    simp only [write, Value.int]
    split <;> simp [Value.height]
  | _ => simp [write, Value.text, Value.height]

/-- What a field writes can be written out if it fits. -/
theorem writable_write {kind : FieldKind} {x : kind.Carrier} (h : kind.Fits x) :
    (kind.write x).Writable := by
  cases kind with
  | text => exact Value.writable_text h
  | unsigned => trivial
  | signed =>
    -- a negative integer stands in the format that its sign asks for
    simp only [write, Value.int]
    split
    · rename_i hneg
      exact hneg
    · trivial
  | octets => exact h

end FieldKind

/-! ## Rows -/

namespace Layout

/-- There is room on the wire for the length of every value of the row. -/
def Fits : (l : Layout) → l.Row → Prop
  | [], _ => True
  | f :: fs, (x, xs) => f.kind.Fits x ∧ Fits fs xs

instance decidableFits : (l : Layout) → (row : l.Row) → Decidable (l.Fits row)
  | [], _ => inferInstanceAs (Decidable True)
  | f :: fs, (x, xs) =>
    have := decidableFits fs xs
    inferInstanceAs (Decidable (f.kind.Fits x ∧ Fits fs xs))

/-- There is room for two rows, one behind the other, if there is room for each. -/
theorem fits_append {l m : Layout} {r : l.Row} {s : m.Row} :
    (l ++ m).Fits (append r s) ↔ l.Fits r ∧ m.Fits s := by
  induction l with
  | nil => exact (iff_of_eq (true_and _)).symm
  | cons f fs ih =>
    obtain ⟨x, xs⟩ := r
    exact (and_congr_right fun _ => ih).trans and_assoc.symm

/-- The names in a written row are those of its layout. -/
theorem fst_fields (l : Layout) (row : l.Row) : (l.fields row).map Prod.fst = l.names := by
  induction l with
  | nil => rfl
  | cons f fs ih =>
    obtain ⟨x, xs⟩ := row
    rw [fields, List.map_cons, ih]
    rfl

/-- What holds of every field's value holds of every value that is written. -/
theorem forall_mem_fields (p : Value → Prop)
    (hp : ∀ (kind : FieldKind) (x : kind.Carrier), p (kind.write x)) (l : Layout) (row : l.Row) :
    ∀ f ∈ l.fields row, p f.2 := by
  induction l with
  | nil => simp [fields]
  | cons f fs ih =>
    -- the first field, and then those behind it
    obtain ⟨x, xs⟩ := row
    rw [fields, List.forall_mem_cons]
    exact ⟨hp f.kind x, ih xs⟩

/-- The values of a row that fits can be written. -/
theorem writable_fields {l : Layout} {row : l.Row} (h : l.Fits row) :
    ∀ f ∈ l.fields row, f.2.Writable := by
  induction l with
  | nil => simp [fields]
  | cons f fs ih =>
    obtain ⟨x, xs⟩ := row
    rw [fields, List.forall_mem_cons]
    exact ⟨FieldKind.writable_write h.1, ih h.2⟩

/-- The slots of a written row read back as the row, each by the kind of its field. -/
theorem readSlots?_fields (l : Layout) (row : l.Row) :
    l.readSlots? ((l.fields row).map fun f => some f.2) = some row := by
  induction l with
  | nil => rfl
  | cons f fs ih =>
    obtain ⟨x, xs⟩ := row
    simp only [fields, List.map_cons, readSlots?, FieldKind.read?_write, ih, Option.bind_eq_bind,
      Option.bind_some, Option.pure_def]

/-- A written row reads back. -/
theorem read?_write {l : Layout} (hnd : l.names.Nodup) (row : l.Row) :
    l.read? (l.write row) = some row := by
  have hwf := forall_mem_fields (·.wellFormed = true) FieldKind.wellFormed_write l row
  have hslots :=
    -- every value of the row stands in the slot of its own field
    Value.slots?_record (l.fields row) (l.fields row) hwf (by rwa [fst_fields]) fun _ hf => hf
  rw [fst_fields] at hslots
  rw [read?, write, hslots, Option.bind_some, readSlots?_fields]

/-- A written row is well formed. -/
theorem wellFormed_write (l : Layout) (row : l.Row) : (l.write row).wellFormed = true :=
  Value.wellFormed_record
    (forall_mem_fields (·.wellFormed = true) FieldKind.wellFormed_write l row)

/-- A written row has two levels: the record, and the values in it. -/
theorem height_write_le (l : Layout) (row : l.Row) : (l.write row).height ≤ 2 := by
  refine Value.height_record_le (Nat.le_refl 1) (forall_mem_fields (·.height ≤ 1) ?_ l row)
  intro kind x
  exact Nat.le_of_eq (FieldKind.height_write kind x)

/-- A written row can be written out if it fits and its names do. -/
theorem writable_write {l : Layout} (hlen : l.length < 2 ^ 32)
    (hname : ∀ name ∈ l.names, Text.utf8Length name < 2 ^ 32) {row : l.Row} (h : l.Fits row) :
    (l.write row).Writable := by
  have hnames := fst_fields l row
  refine Value.writable_record ?_ ?_ (writable_fields h)
  · -- there are as many fields as the layout has
    have hlength := congrArg List.length hnames
    rw [List.length_map, names, List.length_map] at hlength
    rwa [hlength]
  · intro f hf
    apply hname
    rw [← hnames]
    exact List.mem_map_of_mem hf

end Layout

end MessagePack

end FeedNode
