import FeedNode.Proofs.MessagePack.RecordRoundTrip

/-!
# What stands in the slots of a record

A reader finds under each name what a look-up among the written fields gives
(`slots?_record_lookup`). What it finds in the slots of a record does not depend on the order of its
entries, nor on entries with names that are none of the record's (`slots?_scattered`). And where one
slot is left open, by name, by number or by its place in an array, what is read of the record
depends on the value put there only through what its field reads of it (`Layout.read?_hole`).
-/

namespace FeedNode.MessagePack

/-! ## Entries in any order -/

/-- All elements are mapped, or there is none to show. -/
theorem mapM_eq_filterMap {α β : Type} (f : α → Option β) (l : List α) :
    l.mapM f = if ∀ x ∈ l, (f x).isSome then some (l.filterMap f) else none := by
  induction l with
  | nil => simp
  | cons x l ih =>
    rw [List.mapM_cons, ih]
    cases hx : f x with
    | none => simp [hx]
    | some y =>
      -- the first element is mapped, so it is the others that decide
      simp only [Option.bind_eq_bind, Option.bind_some, List.forall_mem_cons, hx,
        Option.isSome_some, true_and, List.filterMap_cons]
      split <;> rfl

/-- Elements that are mapped alike give the same. -/
theorem mapM_congr {α β : Type} {f g : α → Option β} {l : List α} (h : ∀ x ∈ l, f x = g x) :
    l.mapM f = l.mapM g := by
  induction l with
  | nil => rfl
  | cons x l ih =>
    rw [List.mapM_cons, List.mapM_cons, h x List.mem_cons_self,
      ih fun y hy => h y (List.mem_cons_of_mem _ hy)]

/-- As many are shown as there are elements. -/
theorem length_of_mapM {α β : Type} {f : α → Option β} {l : List α} {ys : List β}
    (h : l.mapM f = some ys) : ys.length = l.length := by
  rw [mapM_eq_filterMap] at h
  split at h
  · -- none was left out
    rename_i hall
    rw [← Option.some.inj h, List.filterMap_length_eq_length]
    exact hall
  · cases h

namespace Value

variable {names : List String} {entries : List (Value × Value)}

/-- An entry under its field key, if the key names a field and the value is well formed. -/
def keyed? (e : Value × Value) : Option (FieldKey × Value) :=
  if e.2.wellFormed then e.1.fieldKey?.map fun key => (key, e.2) else none

/-- The entries under field keys are all there, or there are none. -/
theorem keyedEntries?_eq (entries : List (Value × Value)) :
    keyedEntries? entries =
      if ∀ e ∈ entries, (keyed? e).isSome then some (entries.filterMap keyed?) else none :=
  mapM_eq_filterMap keyed? entries

/-- A value that is given once is found wherever it stands. -/
theorem onlyValue?_perm {keyed keyed' : List (FieldKey × Value)} (h : keyed.Perm keyed')
    (name : String) (position : Nat) :
    onlyValue? keyed name position = onlyValue? keyed' name position := by
  rw [onlyValue?, onlyValue?]
  generalize hfound : keyed.filter _ = found
  generalize hfound' : keyed'.filter _ = found'
  have hfilter : found.Perm found' := by
    rw [← hfound, ← hfound']
    exact h.filter _
  rcases found with _ | ⟨e, _ | ⟨e', found⟩⟩
  · -- no value
    rw [hfilter.nil_eq]
  · -- one value, which is the same in either order
    rw [List.singleton_perm.1 hfilter]
  · -- of several values in one order there are several in the other
    have hlen := hfilter.length_eq
    rcases found' with _ | ⟨e₁, _ | ⟨e₂, found'⟩⟩
    · cases hlen
    · simp at hlen
    · rfl

/-- What is found in the slots does not depend on the order of the entries. -/
theorem slots?_perm {entries' : List (Value × Value)} (h : entries.Perm entries') :
    slots? names (.map entries) = slots? names (.map entries') := by
  have hall : (∀ e ∈ entries, (keyed? e).isSome) ↔ ∀ e ∈ entries', (keyed? e).isSome := by
    simp only [h.mem_iff]
  simp only [slots?, keyedEntries?_eq, hall]
  split
  · refine mapM_congr ?_
    rintro ⟨name, position⟩ -
    -- each slot shows the only value under its name
    exact onlyValue?_perm (h.filterMap keyed?) name position
  · rfl

/-- Items are well formed if each of them is. -/
theorem wellFormedItems_eq_all (vs : List Value) : wellFormedItems vs = vs.all wellFormed := by
  induction vs with
  | nil => rfl
  | cons v vs ih => rw [wellFormedItems, ih, List.all_cons]

/-- Entries are well formed if each key and each value is. -/
theorem wellFormedEntries_eq_all (es : List (Value × Value)) :
    wellFormedEntries es = es.all fun e => e.1.wellFormed && e.2.wellFormed := by
  induction es with
  | nil => rfl
  | cons e es ih => rw [wellFormedEntries, ih, List.all_cons]

/-- Nothing is found in entries where a value is ill formed. -/
theorem slots?_of_not_wellFormed {e : Value × Value} (hmem : e ∈ entries)
    (he : e.2.wellFormed = false) : slots? names (.map entries) = none := by
  have hnone : ¬∀ e ∈ entries, (keyed? e).isSome := by
    intro h
    have hsome := h e hmem
    simp [keyed?, he] at hsome
  rw [slots?, keyedEntries?_eq, if_neg hnone]
  rfl

/-! ## Fields looked up by name -/

/-- A look-up by name among fields finds what stands under the name, if anything does. -/
theorem onlyValue?_named_lookup {fields : List (String × Value)}
    (hnd : (fields.map Prod.fst).Nodup) (name : String) (position : Nat) :
    onlyValue? (named fields) name position = some (fields.lookup name) := by
  cases hlookup : fields.lookup name with
  | none =>
    -- no field has the name
    have hother : ∀ f ∈ fields, f.1 ≠ name := by
      intro f hf
      have hne := List.lookup_eq_none_iff.1 hlookup f hf
      exact (bne_iff_ne.1 hne).symm
    rw [onlyValue?, filter_selects_named, filter_fst_eq_nil hother]
    rfl
  | some v =>
    -- a field with the name, which is the only one
    obtain ⟨before, after, rfl, -⟩ := List.lookup_eq_some_iff.1 hlookup
    exact onlyValue?_named hnd (by simp) position

/-- What stands in a record that is well formed is well formed. -/
theorem wellFormed_of_mem_record {fields : List (String × Value)}
    (h : (record fields).wellFormed = true) : ∀ f ∈ fields, f.2.wellFormed = true := by
  rw [record, wellFormed, wellFormedEntries_eq_all, List.all_map, List.all_eq_true] at h
  intro f hf
  have hentry : ((text f.1).wellFormed && f.2.wellFormed) = true := h f hf
  exact (Bool.and_eq_true_iff.1 hentry).2

/-- The slots of a written record are what is found under the names, if anything is. -/
theorem slots?_record_lookup {fields : List (String × Value)}
    (hwf : (record fields).wellFormed = true) (hnd : (fields.map Prod.fst).Nodup) :
    (record fields).slots? names = some (names.map fun name => fields.lookup name) := by
  have hslots : names.zipIdx.mapM (fun slot => onlyValue? (named fields) slot.1 slot.2) =
      names.zipIdx.mapM fun slot => some (fields.lookup slot.1) :=
    mapM_congr fun slot _ => onlyValue?_named_lookup hnd slot.1 slot.2
  have hnames : names.zipIdx.map (fun slot => fields.lookup slot.1) =
      (names.zipIdx.map Prod.fst).map fun name => fields.lookup name := by
    rw [List.map_map, Function.comp_def]
  -- slot by slot it is a look-up by name, and the position of a slot has no part in it
  rw [record, slots?, keyedEntries?_record (wellFormed_of_mem_record hwf)]
  refine hslots.trans ?_
  rw [← Option.pure_def, List.mapM_pure, hnames, List.zipIdx_map_fst]
  rfl

/-! ## Entries among others -/

/-- The entries are those of a record in any order, among others under names that are none of
`known`. -/
def Scattered (known : List String) (fields : List (String × Value))
    (entries : List (Value × Value)) : Prop :=
  ∃ extra : List (String × Value),
    entries.Perm ((fields ++ extra).map fun (name, v) => (.text name, v)) ∧
      ∀ f ∈ extra, f.1 ∉ known ∧ f.2.wellFormed = true

namespace Scattered

variable {known : List String} {fields : List (String × Value)}

/-- The entries of a record are its own, with no others among them. -/
theorem refl (known : List String) (fields : List (String × Value)) :
    Scattered known fields (fields.map fun (name, v) => (.text name, v)) :=
  ⟨[], by rw [List.append_nil], by simp⟩

/-- If the fields are well formed, all the entries are. -/
theorem exists_extra (h : Scattered known fields entries)
    (hwf : ∀ f ∈ fields, f.2.wellFormed = true) :
    ∃ extra : List (String × Value),
      entries.Perm ((fields ++ extra).map fun (name, v) => (.text name, v)) ∧
        (∀ f ∈ fields ++ extra, f.2.wellFormed = true) ∧ ∀ f ∈ extra, f.1 ∉ known := by
  obtain ⟨extra, hperm, hextra⟩ := h
  refine ⟨extra, hperm, ?_, fun f hf => (hextra f hf).1⟩
  intro f hf
  rcases List.mem_append.1 hf with hfield | hmore
  · exact hwf f hfield
  · exact (hextra f hmore).2

/-- The entries are well formed if the fields are. -/
theorem wellFormed (h : Scattered known fields entries)
    (hwf : ∀ f ∈ fields, f.2.wellFormed = true) : (map entries).wellFormed = true := by
  obtain ⟨extra, hperm, hall, -⟩ := h.exists_extra hwf
  rw [Value.wellFormed, wellFormedEntries_eq_all, hperm.all_eq, List.all_map, List.all_eq_true]
  intro f hf
  simp [hall f hf, text, Value.wellFormed]

end Scattered

/-- A value under another name is not found. -/
theorem onlyValue?_named_append {name : String} {fields extra : List (String × Value)}
    (h : ∀ f ∈ extra, f.1 ≠ name) (position : Nat) :
    onlyValue? (named (fields ++ extra)) name position =
      onlyValue? (named fields) name position := by
  rw [onlyValue?, onlyValue?, filter_selects_named, filter_selects_named, List.filter_append,
    filter_fst_eq_nil h, List.append_nil]

/-- Entries under other names, and the order of all, have no part in what is found. -/
theorem slots?_scattered {known : List String} {fields : List (String × Value)}
    (h : Scattered known fields entries) (hsub : names ⊆ known)
    (hwf : ∀ f ∈ fields, f.2.wellFormed = true) :
    slots? names (.map entries) = slots? names (record fields) := by
  obtain ⟨extra, hperm, hall, hextra⟩ := h.exists_extra hwf
  rw [slots?_perm hperm, record]
  simp only [slots?, keyedEntries?_record hall, keyedEntries?_record hwf]
  -- it is enough to compare what is found under one name
  refine mapM_congr ?_
  rintro ⟨name, position⟩ hmem
  refine onlyValue?_named_append ?_ position
  -- the names that are looked up are all known, and the further ones are not
  rintro f hf rfl
  exact hextra f hf (hsub (List.fst_mem_of_mem_zipIdx hmem))

/-! ## One slot left open -/

/-- Entries in which the value of the field `name`, which stands at `position`, is left open. The
key names the field in any of the ways in which a key can. -/
inductive EntryHole (name : String) (position : Nat) : (Value → List (Value × Value)) → Prop where
  | mk (before after : List (Value × Value)) {key : Value} {k : FieldKey}
    (hkey : key.fieldKey? = some k) (hsel : k.selects name position = true) :
    EntryHole name position fun v => before ++ (key, v) :: after

/-- A record in which the value of a field is left open, in either form of a record. -/
inductive Hole (name : String) (position : Nat) : (Value → Value) → Prop where
  | map {entries : Value → List (Value × Value)} (h : EntryHole name position entries) :
    Hole name position fun v => .map (entries v)
  | array (before after : List Value) (hlen : before.length = position) :
    Hole name position fun v => .array (before ++ v :: after)

/-- Whether a record is well formed depends on the value of an open slot only through whether that
is. -/
theorem Hole.wellFormed_congr {name : String} {position : Nat} {C : Value → Value}
    (hC : Hole name position C) {v v' : Value} (h : v.wellFormed = v'.wellFormed) :
    (C v).wellFormed = (C v').wellFormed := by
  cases hC with
  | map hE =>
    obtain ⟨before, after, -, -⟩ := hE
    simp only [wellFormed, wellFormedEntries_eq_all, List.all_append, List.all_cons, h]
  | array before after _ =>
    simp only [wellFormed, wellFormedItems_eq_all, List.all_append, List.all_cons, h]

/-- Slots that show every well-formed value in one place, if they show any. -/
def Shows (position : Nat) (slots : Value → Option (List (Option Value))) : Prop :=
  (∀ v : Value, v.wellFormed = true → slots v = none) ∨
    ∃ before after : List (Option Value), before.length = position ∧
      ∀ v : Value, v.wellFormed = true → slots v = some (before ++ some v :: after)

variable {name : String} {position : Nat} {k : FieldKey}

/-- Slots that agree on well-formed values show the same. -/
theorem Shows.congr {slots slots' : Value → Option (List (Option Value))}
    (hs : Shows position slots) (h : ∀ v : Value, v.wellFormed = true → slots' v = slots v) :
    Shows position slots' := by
  obtain hnone | ⟨before, after, hlen, hsome⟩ := hs
  · exact .inl fun v hv => (h v hv).trans (hnone v hv)
  · exact .inr ⟨before, after, hlen, fun v hv => (h v hv).trans (hsome v hv)⟩

/-- A key that names a field does not name another one. -/
theorem not_selects (hk : k.selects name position = true) {name' : String} {position' : Nat}
    (hname : name' ≠ name) (hposition : position' ≠ position) :
    k.selects name' position' = false := by
  rw [Bool.eq_false_iff]
  intro hk'
  cases k with
  -- the key is a text, and no two names have the same octets
  | name b =>
    simp only [FieldKey.selects, beq_iff_eq] at hk hk'
    exact hname (Text.utf8_injective (hk'.symm.trans hk))
  -- the key is a number, and the positions differ
  | index n =>
    simp only [FieldKey.selects, beq_iff_eq] at hk hk'
    omega

/-- A text that names a field is its name. -/
theorem eq_of_selects {key : Value} (hkey : key.fieldKey? = some k)
    (hk : k.selects name position = true) {s : String} (hs : key.text? = some s) : s = name := by
  cases key with
  | str b =>
    cases hkey
    rw [FieldKey.selects, beq_iff_eq] at hk
    rw [text?, hk, Text.ofUtf8?_utf8] at hs
    exact (Option.some.inj hs).symm
  | _ => cases hs

/-- A value under a key that names the slot fills it, if no other does. -/
theorem onlyValue?_cons_of_selects (hk : k.selects name position = true) (v : Value)
    (rest : List (FieldKey × Value)) :
    onlyValue? ((k, v) :: rest) name position =
      if (rest.filter fun (key, _) => key.selects name position) = [] then some (some v)
      else none := by
  simp only [onlyValue?, List.filter_cons, hk, if_true]
  cases rest.filter fun (key, _) => key.selects name position <;> rfl

/-- A value under a key that names another slot is passed over. -/
theorem onlyValue?_cons_of_not (hk : k.selects name position = false) (v : Value)
    (rest : List (FieldKey × Value)) :
    onlyValue? ((k, v) :: rest) name position = onlyValue? rest name position := by
  simp only [onlyValue?, List.filter_cons, hk, Bool.false_eq_true, if_false]

/-- A value under a key fills none of the slots that the key does not name. -/
theorem mapM_onlyValue?_cons (slots : List (String × Nat)) (hk : k.selects name position = true)
    (hslots : ∀ slot ∈ slots, slot.1 ≠ name ∧ slot.2 ≠ position) (v : Value)
    (rest : List (FieldKey × Value)) :
    (slots.mapM fun (n, i) => onlyValue? ((k, v) :: rest) n i) =
      slots.mapM fun (n, i) => onlyValue? rest n i := by
  -- slot by slot the key is another one's
  refine mapM_congr ?_
  rintro ⟨n, i⟩ hmem
  obtain ⟨hn, hi⟩ := hslots (n, i) hmem
  exact onlyValue?_cons_of_not (not_selects hk hn hi) v rest

/-- Of several slots, the value under one key fills its own and has no part in the others. -/
theorem shows_mapM_onlyValue? {front back : List String} (hnd : (front ++ name :: back).Nodup)
    (hk : k.selects name front.length = true) (rest : List (FieldKey × Value)) :
    Shows front.length fun v =>
      (front ++ name :: back).zipIdx.mapM fun (n, i) => onlyValue? ((k, v) :: rest) n i := by
  -- a slot in front has another name, and a lower position
  have hfront : ∀ slot ∈ front.zipIdx, slot.1 ≠ name ∧ slot.2 ≠ front.length := by
    rintro ⟨n, i⟩ hmem
    obtain ⟨-, hlt, -⟩ := List.mem_zipIdx hmem
    have hn : n ∈ front := List.fst_mem_of_mem_zipIdx hmem
    exact ⟨(List.nodup_append.1 hnd).2.2 n hn name List.mem_cons_self, by omega⟩
  -- a slot behind has another name, and a higher position
  have hback : ∀ slot ∈ back.zipIdx (front.length + 1), slot.1 ≠ name ∧ slot.2 ≠ front.length := by
    rintro ⟨n, i⟩ hmem
    obtain ⟨hle, -, -⟩ := List.mem_zipIdx hmem
    have hn : n ∈ back := List.fst_mem_of_mem_zipIdx hmem
    have hname : name ∉ back := (List.nodup_cons.1 (List.nodup_append.1 hnd).2.1).1
    exact ⟨ne_of_mem_of_not_mem hn hname, by omega⟩
  -- the slots in front of the open one and those behind it are filled without it
  have hbefore (v : Value) := mapM_onlyValue?_cons _ hk hfront v rest
  have hafter (v : Value) := mapM_onlyValue?_cons _ hk hback v rest
  simp only [List.zipIdx_append, List.zipIdx_cons, List.mapM_append, List.mapM_cons, Nat.zero_add,
    hbefore, hafter, onlyValue?_cons_of_selects hk]
  -- nothing is shown if one of these is filled twice, or if another key names the open slot
  cases hb : front.zipIdx.mapM fun (n, i) => onlyValue? rest n i with
  | none => exact .inl fun v _ => rfl
  | some before =>
    cases ha : (back.zipIdx (front.length + 1)).mapM fun (n, i) => onlyValue? rest n i with
    | none => exact .inl fun v _ => by split <;> rfl
    | some after =>
      split
      · -- no other key names the open slot, so it shows the value
        refine .inr ⟨before, after, ?_, fun v _ => rfl⟩
        simpa using length_of_mapM hb
      · exact .inl fun v _ => rfl

/-- An entry in front is the first to be seen, if it is well formed. -/
theorem keyedEntries?_cons {key v : Value} (hkey : key.fieldKey? = some k)
    (hv : v.wellFormed = true) (entries : List (Value × Value)) :
    keyedEntries? ((key, v) :: entries) = (keyedEntries? entries).map ((k, v) :: ·) := by
  simp only [keyedEntries?, List.mapM_cons, hv, hkey, if_true, Option.bind_eq_bind,
    Option.bind_some, Option.pure_def, Option.map_eq_bind, Function.comp_def]

/-- A record with an open slot shows what is put there in that slot. -/
theorem shows_slots? {names : List String} (hnd : names.Nodup)
    (hname : names[position]? = some name) {C : Value → Value} (hC : Hole name position C) :
    Shows position fun v => (C v).slots? names := by
  obtain ⟨hlt, hget⟩ := List.getElem?_eq_some_iff.1 hname
  -- the slot has its name between those of the slots in front of it and behind it
  obtain ⟨front, back, rfl, rfl⟩ :
      ∃ front back, names = front ++ name :: back ∧ front.length = position := by
    refine ⟨names.take position, names.drop (position + 1), ?_, List.length_take_of_le (by omega)⟩
    rw [← hget, ← List.drop_eq_getElem_cons hlt, List.take_append_drop]
  cases hC with
  | map h =>
    obtain @⟨before, after, key, k, hkey, hsel⟩ := h
    -- the open entry may as well stand first
    have hslots (v : Value) (hv : v.wellFormed = true) :
        (Value.map (before ++ (key, v) :: after)).slots? (front ++ name :: back) =
          ((keyedEntries? (before ++ after)).map ((k, v) :: ·)).bind fun entries =>
            (front ++ name :: back).zipIdx.mapM fun (n, i) => onlyValue? entries n i := by
      rw [slots?_perm List.perm_middle, ← keyedEntries?_cons hkey hv]
      rfl
    -- the other entries are ill formed, and so is the record
    cases hrest : keyedEntries? (before ++ after) with
    | none => exact .inl fun v hv => (hslots v hv).trans (by rw [hrest]; rfl)
    | some rest =>
      -- what the other entries fill is settled by the slots
      refine (shows_mapM_onlyValue? hnd hsel rest).congr fun v hv => (hslots v hv).trans ?_
      rw [hrest]
      rfl
  | array before after hlen =>
    simp only [slots?, List.length_append, List.length_cons, List.map_append, List.map_cons,
      List.append_assoc, List.cons_append]
    split
    · -- there are no more items than slots
      exact .inr ⟨before.map some, _, by simpa using hlen, fun v _ => rfl⟩
    · exact .inl fun v _ => rfl

end Value

namespace Layout

open Value (Hole)

/-- A row is read from its entries in any order, among others. -/
theorem read?_scattered {l : Layout} {row : l.Row} {entries : List (Value × Value)}
    (h : Value.Scattered l.names (l.fields row) entries) :
    l.read? (.map entries) = l.read? (l.write row) := by
  have hwf := forall_mem_fields (·.wellFormed = true) FieldKind.wellFormed_write l row
  rw [read?, read?, write, Value.slots?_scattered h (List.Subset.refl _) hwf]

/-- A row is read slot by slot, and an empty slot gives zero. -/
theorem readSlots?_cons (f : Field) (fs : Layout) (slot : Option Value)
    (slots : List (Option Value)) :
    readSlots? (f :: fs) (slot :: slots) =
      (slot.elim (some f.kind.zero) f.kind.read?).bind fun x =>
        (readSlots? fs slots).map fun xs => (x, xs) := by
  cases slot <;>
    simp only [readSlots?, Option.elim, Option.bind_eq_bind, Option.pure_def, Option.map_eq_bind,
      Function.comp_def]

/-- What is read of slots in a row depends on the one in the middle only through what its field
reads. -/
theorem readSlots?_middle {l : Layout} {position : Nat} {f : Field} (hf : l[position]? = some f)
    {before : List (Option Value)} (hlen : before.length = position) (after : List (Option Value)) :
    ∃ more : f.kind.Carrier → Option l.Row,
      ∀ v, l.readSlots? (before ++ some v :: after) = (f.kind.read? v).bind more := by
  subst hlen
  induction before generalizing l with
  | nil =>
    -- the open slot is the first
    obtain ⟨fs, rfl⟩ : ∃ fs, l = f :: fs := by
      cases l with
      | nil => cases hf
      | cons g fs => exact ⟨fs, congrArg (· :: fs) (Option.some.inj hf)⟩
    exact ⟨_, fun v => readSlots?_cons f fs (some v) after⟩
  | cons slot before ih =>
    -- what is read of the first slot stands in front of the rest
    cases l with
    | nil => cases hf
    | cons g fs =>
      obtain ⟨more, hmore⟩ := ih hf
      simp only [List.cons_append, readSlots?_cons, hmore]
      cases slot.elim (some g.kind.zero) g.kind.read? with
      -- another slot cannot be read, so nothing is, whatever stands in the open one
      | none => exact ⟨fun _ => none, fun v => by cases f.kind.read? v <;> rfl⟩
      | some x => exact ⟨fun y => (more y).map (x, ·), fun v => by cases f.kind.read? v <;> rfl⟩

/-- What is read of a record with an open slot depends on what is put there only through what the
field reads of it. -/
theorem read?_hole {l : Layout} (hnd : l.names.Nodup) {position : Nat} {f : Field}
    (hf : l[position]? = some f) {C : Value → Value} (hC : Hole f.name position C) :
    ∃ more : f.kind.Carrier → Option l.Row,
      ∀ v : Value, v.wellFormed = true → l.read? (C v) = (f.kind.read? v).bind more := by
  have hname : l.names[position]? = some f.name := by rw [names, List.getElem?_map, hf]; rfl
  simp only [read?]
  obtain hnone | ⟨before, after, hlen, hsome⟩ := Value.shows_slots? hnd hname hC
  · -- the record shows nothing, whatever stands in the slot
    refine ⟨fun _ => none, fun v hv => ?_⟩
    simp only [hnone v hv]
    cases f.kind.read? v <;> rfl
  · obtain ⟨more, hmore⟩ := readSlots?_middle hf hlen after
    refine ⟨more, fun v hv => ?_⟩
    simp only [hsome v hv, Option.bind_some, hmore]

end Layout

end FeedNode.MessagePack
