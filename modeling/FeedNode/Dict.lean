/-!
# Small dictionaries

A dictionary holds one value for each key, in the order in which the keys first came. `get?` is the
view that the operations are described by.

Main statements: `get?_insert` and `get?_erase` say what a change does to the view, and
`ofEntries_entries` that a dictionary without a key twice is the one of its entries.
-/

namespace FeedNode

/-- Values under keys, in the order of the keys' first insertion. -/
structure Dict (κ β : Type) where
  entries : List (κ × β)
deriving Repr, Inhabited

namespace Dict

variable {κ β : Type}

/-- The dictionary without any key. -/
def empty : Dict κ β := ⟨[]⟩

/-- The number of keys. -/
def size (d : Dict κ β) : Nat :=
  d.entries.length

/-- The keys, in order. -/
def keys (d : Dict κ β) : List κ :=
  d.entries.map (·.1)

/-- Changes every value. -/
def mapValues (d : Dict κ β) (f : β → β) : Dict κ β :=
  ⟨d.entries.map fun (k, v) => (k, f v)⟩

variable [DecidableEq κ]

/-- The first value under a key in a list of entries. -/
def find? (key : κ) : List (κ × β) → Option β
  | [] => none
  | (k, v) :: es => if k = key then some v else find? key es

/-- The entries with a value put in the place of the first under its key, or at the end. -/
def put (key : κ) (value : β) : List (κ × β) → List (κ × β)
  | [] => [(key, value)]
  | (k, v) :: es => if k = key then (key, value) :: es else (k, v) :: put key value es

/-- The entries without those under a key. -/
def drop (key : κ) (es : List (κ × β)) : List (κ × β) :=
  es.filter fun (k, _) => k ≠ key

/-- The value under a key. -/
def get? (d : Dict κ β) (key : κ) : Option β :=
  find? key d.entries

/-- The key has a value. -/
def contains (d : Dict κ β) (key : κ) : Bool :=
  (d.get? key).isSome

/-- Gives a key a value. -/
def insert (d : Dict κ β) (key : κ) (value : β) : Dict κ β :=
  ⟨put key value d.entries⟩

/-- Takes a key and its value away. -/
def erase (d : Dict κ β) (key : κ) : Dict κ β :=
  ⟨drop key d.entries⟩

/-- The dictionary of some entries; of two under one key the later counts. -/
def ofEntries (es : List (κ × β)) : Dict κ β :=
  es.foldl (fun d (k, v) => d.insert k v) empty

@[simp] theorem get?_empty (key : κ) : (empty : Dict κ β).get? key = none := rfl

/-- In the entries, a value that is put under a key is found there, and nothing else changes. -/
theorem find?_put (es : List (κ × β)) (k key : κ) (value : β) :
    find? k (put key value es) = if k = key then some value else find? k es := by
  induction es with
  | nil => simp [put, find?, eq_comm]
  | cons e es ih =>
    obtain ⟨k', v'⟩ := e
    simp only [put]
    split
    · -- the entry is replaced here, and what follows stays
      rename_i h
      simp only [find?]
      grind
    · -- the entry is another key's, and the value is put further behind
      simp only [find?, ih]
      grind

/-- In the entries, what is dropped is not found any more, and nothing else changes. -/
theorem find?_drop (es : List (κ × β)) (k key : κ) :
    find? k (drop key es) = if k = key then none else find? k es := by
  induction es with
  | nil => simp [drop, find?]
  | cons e es ih =>
    obtain ⟨k', v'⟩ := e
    simp only [drop, List.filter_cons] at ih ⊢
    split
    · -- the entry stays
      simp only [find?, ih]
      grind
    · -- the entry is dropped
      rw [ih]
      simp only [find?]
      grind

/-- After a value was put under a key it is found there, and nothing else changes. -/
theorem get?_insert (d : Dict κ β) (k key : κ) (value : β) :
    (d.insert key value).get? k = if k = key then some value else d.get? k :=
  find?_put d.entries k key value

/-- After a key was taken away nothing is found under it, and nothing else changes. -/
theorem get?_erase (d : Dict κ β) (k key : κ) :
    (d.erase key).get? k = if k = key then none else d.get? k :=
  find?_drop d.entries k key

/-- In the entries, what is found is changed with all other values. -/
theorem find?_mapValues (f : β → β) (es : List (κ × β)) (key : κ) :
    find? key (es.map fun (k, v) => (k, f v)) = (find? key es).map f := by
  induction es with
  | nil => rfl
  | cons e es ih =>
    obtain ⟨k, v⟩ := e
    simp only [List.map_cons, find?]
    split
    · rfl
    · exact ih

/-- What is found under a key is changed with all other values. -/
theorem get?_mapValues (d : Dict κ β) (f : β → β) (key : κ) :
    (d.mapValues f).get? key = (d.get? key).map f :=
  find?_mapValues f d.entries key

/-- It does not matter whether a value is put in before or after all values are changed. -/
theorem mapValues_insert (d : Dict κ β) (f : β → β) (key : κ) (value : β) :
    (d.insert key value).mapValues f = (d.mapValues f).insert key (f value) := by
  obtain ⟨es⟩ := d
  have hput : (put key value es).map (fun (k, v) => (k, f v)) =
      put key (f value) (es.map fun (k, v) => (k, f v)) := by
    -- the value is put where its key is, and changing values moves no key
    induction es with
    | nil => rfl
    | cons e es ih =>
      obtain ⟨k, v⟩ := e
      simp only [List.map_cons, put]
      split
      · rfl
      · rw [List.map_cons, ih]
  exact congrArg Dict.mk hput

/-! ## Keys that are there once -/

/-- No key is there twice. -/
def Nodup (d : Dict κ β) : Prop :=
  d.keys.Nodup

omit [DecidableEq κ] in
/-- No key is twice in nothing. -/
theorem nodup_empty : (empty : Dict κ β).Nodup := List.nodup_nil

/-- The keys after a value was put in are those before, and its key. -/
theorem mem_keys_put {es : List (κ × β)} {k key : κ} {value : β} :
    k ∈ (put key value es).map (·.1) ↔ k = key ∨ k ∈ es.map (·.1) := by
  induction es with
  | nil => simp [put]
  | cons e es ih =>
    obtain ⟨k', v'⟩ := e
    rw [put]
    split
    · rename_i h
      simp [h]
    · simp only [List.map_cons, List.mem_cons, ih]
      grind

/-- A key that is put in does not come twice. -/
theorem nodup_insert {d : Dict κ β} (h : d.Nodup) (key : κ) (value : β) :
    (d.insert key value).Nodup := by
  obtain ⟨es⟩ := d
  -- the induction is on the entries, since putting a value in goes through them
  show ((put key value es).map (·.1)).Nodup
  replace h : (es.map (·.1)).Nodup := h
  induction es with
  | nil => simp [put]
  | cons e es ih =>
    obtain ⟨k', v'⟩ := e
    rw [List.map_cons, List.nodup_cons] at h
    rw [put]
    split
    · -- the value takes the place of the one under this key
      rename_i hkey
      subst hkey
      exact List.nodup_cons.2 h
    · -- the key of this entry is neither the new one nor one of the rest
      rename_i hkey
      refine List.nodup_cons.2 ⟨fun hmem => ?_, ih h.2⟩
      rcases mem_keys_put.1 hmem with heq | hold
      · exact hkey heq
      · exact h.1 hold

/-- Taking a key away brings none in twice. -/
theorem nodup_erase {d : Dict κ β} (h : d.Nodup) (key : κ) : (d.erase key).Nodup :=
  List.Sublist.nodup (List.Sublist.map _ List.filter_sublist) h

/-- A new key goes to the end. -/
theorem put_of_not_mem {es : List (κ × β)} {key : κ} (h : key ∉ es.map (·.1)) (value : β) :
    put key value es = es ++ [(key, value)] := by
  induction es with
  | nil => rfl
  | cons e es ih =>
    obtain ⟨k', v'⟩ := e
    rw [List.map_cons, List.mem_cons, not_or] at h
    rw [put, if_neg (Ne.symm h.1), ih h.2]
    rfl

/-- What is found under a key is among the entries. -/
theorem mem_of_get? {d : Dict κ β} {key : κ} {value : β} (h : d.get? key = some value) :
    (key, value) ∈ d.entries := by
  obtain ⟨es⟩ := d
  replace h : find? key es = some value := h
  show (key, value) ∈ es
  induction es with
  | nil => cases h
  | cons e es ih =>
    obtain ⟨k', v'⟩ := e
    rw [find?] at h
    split at h
    · rename_i hkey
      rw [hkey, Option.some.inj h]
      exact List.mem_cons_self
    · exact List.mem_cons_of_mem _ (ih h)

/-- An entry that is there after a value was put in was there before, or is the new one. -/
theorem mem_put {es : List (κ × β)} {key : κ} {value : β} {e : κ × β}
    (h : e ∈ put key value es) : e = (key, value) ∨ e ∈ es := by
  induction es with
  | nil => simpa [put] using h
  | cons first es ih =>
    rw [put] at h
    split at h
    · -- the new entry came in the place of the first
      rcases List.mem_cons.1 h with heq | hold
      · exact .inl heq
      · exact .inr (List.mem_cons_of_mem _ hold)
    · -- the first entry stays, and the new one comes further behind
      rcases List.mem_cons.1 h with rfl | hput
      · exact .inr List.mem_cons_self
      · exact (ih hput).imp_right (List.mem_cons_of_mem _)

/-- What is in a dictionary was there, or was put there. -/
theorem mem_foldl_insert {es : List (κ × β)} {d : Dict κ β} {e : κ × β}
    (h : e ∈ (es.foldl (fun d (k, v) => d.insert k v) d).entries) : e ∈ d.entries ∨ e ∈ es := by
  induction es generalizing d with
  | nil => exact .inl h
  | cons first es ih =>
    rcases ih h with hinsert | hmem
    · -- the first entry was put in before all others
      rcases mem_put hinsert with rfl | hold
      · exact .inr List.mem_cons_self
      · exact .inl hold
    · exact .inr (List.mem_cons_of_mem _ hmem)

/-- Something is found under the key of every entry. -/
theorem get?_ne_none_of_mem {d : Dict κ β} {key : κ} {value : β}
    (h : (key, value) ∈ d.entries) : d.get? key ≠ none := by
  obtain ⟨es⟩ := d
  replace h : (key, value) ∈ es := h
  show find? key es ≠ none
  induction es with
  | nil => cases h
  | cons e es ih =>
    obtain ⟨k', v'⟩ := e
    rw [find?]
    split
    · exact Option.some_ne_none v'
    · rename_i hkey
      refine ih ((List.mem_cons.1 h).resolve_left fun heq => hkey ?_)
      exact (congrArg Prod.fst heq).symm

/-- What stands under a key is found there, if no key is there twice. -/
theorem get?_of_mem {d : Dict κ β} (hd : d.Nodup) {key : κ} {value : β}
    (h : (key, value) ∈ d.entries) : d.get? key = some value := by
  obtain ⟨es⟩ := d
  replace hd : (es.map (·.1)).Nodup := hd
  replace h : (key, value) ∈ es := h
  show find? key es = some value
  induction es with
  | nil => cases h
  | cons e es ih =>
    obtain ⟨k', v'⟩ := e
    rw [List.map_cons, List.nodup_cons] at hd
    rw [find?]
    rcases List.mem_cons.1 h with heq | hold
    · -- the entry is the first one
      rw [if_pos (congrArg Prod.fst heq).symm]
      exact congrArg some (congrArg Prod.snd heq).symm
    · -- the entry is behind the first one, whose key is another then
      have hne : k' ≠ key := by
        rintro rfl
        exact hd.1 (List.mem_map.2 ⟨_, hold, rfl⟩)
      rw [if_neg hne]
      exact ih hd.2 hold

omit [DecidableEq κ] in
/-- Changing values brings no key in twice. -/
theorem nodup_mapValues {d : Dict κ β} (h : d.Nodup) (f : β → β) : (d.mapValues f).Nodup := by
  have hkeys : (d.mapValues f).keys = d.keys := by simp [keys, mapValues]
  rw [Nodup, hkeys]
  exact h

/-- A key has one entry at most. -/
theorem filter_key {d : Dict κ β} (hd : d.Nodup) (key : κ) :
    (d.entries.filter fun e => e.1 = key) = (d.get? key).toList.map (Prod.mk key) := by
  obtain ⟨es⟩ := d
  replace hd : (es.map (·.1)).Nodup := hd
  show (es.filter fun e => e.1 = key) = (find? key es).toList.map (Prod.mk key)
  induction es with
  | nil => rfl
  | cons e es ih =>
    obtain ⟨k', v'⟩ := e
    rw [List.map_cons, List.nodup_cons] at hd
    rw [find?, List.filter_cons]
    by_cases hkey : k' = key
    · subst hkey
      -- the key is not there again
      have hnone : (es.filter fun e => e.1 = k') = [] := by
        rw [List.filter_eq_nil_iff]
        intro e he hsame
        exact hd.1 (List.mem_map.2 ⟨e, he, by simpa using hsame⟩)
      simp [hnone]
    · simpa [hkey] using ih hd.2

/-- Entries whose keys are all new go to the end, one after the other. -/
theorem foldl_insert (es : List (κ × β)) (d : Dict κ β)
    (h : ((d.entries ++ es).map (·.1)).Nodup) :
    es.foldl (fun d (k, v) => d.insert k v) d = ⟨d.entries ++ es⟩ := by
  induction es generalizing d with
  | nil => simp
  | cons e es ih =>
    obtain ⟨k, v⟩ := e
    -- the key is new, so its entry goes to the end of those before it
    have hnew : k ∉ d.entries.map (·.1) := by
      rw [List.map_append, List.nodup_append] at h
      exact fun hk => h.2.2 k hk k List.mem_cons_self rfl
    have hinsert : d.insert k v = ⟨d.entries ++ [(k, v)]⟩ := by
      rw [insert, put_of_not_mem hnew]
    have happend : d.entries ++ [(k, v)] ++ es = d.entries ++ (k, v) :: es := by simp
    show es.foldl (fun d (k, v) => d.insert k v) (d.insert k v) = _
    rw [hinsert, ih _ (by rw [happend]; exact h), happend]

/-- A dictionary is made of its entries. -/
theorem ofEntries_entries {d : Dict κ β} (hd : d.Nodup) : ofEntries d.entries = d :=
  foldl_insert d.entries empty hd

end Dict

end FeedNode
