import FeedNode.Files.Path

/-!
# The name a path ends in

A path ends in a name if the name stands in its last place, with a slash or nothing before it and
with nothing behind it but slashes and single dots. `fileName?` finds that name exactly
(`fileName?_eq_some_iff`), for every text. A name that is joined to a path becomes its last part,
whatever the path is (`parts_join`): it has no slash, so it never starts anew.
-/

namespace FeedNode.Files

/-- One step down in a file tree: a part of a path that leads neither nowhere nor back. -/
structure IsName (name : String) : Prop where
  ne_empty : name ≠ ""
  no_slash : '/' ∉ name.toList
  ne_dot : name ≠ "."
  ne_dots : name ≠ ".."

/-- Text behind a path that leads nowhere: slashes, and single dots behind slashes. -/
inductive Idle : List Char → Prop where
  | nil : Idle []
  | slash {cs : List Char} (h : Idle cs) : Idle ('/' :: cs)
  | dot {cs : List Char} (h : Idle cs) : Idle ('/' :: '.' :: cs)

/-- The name stands in the last place of the path. -/
structure EndsIn (path name : String) : Prop where
  isName : IsName name
  split : ∃ front back : List Char, path.toList = front ++ name.toList ++ back ∧
    (front = [] ∨ front.getLast? = some '/') ∧ Idle back

/-! ## Parts of a text -/

/-- The pieces between slashes are those that splitting a list gives. -/
theorem splitSlash_eq_splitOn (cs : List Char) : splitSlash cs = cs.splitOn '/' := by
  induction cs with
  | nil => rfl
  | cons c cs ih =>
    rw [splitSlash, List.splitOn_cons_eq_if_modifyHead, ih]
    by_cases hc : c = '/'
    · simp [hc]
    · -- the rest has a first piece, which the letter is put before
      cases hrest : cs.splitOn '/' with
      | nil => exact absurd hrest (List.splitOn_ne_nil _ _)
      | cons part parts => simp [hc]

/-- A piece between slashes leads somewhere. -/
def leads (piece : String) : Bool :=
  decide (piece ≠ "" ∧ piece ≠ ".")

/-- The parts of a path given by its letters. -/
def pieces (cs : List Char) : List String :=
  ((splitSlash cs).map String.ofList).filter leads

/-- The parts of a path are the pieces of its letters. -/
theorem parts_eq (path : String) : parts path = pieces path.toList := rfl

@[simp] theorem pieces_nil : pieces [] = [] := rfl

/-- A slash cuts the pieces before it from those behind. -/
theorem pieces_append_slash (cs cs' : List Char) :
    pieces (cs ++ '/' :: cs') = pieces cs ++ pieces cs' := by
  simp only [pieces, splitSlash_eq_splitOn, List.splitOn_append_cons_self, List.map_append,
    List.filter_append]

/-- A slash at the end adds no part. -/
@[simp] theorem pieces_concat_slash (cs : List Char) : pieces (cs ++ ['/']) = pieces cs := by
  simp [pieces_append_slash]

/-- Text that leads nowhere adds no part. -/
theorem Idle.pieces_append {back : List Char} (h : Idle back) (cs : List Char) :
    pieces (cs ++ back) = pieces cs := by
  induction h generalizing cs with
  | nil => simp
  | @slash back _ ih =>
    have hsplit : cs ++ '/' :: back = (cs ++ ['/']) ++ back := by simp
    rw [hsplit, ih, pieces_concat_slash]
  | @dot back _ ih =>
    have hsplit : cs ++ '/' :: '.' :: back = (cs ++ '/' :: ['.']) ++ back := by simp
    have hdot : pieces ['.'] = [] := by decide
    rw [hsplit, ih, pieces_append_slash, hdot, List.append_nil]

/-! ## Names -/

/-- A piece between slashes has no slash in it. -/
theorem no_slash_of_mem_splitSlash {cs piece : List Char} (h : piece ∈ splitSlash cs) :
    '/' ∉ piece := by
  induction cs generalizing piece with
  | nil => simp_all [splitSlash]
  | cons c cs ih =>
    rw [splitSlash] at h
    split at h
    · -- a slash: the piece before it is empty
      rcases List.mem_cons.1 h with rfl | hrest
      · simp
      · exact ih hrest
    · rename_i hc
      -- no piece is left behind the letter
      split at h
      · obtain rfl := List.mem_singleton.1 h
        simp [Ne.symm hc]
      · rename_i part parts hrest
        rw [hrest] at ih
        -- the letter belongs to the first piece
        rcases List.mem_cons.1 h with rfl | hmem
        · have hpart := ih List.mem_cons_self
          simp [hpart, Ne.symm hc]
        · exact ih (List.mem_cons_of_mem _ hmem)

/-- A name leads somewhere. -/
theorem IsName.leads {name : String} (h : IsName name) : leads name = true := by
  simp [Files.leads, h.ne_empty, h.ne_dot]

/-- A name is a single piece. -/
theorem IsName.pieces {name : String} (h : IsName name) : pieces name.toList = [name] := by
  simp [Files.pieces, splitSlash_eq_splitOn, List.splitOn_eq_singleton h.no_slash, h.leads]

/-- What a path leads through is a name at every step, or two dots. -/
theorem isName_of_mem_parts {path part : String} (h : part ∈ parts path) (hback : part ≠ "..") :
    IsName part := by
  obtain ⟨hmem, hleads⟩ := List.mem_filter.1 h
  obtain ⟨piece, hpiece, rfl⟩ := List.mem_map.1 hmem
  have hne : String.ofList piece ≠ "" ∧ String.ofList piece ≠ "." := by simpa using hleads
  have hslash := no_slash_of_mem_splitSlash hpiece
  exact ⟨hne.1, by simpa using hslash, hne.2, hback⟩

/-! ## The last name -/

/-- The name that a path ends in is found. -/
theorem fileName?_of_endsIn {path name : String} (h : EndsIn path name) :
    fileName? path = some name := by
  obtain ⟨hname, front, back, hpath, hfront, hback⟩ := h
  have hlast : ∃ before, parts path = before ++ [name] := by
    rw [parts_eq, hpath, hback.pieces_append]
    -- before the name there is nothing, or a slash
    rcases hfront with rfl | hslash
    · exact ⟨[], hname.pieces⟩
    · obtain ⟨front, rfl⟩ := List.getLast?_eq_some_iff.1 hslash
      refine ⟨pieces front, ?_⟩
      rw [List.append_assoc, List.singleton_append, pieces_append_slash, hname.pieces]
  obtain ⟨before, hparts⟩ := hlast
  simp [fileName?, hparts, hname.ne_dots]

/-- Pieces put together behind the first one. -/
theorem intercalate_first (piece : List Char) (back : List (List Char)) :
    ['/'].intercalate (piece :: back) = piece ++ back.flatMap (fun p => '/' :: p) := by
  induction back generalizing piece with
  | nil => simp
  | cons next back ih => simp [List.intercalate_cons_cons, ih next]

/-- Pieces put together around one of them. -/
theorem intercalate_middle (front : List (List Char)) (piece : List Char)
    (back : List (List Char)) :
    ['/'].intercalate (front ++ piece :: back) =
      front.flatMap (fun p => p ++ ['/']) ++ piece ++ back.flatMap (fun p => '/' :: p) := by
  induction front with
  | nil => simp [intercalate_first]
  | cons first front ih =>
    rw [List.cons_append, List.intercalate_cons_of_ne_nil (by simp), ih]
    simp

/-- Pieces that lead nowhere are idle, each behind its slash. -/
theorem idle_flatMap {pieces : List (List Char)}
    (h : ∀ piece ∈ pieces, leads (String.ofList piece) = false) :
    Idle (pieces.flatMap fun p => '/' :: p) := by
  induction pieces with
  | nil => exact .nil
  | cons piece pieces ih =>
    have hrest := ih fun p hp => h p (List.mem_cons_of_mem _ hp)
    have hpiece := h piece List.mem_cons_self
    -- such a piece is empty or a dot
    have hcases : piece = [] ∨ piece = ['.'] := by
      by_cases hempty : String.ofList piece = ""
      · exact .inl (by simpa using congrArg String.toList hempty)
      · have hdot : String.ofList piece = "." := by simpa [leads, hempty] using hpiece
        exact .inr (by simpa using congrArg String.toList hdot)
    rcases hcases with rfl | rfl
    · exact .slash hrest
    · exact .dot hrest

/-- The last part of a path stands behind a slash or nothing, and all behind it is idle. -/
theorem split_of_getLast?_parts {path part : String} (hlast : (parts path).getLast? = some part) :
    ∃ front back : List Char, path.toList = front ++ part.toList ++ back ∧
      (front = [] ∨ front.getLast? = some '/') ∧ Idle back := by
  -- the text is its pieces; behind the last one that leads somewhere there are idle ones only
  obtain ⟨before, hparts⟩ := List.getLast?_eq_some_iff.1 hlast
  obtain ⟨left, right, hpieces, -, hright⟩ := List.filter_eq_append_iff.1 hparts
  obtain ⟨skipped, rest, rfl, -, -, hrest⟩ := List.filter_eq_cons_iff.1 hright
  rw [← List.append_assoc] at hpieces
  obtain ⟨front, middle, hsplit, -, hmiddle⟩ := List.map_eq_append_iff.1 hpieces
  obtain ⟨piece, back, rfl, rfl, rfl⟩ := List.map_eq_cons_iff.1 hmiddle
  refine ⟨front.flatMap (fun p => p ++ ['/']), back.flatMap (fun p => '/' :: p), ?_, ?_, ?_⟩
  · have htext : ['/'].intercalate (path.toList.splitOn '/') = path.toList :=
      List.intercalate_splitOn '/'
    rw [← splitSlash_eq_splitOn, hsplit, intercalate_middle] at htext
    rw [← htext, String.toList_ofList]
  · -- nothing stands before the piece, or a slash does
    rcases List.eq_nil_or_concat front with rfl | ⟨front, last, rfl⟩
    · exact .inl rfl
    · exact .inr (by simp)
  · -- the pieces behind it lead nowhere
    refine idle_flatMap fun piece hpiece => ?_
    have hnone := List.filter_eq_nil_iff.1 hrest (String.ofList piece)
      (List.mem_map.2 ⟨piece, hpiece, rfl⟩)
    simpa [leads] using hnone

/-- What is found is the name that the path ends in. -/
theorem endsIn_of_fileName? {path name : String} (h : fileName? path = some name) :
    EndsIn path name := by
  obtain ⟨part, hlast, hpart⟩ := Option.bind_eq_some_iff.1 h
  -- two dots are not found
  have hback : part ≠ ".." := by
    rintro rfl
    simp at hpart
  obtain rfl : part = name := by simpa [hback] using hpart
  have hname := isName_of_mem_parts (List.mem_of_getLast? hlast) hback
  exact ⟨hname, split_of_getLast?_parts hlast⟩

/-- The name that is found is the one that the path ends in, and none is found if it ends in
none. -/
theorem fileName?_eq_some_iff {path name : String} :
    fileName? path = some name ↔ EndsIn path name :=
  ⟨endsIn_of_fileName?, fileName?_of_endsIn⟩

/-! ## Joining -/

/-- A name that is joined to a path is one more part of it. -/
theorem parts_join {name : String} (h : IsName name) (path : String) :
    parts (join path name) = parts path ++ [name] := by
  -- what is joined does not begin at the top
  have hrelative : name.toList.head? ≠ some '/' := fun hhead =>
    h.no_slash (List.mem_of_head? hhead)
  rw [join, if_neg hrelative]
  by_cases hempty : path = ""
  · subst hempty
    simp [parts_eq, h.pieces]
  · -- a slash at the end is not written twice
    by_cases hslash : path.toList.getLast? = some '/'
    · obtain ⟨front, hfront⟩ := List.getLast?_eq_some_iff.1 hslash
      simp [parts_eq, hfront, pieces_append_slash, h.pieces]
    · have hplain : ¬(path = "" ∨ path.toList.getLast? = some '/') := by simp [hempty, hslash]
      rw [if_neg hplain]
      simp [parts_eq, pieces_append_slash, h.pieces]

end FeedNode.Files
