import FeedNode.Files.Drive
import FeedNode.Proofs.Files.PathNames

/-!
# Uploads stay below the root

An upload to a folder drive joins two names to its root, or one: the name that the address ends in,
if it ends in one, and the name that the file name ends in, or else the name for backups. What is
joined is a name (`PathNames`), so the file lies in the root or in a folder directly below it, and
no folder is made but that one and those on the way to the root.

`Tree.grown_makeFrom`, `Tree.makeFrom_isOk_iff` and `Tree.isFolder_makeFrom` say what making folders
does, and `uploadTo_cases` what an upload does with them. Main statement: `upload_confined`.
-/

namespace FeedNode.Files

/-! ## Places on the way -/

/-- The places that parts of a path lead through from a place, the last one included. -/
def trail (p : Place) : List String → List Place
  | [] => []
  | part :: rest => follow p part :: trail (follow p part) rest

/-- The places that a path leads through from the top, the last one included. -/
def way (path : String) : List Place :=
  trail [] (parts path)

/-- The trail of parts goes on where the first of them lead to. -/
theorem trail_append (p : Place) (front back : List String) :
    trail p (front ++ back) = trail p front ++ trail (front.foldl follow p) back := by
  induction front generalizing p with
  | nil => rfl
  | cons part front ih => simp [trail, ih]

/-- Parts lead to the last place on their trail, or there are none. -/
theorem foldl_follow_cases (p : Place) (rest : List String) :
    rest.foldl follow p = p ∨ rest.foldl follow p ∈ trail p rest := by
  induction rest generalizing p with
  | nil => exact .inl rfl
  | cons part rest ih =>
    right
    rw [List.foldl_cons, trail]
    rcases ih (follow p part) with hsame | hmem
    · -- the rest leads back to where it begins
      rw [hsame]
      exact List.mem_cons_self
    · exact List.mem_cons_of_mem _ hmem

/-- A name in a folder is one step below the folder. -/
theorem placeOf_join {name : String} (h : IsName name) (path : String) :
    placeOf (join path name) = placeOf path ++ [name] := by
  simp [placeOf, parts_join h, follow, h.ne_dots]

/-- The way to a name in a folder is the way to the folder and one step more. -/
theorem way_join {name : String} (h : IsName name) (path : String) :
    way (join path name) = way path ++ [placeOf path ++ [name]] := by
  simp [way, parts_join h, trail_append, trail, follow, h.ne_dots, placeOf]

/-- The folder of an upload is the root, or one step below it. -/
theorem placeOf_folderOf (root address : String) :
    placeOf (folderOf root address) = placeOf root ++ (fileName? address).toList := by
  unfold folderOf
  split
  · rename_i folder haddress
    have hfolder := (endsIn_of_fileName? haddress).isName
    simp [placeOf_join hfolder, haddress]
  · rename_i haddress
    simp [haddress]

/-- The way to the folder of an upload is the way to the root, and maybe one step more. -/
theorem way_folderOf (root address : String) :
    way (folderOf root address) =
      way root ++ (fileName? address).toList.map fun folder => placeOf root ++ [folder] := by
  unfold folderOf
  split
  · rename_i folder haddress
    have hfolder := (endsIn_of_fileName? haddress).isName
    simp [way_join hfolder, haddress]
  · rename_i haddress
    simp [haddress]

/-! ## Making folders -/

namespace Tree

variable {α : Type} {t t' : Tree α}

/-- The tree `t'` is `t` with more folders: some of `places`, all of which were missing in `t`. -/
structure Grown (places : List Place) (t t' : Tree α) : Prop where
  files : t'.files = t.files
  folders : ∃ made, t'.folders = t.folders ++ made ∧
    ∀ p ∈ made, t.isFolder p = false ∧ p ∈ places

/-- A tree has no new folders yet. -/
theorem Grown.refl (places : List Place) (t : Tree α) : Grown places t t :=
  ⟨rfl, [], by simp⟩

/-- A place more that folders may be made at. -/
theorem Grown.cons {places : List Place} (h : Grown places t t') (p : Place) :
    Grown (p :: places) t t' := by
  obtain ⟨hfiles, made, hfolders, hmade⟩ := h
  refine ⟨hfiles, made, hfolders, fun q hq => ?_⟩
  obtain ⟨hmissing, hplace⟩ := hmade q hq
  exact ⟨hmissing, List.mem_cons_of_mem _ hplace⟩

/-- The tree with one more folder. -/
def addFolder (t : Tree α) (p : Place) : Tree α :=
  { t with folders := t.folders ++ [p] }

/-- With one more folder there are the old ones and that one. -/
theorem isFolder_addFolder (t : Tree α) (p q : Place) :
    (t.addFolder p).isFolder q = true ↔ t.isFolder q = true ∨ q = p := by
  simp [isFolder, addFolder, or_assoc]

/-- The first folder is made, and then the others. -/
theorem Grown.addFolder {places : List Place} {p : Place} (hmissing : t.isFolder p = false)
    (h : Grown places (t.addFolder p) t') : Grown (p :: places) t t' := by
  obtain ⟨hfiles, made, hfolders, hmade⟩ := h
  refine ⟨hfiles, p :: made, by simp [hfolders, Tree.addFolder], fun q hq => ?_⟩
  rcases List.mem_cons.1 hq with rfl | hq
  · -- the first folder
    exact ⟨hmissing, List.mem_cons_self⟩
  · -- one that was missing after the first was made was missing before
    obtain ⟨hnew, hplace⟩ := hmade q hq
    have hold : ¬t.isFolder q = true := by
      intro hold
      have hadded := (t.isFolder_addFolder p q).2 (.inl hold)
      simp [hnew] at hadded
    exact ⟨by simpa using hold, List.mem_cons_of_mem _ hplace⟩

/-- One part of a path: it stops the making, or leads to a folder, or a folder is made. -/
theorem makeFrom_cons (t : Tree α) (p : Place) (part : String) (rest : List String) :
    t.makeFrom p (part :: rest) =
      if isTooLong part || t.isFile (follow p part) then (t, false)
      else if t.isFolder (follow p part) then t.makeFrom (follow p part) rest
      else (t.addFolder (follow p part)).makeFrom (follow p part) rest := rfl

/-- Folders are made only where they are missing on the trail. -/
theorem grown_makeFrom (t : Tree α) (p : Place) (rest : List String) :
    Grown (trail p rest) t (t.makeFrom p rest).1 := by
  induction rest generalizing t p with
  | nil => exact .refl _ t
  | cons part rest ih =>
    rw [makeFrom_cons, trail]
    split
    · -- the part stops the making
      exact .refl _ t
    · split
      · -- it leads to a folder
        exact (ih t (follow p part)).cons (follow p part)
      · -- a folder is made
        rename_i hmissing
        exact (ih _ (follow p part)).addFolder (by simpa using hmissing)

/-- They are all there in the end if no name is too long and no file lies on the trail. -/
theorem makeFrom_isOk_iff (t : Tree α) (p : Place) (rest : List String) :
    (t.makeFrom p rest).2 = true ↔
      (∀ part ∈ rest, isTooLong part = false) ∧ ∀ q ∈ trail p rest, t.isFile q = false := by
  induction rest generalizing t p with
  | nil => simp [makeFrom, trail]
  | cons part rest ih =>
    -- files are where they were
    have hfiles : ∀ q, (t.addFolder (follow p part)).isFile q = t.isFile q := fun q => rfl
    rw [makeFrom_cons, trail]
    split
    · rename_i hstop
      simp only [Bool.or_eq_true] at hstop
      -- what is too long, or a file, is named on the right too
      rcases hstop with hlong | hfile
      · simp [hlong]
      · simp [hfile]
    · rename_i hgo
      simp only [Bool.or_eq_true, not_or, Bool.not_eq_true] at hgo
      split
      · simp [ih, hgo]
      · simp [ih, hfiles, hgo]

/-- Then there is a folder at every place on the trail, and where there was one. -/
theorem isFolder_makeFrom {p : Place} {rest : List String} (h : (t.makeFrom p rest).2 = true)
    (q : Place) :
    (t.makeFrom p rest).1.isFolder q = true ↔ t.isFolder q = true ∨ q ∈ trail p rest := by
  induction rest generalizing t p with
  | nil => simp [makeFrom, trail]
  | cons part rest ih =>
    rw [makeFrom_cons] at h ⊢
    split at h
    · cases h
    · split at h
      · -- the folder was there
        rename_i hgo hthere
        rw [if_neg hgo, if_pos hthere, ih h, trail, List.mem_cons]
        constructor
        · rintro (hold | hmem)
          · exact .inl hold
          · exact .inr (.inr hmem)
        · rintro (hold | rfl | hmem)
          · exact .inl hold
          · exact .inl hthere
          · exact .inr hmem
      · -- the folder is made
        rename_i hgo hmissing
        rw [if_neg hgo, if_neg hmissing, ih h, trail, List.mem_cons, isFolder_addFolder, or_assoc]

/-- A path makes folders only on its way. -/
theorem grown_makeFolder (t : Tree α) (path : String) :
    Grown (way path) t (t.makeFolder path).1 := by
  rw [makeFolder]
  split
  · -- no disk takes the path
    exact .refl _ t
  · exact t.grown_makeFrom [] (parts path)

/-- A folder is there in the end if a disk takes all the names and no file lies on the way. -/
theorem makeFolder_isOk_iff (t : Tree α) (path : String) :
    (t.makeFolder path).2 = true ↔ hasZero path = false ∧
      (∀ part ∈ parts path, isTooLong part = false) ∧ ∀ q ∈ way path, t.isFile q = false := by
  cases hzero : hasZero path with
  | true => simp [makeFolder, hzero]
  | false => simp [makeFolder, hzero, makeFrom_isOk_iff, way]

/-- Then there are the folders of before and those on the way. -/
theorem isFolder_makeFolder {path : String} (h : (t.makeFolder path).2 = true) (q : Place) :
    (t.makeFolder path).1.isFolder q = true ↔ t.isFolder q = true ∨ q ∈ way path := by
  have hzero := ((t.makeFolder_isOk_iff path).1 h).1
  simp only [makeFolder, hzero, Bool.false_eq_true, if_false] at h ⊢
  exact isFolder_makeFrom h q

/-- A folder that was made is there. -/
theorem isFolder_placeOf {path : String} (h : (t.makeFolder path).2 = true) :
    (t.makeFolder path).1.isFolder (placeOf path) = true := by
  rw [isFolder_makeFolder h]
  -- the path may lead nowhere, and then it stays at the top
  rcases foldl_follow_cases [] (parts path) with htop | hmem
  · left
    rw [placeOf, htop]
    rfl
  · exact .inr hmem

/-! ## Writing a file -/

/-- Nothing is in the way of a file in a folder that is made for it: a disk takes all the names, no
file lies where the folders are, and where the file goes there is no folder. -/
structure Clear (t : Tree α) (folder file : String) : Prop where
  folder_no_zero : hasZero folder = false
  file_no_zero : hasZero file = false
  short : ∀ part ∈ parts folder ++ [file], isTooLong part = false
  no_file : ∀ p ∈ way folder, t.isFile p = false
  no_folder : t.isFolder (placeOf folder ++ [file]) = false
  apart : placeOf folder ++ [file] ∉ way folder

/-- A joined path has a zero octet if the path or the name has one. -/
theorem hasZero_join {name : String} (h : IsName name) (path : String) :
    hasZero (join path name) = (hasZero path || hasZero name) := by
  have hrelative : name.toList.head? ≠ some '/' := fun hhead =>
    h.no_slash (List.mem_of_head? hhead)
  rw [join, if_neg hrelative]
  split <;> simp [hasZero]

/-- A file is written into a folder that was made for it, if nothing is in its way. -/
theorem write?_makeFolder {folder file : String} (hfile : IsName file)
    (hmade : (t.makeFolder folder).2 = true) (content : α) :
    (t.Clear folder file ∧ (t.makeFolder folder).1.write? (join folder file) content =
        some { (t.makeFolder folder).1 with
          files := (t.makeFolder folder).1.files.insert (placeOf folder ++ [file]) content }) ∨
      (¬t.Clear folder file ∧
        (t.makeFolder folder).1.write? (join folder file) content = none) := by
  obtain ⟨hzero, hshort, hfree⟩ := (t.makeFolder_isOk_iff folder).1 hmade
  have hthere := isFolder_placeOf hmade
  have htarget := isFolder_makeFolder hmade (placeOf folder ++ [file])
  generalize (t.makeFolder folder).1 = made at hthere htarget
  simp only [write?, placeOf_join hfile, parts_join hfile, hasZero_join hfile, hzero,
    List.dropLast_concat, hthere]
  -- what a disk asks of a file is what `Clear` says, read off the tree after the folder was made
  split
  · -- something is in the way, so it is not clear
    rename_i hstop
    refine .inr ⟨fun hclear => ?_, rfl⟩
    have hlong : (parts folder ++ [file]).any isTooLong = false :=
      List.any_eq_false.2 fun part hpart => by simp [hclear.short part hpart]
    have hfolder : ¬made.isFolder (placeOf folder ++ [file]) = true := by
      simp [htarget, hclear.no_folder, hclear.apart]
    simp [hclear.file_no_zero, hlong, hfolder] at hstop
  · -- nothing was in the way, neither before the folder was made nor after
    rename_i hgo
    simp only [Bool.false_or, Bool.or_eq_true, not_or, Bool.not_eq_true, Bool.not_true,
      List.any_eq_false] at hgo
    obtain ⟨⟨⟨hfileZero, hnames⟩, hfolder⟩, -⟩ := hgo
    have hnone : ¬(t.isFolder (placeOf folder ++ [file]) = true ∨
        placeOf folder ++ [file] ∈ way folder) := fun h => by simp [htarget.2 h] at hfolder
    simp only [not_or, Bool.not_eq_true] at hnone
    exact .inl ⟨⟨hzero, hfileZero, by simpa using hnames, hfree, hnone.1, hnone.2⟩, rfl⟩

end Tree

/-! ## Uploads -/

/-- The name for backups is a name. -/
theorem isName_backupName : IsName backupName := by
  constructor <;> decide

/-- The name that the file of an upload gets. -/
def fileFor (name : String) : String :=
  (fileName? name).getD backupName

/-- The file of an upload bears a name. -/
theorem isName_fileFor (name : String) : IsName (fileFor name) := by
  unfold fileFor
  cases hname : fileName? name with
  | none => exact isName_backupName
  | some file => exact (endsIn_of_fileName? hname).isName

/-- It is the name that the file name ends in, or the one for backups if it ends in none. -/
theorem endsIn_fileFor (name : String) :
    EndsIn name (fileFor name) ∨ fileFor name = backupName ∧ ∀ other, ¬EndsIn name other := by
  unfold fileFor
  cases hname : fileName? name with
  | some file => exact .inl (endsIn_of_fileName? hname)
  | none =>
    refine .inr ⟨rfl, fun other hother => ?_⟩
    simp [fileName?_of_endsIn hother] at hname

/-- An upload makes its folder first. Then it writes the file if nothing is in its way, and fails
otherwise. -/
theorem uploadTo_cases {α : Type} (root : String) (t : Tree α) (address name : String)
    (content : α) :
    let folder := folderOf root address
    let made := (t.makeFolder folder).1
    (t.Clear folder (fileFor name) ∧ uploadTo root t address name content =
        ({ made with files := made.files.insert (placeOf folder ++ [fileFor name]) content },
          .ok ())) ∨
      (¬t.Clear folder (fileFor name) ∧ uploadTo root t address name content =
        (made, .error .io)) := by
  have hname : (fileName? name).getD backupName = fileFor name := rfl
  unfold uploadTo
  dsimp only
  rw [hname]
  generalize folderOf root address = folder
  have hok := t.makeFolder_isOk_iff folder
  have hwrites := @Tree.write?_makeFolder α t folder _ (isName_fileFor name)
  generalize t.makeFolder folder = o at hok hwrites
  obtain ⟨made, isThere⟩ := o
  cases isThere with
  | false =>
    -- the folder could not be made, which something in the way of the file is the reason of
    refine .inr ⟨fun hclear => ?_, rfl⟩
    have hthere := hok.2 ⟨hclear.folder_no_zero,
      fun part hpart => hclear.short part (List.mem_append_left _ hpart), hclear.no_file⟩
    cases hthere
  | true =>
    -- the folder is there, and the rest is a matter of the file
    rcases hwrites rfl content with ⟨hclear, hwrite⟩ | ⟨hclear, hwrite⟩
    · exact .inl ⟨hclear, by simp only [hwrite]⟩
    · exact .inr ⟨hclear, by simp only [hwrite]⟩

/-- Every upload writes one file, or fails where something is in the way of that file. The file lies
in the root, or in the folder directly below the root that bears the name in the last place of the
address; it bears the name in the last place of the file name, or else the one for backups. Whether
the upload fails or not, no folder is made but those that are missing on the way to the root, and
the one below it. -/
theorem upload_confined {α : Type} (root : String) (t : Tree α) (address name : String)
    (content : α) :
    ∃ (folder? : Option String) (file : String) (made : List Place) (t' : Tree α)
      (r : Except DriveError Unit),
      uploadTo root t address name content = (t', r) ∧
      (∀ folder, folder? = some folder ↔ EndsIn address folder) ∧
      IsName file ∧ (EndsIn name file ∨ file = backupName ∧ ∀ other, ¬EndsIn name other) ∧
      t'.folders = t.folders ++ made ∧
      (∀ p ∈ made, t.isFolder p = false ∧
        (p ∈ way root ∨ ∃ folder, folder? = some folder ∧ p = placeOf root ++ [folder])) ∧
      ((t.Clear (folderOf root address) file ∧ r = .ok () ∧
          t'.files = t.files.insert (placeOf root ++ folder?.toList ++ [file]) content) ∨
        (¬t.Clear (folderOf root address) file ∧ r = .error .io ∧ t'.files = t.files)) := by
  obtain ⟨hfiles, made, hfolders, hmade⟩ := t.grown_makeFolder (folderOf root address)
  -- the way to the folder is the way to the root, and the folder itself where there is a name
  have hplaces : ∀ p ∈ made, t.isFolder p = false ∧ (p ∈ way root ∨
      ∃ folder, fileName? address = some folder ∧ p = placeOf root ++ [folder]) := by
    intro p hp
    obtain ⟨hmissing, hway⟩ := hmade p hp
    simp only [way_folderOf, List.mem_append, List.mem_map, Option.mem_toList] at hway
    refine ⟨hmissing, hway.imp_right ?_⟩
    rintro ⟨folder, haddress, rfl⟩
    exact ⟨folder, haddress, rfl⟩
  refine ⟨fileName? address, fileFor name, made, ?_⟩
  rcases uploadTo_cases root t address name content with ⟨hclear, heq⟩ | ⟨hclear, heq⟩
  · refine ⟨_, _, heq, fun _ => fileName?_eq_some_iff, isName_fileFor name, endsIn_fileFor name,
      hfolders, hplaces, .inl ⟨hclear, rfl, ?_⟩⟩
    rw [hfiles, placeOf_folderOf]
  · exact ⟨_, _, heq, fun _ => fileName?_eq_some_iff, isName_fileFor name, endsIn_fileFor name,
      hfolders, hplaces, .inr ⟨hclear, rfl, hfiles⟩⟩

example : (uploadTo "root" Tree.empty "../../escape" "../x.bin" 7).1.files.entries =
    [(["root", "escape", "x.bin"], 7)] := by
  decide +kernel

end FeedNode.Files
