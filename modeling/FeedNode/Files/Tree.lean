import FeedNode.Dict
import FeedNode.Files.Path
import FeedNode.Text.Utf8

/-!
# File trees

A tree of folders and files. A place in it is the list of names that leads there; the top of the
tree is always a folder. A path is followed from the top, part by part. Making folders and writing
files fail like those of a disk: on a name that no disk takes, on a file where a folder is needed,
and on a folder where a file is to be written.
-/

namespace FeedNode.Files

/-- A place in a file tree. -/
abbrev Place := List String

/-- Where a part of a path leads from a place: two dots lead back, from the top to the top. -/
def follow (p : Place) (part : String) : Place :=
  if part = ".." then p.dropLast else p ++ [part]

/-- The place that a path leads to from the top. -/
def placeOf (path : String) : Place :=
  (parts path).foldl follow []

/-- Folders, and files with their contents. -/
structure Tree (α : Type) where
  folders : List Place
  files : Dict Place α

namespace Tree

variable {α : Type}

/-- A tree with nothing in it. -/
def empty : Tree α := ⟨[], .empty⟩

/-- A name is written to disk octet by octet, and a zero would end it. -/
def hasZero (name : String) : Bool :=
  name.toList.contains '\x00'

/-- The name is longer than a disk takes. -/
def isTooLong (name : String) : Bool :=
  decide (255 < Text.utf8Length name)

/-- There is a folder at the place. -/
def isFolder (t : Tree α) (p : Place) : Bool :=
  p.isEmpty || t.folders.contains p

/-- There is a file at the place. -/
def isFile (t : Tree α) (p : Place) : Bool :=
  t.files.contains p

/-- Makes the folders that the parts in `rest` lead through, from a place that is a folder. Tells
whether all of them are there in the end. -/
def makeFrom (t : Tree α) (p : Place) : (rest : List String) → Tree α × Bool
  | [] => (t, true)
  | part :: rest =>
    let p := follow p part
    if isTooLong part || t.isFile p then (t, false)
    else if t.isFolder p then makeFrom t p rest
    else makeFrom { t with folders := t.folders ++ [p] } p rest

/-- Makes the folder that a path leads to, and the folders on the way. -/
def makeFolder (t : Tree α) (path : String) : Tree α × Bool :=
  if hasZero path then (t, false) else t.makeFrom [] (parts path)

/-- Writes a file; `none` if that fails. The path ends in the name of the file, and the folders on
the way are there. -/
def write? (t : Tree α) (path : String) (content : α) : Option (Tree α) :=
  let p := placeOf path
  if hasZero path || (parts path).any isTooLong || t.isFolder p || !t.isFolder p.dropLast then none
  else some { t with files := t.files.insert p content }

end Tree

end FeedNode.Files
