import FeedNode.Files.Tree

/-!
# Drives

A drive is a place that backups are uploaded to. A folder drive keeps them under its root: the last
name in the address selects a folder directly below the root, and the last name in the file name is
the name there, so that an upload never leaves the root. What any other drive does with an upload is
its own affair; all that is seen of it is whether it took the file.
-/

namespace FeedNode.Files

/-- The name of a backup that is given none. -/
def backupName : String := "feeds-backup.sqlite3"

/-- Why an upload failed. -/
inductive DriveError where
  | unauthorized
  | io
deriving DecidableEq, Repr

/-- A file that is sent to a drive, with all that the drive is told of it. -/
structure Upload (α : Type) where
  drive : String
  address : String
  token : String
  name : String
  content : α

/-- The upload with another content. -/
def Upload.map {α β : Type} (f : α → β) (u : Upload α) : Upload β :=
  { u with content := f u.content }

/-- Files that were sent to drives, each with what the drive answered, in order. -/
abbrev Uploads (α : Type) := List (Upload α × Except DriveError Unit)

/-- The files with other contents. -/
def Uploads.map {α β : Type} (f : α → β) (us : Uploads α) : Uploads β :=
  List.map (fun (u, r) => (u.map f, r)) us

/-- A place that backups are uploaded to. -/
inductive Drive (α : Type) where
  /-- Keeps files below a root, which is a path. -/
  | folder (root : String)
  /-- Any other. What it answers may depend on all that was sent to such drives before. -/
  | other (answer : Uploads α → Upload α → Except DriveError Unit)

/-- The folder that an address selects below a root. -/
def folderOf (root address : String) : String :=
  match fileName? address with
  | some name => join root name
  | none => root

/-- Uploads to the folder drive with the given root. A failed upload may leave folders behind. -/
def uploadTo {α : Type} (root : String) (t : Tree α) (address name : String) (content : α) :
    Tree α × Except DriveError Unit :=
  let folder := folderOf root address
  match t.makeFolder folder with
  | (t, false) => (t, .error .io)
  | (t, true) =>
    match t.write? (join folder ((fileName? name).getD backupName)) content with
    | none => (t, .error .io)
    | some t => (t, .ok ())

end FeedNode.Files
