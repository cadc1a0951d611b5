import FeedNode.Node.Services

/-!
# Backups

The owner may have the store copied to one of the node's drives.
-/

namespace FeedNode.Node.Backup

open Rpc (BackupArgs)

/-- Uploads a copy of the store to a drive. -/
def upload (s : Services) (name : String) (drive : Files.Drive Feed.Store) (a : BackupArgs) :
    Services × Except Files.DriveError Unit :=
  match drive with
  | .folder root =>
    let (files, r) := Files.uploadTo root s.files a.driveUrl Files.backupName s.store
    ({ s with files }, r)
  | .other answer =>
    let u : Files.Upload Feed.Store :=
      { drive := name
        address := a.driveUrl
        token := a.driveToken
        name := Files.backupName
        content := s.store }
    let r := answer s.uploads u
    ({ s with uploads := s.uploads ++ [(u, r)] }, r)

/-- Copies the store to a drive; the caller gets an answer and then a notice. -/
def backup (s : Services) (c : Call) (a : BackupArgs) : Outcome :=
  match s.drives.get? a.driveName with
  | none => s.fail .invalidArgument
  | some drive =>
    match upload s a.driveName drive a with
    | (s, .error .unauthorized) => s.fail .notAuthorized
    | (s, .error .io) => s.fail .system
    | (s, .ok ()) =>
      s.finish [.enqueue (c.answer .empty),
        .notify c.peer
          { dialect := c.request.dialect
            version := c.request.version
            method := "backup_service_data"
            news := .empty }]

end FeedNode.Node.Backup
