import FeedNode.Proofs.Feed.BaseColumns
import FeedNode.Proofs.Node.Confinement
import FeedNode.Proofs.Node.TwoRuns

/-!
# Calls of version 1.0

What version 2.0 added to the rows has no part in what comes of calls of version 1.0. The entries of
their answers are made of the base columns, also where the size of a page is reckoned; news is made
of what was just written; and what a call writes to an added column was in none before. A backup is
sent out with all its columns, so this takes drives that do not look into what they are sent
(`Drive.IsBlind`); folders never do.

The relation that is kept from message to message is `Services.Twin`. Main statement:
`added_columns_unseen`.
-/

namespace FeedNode

/-! ## Files -/

namespace Files

variable {α : Type} {f : α → α}

/-- The tree with other contents in its files. -/
def Tree.mapContents (f : α → α) (t : Tree α) : Tree α :=
  { t with files := t.files.mapValues f }

/-- Files are where they are, whatever is in them. -/
theorem Tree.isFile_mapContents (t : Tree α) (p : Place) :
    (t.mapContents f).isFile p = t.isFile p := by
  simp [Tree.isFile, Tree.mapContents, Dict.contains, Dict.get?_mapValues]

/-- Folders are made alike, whatever is in the files. -/
theorem Tree.makeFrom_mapContents (t : Tree α) (p : Place) (rest : List String) :
    (t.mapContents f).makeFrom p rest = ((t.makeFrom p rest).1.mapContents f,
      (t.makeFrom p rest).2) := by
  induction rest generalizing t p with
  | nil => rfl
  | cons part rest ih =>
    -- there are no folders but the same ones
    have hfolder : ∀ p, (t.mapContents f).isFolder p = t.isFolder p := fun _ => rfl
    simp only [makeFrom, isFile_mapContents, hfolder]
    split
    · rfl
    · split
      · exact ih t _
      · exact ih { t with folders := t.folders ++ [follow p part] } _

/-- A file is written to the same place, whatever is in the files. -/
theorem Tree.write?_mapContents (t : Tree α) (path : String) (content : α) :
    (t.mapContents f).write? path (f content) = (t.write? path content).map (mapContents f) := by
  have hfolder : ∀ p, (t.mapContents f).isFolder p = t.isFolder p := fun _ => rfl
  simp only [write?, hfolder]
  split
  · rfl
  · exact congrArg (fun files => some { t with files }) (t.files.mapValues_insert f _ content).symm

/-- Where an upload goes, and whether it does, has nothing to do with what is in the files. -/
theorem uploadTo_mapContents (root : String) (t : Tree α) (address name : String) (content : α) :
    uploadTo root (t.mapContents f) address name (f content) =
      ((uploadTo root t address name content).1.mapContents f,
        (uploadTo root t address name content).2) := by
  -- the folder of the upload is made in both
  have hmake : ∀ folder, (t.mapContents f).makeFolder folder =
      ((t.makeFolder folder).1.mapContents f, (t.makeFolder folder).2) := by
    intro folder
    rw [Tree.makeFolder, Tree.makeFolder]
    split
    · rfl
    · exact t.makeFrom_mapContents [] (parts folder)
  simp only [uploadTo, hmake]
  obtain ⟨made, isThere⟩ := t.makeFolder (folderOf root address)
  cases isThere with
  -- no folder, no file
  | false => rfl
  | true =>
    simp only [Tree.write?_mapContents]
    cases made.write? (join (folderOf root address) ((fileName? name).getD backupName)) content with
    | none => rfl
    | some written => rfl

/-! ## Drives that do not look into files -/

/-- What a drive is told of an upload beside the content. -/
def Upload.label (u : Upload α) : Upload Unit :=
  u.map fun _ => ()

/-- What drives were told beside the contents, and their answers. -/
def Uploads.labels (us : Uploads α) : Uploads Unit :=
  us.map fun _ => ()

/-- The drive does not look into what it is sent: its answer is the same for other contents. A
folder takes all contents alike. -/
def Drive.IsBlind : Drive α → Prop
  | .folder _ => True
  | .other answer => ∀ (us us' : Uploads α) (u u' : Upload α), us'.labels = us.labels →
      u'.label = u.label → answer us' u' = answer us u

/-- Labels do not change with the contents. -/
theorem Uploads.labels_map (us : Uploads α) (f : α → α) : (us.map f).labels = us.labels := by
  simp [Uploads.labels, Uploads.map, Upload.map]

/-- A drive that is blind takes other contents as it takes these. -/
theorem Drive.IsBlind.answer_map {answer : Uploads α → Upload α → Except DriveError Unit}
    (h : (Drive.other answer).IsBlind) (us : Uploads α) (u : Upload α) (f : α → α) :
    answer (us.map f) (u.map f) = answer us u :=
  h us (us.map f) u (u.map f) (us.labels_map f) rfl

end Files

/-! ## One message -/

namespace Node

open Delivery (Carrier Memory Peer)
open Feed (Store StoreError)
open Rpc (Method Request Version)

/-- The services with the columns of version 1.0, in the store and in its copies. -/
def Services.base (s : Services) : Services :=
  { s with
    store := s.store.base
    files := s.files.mapContents Store.base
    uploads := s.uploads.map Store.base }

/-- The services differ in nothing but what the columns hold that version 2.0 added. -/
def Services.OneBase (s s' : Services) : Prop :=
  s'.base = s.base

/-- No drive of the services looks into what it is sent. -/
def Services.DrivesBlind (s : Services) : Prop :=
  ∀ name drive, s.drives.get? name = some drive → drive.IsBlind

/-- The services differ in nothing but what the columns hold that version 2.0 added, and no drive
can tell them apart. -/
structure Services.Twin (s s' : Services) : Prop where
  oneBase : s.OneBase s'
  blind : s.DrivesBlind

section Calls

variable {s s' : Services} {c : Call}

namespace Services

/-- Other stores with one base leave one base. -/
theorem OneBase.withStore (h : s.OneBase s') {store store' : Store}
    (hstore : store'.base = store.base) :
    OneBase { s with store } { s' with store := store' } :=
  calc ({ s' with store := store' } : Services).base
    _ = { s'.base with store := store'.base } := rfl
    _ = { s.base with store := store.base } := by rw [show s'.base = s.base from h, hstore]

namespace Twin

/-- Services that are twins have one base. -/
theorem base_eq (h : s.Twin s') : s'.base = s.base := h.oneBase

/-- What the columns of version 1.0 tell is the same. -/
theorem same {β : Type} {f : Services → β} (hf : ∀ s, f s.base = f s) (h : s.Twin s') :
    f s' = f s := by
  rw [← hf s', h.base_eq, hf s]

/-- The stores of twins have one base. -/
theorem store (h : s.Twin s') : s'.store.base = s.store.base :=
  congrArg Services.store h.base_eq

/-- Twins have one resolver. -/
theorem resolver (h : s.Twin s') : s'.resolver = s.resolver :=
  h.same fun _ => rfl

/-- Twins have one audience. -/
theorem audience (h : s.Twin s') : s'.audience = s.audience :=
  h.same fun _ => rfl

/-- Twins have the same drives. -/
theorem drives (h : s.Twin s') : s'.drives = s.drives :=
  h.same fun _ => rfl

/-- Twins read one clock. -/
theorem now (h : s.Twin s') : s'.now = s.now :=
  h.same fun _ => rfl

/-- Twins have one ceiling for pages. -/
theorem ceiling (h : s.Twin s') : s'.ceiling = s.ceiling :=
  h.same fun _ => rfl

/-- Twins tell the same version. -/
theorem versionCode (h : s.Twin s') : s'.versionCode = s.versionCode :=
  h.same fun _ => rfl

/-- Twins with other stores of one base are twins. -/
theorem withStore (h : s.Twin s') {store store' : Store} (hstore : store'.base = store.base) :
    Twin { s with store } { s' with store := store' } :=
  ⟨h.oneBase.withStore hstore, h.blind⟩

/-- Twins with another audience are twins. -/
theorem withAudience (h : s.Twin s') (audience : Delivery.Audience) :
    Twin { s with audience } { s' with audience } := by
  refine ⟨?_, h.blind⟩
  calc ({ s' with audience } : Services).base
    _ = { s'.base with audience } := rfl
    _ = { s.base with audience } := by rw [h.base_eq]

/-- Twins with another resolver are twins. -/
theorem withResolver (h : s.Twin s') (resolver : Auth.Resolver) :
    Twin { s with resolver } { s' with resolver } := by
  refine ⟨?_, h.blind⟩
  calc ({ s' with resolver } : Services).base
    _ = { s'.base with resolver } := rfl
    _ = { s.base with resolver } := by rw [h.base_eq]

/-- A user is recorded in both. -/
theorem record (h : s.Twin s') (u : Feed.User) : (s.record u).Twin (s'.record u) := by
  refine h.withStore ?_
  rw [← Store.upsertUser_base, h.store, Store.upsertUser_base]

end Twin

end Services

/-- Being twins is a relation with which signing in agrees. -/
theorem sharesResolver_twin : SharesResolver Services.Twin where
  resolver h := h.resolver
  withResolver h resolver := h.withResolver resolver
  record h u := h.record u

/-- A failure is the same in both. -/
theorem same_fail (h : s.Twin s') (code : Rpc.ErrorCode) :
    SameOutcome Services.Twin (s.fail code) (s'.fail code) :=
  ⟨h, rfl⟩

/-- An answer is the same in both. -/
theorem same_done (h : s.Twin s') (c : Call) (payload : Rpc.Payload) :
    SameOutcome Services.Twin (Feeds.done s c payload) (Feeds.done s' c payload) :=
  ⟨h, rfl⟩

/-- An answer that is made of what is the same. -/
theorem same_done_of_eq (h : s.Twin s') (c : Call) {payload payload' : Rpc.Payload}
    (hpayload : payload' = payload) :
    SameOutcome Services.Twin (Feeds.done s c payload) (Feeds.done s' c payload') :=
  hpayload ▸ same_done h c payload

/-- An answer, and news of what was done. -/
theorem same_tell (h : s.Twin s') (r : Rpc.Response) (channelId : Nat) (method : String)
    (news : Rpc.News) :
    SameOutcome Services.Twin (s.finish (.reply r :: s.tell channelId method news))
      (s'.finish (.reply r :: s'.tell channelId method news)) := by
  refine ⟨h, ?_⟩
  simp only [Services.finish, Services.tell, h.audience]

/-- What is asked of a member fails for a guest in both. -/
theorem same_asMember (h : s.Twin s') {k k' : Feed.User → Outcome}
    (hk : ∀ u, SameOutcome Services.Twin (k u) (k' u)) :
    SameOutcome Services.Twin (s.asMember c k) (s'.asMember c k') := by
  rw [Services.asMember, Services.asMember]
  split
  · exact same_fail h _
  · exact hk _

/-- An operation that does the same to a base is refused in both or done in both. -/
theorem same_withStore (h : s.Twin s') {α : Type} (op : Store → Except StoreError (α × Store))
    (hop : ∀ t, Store.baseOf (op t.base) = Store.baseOf (op t)) {k k' : α → Services → Outcome}
    (hk : ∀ a t t', t.Twin t' → SameOutcome Services.Twin (k a t) (k' a t')) :
    SameOutcome Services.Twin (s.withStore (op s.store) k) (s'.withStore (op s'.store) k') := by
  have hsame : Store.baseOf (op s'.store) = Store.baseOf (op s.store) :=
    Store.same_of_base (f := fun t => Store.baseOf (op t)) hop h.store
  generalize op s.store = r at hsame
  generalize op s'.store = r' at hsame
  cases r with
  -- refused in one, so refused in both
  | error e =>
    cases r' with
    | error e' =>
      obtain rfl : e' = e := Except.error.inj hsame
      exact same_fail h _
    | ok _ => cases hsame
  -- done in one, so done in both, with the same result
  | ok result =>
    cases r' with
    | error _ => cases hsame
    | ok result' =>
      obtain ⟨a, store⟩ := result
      obtain ⟨a', store'⟩ := result'
      obtain ⟨rfl, hstore⟩ : a' = a ∧ store'.base = store.base := by
        simpa [Store.baseOf, Except.map] using hsame
      exact hk a' _ _ (h.withStore hstore)

/-- An operation without a result is one with an empty result. -/
theorem withStore_eq (s : Services) (r : Except StoreError Store) (k : Services → Outcome) :
    s.withStore_ r k = s.withStore (r.map (Prod.mk ())) fun _ => k := by
  cases r <;> rfl

/-- The same of operations without a result. -/
theorem same_withStore_ (h : s.Twin s') (op : Store → Except StoreError Store)
    (hop : ∀ t, (op t.base).map Store.base = (op t).map Store.base) {k k' : Services → Outcome}
    (hk : ∀ t t', t.Twin t' → SameOutcome Services.Twin (k t) (k' t')) :
    SameOutcome Services.Twin (s.withStore_ (op s.store) k)
      (s'.withStore_ (op s'.store) k') := by
  rw [withStore_eq, withStore_eq]
  refine same_withStore h (fun t => (op t).map (Prod.mk ())) (fun t => ?_) fun _ => hk
  have hpair : ∀ r : Except StoreError Store,
      Store.baseOf (r.map (Prod.mk ())) = (r.map Store.base).map (Prod.mk ()) := by
    intro r
    cases r <;> rfl
  rw [hpair, hpair, hop]

/-- Criteria that are refused are refused in both. -/
theorem same_withCriteria (h : s.Twin s') (by_ upper lower maxCount : Int64)
    {k k' : Feed.Criteria → Outcome}
    (hk : ∀ criteria, SameOutcome Services.Twin (k criteria) (k' criteria)) :
    SameOutcome Services.Twin (Feeds.withCriteria s by_ upper lower maxCount k)
      (Feeds.withCriteria s' by_ upper lower maxCount k') := by
  rw [Feeds.withCriteria, Feeds.withCriteria]
  split
  · exact same_fail h _
  · exact hk _

/-- Pages of the same rows have the same boundaries. -/
theorem same_paged (h : s.Twin s') (c : Call) {α : Type} [Rpc.WireSize α]
    (payload : Rpc.Page α → Rpc.Payload) {rows rows' : List α} (hrows : rows' = rows) :
    SameOutcome Services.Twin (Queries.paged s c payload rows)
      (Queries.paged s' c payload rows') := by
  refine ⟨h, ?_⟩
  rw [hrows, Queries.paged, Queries.paged, h.ceiling]
  rfl

/-! ### Backups -/

/-- An upload leaves copies with one base, and a drive that is blind answers alike. -/
theorem upload_base (s : Services) (name : String) {drive : Files.Drive Store}
    (hblind : drive.IsBlind) (a : Rpc.BackupArgs) :
    Backup.upload s.base name drive a =
      ((Backup.upload s name drive a).1.base, (Backup.upload s name drive a).2) := by
  cases drive with
  -- a folder takes all contents alike
  | folder root =>
    have hfiles := Files.uploadTo_mapContents (f := Store.base) root s.files a.driveUrl
      Files.backupName s.store
    simp only [Backup.upload, Services.base, hfiles]
  -- another drive is told the same but for the contents
  | other answer =>
    have hanswer := hblind.answer_map s.uploads
      { drive := name
        address := a.driveUrl
        token := a.driveToken
        name := Files.backupName
        content := s.store } Store.base
    simp only [Files.Upload.map] at hanswer
    simp only [Backup.upload, Services.base, hanswer]
    simp [Files.Uploads.map, Files.Upload.map]

/-- An upload changes no drive. -/
theorem upload_drives (s : Services) (name : String) (drive : Files.Drive Store)
    (a : Rpc.BackupArgs) : (Backup.upload s name drive a).1.drives = s.drives := by
  cases drive <;> rfl

/-- A backup of either store has the same answer. -/
theorem same_backup (h : s.Twin s') (c : Call) (a : Rpc.BackupArgs) :
    SameOutcome Services.Twin (Backup.backup s c a) (Backup.backup s' c a) := by
  rw [Backup.backup, Backup.backup, h.drives]
  split
  · -- no drive of that name
    exact same_fail h _
  · rename_i drive hdrive
    have hblind : drive.IsBlind := h.blind a.driveName drive hdrive
    have hupload : ((Backup.upload s' a.driveName drive a).1.base,
          (Backup.upload s' a.driveName drive a).2) =
        ((Backup.upload s a.driveName drive a).1.base,
          (Backup.upload s a.driveName drive a).2) := by
      rw [← upload_base s' _ hblind, ← upload_base s _ hblind, h.base_eq]
    have hdrives := upload_drives s a.driveName drive a
    generalize Backup.upload s a.driveName drive a = o at hupload hdrives
    generalize Backup.upload s' a.driveName drive a = o' at hupload
    obtain ⟨t, r⟩ := o
    obtain ⟨t', r'⟩ := o'
    -- the copies that were sent have one base, and the drive answers alike
    obtain ⟨huploaded, hresult⟩ := Prod.mk.inj hupload
    obtain rfl : r' = r := hresult
    -- the drives themselves did not change
    have htwin : t.Twin t' := by
      refine ⟨huploaded, fun name drive hget => ?_⟩
      rw [show t.drives = s.drives from hdrives] at hget
      exact h.blind name drive hget
    cases r' with
    | ok _ => exact ⟨htwin, rfl⟩
    | error e =>
      cases e with
      | unauthorized => exact same_fail htwin _
      | io => exact same_fail htwin _

/-! ### Rows of answers -/

section Rows

variable (h : s.Twin s')

include h

/-- Channels that a listing finds make the same entries. -/
theorem channelEntries_same (list : Store → List Feed.Channel)
    (hlist : ∀ t, list t.base = (list t).map Feed.Channel.base) :
    (list s'.store).map (Rpc.ChannelEntry.ofChannel .v1) =
      (list s.store).map (Rpc.ChannelEntry.ofChannel .v1) := by
  refine Store.same_of_base (f := fun t => (list t).map (Rpc.ChannelEntry.ofChannel .v1))
    (fun t => ?_) h.store
  rw [hlist, List.map_map]
  rfl

/-- Posts that a listing finds make the same entries. -/
theorem postEntries_same (list : Store → List Feed.Post)
    (hlist : ∀ t, list t.base = (list t).map Feed.Post.base) :
    (list s'.store).map (Rpc.PostEntry.ofPost .v1) =
      (list s.store).map (Rpc.PostEntry.ofPost .v1) := by
  refine Store.same_of_base (f := fun t => (list t).map (Rpc.PostEntry.ofPost .v1)) (fun t => ?_)
    h.store
  rw [hlist, List.map_map]
  rfl

/-- Comments make the same entries, if these do not show the added columns. -/
theorem commentEntries_same {β : Type} {entry : Feed.SignedComment → β}
    (hentry : ∀ (t : Store) (x : Feed.Comment), entry (t.sign x.base) = entry (t.sign x))
    (channelId postId : Nat) (criteria : Feed.Criteria) :
    (s'.store.listComments channelId postId criteria).map entry =
      (s.store.listComments channelId postId criteria).map entry := by
  refine Store.same_of_base (f := fun t => (t.listComments channelId postId criteria).map entry)
    (fun t => ?_) h.store
  -- with a comment is listed what the store knows of its author, and users have no added columns
  rw [Store.listComments_base]
  simp only [Store.listComments, List.map_map]
  exact List.map_congr_left fun x _ => hentry t x

end Rows

/-- What comes of a call of version 1.0. -/
theorem handle_same (h : s.Twin s') (hv : c.version = .v1) (m : Method) (args : m.Args) :
    SameOutcome Services.Twin (handle s c m args) (handle s' c m args) := by
  cases m with
  | standardSignIn => exact signIn_same sharesResolver_twin h c args
  | standardDidAuth => exact didAuth_same sharesResolver_twin h c args
  | declareOwner => exact declareOwner_same sharesResolver_twin h c args
  | backupServiceData => exact same_backup h c args
  -- the calls that write
  | createChannel =>
    simp only [handle, Feeds.createChannel, h.now]
    split
    · exact same_fail h _
    · exact same_withStore h (·.createChannel s.now _) (fun t => t.createChannel_base _ _)
        fun _ _ _ h => same_done h c _
  | publishPost =>
    simp only [handle, Feeds.publishPost, h.now]
    exact same_withStore h (·.publishPost s.now _ _) (fun t => t.publishPost_base _ _ _)
      fun _ _ _ h => same_tell h _ _ _ _
  | editPost =>
    simp only [handle, Feeds.editPost, h.now]
    exact same_withStore h (·.editPost s.now _ _ _) (fun t => t.editPost_base _ _ _ _)
      fun _ _ _ h => same_done h c _
  | deletePost =>
    simp only [handle, Feeds.deletePost, h.now]
    exact same_withStore_ h (·.deletePost s.now _ _) (fun t => t.deletePost_base _ _ _)
      fun _ _ h => same_done h c _
  | postComment =>
    refine same_asMember h fun u => ?_
    have hrecorded := h.record u
    simp only [hrecorded.now]
    exact same_withStore hrecorded (·.postComment _ _ _ _ _ _)
      (fun t => t.postComment_base _ _ _ _ _ _) fun _ _ _ h => same_tell h _ _ _ _
  | editComment =>
    refine same_asMember h fun u => ?_
    simp only [h.now]
    exact same_withStore h (·.editComment _ _ _ _ _ _) (fun t => t.editComment_base _ _ _ _ _ _)
      fun _ _ _ h => same_done h c _
  | deleteComment =>
    refine same_asMember h fun u => ?_
    simp only [h.now]
    exact same_withStore_ h (·.deleteComment _ _ _ _ _ _)
      (fun t => t.deleteComment_base _ _ _ _ _ _) fun _ _ h => same_done h c _
  | blockComment =>
    simp only [handle, Feeds.setBlocked, h.now]
    exact same_withStore_ h (·.setBlocked _ _ _ _ _) (fun t => t.setBlocked_base _ _ _ _ _)
      fun _ _ h => same_done h c _
  | unblockComment =>
    simp only [handle, Feeds.setBlocked, h.now]
    exact same_withStore_ h (·.setBlocked _ _ _ _ _) (fun t => t.setBlocked_base _ _ _ _ _)
      fun _ _ h => same_done h c _
  | postLike =>
    -- a like records the user first
    refine same_asMember h fun u => ?_
    have hrecorded := h.record u
    simp only [hrecorded.now]
    exact same_withStore hrecorded (·.like _ _ _ _ _) (fun t => t.like_base _ _ _ _ _)
      fun _ _ _ h => same_tell h _ _ _ _
  | postUnlike =>
    refine same_asMember h fun u => ?_
    exact same_withStore h (·.unlike _ _ _ _) (fun t => t.unlike_base _ _ _ _)
      fun _ _ _ h => same_done h c _
  -- the audience changes with the subscriptions, alike in both
  | subscribeChannel =>
    refine same_asMember h fun u => ?_
    have hrecorded := h.record u
    simp only [hrecorded.now]
    refine same_withStore_ hrecorded (·.subscribe _ _ _) (fun t => t.subscribe_base _ _ _)
      fun t t' h => ?_
    rw [h.audience]
    exact same_done (h.withAudience _) c _
  | unsubscribeChannel =>
    refine same_asMember h fun u => ?_
    refine same_withStore_ h (·.unsubscribe _ _) (fun t => t.unsubscribe_base _ _)
      fun t t' h => ?_
    rw [h.audience]
    exact same_done (h.withAudience _) c _
  | enableNotification =>
    refine same_asMember h fun u => ?_
    have hchannels : s'.store.subscribedIds u.userId = s.store.subscribedIds u.userId :=
      Store.same_of_base (f := fun t => t.subscribedIds u.userId) (fun _ => rfl) h.store
    simp only [hchannels, h.audience]
    split
    · exact same_fail h _
    · exact same_done (h.withAudience _) c _
  -- the calls that only read
  | getMyChannels =>
    refine same_withCriteria h _ _ _ _ fun criteria => same_done_of_eq h c ?_
    refine congrArg _ (Store.same_of_base
      (f := fun t => (t.listChannels criteria).map Rpc.OwnChannelEntry.ofChannel) (fun t => ?_)
      h.store)
    rw [Store.listChannels_base, List.map_map]
    rfl
  | getChannels =>
    simp only [handle, Feeds.channels, hv]
    refine same_withCriteria h _ _ _ _ fun criteria => same_done_of_eq h c ?_
    exact congrArg _
      (channelEntries_same h (·.listChannels criteria) fun t => t.listChannels_base _)
  | getChannelDetail =>
    -- one channel is a listing of at most one
    have hentry : (s'.store.channel? args.channelId.toNat).map (Rpc.ChannelEntry.ofChannel .v1) =
        (s.store.channel? args.channelId.toNat).map (Rpc.ChannelEntry.ofChannel .v1) := by
      refine Store.same_of_base (f := fun t =>
        (t.channel? args.channelId.toNat).map (Rpc.ChannelEntry.ofChannel .v1)) (fun t => ?_)
        h.store
      rw [Store.channel?_base, Option.map_map]
      rfl
    simp only [handle, Feeds.channelDetail, hv]
    generalize s.store.channel? args.channelId.toNat = found at hentry
    generalize s'.store.channel? args.channelId.toNat = found' at hentry
    cases found with
    | none =>
      obtain rfl : found' = none := Option.map_eq_none_iff.1 hentry
      exact same_fail h _
    | some ch =>
      obtain ⟨ch', rfl, hsame⟩ := Option.map_eq_some_iff.1 hentry
      exact same_done_of_eq h c (congrArg _ hsame)
  | getSubscribedChannels =>
    simp only [handle, Feeds.subscribedChannels, hv]
    refine same_asMember h fun u => ?_
    refine same_withCriteria h _ _ _ _ fun criteria => same_done_of_eq h c ?_
    exact congrArg _ (channelEntries_same h (·.listSubscribed u.userId criteria)
      fun t => t.listSubscribed_base _ _)
  | getPosts =>
    simp only [handle, Feeds.posts, hv]
    refine same_withCriteria h _ _ _ _ fun criteria => same_done_of_eq h c ?_
    exact congrArg _ (postEntries_same h (·.listPosts args.channelId.toNat criteria)
      fun t => t.listPosts_base _ _)
  | getLikedPosts =>
    simp only [handle, Feeds.likedPosts, hv]
    refine same_asMember h fun u => ?_
    refine same_withCriteria h _ _ _ _ fun criteria => same_done_of_eq h c ?_
    exact congrArg _ (postEntries_same h (·.listLiked u.userId criteria)
      fun t => t.listLiked_base _ _)
  | getComments =>
    simp only [handle, Feeds.comments]
    split
    · exact same_fail h _
    · refine same_done_of_eq h c (congrArg _ ?_)
      exact commentEntries_same h (fun _ _ => rfl) _ _ _
  | getStatistics =>
    -- what is told of the owner is in the table of users
    refine same_done_of_eq h c ?_
    have hdid : s'.store.user? Auth.ownerUserId = s.store.user? Auth.ownerUserId :=
      Store.same_of_base (f := fun t => t.user? Auth.ownerUserId) (fun _ => rfl) h.store
    rw [hdid, h.audience]
  | getServiceVersion =>
    refine same_done_of_eq h c ?_
    rw [h.versionCode]
  -- the paged queries
  | getMultiComments =>
    simp only [handle, Queries.comments, hv]
    split
    · exact same_fail h _
    · exact same_paged h c _ (commentEntries_same h (fun _ _ => rfl) _ _ _)
  | getMultiLikesAndCommentsCount =>
    simp only [handle, Queries.postCounts]
    split
    · exact same_fail h _
    · rename_i channelId postId criteria _
      refine same_paged h c _ (congrArg _ ?_)
      exact Store.same_of_base (f := fun t => t.listPostCounts channelId postId criteria)
        (fun t => t.listPostCounts_base _ _ _) h.store
  | getMultiSubscribersCount =>
    simp only [handle, Queries.subscriberCounts]
    split
    · exact same_fail h _
    · rename_i channelId _
      refine same_paged h c _ (congrArg _ ?_)
      exact Store.same_of_base (f := fun t => t.listSubscriberCounts channelId)
        (fun t => t.listSubscriberCounts_base _) h.store

/-- What comes of a request of version 1.0. -/
theorem serve_same (h : s.Twin s') {peer : Peer} {request : Request}
    (hv : request.version = .v1) :
    SameOutcome Services.Twin (serve s peer request) (serve s' peer request) := by
  simp only [serve, h.resolver]
  split
  · -- the routing refused it
    exact same_fail h _
  · -- a handler takes it
    exact handle_same (c := ⟨_, _, _⟩) h hv _ _
  · exact same_fail h _

end Calls

/-! ## Runs -/

/-- Two nodes that differ in nothing but what the columns hold that version 2.0 added. -/
structure OneBase {σ : Type} (n n' : Node σ) : Prop where
  services : n.services.OneBase n'.services
  delivery : n'.delivery = n.delivery

/-- The octets are no request of version 2.0: what they call, they call in version 1.0, in either
dialect. -/
def isOld (octets : Bytes) : Bool :=
  match decodeAny octets with
  | .ok d => !d.isProcessed || d.request.version == .v1
  | .error _ => true

/-- What octets of version 1.0 call, they call in version 1.0. -/
theorem version_of_isOld {octets : Bytes} (h : isOld octets = true) {d : Rpc.Decoded}
    (hd : decodeAny octets = .ok d) (hprocessed : d.isProcessed = true) :
    d.request.version = .v1 := by
  simpa [isOld, hd, hprocessed] using h

/-- What holds of all messages holds of each in its turn. -/
theorem eachMessage_of_forall {σ : Type} [Carrier σ] {P : Bytes → Prop}
    {messages : List (Peer × Bytes)} (h : ∀ m ∈ messages, P m.2) (n : Node σ) :
    n.EachMessage (fun _ => P) messages := by
  induction messages generalizing n with
  | nil => trivial
  | cons message messages ih =>
    obtain ⟨hfirst, hrest⟩ := List.forall_mem_cons.1 h
    exact ⟨hfirst, ih hrest _⟩

/-- As long as nobody calls in version 2.0, what a node sends and what becomes of it does not depend
on what the columns hold that version 2.0 added, if no drive looks into the backups. -/
theorem added_columns_unseen {σ : Type} [Carrier σ] {n n' : Node σ} (h : n.OneBase n')
    (hblind : n.services.DrivesBlind) {messages : List (Peer × Bytes)}
    (hmessages : ∀ m ∈ messages, isOld m.2 = true) :
    n'.spoken messages = n.spoken messages ∧
      (n.receiveAll messages).OneBase (n'.receiveAll messages) := by
  -- one step keeps the two nodes twins, and so does a run
  have htwin : n.services.Twin n'.services := ⟨h.services, hblind⟩
  obtain ⟨hspoken, hdelivery, hservices⟩ :=
    two_runs (R := Services.Twin) (fun s s' peer octets h hold =>
      respond_same h fun d hd hprocessed => serve_same h (version_of_isOld hold hd hprocessed))
      htwin h.delivery (eachMessage_of_forall hmessages n)
  exact ⟨hspoken, hservices.oneBase, hdelivery⟩

/-- The store after a post and a comment, with some text in the added columns. -/
def extendedStore (text : String) : Store :=
  let create : Request := .make .v2 1 (.call .createChannel
    { token := "o", name := "news", introduction := "", avatar := [], tipMethods := text
      proof := text })
  let publish : Request := .make .v2 2 (.call .publishPost
    { token := "o", channelId := 1, content := [1], thumbnails := Text.utf8 text, hashId := text
      proof := text })
  let comment : Request := .make .v2 3 (.call .postComment
    { token := "m", channelId := 1, postId := 1, referId := 0, content := [2]
      thumbnails := Text.utf8 text, hashId := text, proof := text })
  (sampleStart.receiveAll [("owner", create.encode), ("owner", publish.encode),
    ("member", comment.encode)]).services.store

/-- A drive that takes one backup and no more. -/
def oneBackupDrive : Files.Drive Store :=
  .other fun us _ => if us.isEmpty then .ok () else .error .unauthorized

/-- The drive that takes one backup does not look into it. -/
theorem isBlind_oneBackupDrive : oneBackupDrive.IsBlind := by
  intro us us' u u' hlabels hlabel
  -- how many there were is told by the labels
  have hlength : us'.length = us.length := by
    simpa [Files.Uploads.labels, Files.Uploads.map] using congrArg List.length hlabels
  cases us <;> cases us' <;> simp_all

/-- A node with this store and this drive. -/
def extendedNode (text : String) : Node Memory :=
  { sampleStart with
    services :=
      { sampleStart.services with
        store := extendedStore text
        drives := .ofEntries [("cloud", oneBackupDrive)] } }

/-- No drive of that node looks into what it is sent. -/
theorem drivesBlind_extendedNode (text : String) : (extendedNode text).services.DrivesBlind := by
  intro name drive hget
  have hentries : (extendedNode text).services.drives = ⟨[("cloud", oneBackupDrive)]⟩ := rfl
  rw [hentries] at hget
  obtain ⟨-, rfl⟩ : "cloud" = name ∧ oneBackupDrive = drive := by
    simpa [Dict.get?, Dict.find?] using hget
  exact isBlind_oneBackupDrive

/-- Whatever text is in the added columns, the nodes have one base. -/
theorem oneBase_extendedNode : (extendedNode "s").OneBase (extendedNode "long") := by
  have hstore : (extendedStore "long").base = (extendedStore "s").base := by
    simp only [Store.base, Store.mk.injEq]
    decide +kernel
  exact ⟨Services.OneBase.withStore (s := (extendedNode "s").services) rfl hstore, rfl⟩

/-- Two nodes whose added columns hold texts of different lengths, a member who reads them all in
version 1.0, asks for notices, and hears of a new post, and the owner, who backs them up twice. -/
theorem added_columns_unseen_short_long :
    let n := extendedNode "s"
    let n' := extendedNode "long"
    let all : Rpc.QueryArgs :=
      { token := "m", channelId := 0, postId := 0, by_ := 0, upper := 0, lower := 0, maxCount := 0 }
    let calls : List (Peer × Request) :=
      [("member", .make .v1 1 (.call .getMultiComments all)),
        ("member", .makeLegacy 2 (.call .getChannelDetail { token := "m", channelId := 1 })),
        ("member", .makeLegacy 3 (.call .subscribeChannel { token := "m", channelId := 1 })),
        ("member", .makeLegacy 4 (.call .enableNotification { token := "m" })),
        ("owner", .make .v1 5 (.call .publishPost
          { token := "o", channelId := 1, content := [3], thumbnails := [], hashId := ""
            proof := "" })),
        ("owner", .make .v1 6 (.call .backupServiceData
          { token := "o", driveName := "cloud", driveUrl := "", driveToken := "" })),
        ("owner", .make .v1 7 (.call .backupServiceData
          { token := "o", driveName := "cloud", driveUrl := "", driveToken := "" }))]
    let messages : List (Peer × Bytes) := calls.map fun (peer, r) => (peer, r.encode)
    n'.services.store.channels ≠ n.services.store.channels ∧
      n'.services.store.comments ≠ n.services.store.comments ∧
      (n.spoken messages).map Prod.fst =
        ["member", "member", "member", "member", "owner", "member", "owner", "owner", "owner"] ∧
      n'.spoken messages = n.spoken messages := by
  intro n n' all calls messages
  have hone : n.OneBase n' := oneBase_extendedNode
  have hold : ∀ m ∈ messages, isOld m.2 = true := by decide +kernel
  exact ⟨by decide +kernel, by decide +kernel, by decide +kernel,
    (added_columns_unseen hone (drivesBlind_extendedNode "s") hold).1⟩

end Node

end FeedNode
