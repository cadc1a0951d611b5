import FeedNode.Proofs.Feed.Subscriptions
import FeedNode.Proofs.Node.Outcomes

/-!
# The audience follows the subscriptions

A peer in the audience is bound to a user, and carries a copy of the channels that the user
subscribes to. The copy is taken when the peer asks for notices and then kept up call by call. It is
always what the store says, so that news of a channel goes to the peers of its subscribers and to
nobody else.

`Spread` says of every handler what it tells to whom and what it does to the audience and to the
subscriptions; everything else follows from its cases.

Main statements: `handle_spread`, `Spread.follows` and `Spread.binding?`.
-/

namespace FeedNode

/-! ## The audience -/

namespace Delivery

/-- What a peer in the audience is bound to: a user, and the form in which it is told. -/
structure Binding where
  userId : Nat
  dialect : Rpc.Dialect
  version : Rpc.Version
deriving DecidableEq, Repr

/-- The binding of a peer that is told. -/
def Follower.binding (f : Follower) : Binding where
  userId := f.userId
  dialect := f.dialect
  version := f.version

/-- After following a channel a peer has that one more. -/
theorem Follower.mem_follow {f : Follower} {channelId c : Nat} :
    c ∈ (f.follow channelId).channels ↔ c ∈ f.channels ∨ c = channelId := by
  rw [follow]
  split
  · -- the peer followed it before
    rename_i hfollows
    have hmem : channelId ∈ f.channels := by simpa using hfollows
    grind
  · simp

/-- After unfollowing a channel a peer has that one less. -/
theorem Follower.mem_unfollow {f : Follower} {channelId c : Nat} :
    c ∈ (f.unfollow channelId).channels ↔ c ∈ f.channels ∧ c ≠ channelId := by
  simp [unfollow]

/-- Following a channel changes no binding. -/
theorem Follower.binding_follow (f : Follower) (channelId : Nat) :
    (f.follow channelId).binding = f.binding := by
  rw [follow]
  split <;> rfl

namespace Audience

variable {a a' : Audience} {peer : Peer}

/-- The binding of a peer, if it is in the audience. -/
def binding? (a : Audience) (peer : Peer) : Option Binding :=
  (a.followers.get? peer).map Follower.binding

/-- Changes of followers that keep their bindings keep those of all peers. -/
theorem binding?_mapValues {g : Follower → Follower} (hg : ∀ f, (g f).binding = f.binding)
    (a : Audience) (peer : Peer) :
    binding? ⟨a.followers.mapValues g⟩ peer = a.binding? peer := by
  rw [binding?, binding?, Dict.get?_mapValues, Option.map_map]
  congr 1
  funext f
  exact hg f

/-- Subscriptions come and go without changing who is bound to whom. -/
theorem binding?_addChannel (a : Audience) (userId channelId : Nat) (peer : Peer) :
    (a.addChannel userId channelId).binding? peer = a.binding? peer := by
  refine binding?_mapValues (fun f => ?_) a peer
  split
  · exact f.binding_follow channelId
  · rfl

/-- Subscriptions that end do not change who is bound to whom. -/
theorem binding?_removeChannel (a : Audience) (userId channelId : Nat) (peer : Peer) :
    (a.removeChannel userId channelId).binding? peer = a.binding? peer := by
  refine binding?_mapValues (fun f => ?_) a peer
  split <;> rfl

/-- A peer that leaves is bound no more, and all others are bound as before. -/
theorem binding?_deactivate (a : Audience) (left peer : Peer) :
    (a.deactivate left).binding? peer = if peer = left then none else a.binding? peer := by
  rw [deactivate, binding?, binding?, Dict.get?_erase]
  split <;> rfl

/-- A peer that is bound already cannot be bound again. -/
theorem activate?_some {f : Follower} (h : a.activate? peer f = some a') :
    a.binding? peer = none ∧ a'.followers = a.followers.insert peer f := by
  rw [activate?] at h
  split at h
  · cases h
  · -- the peer was not active
    rename_i hactive
    refine ⟨?_, by rw [← Option.some.inj h]⟩
    have hnone : a.followers.get? peer = none := by
      simpa [isActive, Dict.contains] using hactive
    rw [binding?, hnone, Option.map_none]

/-- The audience is what it should be, given who subscribes to what. -/
structure Follows (a : Audience) (subscribed : Nat → Nat → Bool) : Prop where
  nodup : a.followers.Nodup
  mem_iff : ∀ peer f, a.followers.get? peer = some f →
    ∀ c, c ∈ f.channels ↔ subscribed f.userId c = true

variable {subscribed subscribed' : Nat → Nat → Bool}

/-- An empty audience follows any subscriptions. -/
theorem follows_empty (subscribed : Nat → Nat → Bool) : empty.Follows subscribed := by
  refine ⟨Dict.nodup_empty, fun peer f hf => ?_⟩
  simp [empty] at hf

/-- An audience follows the same subscriptions, however these are told. -/
theorem Follows.congr (h : a.Follows subscribed) (hsame : ∀ u c, subscribed' u c = subscribed u c) :
    a.Follows subscribed' := by
  refine ⟨h.nodup, fun peer f hf c => ?_⟩
  rw [hsame]
  exact h.mem_iff peer f hf c

/-- A peer that leaves takes its channels with it. -/
theorem Follows.deactivate (h : a.Follows subscribed) (left : Peer) :
    (a.deactivate left).Follows subscribed := by
  refine ⟨Dict.nodup_erase h.nodup left, fun peer f hf => ?_⟩
  rw [Audience.deactivate, Dict.get?_erase] at hf
  split at hf
  · cases hf
  · exact h.mem_iff peer f hf

/-- A peer is bound with the channels that its user subscribes to. -/
theorem Follows.activate (h : a.Follows subscribed) {f : Follower}
    (hf : ∀ c, c ∈ f.channels ↔ subscribed f.userId c = true)
    (ha : a.activate? peer f = some a') : a'.Follows subscribed := by
  obtain ⟨-, hinsert⟩ := activate?_some ha
  refine ⟨hinsert ▸ Dict.nodup_insert h.nodup peer f, fun p g hg => ?_⟩
  rw [hinsert, Dict.get?_insert] at hg
  split at hg
  · -- the peer that is bound
    rw [← Option.some.inj hg]
    exact hf
  · -- the others
    exact h.mem_iff p g hg

/-- Followers change with the subscriptions, one by one. -/
theorem Follows.mapValues (h : a.Follows subscribed) {g : Follower → Follower}
    (hg : ∀ f, (∀ c, c ∈ f.channels ↔ subscribed f.userId c = true) →
      ∀ c, c ∈ (g f).channels ↔ subscribed' (g f).userId c = true) :
    Follows ⟨a.followers.mapValues g⟩ subscribed' := by
  refine ⟨Dict.nodup_mapValues h.nodup g, fun peer f' hf' => ?_⟩
  rw [Dict.get?_mapValues, Option.map_eq_some_iff] at hf'
  obtain ⟨f, hf, rfl⟩ := hf'
  exact hg f (h.mem_iff peer f hf)

/-- One more subscription. -/
theorem Follows.addChannel (h : a.Follows subscribed) (userId channelId : Nat) :
    (a.addChannel userId channelId).Follows fun u c =>
      subscribed u c || (userId == u && channelId == c) := by
  refine h.mapValues fun f hf c => ?_
  by_cases huser : f.userId = userId
  · -- a follower of the user who subscribes
    have hsame : (f.follow channelId).userId = f.userId :=
      congrArg Binding.userId (f.binding_follow channelId)
    rw [if_pos huser, Follower.mem_follow, hf c, hsame]
    grind
  · -- of another user
    rw [if_neg huser, hf c]
    simp [Ne.symm huser]

/-- One subscription less. -/
theorem Follows.removeChannel (h : a.Follows subscribed) (userId channelId : Nat) :
    (a.removeChannel userId channelId).Follows fun u c =>
      subscribed u c && !(userId == u && channelId == c) := by
  refine h.mapValues fun f hf c => ?_
  by_cases huser : f.userId = userId
  · have hsame : (f.unfollow channelId).userId = f.userId := rfl
    rw [if_pos huser, Follower.mem_unfollow, hf c, hsame]
    grind
  · rw [if_neg huser, hf c]
    simp [Ne.symm huser]

/-- Of those that follow a channel, a peer is one if its user subscribes, and only once. -/
theorem Follows.filter_following (h : a.Follows subscribed) (channelId : Nat) (peer : Peer) :
    ((a.following channelId).filter fun e => e.1 = peer) =
      ((a.followers.get? peer).toList.filter fun f => subscribed f.userId channelId).map
        (Prod.mk peer) := by
  -- a peer has one entry at most
  have hkey := Dict.filter_key h.nodup peer
  have hswap := List.filter_comm (fun e : Peer × Follower => decide (e.1 = peer))
    (fun e => e.2.channels.contains channelId) a.followers.entries
  rw [following, hswap, hkey]
  cases hf : a.followers.get? peer with
  | none => rfl
  | some f =>
    have hmem := h.mem_iff peer f hf channelId
    by_cases hsub : subscribed f.userId channelId = true
    · simp [hsub, hmem]
    · simp [hsub, hmem]

end Audience

end Delivery

/-! ## Methods -/

namespace Rpc

/-- The channel whose followers hear of the call when it is served. -/
def Params.announces? : Params → Option Nat
  | .call .publishPost a => some a.channelId.toNat
  | .call .postComment a => some a.channelId.toNat
  | .call .postLike a => some a.channelId.toNat
  | _ => none

/-- Nobody hears of a call of the method, and no peer is bound by it. -/
def Method.isQuiet : Method → Bool
  | .publishPost | .postComment | .postLike | .backupServiceData | .enableNotification => false
  | _ => true

/-- What is quiet is no news. -/
theorem Params.announces?_of_isQuiet {m : Method} (h : m.isQuiet = true) (args : m.Args) :
    (Params.call m args).announces? = none := by
  cases m <;> first | rfl | cases h

end Rpc

namespace Node

open Delivery (Audience Binding Follower Peer)
open Feed (Operation Store StoreError User)
open Rpc (ErrorCode Method News Notice Page Params Payload Request)

/-! ## Notices -/

/-- The notice and the peer it goes to, if the output is one. -/
def Output.notice? : Output → Option (Peer × Notice)
  | .reply _ | .enqueue _ => none
  | .notify peer n => some (peer, n)

/-- The notices among some outputs, in order. -/
def notices (out : List Output) : List (Peer × Notice) :=
  out.filterMap Output.notice?

/-- The notices to one peer. -/
def noticesTo (peer : Peer) (out : List Output) : List Notice :=
  ((notices out).filter fun x => x.1 = peer).map Prod.snd

/-- The notice to a follower, in the form that it asked for. -/
def noticeTo (method : String) (news : News) (f : Follower) : Notice where
  dialect := f.dialect
  version := f.version
  method := method
  news := news

/-- News is told to all who follow the channel. -/
theorem notices_tell (s : Services) (channelId : Nat) (method : String) (news : News) :
    notices (s.tell channelId method news) =
      (s.audience.following channelId).map fun (peer, f) => (peer, noticeTo method news f) := by
  rw [notices, Services.tell, List.filterMap_map, ← List.filterMap_eq_map]
  rfl

/-! ## Handlers -/

/-- The audience and the subscriptions are the same. -/
structure Services.SameFollowing (s s' : Services) : Prop where
  audience : s'.audience = s.audience
  subscribed : ∀ u c, s'.store.isSubscribed u c = s.store.isSubscribed u c

/-- Whom a call of a method tells what, and what it does to the audience and the subscriptions. -/
inductive Spread (s : Services) (c : Call) (m : Method) (args : m.Args) : Outcome → Prop where
  | failed (s' : Services) (code : ErrorCode) : Spread s c m args (s', .error code)
  | quiet {s' : Services} {out : List Output} (hm : m.isQuiet = true) (hsame : s.SameFollowing s')
      (hout : notices out = []) : Spread s c m args (s', .ok out)
  /-- Everyone who follows the channel of the call hears of it. -/
  | news {s' : Services} {out : List Output} {channelId : Nat}
      (hnews : (Params.call m args).announces? = some channelId) (hsame : s.SameFollowing s')
      (name : String) (news : News)
      (hout : notices out = (s.audience.following channelId).map fun (peer, f) =>
        (peer, noticeTo name news f)) : Spread s c m args (s', .ok out)
  | backup {s' : Services} {out : List Output} (hm : m = .backupServiceData)
      (hsame : s.SameFollowing s') (n : Notice) (hout : notices out = [(c.peer, n)]) :
      Spread s c m args (s', .ok out)
  /-- The calling peer is bound to the caller and the caller's channels. -/
  | enabled {s' : Services} {out : List Output} {u : User} {f : Follower}
      (hm : m = .enableNotification) (hu : c.caller = some u) (hstore : s'.store = s.store)
      (hbinding : f.binding = ⟨u.userId, c.request.dialect, c.request.version⟩)
      (hchannels : f.channels = s.store.subscribedIds u.userId)
      (haudience : s.audience.activate? c.peer f = some s'.audience) (hout : notices out = []) :
      Spread s c m args (s', .ok out)
  | subscribed {s' : Services} {out : List Output} {userId channelId : Nat}
      (hm : m.isQuiet = true) (haudience : s'.audience = s.audience.addChannel userId channelId)
      (hstore : ∀ u c, s'.store.isSubscribed u c =
        (s.store.isSubscribed u c || (userId == u && channelId == c)))
      (hout : notices out = []) : Spread s c m args (s', .ok out)
  | unsubscribed {s' : Services} {out : List Output} {userId channelId : Nat}
      (hm : m.isQuiet = true) (haudience : s'.audience = s.audience.removeChannel userId channelId)
      (hstore : ∀ u c, s'.store.isSubscribed u c =
        (s.store.isSubscribed u c && !(userId == u && channelId == c)))
      (hout : notices out = []) : Spread s c m args (s', .ok out)

section Handlers

variable {s s' s₁ : Services} {c : Call} {m : Method} {args : m.Args}

/-- Services follow as they follow. -/
theorem Services.SameFollowing.refl (s : Services) : s.SameFollowing s :=
  ⟨rfl, fun _ _ => rfl⟩

/-- With the same rows and audience nothing changes for those who follow. -/
theorem Services.SameFollowing.of_sameRows (h : s.store.SameRows s'.store)
    (haudience : s'.audience = s.audience) : s.SameFollowing s' :=
  ⟨haudience, h.isSubscribed⟩

/-- Recording a user changes nothing for those who follow. -/
theorem Services.SameFollowing.record (s : Services) (u : User) : s.SameFollowing (s.record u) :=
  .of_sameRows (Store.sameRows_upsertUser s.store u) rfl

/-- An operation that is not about subscriptions leaves them as they are. -/
theorem Services.SameFollowing.apply (h : s.SameFollowing s₁) (op : Operation)
    (hop : ∀ u c b, op.subscribed u c b = b) {t : Store} (happly : op.apply s₁.store = .ok t) :
    s.SameFollowing { s₁ with store := t } := by
  refine ⟨h.audience, fun u c => ?_⟩
  exact (Store.isSubscribed_apply op happly u c).trans ((hop u c _).trans (h.subscribed u c))

/-- A failure spreads nothing. -/
theorem spread_fail (code : ErrorCode) : Spread s c m args (s.fail code) :=
  .failed s code

/-- An answer spreads nothing but itself. -/
theorem spread_done (hm : m.isQuiet = true) (hsame : s.SameFollowing s') (payload : Payload) :
    Spread s c m args (Feeds.done s' c payload) :=
  .quiet hm hsame rfl

/-- News spreads to all who follow the channel. -/
theorem spread_tell {channelId : Nat} (hnews : (Params.call m args).announces? = some channelId)
    (hsame : s.SameFollowing s') (payload : Payload) (name : String) (news : News) :
    Spread s c m args
      (s'.finish (.reply (c.answer payload) :: s'.tell channelId name news)) := by
  refine .news hnews hsame name news ?_
  show notices (s'.tell channelId name news) = _
  rw [notices_tell, hsame.audience]

/-- What a member's call spreads is what it spreads for the member. -/
theorem spread_asMember {k : User → Outcome}
    (h : ∀ u, c.caller = some u → Spread s c m args (k u)) :
    Spread s c m args (s.asMember c k) := by
  rw [Services.asMember]
  split
  · exact spread_fail _
  · rename_i u hu
    exact h u hu

/-- What a query spreads is what it spreads by its criteria. -/
theorem spread_withCriteria (by_ upper lower maxCount : Int64) {k : Feed.Criteria → Outcome}
    (h : ∀ criteria, Spread s c m args (k criteria)) :
    Spread s c m args (Feeds.withCriteria s by_ upper lower maxCount k) := by
  rw [Feeds.withCriteria]
  split
  · exact spread_fail _
  · exact h _

/-- What comes of an operation spreads once the operation is done. -/
theorem spread_withStore {α : Type} {r : Except StoreError (α × Store)}
    {k : α → Services → Outcome}
    (hk : ∀ a t, r = .ok (a, t) → Spread s c m args (k a { s₁ with store := t })) :
    Spread s c m args (s₁.withStore r k) := by
  cases r with
  | error e => exact .failed _ _
  | ok result => exact hk _ _ rfl

/-- The same of an operation without a result. -/
theorem spread_withStore_ {r : Except StoreError Store} {k : Services → Outcome}
    (hk : ∀ t, r = .ok t → Spread s c m args (k { s₁ with store := t })) :
    Spread s c m args (s₁.withStore_ r k) := by
  cases r with
  | error e => exact .failed _ _
  | ok store => exact hk _ rfl

/-- A write that nobody hears of. -/
theorem spread_write {α : Type} {r : Except StoreError (α × Store)} {payload : α → Payload}
    (hm : m.isQuiet = true) (hsame : s.SameFollowing s₁) (op : Operation)
    (hop : ∀ u c b, op.subscribed u c b = b) (hr : op.apply s₁.store = r.map Prod.snd) :
    Spread s c m args (s₁.withStore r fun a s => Feeds.done s c (payload a)) := by
  refine spread_withStore fun a t hok => spread_done hm (hsame.apply op hop ?_) _
  rw [hr, hok]
  rfl

/-- The same of an operation without a result. -/
theorem spread_write_ {r : Except StoreError Store} (hm : m.isQuiet = true) (op : Operation)
    (hop : ∀ u c b, op.subscribed u c b = b) (hr : op.apply s.store = r) :
    Spread s c m args (s.withStore_ r fun s => Feeds.done s c .empty) :=
  spread_withStore_ fun _ hok => spread_done hm (.apply (.refl s) op hop (hr.trans hok)) _

/-- Signing in spreads nothing. -/
theorem spread_signIn (hm : m.isQuiet = true) (a : Rpc.SignInArgs) :
    Spread s c m args (SignIn.signIn s c a) := by
  rw [SignIn.signIn]
  split
  · exact spread_fail _
  · split
    · exact spread_fail _
    · exact .quiet hm ⟨rfl, fun _ _ => rfl⟩ rfl

/-- Answering a challenge spreads nothing. -/
theorem spread_didAuth (hm : m.isQuiet = true) (a : Rpc.DidAuthArgs) :
    Spread s c m args (SignIn.didAuth s c a) := by
  rw [SignIn.didAuth]
  split
  · exact spread_fail _
  · split
    · exact spread_fail _
    · exact .quiet hm (.of_sameRows (Store.sameRows_upsertUser s.store _) rfl) rfl

/-- Declaring an owner spreads nothing. -/
theorem spread_declareOwner (hm : m.isQuiet = true) (a : Rpc.DeclareOwnerArgs) :
    Spread s c m args (SignIn.declareOwner s c a) := by
  rw [SignIn.declareOwner]
  split
  · exact spread_fail _
  · split
    · exact spread_fail _
    · rename_i isFirst resolver _
      cases isFirst with
      | true => exact .quiet hm (.of_sameRows (Store.sameRows_upsertUser s.store _) rfl) rfl
      | false => exact .quiet hm ⟨rfl, fun _ _ => rfl⟩ rfl

/-- Pages spread nothing but themselves. -/
theorem spread_paged {α : Type} [Rpc.WireSize α] {payload : Page α → Payload} {rows : List α}
    (hm : m.isQuiet = true) : Spread s c m args (Queries.paged s c payload rows) := by
  refine .quiet hm (.refl s) ?_
  rw [notices, List.filterMap_map, List.filterMap_eq_nil_iff]
  -- a page is an answer
  intro page _
  rfl

/-- A backup is told to its caller. -/
theorem spread_backup (hm : m = .backupServiceData) (a : Rpc.BackupArgs) :
    Spread s c m args (Backup.backup s c a) := by
  rw [Backup.backup]
  split
  · exact spread_fail _
  · rename_i drive _
    obtain ⟨hstore, -, haudience⟩ := upload_eq (s := s) a.driveName drive a
    split <;> rename_i hr
    · -- the drive did not let the caller in
      exact .failed _ _
    · -- the drive failed
      exact .failed _ _
    · -- the caller is told
      rw [hr] at hstore haudience
      have hsame : s.SameFollowing _ := .of_sameRows (hstore ▸ .refl _) haudience
      exact .backup hm hsame _ rfl

/-- What every handler spreads. -/
theorem handle_spread (args : m.Args) : Spread s c m args (handle s c m args) := by
  cases m with
  | standardSignIn => exact spread_signIn rfl args
  | standardDidAuth => exact spread_didAuth rfl args
  | declareOwner => exact spread_declareOwner rfl args
  | backupServiceData => exact spread_backup rfl args
  -- the paged queries
  | getMultiComments =>
    show Spread s c _ args (Queries.comments s c args)
    rw [Queries.comments]
    split
    · exact spread_fail _
    · exact spread_paged rfl
  | getMultiLikesAndCommentsCount =>
    show Spread s c _ args (Queries.postCounts s c args)
    rw [Queries.postCounts]
    split
    · exact spread_fail _
    · exact spread_paged rfl
  | getMultiSubscribersCount =>
    show Spread s c _ args (Queries.subscriberCounts s c args)
    rw [Queries.subscriberCounts]
    split
    · exact spread_fail _
    · exact spread_paged rfl
  -- what peers hear of
  | publishPost =>
    show Spread s c _ args (Feeds.publishPost s c args)
    unfold Feeds.publishPost
    refine spread_withStore fun p t hok => ?_
    -- the post is in the channel that the call names
    have hnews : (Params.call .publishPost args).announces? = some p.channelId :=
      congrArg some (Store.channelId_publishPost hok).symm
    have hsame := (Services.SameFollowing.refl s).apply (.publishPost ..) (fun _ _ _ => rfl)
      (congrArg (Except.map Prod.snd) hok)
    exact spread_tell hnews hsame _ _ _
  | postComment =>
    refine spread_asMember fun u hu => spread_withStore fun x t hok => ?_
    -- and so is the comment
    have hnews : (Params.call .postComment args).announces? = some x.channelId :=
      congrArg some (Store.channelId_postComment hok).symm
    have hsame := (Services.SameFollowing.record s u).apply (.postComment ..) (fun _ _ _ => rfl)
      (congrArg (Except.map Prod.snd) hok)
    exact spread_tell hnews hsame _ _ _
  | postLike =>
    refine spread_asMember fun u hu => spread_withStore fun count t hok => ?_
    have hsame := (Services.SameFollowing.record s u).apply (.like ..) (fun _ _ _ => rfl)
      (congrArg (Except.map Prod.snd) hok)
    exact spread_tell rfl hsame _ _ _
  -- what decides who hears
  | subscribeChannel =>
    refine spread_asMember fun u hu => spread_withStore_ fun t hok => ?_
    refine .subscribed rfl rfl (fun v d => ?_) rfl
    have hrecord := (Services.SameFollowing.record s u).subscribed v d
    -- recording the user changes no subscription
    rw [← hrecord]
    exact Store.isSubscribed_apply (.subscribe ..) hok v d
  | unsubscribeChannel =>
    refine spread_asMember fun u hu => spread_withStore_ fun t hok => ?_
    refine .unsubscribed rfl rfl (fun v d => ?_) rfl
    exact Store.isSubscribed_apply (.unsubscribe ..) hok v d
  | enableNotification =>
    refine spread_asMember fun u hu => ?_
    dsimp only
    split
    · exact spread_fail _
    · rename_i audience ha
      exact .enabled rfl hu rfl rfl rfl ha rfl
  -- the other calls that write
  | createChannel =>
    show Spread s c _ args (Feeds.createChannel s c args)
    rw [Feeds.createChannel]
    split
    · exact spread_fail _
    · exact spread_write rfl (.refl s) (.createChannel ..) (fun _ _ _ => rfl) rfl
  | editPost => exact spread_write rfl (.refl s) (.editPost ..) (fun _ _ _ => rfl) rfl
  | deletePost => exact spread_write_ rfl (.deletePost ..) (fun _ _ _ => rfl) rfl
  | editComment =>
    refine spread_asMember fun u hu => ?_
    exact spread_write rfl (.refl s) (.editComment ..) (fun _ _ _ => rfl) rfl
  | deleteComment =>
    refine spread_asMember fun u hu => ?_
    exact spread_write_ rfl (.deleteComment ..) (fun _ _ _ => rfl) rfl
  | blockComment => exact spread_write_ rfl (.setBlocked ..) (fun _ _ _ => rfl) rfl
  | unblockComment => exact spread_write_ rfl (.setBlocked ..) (fun _ _ _ => rfl) rfl
  | postUnlike =>
    refine spread_asMember fun u hu => ?_
    exact spread_write rfl (.refl s) (.unlike ..) (fun _ _ _ => rfl) rfl
  -- the calls that only read
  | getMyChannels => exact spread_withCriteria _ _ _ _ fun _ => spread_done rfl (.refl s) _
  | getChannels => exact spread_withCriteria _ _ _ _ fun _ => spread_done rfl (.refl s) _
  | getChannelDetail =>
    show Spread s c _ args (Feeds.channelDetail s c args)
    rw [Feeds.channelDetail]
    split
    · exact spread_fail _
    · exact spread_done rfl (.refl s) _
  | getSubscribedChannels =>
    refine spread_asMember fun u hu => ?_
    exact spread_withCriteria _ _ _ _ fun _ => spread_done rfl (.refl s) _
  | getPosts => exact spread_withCriteria _ _ _ _ fun _ => spread_done rfl (.refl s) _
  | getLikedPosts =>
    refine spread_asMember fun u hu => ?_
    exact spread_withCriteria _ _ _ _ fun _ => spread_done rfl (.refl s) _
  | getComments =>
    show Spread s c _ args (Feeds.comments s c args)
    rw [Feeds.comments]
    split
    · exact spread_fail _
    · exact spread_done rfl (.refl s) _
  | getStatistics => exact spread_done rfl (.refl s) _
  | getServiceVersion => exact spread_done rfl (.refl s) _

/-! ## What follows for the audience -/

/-- The audience still follows the subscriptions. -/
theorem Spread.follows {out : List Output} (h : Spread s c m args (s', .ok out))
    (hs : s.audience.Follows s.store.isSubscribed) :
    s'.audience.Follows s'.store.isSubscribed := by
  cases h with
  | quiet hm hsame => exact hsame.audience ▸ hs.congr hsame.subscribed
  | news hnews hsame => exact hsame.audience ▸ hs.congr hsame.subscribed
  | backup hm hsame => exact hsame.audience ▸ hs.congr hsame.subscribed
  | @enabled s' out u f hm hu hstore hbinding hchannels haudience hout =>
    rw [hstore]
    refine hs.activate (fun d => ?_) haudience
    -- the channels are those of the user that the peer is bound to
    have huser : f.userId = u.userId := congrArg Binding.userId hbinding
    rw [hchannels, huser]
    exact Store.mem_subscribedIds
  | subscribed hm haudience hstore => exact haudience ▸ (hs.addChannel _ _).congr hstore
  | unsubscribed hm haudience hstore => exact haudience ▸ (hs.removeChannel _ _).congr hstore

/-- Only asking for notices binds a peer: the one that calls, to the user who calls. -/
theorem Spread.binding? {out : List Output} (h : Spread s c m args (s', .ok out)) :
    (m ≠ .enableNotification ∧ ∀ p, s'.audience.binding? p = s.audience.binding? p) ∨
      m = .enableNotification ∧ ∃ u, c.caller = some u ∧ s.audience.binding? c.peer = none ∧
        ∀ p, s'.audience.binding? p =
          if p = c.peer then some ⟨u.userId, c.request.dialect, c.request.version⟩
          else s.audience.binding? p := by
  -- what is quiet binds nobody
  have hother {m : Method} (hm : m.isQuiet = true) : m ≠ .enableNotification := by
    rintro rfl
    cases hm
  cases h with
  | quiet hm hsame => exact .inl ⟨hother hm, fun p => by rw [hsame.audience]⟩
  | news hnews hsame =>
    refine .inl ⟨?_, fun p => by rw [hsame.audience]⟩
    -- a request for notices is no news
    rintro rfl
    cases hnews
  | backup hm hsame => exact .inl ⟨by simp [hm], fun p => by rw [hsame.audience]⟩
  | @enabled s' out u f hm hu hstore hbinding hchannels haudience hout =>
    obtain ⟨hnone, hinsert⟩ := Audience.activate?_some haudience
    refine .inr ⟨hm, u, hu, hnone, fun p => ?_⟩
    rw [Audience.binding?, Audience.binding?, hinsert, Dict.get?_insert]
    -- the calling peer, or another one
    split
    · rw [Option.map_some, hbinding]
    · rfl
  | subscribed hm haudience =>
    exact .inl ⟨hother hm, fun p => by rw [haudience, Audience.binding?_addChannel]⟩
  | unsubscribed hm haudience =>
    exact .inl ⟨hother hm, fun p => by rw [haudience, Audience.binding?_removeChannel]⟩

/-- What is news is told to all who follow its channel. -/
theorem Spread.notices_news {out : List Output} (h : Spread s c m args (s', .ok out))
    {channelId : Nat} (hnews : (Params.call m args).announces? = some channelId) :
    ∃ name news, notices out = (s.audience.following channelId).map fun (peer, f) =>
      (peer, noticeTo name news f) := by
  -- news is not quiet
  have hloud : ¬ m.isQuiet = true := by
    intro hm
    rw [Params.announces?_of_isQuiet hm args] at hnews
    cases hnews
  cases h with
  | news hnews' hsame name news hout =>
    obtain rfl := Option.some.inj (hnews'.symm.trans hnews)
    exact ⟨name, news, hout⟩
  | quiet hm => exact absurd hm hloud
  | subscribed hm => exact absurd hm hloud
  | unsubscribed hm => exact absurd hm hloud
  | backup hm =>
    subst hm
    cases hnews
  | enabled hm =>
    subst hm
    cases hnews

/-- Of the notices to all who follow a channel, a peer gets one if it is bound to a subscriber. -/
theorem noticesTo_following (hs : s.audience.Follows s.store.isSubscribed) {out : List Output}
    {channelId : Nat} {name : String} {news : News}
    (hout : notices out = (s.audience.following channelId).map fun (peer, f) =>
      (peer, noticeTo name news f)) (peer : Peer) :
    noticesTo peer out = ((s.audience.followers.get? peer).toList.filter fun f =>
      s.store.isSubscribed f.userId channelId).map (noticeTo name news) := by
  -- a follower is told under its own name
  have hpeer : (fun x : Peer × Notice => decide (x.1 = peer)) ∘
      (fun x : Peer × Follower => (x.1, noticeTo name news x.2)) = fun x => decide (x.1 = peer) :=
    rfl
  rw [noticesTo, hout, List.filter_map, hpeer, hs.filter_following, List.map_map, List.map_map]
  rfl

/-- News goes to each peer that is bound to a subscriber, once and in the form that it asked for,
and to nobody else. -/
theorem Spread.noticesTo_news {out : List Output} (h : Spread s c m args (s', .ok out))
    (hs : s.audience.Follows s.store.isSubscribed) {channelId : Nat}
    (hnews : (Params.call m args).announces? = some channelId) (peer : Peer) :
    (∀ b, s.audience.binding? peer = some b → s.store.isSubscribed b.userId channelId = true →
        ∃ n, noticesTo peer out = [n] ∧ n.dialect = b.dialect ∧ n.version = b.version) ∧
      ((∀ b, s.audience.binding? peer = some b → s.store.isSubscribed b.userId channelId = false) →
        noticesTo peer out = []) := by
  obtain ⟨name, news, hout⟩ := h.notices_news hnews
  rw [noticesTo_following hs hout peer, Audience.binding?]
  cases s.audience.followers.get? peer with
  -- a peer that is not in the audience
  | none => simp
  | some f =>
    constructor
    · -- its user subscribes
      intro b hb hsub
      obtain rfl : f.binding = b := Option.some.inj hb
      have hkept : s.store.isSubscribed f.userId channelId = true := hsub
      exact ⟨noticeTo name news f, by simp [hkept], rfl, rfl⟩
    · -- its user does not
      intro hnone
      have hdropped : s.store.isSubscribed f.userId channelId = false := hnone f.binding rfl
      simp [hdropped]

/-- Other calls tell nobody of anything, but for the backup, which tells its caller. -/
theorem Spread.notices_quiet {out : List Output} (h : Spread s c m args (s', .ok out))
    (hnews : (Params.call m args).announces? = none) :
    (m = .backupServiceData → ∃ n, notices out = [(c.peer, n)]) ∧
      (m ≠ .backupServiceData → notices out = []) := by
  -- a backup is not quiet
  have hother {m : Method} (hm : m.isQuiet = true) : m ≠ .backupServiceData := by
    rintro rfl
    cases hm
  cases h with
  | quiet hm hsame hout => exact ⟨fun h => absurd h (hother hm), fun _ => hout⟩
  | news hnews' =>
    rw [hnews] at hnews'
    cases hnews'
  | backup hm hsame n hout => exact ⟨fun _ => ⟨n, hout⟩, fun h => absurd hm h⟩
  | enabled hm hu hstore hbinding hchannels haudience hout =>
    exact ⟨fun h => by simp [hm] at h, fun _ => hout⟩
  | subscribed hm haudience hstore hout => exact ⟨fun h => absurd h (hother hm), fun _ => hout⟩
  | unsubscribed hm haudience hstore hout => exact ⟨fun h => absurd h (hother hm), fun _ => hout⟩

end Handlers

end Node

end FeedNode
