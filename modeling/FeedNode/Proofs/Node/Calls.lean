import FeedNode.Node.Node
import FeedNode.Proofs.Feed.Operation
import FeedNode.Proofs.Feed.Confinement

/-!
# What a call touches

Whatever a peer sends, it comes to at most one operation of the store, which can come of a call of
the user that the token of the message stands for, and to a change of the audience for that user.
Octets that stand for nobody touch neither.

The proof goes down the path of a message: what it stands for (`Services.actor?`), what the routing
lets through (`authorize_ok`), and what each handler does with it (`handle_touches`).

Main statement: `respond_touches`.
-/

namespace FeedNode

/-! ## The audience -/

namespace Delivery.Audience

/-- Only the binding of one peer and the channels that follow for one user are different. -/
def OnlyOf (userId : Nat) (peer : Peer) (a a' : Audience) : Prop :=
  ∀ p, p ≠ peer → a'.followers.get? p = a.followers.get? p ∨
    ∃ f channels, a.followers.get? p = some f ∧ f.userId = userId ∧
      a'.followers.get? p = some { f with channels }

/-- A change of the followers of one user is a change for that user only. -/
theorem onlyOf_mapValues {userId : Nat} (peer : Peer) (a : Audience)
    {g : Follower → List Nat} :
    a.OnlyOf userId peer ⟨a.followers.mapValues fun f =>
      if f.userId = userId then { f with channels := g f } else f⟩ := by
  intro p _
  rw [Dict.get?_mapValues]
  -- a peer that is not bound stays unbound
  cases hf : a.followers.get? p with
  | none => exact .inl rfl
  | some f =>
    rw [Option.map_some]
    split
    · -- one of the user's peers
      rename_i huser
      exact .inr ⟨f, g f, rfl, huser, rfl⟩
    · -- a peer of somebody else
      exact .inl rfl

/-- Following one more channel is a change for the user only. -/
theorem onlyOf_addChannel (userId channelId : Nat) (peer : Peer) (a : Audience) :
    a.OnlyOf userId peer (a.addChannel userId channelId) := by
  -- following again adds nothing
  have hfollow : ∀ f : Follower, f.follow channelId =
      { f with
        channels :=
          if f.channels.contains channelId then f.channels else f.channels ++ [channelId] } := by
    intro f
    rw [Follower.follow]
    split <;> rfl
  simp only [addChannel, hfollow]
  exact onlyOf_mapValues peer a

/-- Following one channel less is a change for the user only. -/
theorem onlyOf_removeChannel (userId channelId : Nat) (peer : Peer) (a : Audience) :
    a.OnlyOf userId peer (a.removeChannel userId channelId) :=
  onlyOf_mapValues peer a

/-- Binding a peer is a change for that peer only. -/
theorem onlyOf_activate {userId : Nat} {peer : Peer} {a a' : Audience} {f : Follower}
    (h : a.activate? peer f = some a') : a.OnlyOf userId peer a' := by
  intro p hp
  rw [activate?] at h
  split at h
  · cases h
  · -- all other peers are bound as before
    rw [← Option.some.inj h]
    exact .inl (by rw [Dict.get?_insert, if_neg hp])

end Delivery.Audience

namespace Node

open Delivery (Peer)
open Feed (Operation Store StoreError User)
open Rpc (Access Decoded ErrorCode Method Request)

/-! ## What handlers do -/

/-- A call from a peer did at most one operation of its caller's, and changed the audience for its
caller at most. -/
structure Services.Touches (caller : Option User) (peer : Peer) (s s' : Services) : Prop where
  store : s.store.SameRows s'.store ∨ ∃ u s₀ op, caller = some u ∧ s.store.SameRows s₀ ∧
    Operation.MayBeBy u op ∧ op.apply s₀ = .ok s'.store
  audience : s'.audience = s.audience ∨ ∃ u, caller = some u ∧
    s.audience.OnlyOf u.userId peer s'.audience

namespace Services

variable {s s' s₁ : Services} {caller : Option User} {peer : Peer} {c : Call} {u : User}

/-- A call that does nothing touches nothing. -/
theorem Touches.refl : s.Touches caller peer s :=
  ⟨.inl (.refl _), .inl rfl⟩

/-- A call that leaves the services touches nothing. -/
theorem Touches.of_eq (h : s' = s) : s.Touches caller peer s' :=
  h ▸ .refl

/-- Only users were recorded. -/
theorem Touches.of_sameRows (h : s.store.SameRows s'.store) (ha : s'.audience = s.audience) :
    s.Touches caller peer s' :=
  ⟨.inl h, .inl ha⟩

/-- A call of nobody changes no row and not the audience. -/
theorem Touches.quiet (h : s.Touches none peer s') :
    s.store.SameRows s'.store ∧ s'.audience = s.audience := by
  refine ⟨?_, ?_⟩
  · -- an operation would be somebody's
    rcases h.store with hsame | ⟨v, s₀, op, hv, -⟩
    · exact hsame
    · cases hv
  · rcases h.audience with hsame | ⟨v, hv, -⟩
    · exact hsame
    · cases hv

/-- A member's call touches what it touches for the member that calls. -/
theorem asMember_touches {k : User → Outcome}
    (h : ∀ u, c.caller = some u → s.Touches c.caller c.peer (k u).1) :
    s.Touches c.caller c.peer (s.asMember c k).1 := by
  rw [asMember]
  split
  · exact .refl
  · rename_i u hu
    exact h u hu

/-- An operation after which the audience is at most changed for the caller. -/
theorem withStore_touches {α : Type} {r : Except StoreError (α × Store)}
    {k : α → Services → Outcome} (op : Operation) (hu : caller = some u) (hop : op.MayBeBy u)
    (h₁ : s.store.SameRows s₁.store) (ha : s₁.audience = s.audience)
    (hr : op.apply s₁.store = r.map Prod.snd)
    (hk : ∀ a t, (k a t).1.store = t.store ∧ (k a t).1.audience = t.audience) :
    s.Touches caller peer (s₁.withStore r k).1 := by
  cases r with
  | error e => exact .of_sameRows h₁ ha
  | ok result =>
    obtain ⟨a, store⟩ := result
    obtain ⟨hstore, haudience⟩ := hk a { s₁ with store }
    refine ⟨.inr ⟨u, s₁.store, op, hu, h₁, hop, ?_⟩, .inl (haudience.trans ha)⟩
    exact hr.trans (congrArg Except.ok hstore.symm)

/-- An operation without a result, after which the audience is at most changed for the caller. -/
theorem withUpdate_touches {r : Except StoreError Store} {k : Services → Outcome} (op : Operation)
    (hu : caller = some u) (hop : op.MayBeBy u) (h₁ : s.store.SameRows s₁.store)
    (ha : s₁.audience = s.audience) (hr : op.apply s₁.store = r)
    (hk : ∀ t, t.audience = s.audience → (k t).1.store = t.store ∧
      ((k t).1.audience = s.audience ∨ s.audience.OnlyOf u.userId peer (k t).1.audience)) :
    s.Touches caller peer (s₁.withStore_ r k).1 := by
  cases r with
  -- refused
  | error e => exact .of_sameRows h₁ ha
  -- done
  | ok store =>
    obtain ⟨hstore, haudience⟩ := hk { s₁ with store } ha
    refine ⟨.inr ⟨u, s₁.store, op, hu, h₁, hop, ?_⟩, ?_⟩
    · exact hr.trans (congrArg Except.ok hstore.symm)
    · exact haudience.imp id fun honly => ⟨u, hu, honly⟩

end Services

open Services

variable {s : Services} {c : Call}

/-- A handler that only reads gives the services back. -/
theorem withCriteria_eq (by_ upper lower maxCount : Int64) {k : Feed.Criteria → Outcome}
    (h : ∀ criteria, (k criteria).1 = s) :
    (Feeds.withCriteria s by_ upper lower maxCount k).1 = s := by
  rw [Feeds.withCriteria]
  split
  · rfl
  · exact h _

/-- What is asked of a member leaves the services if every member's call does. -/
theorem asMember_eq {k : User → Outcome} (h : ∀ u, (k u).1 = s) : (s.asMember c k).1 = s := by
  rw [asMember]
  split
  · rfl
  · exact h _

/-- A backup changes what the drives keep. -/
theorem upload_eq (name : String) (drive : Files.Drive Store) (a : Rpc.BackupArgs) :
    (Backup.upload s name drive a).1.store = s.store ∧
      (Backup.upload s name drive a).1.resolver = s.resolver ∧
      (Backup.upload s name drive a).1.audience = s.audience := by
  cases drive <;> exact ⟨rfl, rfl, rfl⟩

/-- A backup touches no row and not the audience. -/
theorem backup_touches {caller : Option User} {peer : Peer} (a : Rpc.BackupArgs) :
    s.Touches caller peer (Backup.backup s c a).1 := by
  rw [Backup.backup]
  split
  · exact .refl
  · rename_i drive _
    obtain ⟨hstore, -, haudience⟩ := upload_eq (s := s) a.driveName drive a
    have hquiet : s.Touches caller peer (Backup.upload s a.driveName drive a).1 := by
      refine .of_sameRows ?_ haudience
      rw [hstore]
      exact .refl _
    -- what the drive answered decides the response only
    split <;> rename_i hr <;> rw [hr] at hquiet <;> exact hquiet

/-- Signing in changes the resolver and the users. -/
theorem signIn_touches {caller : Option User} {peer : Peer} (a : Rpc.SignInArgs) :
    s.Touches caller peer (SignIn.signIn s c a).1 := by
  rw [SignIn.signIn]
  split
  · exact .refl
  · split
    · exact .refl
    · -- the resolver is not seen in the rows
      exact .of_sameRows (.refl _) rfl

/-- Answering a challenge changes the resolver and the users. -/
theorem didAuth_touches {caller : Option User} {peer : Peer} (a : Rpc.DidAuthArgs) :
    s.Touches caller peer (SignIn.didAuth s c a).1 := by
  rw [SignIn.didAuth]
  split
  · exact .refl
  · split
    · exact .refl
    · exact .of_sameRows (Store.sameRows_upsertUser s.store _) rfl

/-- Declaring an owner changes the resolver and the users. -/
theorem declareOwner_touches {caller : Option User} {peer : Peer} (a : Rpc.DeclareOwnerArgs) :
    s.Touches caller peer (SignIn.declareOwner s c a).1 := by
  rw [SignIn.declareOwner]
  split
  · exact .refl
  · split
    · exact .refl
    · rename_i isFirst resolver _
      -- the owner is recorded as a user
      cases isFirst with
      | true => exact .of_sameRows (Store.sameRows_upsertUser s.store _) rfl
      | false => exact .of_sameRows (.refl _) rfl

/-- What every handler does with a call that the routing let through. -/
theorem handle_touches (m : Method) (args : m.Args)
    (howner : effectiveAccess m = .owner → ∃ u, c.caller = some u ∧ u.isOwner = true) :
    s.Touches c.caller c.peer (handle s c m args).1 := by
  cases m with
  | standardSignIn => exact signIn_touches args
  | standardDidAuth => exact didAuth_touches args
  | declareOwner =>
    show s.Touches c.caller c.peer (SignIn.declareOwner s c args).1
    exact declareOwner_touches args
  | backupServiceData => exact backup_touches args
  -- the owner's calls
  | createChannel =>
    obtain ⟨u, hu, hisOwner⟩ := howner rfl
    show s.Touches c.caller c.peer (Feeds.createChannel s c args).1
    rw [Feeds.createChannel]
    split
    · exact .refl
    · exact withStore_touches (.createChannel _ _) hu hisOwner (.refl _) rfl rfl
        fun a t => ⟨rfl, rfl⟩
  | publishPost =>
    obtain ⟨u, hu, hisOwner⟩ := howner rfl
    exact withStore_touches (.publishPost _ _ _) hu hisOwner (.refl _) rfl rfl
      fun a t => ⟨rfl, rfl⟩
  | editPost =>
    obtain ⟨u, hu, hisOwner⟩ := howner rfl
    exact withStore_touches (.editPost _ _ _ _) hu hisOwner (.refl _) rfl rfl
      fun a t => ⟨rfl, rfl⟩
  | deletePost =>
    obtain ⟨u, hu, hisOwner⟩ := howner rfl
    exact withUpdate_touches (.deletePost _ _ _) hu hisOwner (.refl _) rfl rfl
      fun t ha => ⟨rfl, .inl ha⟩
  | blockComment =>
    obtain ⟨u, hu, hisOwner⟩ := howner rfl
    exact withUpdate_touches (.setBlocked _ _ _ _ _) hu hisOwner (.refl _) rfl rfl
      fun t ha => ⟨rfl, .inl ha⟩
  | unblockComment =>
    obtain ⟨u, hu, hisOwner⟩ := howner rfl
    exact withUpdate_touches (.setBlocked _ _ _ _ _) hu hisOwner (.refl _) rfl rfl
      fun t ha => ⟨rfl, .inl ha⟩
  -- the members' calls
  | postComment =>
    refine asMember_touches fun u hu => ?_
    exact withStore_touches (.postComment _ _ _ _ _ _) hu rfl
      (Store.sameRows_upsertUser s.store u) rfl rfl fun a t => ⟨rfl, rfl⟩
  | editComment =>
    refine asMember_touches fun u hu => ?_
    exact withStore_touches (.editComment _ _ _ _ _ _) hu rfl (.refl _) rfl rfl
      fun a t => ⟨rfl, rfl⟩
  | deleteComment =>
    refine asMember_touches fun u hu => ?_
    exact withUpdate_touches (.deleteComment _ _ _ _ _ _) hu ⟨rfl, rfl⟩ (.refl _) rfl rfl
      fun t ha => ⟨rfl, .inl ha⟩
  | postLike =>
    refine asMember_touches fun u hu => ?_
    exact withStore_touches (.like _ _ _ _ _) hu rfl (Store.sameRows_upsertUser s.store u) rfl rfl
      fun a t => ⟨rfl, rfl⟩
  | postUnlike =>
    refine asMember_touches fun u hu => ?_
    exact withStore_touches (.unlike _ _ _ _) hu rfl (.refl _) rfl rfl fun a t => ⟨rfl, rfl⟩
  | subscribeChannel =>
    refine asMember_touches fun u hu => ?_
    refine withUpdate_touches (.subscribe _ _ _) hu rfl (Store.sameRows_upsertUser s.store u) rfl
      rfl fun t ha => ⟨rfl, .inr ?_⟩
    rw [← ha]
    exact t.audience.onlyOf_addChannel u.userId _ c.peer
  | unsubscribeChannel =>
    refine asMember_touches fun u hu => ?_
    refine withUpdate_touches (.unsubscribe _ _) hu rfl (.refl _) rfl rfl
      fun t ha => ⟨rfl, .inr ?_⟩
    rw [← ha]
    exact t.audience.onlyOf_removeChannel u.userId _ c.peer
  | enableNotification =>
    refine asMember_touches fun u hu => ?_
    dsimp only
    split
    · exact .refl
    · rename_i audience hactivate
      exact ⟨.inl (.refl _), .inr ⟨u, hu, Delivery.Audience.onlyOf_activate hactivate⟩⟩
  -- the calls that only read
  | getMultiComments =>
    refine .of_eq ?_
    show (Queries.comments s c args).1 = s
    rw [Queries.comments]
    split <;> rfl
  | getMultiLikesAndCommentsCount =>
    refine .of_eq ?_
    show (Queries.postCounts s c args).1 = s
    rw [Queries.postCounts]
    split <;> rfl
  | getMultiSubscribersCount =>
    refine .of_eq ?_
    show (Queries.subscriberCounts s c args).1 = s
    rw [Queries.subscriberCounts]
    split <;> rfl
  | getMyChannels => exact .of_eq (withCriteria_eq _ _ _ _ fun _ => rfl)
  | getChannels => exact .of_eq (withCriteria_eq _ _ _ _ fun _ => rfl)
  | getChannelDetail =>
    refine .of_eq ?_
    show (Feeds.channelDetail s c args).1 = s
    rw [Feeds.channelDetail]
    split <;> rfl
  | getSubscribedChannels =>
    exact .of_eq (asMember_eq fun _ => withCriteria_eq _ _ _ _ fun _ => rfl)
  | getPosts => exact .of_eq (withCriteria_eq _ _ _ _ fun _ => rfl)
  | getLikedPosts => exact .of_eq (asMember_eq fun _ => withCriteria_eq _ _ _ _ fun _ => rfl)
  | getComments =>
    refine .of_eq ?_
    show (Feeds.comments s c args).1 = s
    rw [Feeds.comments]
    split <;> rfl
  | getStatistics => exact .refl
  | getServiceVersion => exact .refl

/-! ## Who calls -/

/-- The user that the token of a request stands for. -/
def Services.sender? (s : Services) (request : Request) : Option User :=
  request.params.token?.bind fun token => (s.resolver.verify token).toOption

/-- The user that the token of a message stands for: none if the octets are no request, if its
method carries no token or is not served, or if nobody has the token. -/
def Services.actor? (s : Services) (octets : Bytes) : Option User :=
  match decodeAny octets with
  | .error _ => none
  | .ok d => if d.isProcessed then s.sender? d.request else none

/-- A call that asks for a user has one, whom its token stands for. -/
theorem authorize_ok {access : Access} {request : Request} {caller : Option User}
    (h : authorize s.resolver access request = .ok caller) :
    (access = .anyone ∧ caller = none) ∨
      ∃ u, caller = some u ∧ s.sender? request = some u ∧
        (access = .owner → u.isOwner = true) := by
  rw [authorize] at h
  split at h
  · -- no token is asked for
    rename_i hanyone
    exact .inl ⟨hanyone, (Except.ok.inj h).symm⟩
  · split at h
    · -- the node is not ready
      cases h
    · simp only [] at h
      split at h
      · -- no token is carried
        cases h
      · rename_i htoken
        split at h
        · cases h
        · -- a token of somebody
          rename_i u hu
          split at h
          · cases h
          · rename_i howner
            refine .inr ⟨u, (Except.ok.inj h).symm, ?_, ?_⟩
            · cases ht : request.params.token? with
              | none => simp [ht] at htoken
              | some token =>
                rw [ht, Option.getD_some] at hu
                rw [Services.sender?, ht, Option.bind_some, hu]
                rfl
            · -- and the owner's calls are the owner's
              intro ho
              simpa [ho] using howner

/-- What was routed has a known method, and the caller that its access asks for. -/
theorem route_eq_ok {ι : Type} {listeners : List ι} {serves : ι → Method → Bool}
    {r : Auth.Resolver} {request : Request} {l : ι} {caller : Option User}
    (h : route listeners serves r request = .ok (l, caller)) :
    ∃ m, request.params.method? = some m ∧
      authorize r (effectiveAccess m) request = .ok caller := by
  rw [route] at h
  split at h
  · -- no such method
    cases h
  · rename_i m hm
    split at h
    · -- nobody serves it
      cases h
    · cases hauth : authorize r (effectiveAccess m) request with
      | error e =>
        rw [hauth] at h
        cases h
      | ok caller' =>
        rw [hauth] at h
        obtain rfl : caller' = caller := (Prod.mk.inj (Except.ok.inj h)).2
        exact ⟨m, hm, hauth⟩

/-- What was routed asks for no user, or has the one that it asks for. -/
theorem route_ok {ι : Type} {listeners : List ι} {serves : ι → Method → Bool} {request : Request}
    {l : ι} {caller : Option User}
    (h : route listeners serves s.resolver request = .ok (l, caller)) :
    ∃ m, request.params.method? = some m ∧
      (caller = none ∨ caller = s.sender? request) ∧
      (effectiveAccess m = .owner → ∃ u, caller = some u ∧ u.isOwner = true) := by
  obtain ⟨m, hm, hauth⟩ := route_eq_ok h
  refine ⟨m, hm, ?_⟩
  obtain ⟨hanyone, hnone⟩ | ⟨u, hu, hsender, howner⟩ := authorize_ok hauth
  · -- anyone may call
    exact ⟨.inl hnone, fun ho => by rw [hanyone] at ho; cases ho⟩
  · exact ⟨.inr (hu.trans hsender.symm), fun ho => ⟨u, hu, howner ho⟩⟩

/-- A call fails on its way to a handler, or a handler takes it, with the user that it asks for. -/
theorem serve_cases (s : Services) (peer : Peer) (request : Request) :
    (∃ code, serve s peer request = (s, .error code)) ∨
      ∃ m args caller, request.params = .call m args ∧
        (caller = none ∨ caller = s.sender? request) ∧
        (effectiveAccess m = .owner → ∃ u, caller = some u ∧ u.isOwner = true) ∧
        serve s peer request = handle s { peer, caller, request } m args := by
  cases hroute : route listeners (fun f m => m.family == f) s.resolver request with
  -- the routing refuses it
  | error code => exact .inl ⟨code, by simp only [serve, hroute, Services.fail]⟩
  | ok found =>
    obtain ⟨l, caller⟩ := found
    obtain ⟨m', hm', hcaller, howner⟩ := route_ok hroute
    cases hparams : request.params with
    -- what has no method is not routed
    | unknown =>
      rw [hparams] at hm'
      cases hm'
    | call m args =>
      rw [hparams] at hm'
      obtain rfl : m = m' := Option.some.inj hm'
      exact .inr ⟨m, args, caller, rfl, hcaller, howner, by simp only [serve, hroute, hparams]⟩

/-- A request touches what its sender may touch. -/
theorem serve_touches (peer : Peer) (request : Request) :
    s.Touches (s.sender? request) peer (serve s peer request).1 := by
  rcases serve_cases s peer request with
    ⟨code, hfail⟩ | ⟨m, args, caller, -, hcaller, howner, hserve⟩
  · rw [hfail]
    exact .refl
  · have htouches := handle_touches (s := s) (c := { peer, caller, request }) m args howner
    rw [← hserve] at htouches
    -- a method that anyone may call runs without a caller, whatever token it carries
    rcases hcaller with hnone | hsender
    · rw [hnone] at htouches
      exact .of_sameRows htouches.quiet.1 htouches.quiet.2
    · rw [← hsender]
      exact htouches

/-- Whatever octets a peer sends, they touch only what the user may touch that their token stands
for. -/
theorem respond_touches (s : Services) (peer : Peer) (octets : Bytes) :
    s.Touches (s.actor? octets) peer (respond s peer octets).1 := by
  cases hd : decodeAny octets with
  -- octets that are no request
  | error e =>
    obtain ⟨dialect, e⟩ := e
    simp only [respond, hd]
    split <;> exact .refl
  | ok d =>
    obtain ⟨request, status⟩ := d
    simp only [respond, Services.actor?, hd, Decoded.isProcessed]
    cases status with
    | unknownMethod => exact .refl
    | unsupportedVersion => exact .refl
    -- a call: what comes of it was settled above, and its answer touches nothing
    | processed =>
      simp only [BEq.rfl, if_true]
      split
      · exact .refl
      · have hserve := serve_touches (s := s) peer request
        split <;> rename_i hr <;> rw [hr] at hserve <;> exact hserve

end Node

end FeedNode
