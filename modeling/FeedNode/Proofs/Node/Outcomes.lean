import FeedNode.Proofs.Node.Calls
import FeedNode.Proofs.Node.Identifiers
import FeedNode.Proofs.Rpc.Pages

/-!
# What comes of a call

A call ends in one of three ways. It fails, and then nothing is left of it but that its caller may
have been recorded; or it is answered once; or, for the paged queries alone, it is answered by the
pages of a listing. `Handled` says so of every handler, and `Responds` of every message, whichever
way it is turned down before a handler sees it.

Main statements: `handle_handled`, `serve_ok`, `serve_error` and `respond_responds`.
-/

namespace FeedNode

/-! ## Methods -/

namespace Rpc

/-- The method records its caller among the users before it does anything else. -/
def Method.recordsCaller : Method → Bool
  | .postComment | .postLike | .subscribeChannel => true
  | _ => false

/-- The method is answered in pages. -/
def Method.isPaged : Method → Bool
  | .getMultiComments | .getMultiLikesAndCommentsCount | .getMultiSubscribersCount => true
  | _ => false

/-- The call is answered in pages. -/
def Request.isPaged (r : Request) : Bool :=
  r.params.method?.any Method.isPaged

end Rpc

namespace Node

open Delivery (Peer)
open Feed (StoreError Store User)
open Rpc (Decoded ErrorCode Method News Page Payload Request Response)

/-! ## Answers -/

/-- The answer to the caller, if the output is one. -/
def Output.answer? : Output → Option Response
  | .reply r | .enqueue r => some r
  | .notify _ _ => none

/-- The answers among some outputs, in order. -/
def answers (out : List Output) : List Response :=
  out.filterMap Output.answer?

/-- News is no answer. -/
theorem answers_tell (s : Services) (channelId : Nat) (method : String) (news : News) :
    answers (s.tell channelId method news) = [] := by
  rw [answers, List.filterMap_eq_nil_iff]
  intro o ho
  obtain ⟨x, -, rfl⟩ := List.mem_map.1 ho
  rfl

/-- The pages of the listing that a request asks for, each in an answer of its own. -/
inductive PagedAnswers (s : Services) (request : Request) : List Response → Prop where
  | comments {a : Rpc.QueryArgs} {channelId postId : Nat} {criteria : Feed.Criteria}
      {pages : List (Page Rpc.CommentEntry)}
      (hparams : request.params = .call .getMultiComments a)
      (htarget : Queries.target? a = some (channelId, postId, criteria))
      (hcover : Page.Cover
        ((s.store.listComments channelId postId criteria).map (.ofComment request.version)) pages) :
      PagedAnswers s request (pages.map fun page => .reply request (.comments page))
  | postCounts {a : Rpc.QueryArgs} {channelId postId : Nat} {criteria : Feed.Criteria}
      {pages : List (Page Rpc.PostCountEntry)}
      (hparams : request.params = .call .getMultiLikesAndCommentsCount a)
      (htarget : Queries.target? a = some (channelId, postId, criteria))
      (hcover : Page.Cover
        ((s.store.listPostCounts channelId postId criteria).map .ofCounts) pages) :
      PagedAnswers s request (pages.map fun page => .reply request (.postCounts page))
  | subscriberCounts {a : Rpc.SubscriberCountArgs} {channelId : Nat}
      {pages : List (Page Rpc.SubscriberCountEntry)}
      (hparams : request.params = .call .getMultiSubscribersCount a)
      (htarget : Queries.id? a.channelId = some channelId)
      (hcover : Page.Cover ((s.store.listSubscriberCounts channelId).map .ofPair) pages) :
      PagedAnswers s request (pages.map fun page => .reply request (.subscriberCounts page))

/-- The pages of a listing have the identifier of the request. -/
theorem PagedAnswers.id_eq {s : Services} {request : Request} {rs : List Response}
    (h : PagedAnswers s request rs) : ∀ r ∈ rs, r.id = request.id := by
  intro r hr
  cases h <;> obtain ⟨page, -, rfl⟩ := List.mem_map.1 hr <;> rfl

/-- The pages of a listing are no errors. -/
theorem PagedAnswers.isError {s : Services} {request : Request} {rs : List Response}
    (h : PagedAnswers s request rs) : ∀ r ∈ rs, r.isError = false := by
  intro r hr
  cases h <;> obtain ⟨page, -, rfl⟩ := List.mem_map.1 hr <;> rfl

/-! ## Handlers -/

/-- What a call that failed may leave behind: its caller among the users, and on a drive what an
upload wrote before it failed. -/
structure Services.Kept (s : Services) (caller : Option User) (m : Method) (s' : Services) :
    Prop where
  store : s'.store = s.store ∨
    ∃ u, caller = some u ∧ m.recordsCaller = true ∧ s'.store = s.store.upsertUser u
  resolver : s'.resolver = s.resolver
  audience : s'.audience = s.audience

/-- What comes of a call of a method. -/
inductive Handled (s : Services) (c : Call) (m : Method) : Outcome → Prop where
  | failed {s' : Services} (code : ErrorCode) (h : s.Kept c.caller m s') :
      Handled s c m (s', .error code)
  | answered (s' : Services) {out : List Output} (payload : Payload) (hm : m.isPaged = false)
      (h : answers out = [c.answer payload]) : Handled s c m (s', .ok out)
  | paged (s' : Services) {out : List Output} (hm : m.isPaged = true)
      (h : PagedAnswers s c.request (answers out)) : Handled s c m (s', .ok out)

section Handlers

variable {s s' s₁ : Services} {c : Call} {m : Method}

/-- A call that leaves the services leaves nothing behind. -/
theorem Services.Kept.refl {caller : Option User} : s.Kept caller m s :=
  ⟨.inl rfl, rfl, rfl⟩

/-- A method that records its caller leaves the caller among the users. -/
theorem Services.Kept.record {u : User} (hu : c.caller = some u) (hm : m.recordsCaller = true) :
    s.Kept c.caller m (s.record u) :=
  ⟨.inr ⟨u, hu, hm, rfl⟩, rfl, rfl⟩

/-- A failure leaves nothing behind. -/
theorem handled_fail (code : ErrorCode) : Handled s c m (s.fail code) :=
  .failed code .refl

/-- An answer is one answer. -/
theorem handled_done (s' : Services) (payload : Payload) (hm : m.isPaged = false) :
    Handled s c m (Feeds.done s' c payload) :=
  .answered s' payload hm rfl

/-- An answer, and news of what was done. -/
theorem handled_tell (s' : Services) (payload : Payload) (hm : m.isPaged = false)
    {channelId : Nat} {method : String} {news : News} :
    Handled s c m
      (s'.finish (.reply (c.answer payload) :: s'.tell channelId method news)) := by
  refine .answered s' payload hm ?_
  show c.answer payload :: answers (s'.tell channelId method news) = _
  rw [answers_tell]

/-- What comes of a member's call is what comes of it for the member. -/
theorem handled_asMember {k : User → Outcome}
    (h : ∀ u, c.caller = some u → Handled s c m (k u)) : Handled s c m (s.asMember c k) := by
  rw [Services.asMember]
  split
  · exact handled_fail _
  · rename_i u hu
    exact h u hu

/-- A write that is refused leaves what was there before it. -/
theorem handled_withStore {α : Type} {r : Except StoreError (α × Store)}
    {k : α → Services → Outcome} (hkept : s.Kept c.caller m s₁)
    (hk : ∀ a t, Handled s c m (k a t)) : Handled s c m (s₁.withStore r k) := by
  cases r with
  | error e => exact .failed _ hkept
  | ok result => exact hk _ _

/-- The same of an operation without a result. -/
theorem handled_withStore_ {r : Except StoreError Store} {k : Services → Outcome}
    (hkept : s.Kept c.caller m s₁) (hk : ∀ t, Handled s c m (k t)) :
    Handled s c m (s₁.withStore_ r k) := by
  cases r with
  | error e => exact .failed _ hkept
  | ok store => exact hk _

/-- What comes of a query is what comes of it by its criteria. -/
theorem handled_withCriteria (by_ upper lower maxCount : Int64) {k : Feed.Criteria → Outcome}
    (h : ∀ criteria, Handled s c m (k criteria)) :
    Handled s c m (Feeds.withCriteria s by_ upper lower maxCount k) := by
  rw [Feeds.withCriteria]
  split
  · exact handled_fail _
  · exact h _

/-- A listing that is answered in pages. -/
theorem handled_paged {α : Type} [Rpc.WireSize α] {payload : Page α → Payload} {rows : List α}
    (hm : m.isPaged = true)
    (h : ∀ pages, Page.Cover rows pages →
      PagedAnswers s c.request (pages.map fun page => c.answer (payload page))) :
    Handled s c m (Queries.paged s c payload rows) := by
  refine .paged s hm ?_
  rw [answers, List.filterMap_map]
  -- every output is an answer with a page of its own
  have hanswer : Output.answer? ∘ (fun page => .enqueue (c.answer (payload page))) =
      some ∘ fun page => c.answer (payload page) := rfl
  rw [hanswer, List.filterMap_eq_map]
  exact h _ (Page.cover_split s.ceiling Rpc.wireSize rows)

/-- Signing in fails, or is answered once. -/
theorem signIn_handled (hm : m.isPaged = false) (a : Rpc.SignInArgs) :
    Handled s c m (SignIn.signIn s c a) := by
  rw [SignIn.signIn]
  split
  · exact handled_fail _
  · split
    · exact handled_fail _
    · exact .answered _ _ hm rfl

/-- Answering a challenge fails, or is answered once. -/
theorem didAuth_handled (hm : m.isPaged = false) (a : Rpc.DidAuthArgs) :
    Handled s c m (SignIn.didAuth s c a) := by
  rw [SignIn.didAuth]
  split
  · exact handled_fail _
  · split
    · exact handled_fail _
    · exact .answered _ _ hm rfl

/-- Declaring an owner fails, or is answered once. -/
theorem declareOwner_handled (hm : m.isPaged = false) (a : Rpc.DeclareOwnerArgs) :
    Handled s c m (SignIn.declareOwner s c a) := by
  rw [SignIn.declareOwner]
  split
  · exact handled_fail _
  · split
    · exact handled_fail _
    · exact .answered _ _ hm rfl

/-- A backup fails, or is answered once; what a failed upload left is on a drive. -/
theorem backup_handled (hm : m.isPaged = false) (a : Rpc.BackupArgs) :
    Handled s c m (Backup.backup s c a) := by
  rw [Backup.backup]
  split
  · exact handled_fail _
  · rename_i drive _
    obtain ⟨hstore, hresolver, haudience⟩ := upload_eq (s := s) a.driveName drive a
    have hkept : s.Kept c.caller m (Backup.upload s a.driveName drive a).1 :=
      ⟨.inl hstore, hresolver, haudience⟩
    split <;> rename_i hr <;> rw [hr] at hkept
    · exact .failed _ hkept
    · exact .failed _ hkept
    · exact .answered _ _ hm rfl

/-- What comes of every handler. -/
theorem handle_handled (args : m.Args) (hparams : c.request.params = .call m args) :
    Handled s c m (handle s c m args) := by
  cases m with
  | standardSignIn => exact signIn_handled rfl args
  | standardDidAuth => exact didAuth_handled rfl args
  | declareOwner => exact declareOwner_handled rfl args
  | backupServiceData => exact backup_handled rfl args
  -- the paged queries
  | getMultiComments =>
    show Handled s c _ (Queries.comments s c args)
    rw [Queries.comments]
    split
    · exact handled_fail _
    · rename_i htarget
      exact handled_paged rfl fun pages hcover => .comments hparams htarget hcover
  | getMultiLikesAndCommentsCount =>
    show Handled s c _ (Queries.postCounts s c args)
    rw [Queries.postCounts]
    split
    · exact handled_fail _
    · rename_i htarget
      exact handled_paged rfl fun pages hcover => .postCounts hparams htarget hcover
  | getMultiSubscribersCount =>
    show Handled s c _ (Queries.subscriberCounts s c args)
    rw [Queries.subscriberCounts]
    split
    · exact handled_fail _
    · rename_i htarget
      exact handled_paged rfl fun pages hcover => .subscriberCounts hparams htarget hcover
  -- the calls that write
  | createChannel =>
    show Handled s c _ (Feeds.createChannel s c args)
    rw [Feeds.createChannel]
    split
    · exact handled_fail _
    · exact handled_withStore .refl fun a t => handled_done t _ rfl
  | publishPost => exact handled_withStore .refl fun a t => handled_tell t _ rfl
  | editPost => exact handled_withStore .refl fun a t => handled_done t _ rfl
  | deletePost => exact handled_withStore_ .refl fun t => handled_done t _ rfl
  | postComment =>
    refine handled_asMember fun u hu => ?_
    exact handled_withStore (.record hu rfl) fun a t => handled_tell t _ rfl
  | editComment =>
    refine handled_asMember fun u hu => ?_
    exact handled_withStore .refl fun a t => handled_done t _ rfl
  | deleteComment =>
    refine handled_asMember fun u hu => ?_
    exact handled_withStore_ .refl fun t => handled_done t _ rfl
  | blockComment => exact handled_withStore_ .refl fun t => handled_done t _ rfl
  | unblockComment => exact handled_withStore_ .refl fun t => handled_done t _ rfl
  | postLike =>
    refine handled_asMember fun u hu => ?_
    exact handled_withStore (.record hu rfl) fun a t => handled_tell t _ rfl
  | postUnlike =>
    refine handled_asMember fun u hu => ?_
    exact handled_withStore .refl fun a t => handled_done t _ rfl
  | subscribeChannel =>
    refine handled_asMember fun u hu => ?_
    exact handled_withStore_ (.record hu rfl) fun t => handled_done _ _ rfl
  | unsubscribeChannel =>
    refine handled_asMember fun u hu => ?_
    exact handled_withStore_ .refl fun t => handled_done _ _ rfl
  | enableNotification =>
    refine handled_asMember fun u hu => ?_
    dsimp only
    split
    · exact handled_fail _
    · exact handled_done _ _ rfl
  -- the calls that only read
  | getMyChannels => exact handled_withCriteria _ _ _ _ fun _ => handled_done s _ rfl
  | getChannels => exact handled_withCriteria _ _ _ _ fun _ => handled_done s _ rfl
  | getChannelDetail =>
    show Handled s c _ (Feeds.channelDetail s c args)
    rw [Feeds.channelDetail]
    split
    · exact handled_fail _
    · exact handled_done s _ rfl
  | getSubscribedChannels =>
    refine handled_asMember fun u hu => ?_
    exact handled_withCriteria _ _ _ _ fun _ => handled_done s _ rfl
  | getPosts => exact handled_withCriteria _ _ _ _ fun _ => handled_done s _ rfl
  | getLikedPosts =>
    refine handled_asMember fun u hu => ?_
    exact handled_withCriteria _ _ _ _ fun _ => handled_done s _ rfl
  | getComments =>
    show Handled s c _ (Feeds.comments s c args)
    rw [Feeds.comments]
    split
    · exact handled_fail _
    · exact handled_done s _ rfl
  | getStatistics => exact handled_done s _ rfl
  | getServiceVersion => exact handled_done s _ rfl

end Handlers

/-! ## Messages -/

variable {s : Services} {peer : Peer}

/-- A call fails on its way to a handler, or its handler serves it. -/
theorem serve_handled (s : Services) (peer : Peer) (request : Request) :
    (∃ code, serve s peer request = (s, .error code)) ∨
      ∃ m caller, request.params.method? = some m ∧
        (caller = none ∨ caller = s.sender? request) ∧
        Handled s { peer, caller, request } m (serve s peer request) := by
  rcases serve_cases s peer request with hfail | ⟨m, args, caller, hparams, hcaller, -, hserve⟩
  · exact .inl hfail
  · refine .inr ⟨m, caller, by rw [hparams]; rfl, hcaller, ?_⟩
    rw [hserve]
    exact handle_handled args hparams

/-- What is served is answered once, or in pages if it is a paged query. -/
theorem serve_ok {s' : Services} {request : Request} {out : List Output}
    (h : serve s peer request = (s', .ok out)) :
    (request.isPaged = false ∧ ∃ payload, answers out = [.reply request payload]) ∨
      request.isPaged = true ∧ PagedAnswers s request (answers out) := by
  rcases serve_handled s peer request with ⟨code, hfail⟩ | ⟨m, caller, hm, -, hhandled⟩
  · -- what is served did not fail
    rw [h] at hfail
    cases hfail
  · have hpaged : request.isPaged = m.isPaged := by simp [Request.isPaged, hm]
    rw [h] at hhandled
    rw [hpaged]
    cases hhandled with
    | answered _ payload hsingle hout => exact .inl ⟨hsingle, payload, hout⟩
    | paged _ hmany hout => exact .inr ⟨hmany, hout⟩

/-- What fails on its way to a handler leaves everything as it was, and what fails in one leaves no
more than a handler may. -/
theorem serve_error {s' : Services} {request : Request} {code : ErrorCode}
    (h : serve s peer request = (s', .error code)) :
    s' = s ∨ ∃ m caller, request.params.method? = some m ∧
      (caller = none ∨ caller = s.sender? request) ∧ s.Kept caller m s' := by
  rcases serve_handled s peer request with ⟨code', hfail⟩ | ⟨m, caller, hm, hcaller, hhandled⟩
  · -- it failed on its way
    rw [h] at hfail
    exact .inl (Prod.mk.inj hfail).1
  · -- it failed in its handler
    rw [h] at hhandled
    cases hhandled with
    | failed _ hkept => exact .inr ⟨m, caller, hm, hcaller, hkept⟩

/-- The request that a message carries, if it is served. -/
def Services.served? (s : Services) (peer : Peer) (octets : Bytes) : Option Request :=
  match decodeAny octets with
  | .error _ => none
  | .ok d =>
    if d.isProcessed = true ∧ d.request.id ≠ 0 then
      match (serve s peer d.request).2 with
      | .ok _ => some d.request
      | .error _ => none
    else none

/-- What comes of the octets that a peer sent. -/
inductive Responds (s : Services) (peer : Peer) (octets : Bytes) :
    Services × List Output → Prop where
  /-- Without an identifier there is nobody to answer to. -/
  | dropped (h : Rpc.peekId octets = none) : Responds s peer octets (s, [])
  /-- Turned down before any handler sees it. -/
  | refused (r : Response) (hid : Rpc.peekId octets = some r.id) (herror : r.isError = true)
      (hserved : s.served? peer octets = none) : Responds s peer octets (s, [.enqueue r])
  | failed {d : Decoded} {s' : Services} {code : ErrorCode} (hd : decodeAny octets = .ok d)
      (hprocessed : d.isProcessed = true) (hid : Rpc.peekId octets = some d.request.id)
      (hserve : serve s peer d.request = (s', .error code))
      (hserved : s.served? peer octets = none) :
      Responds s peer octets (s', [.enqueue (.failureFor d.request code)])
  | served {d : Decoded} {s' : Services} {out : List Output} (hd : decodeAny octets = .ok d)
      (hid : Rpc.peekId octets = some d.request.id)
      (hserve : serve s peer d.request = (s', .ok out))
      (hserved : s.served? peer octets = some d.request) : Responds s peer octets (s', out)

/-- A refusal has the identifier that it is given. -/
theorem refusal_id (dialect : Rpc.Dialect) (e : Rpc.WireError) (id : UInt64) :
    (refusal dialect e id).id = id := by
  cases dialect <;> rfl

/-- A refusal is an error. -/
theorem refusal_isError (dialect : Rpc.Dialect) (e : Rpc.WireError) (id : UInt64) :
    (refusal dialect e id).isError = true := by
  cases dialect <;> rfl

/-- What is no request is answered if it has an identifier. -/
theorem responds_of_error {octets : Bytes} {dialect : Rpc.Dialect} {e : Rpc.WireError}
    (hd : decodeAny octets = .error (dialect, e)) :
    Responds s peer octets (respond s peer octets) := by
  -- what is no request is not served
  have hserved : s.served? peer octets = none := by rw [Services.served?, hd]
  simp only [respond, hd]
  split
  · -- there is nobody to answer to
    rename_i hnone
    exact .dropped (Option.or_eq_none_iff.1 hnone).2
  · -- the identifier was found with the error, or in the head
    rename_i id hsome
    have hid : Rpc.peekId octets = some id := by
      rcases Option.or_eq_some_iff.1 hsome with herror | ⟨-, hpeek⟩
      · exact decodeAny_peekId (by rw [hd]; exact herror)
      · exact hpeek
    refine .refused _ ?_ (refusal_isError dialect e id) hserved
    rw [refusal_id]
    exact hid

/-- What is a request is answered under its identifier. -/
theorem responds_of_request {octets : Bytes} {d : Decoded} (hd : decodeAny octets = .ok d) :
    Responds s peer octets (respond s peer octets) := by
  have hid : Rpc.peekId octets = some d.request.id := decodeAny_peekId (by rw [hd]; rfl)
  -- what is not typed, or has the identifier zero, is not served
  have hunserved (h : ¬(d.isProcessed = true ∧ d.request.id ≠ 0)) :
      s.served? peer octets = none := by
    rw [Services.served?, hd]
    exact if_neg h
  simp only [respond, hd]
  split
  · -- its method is not known
    rename_i hstatus
    exact .refused _ hid rfl (hunserved (by simp [Decoded.isProcessed, hstatus]))
  · -- its version is not known
    rename_i hstatus
    exact .refused _ hid rfl (hunserved (by simp [Decoded.isProcessed, hstatus]))
  · -- it was typed
    rename_i hstatus
    have hprocessed : d.isProcessed = true := by simp [Decoded.isProcessed, hstatus]
    split
    · -- with the identifier zero it is refused
      rename_i hzero
      exact .refused _ hid rfl (hunserved fun h => h.2 hzero)
    · -- otherwise a handler decides
      rename_i hzero
      have hserved : s.served? peer octets =
          match (serve s peer d.request).2 with
          | .ok _ => some d.request
          | .error _ => none := by
        rw [Services.served?, hd]
        exact if_pos ⟨hprocessed, hzero⟩
      split
      · rename_i s' out hserve
        rw [hserve] at hserved
        exact .served hd hid hserve hserved
      · rename_i s' code hserve
        rw [hserve] at hserved
        exact .failed hd hprocessed hid hserve hserved

/-- What comes of every message. -/
theorem respond_responds (s : Services) (peer : Peer) (octets : Bytes) :
    Responds s peer octets (respond s peer octets) := by
  cases hd : decodeAny octets with
  | error e => exact responds_of_error hd
  | ok d => exact responds_of_request hd

/-- Nothing comes of octets without an identifier. -/
theorem respond_dropped {octets : Bytes} (h : Rpc.peekId octets = none) :
    respond s peer octets = (s, []) := by
  have hresponds := respond_responds s peer octets
  generalize respond s peer octets = result at hresponds
  -- all other outcomes have an identifier
  cases hresponds with
  | dropped => rfl
  | refused r hpeek => cases h.symm.trans hpeek
  | failed hd hprocessed hpeek => cases h.symm.trans hpeek
  | served hd hpeek => cases h.symm.trans hpeek

end Node

end FeedNode
