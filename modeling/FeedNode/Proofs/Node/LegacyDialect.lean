import FeedNode.Proofs.Delivery.Contents
import FeedNode.Proofs.Node.Answers
import FeedNode.Proofs.Node.Confinement
import FeedNode.Proofs.Rpc.Dialects

/-!
# The legacy dialect

A call of version 1.0 does the same in both dialects. What is kept of it differs in one place only,
the dialect in which the caller asked to be told of news; and what is sent differs in the first
entry of what goes to the caller.

Main statement: `legacy_echoes`.
-/

namespace FeedNode

/-! ## What may differ -/

namespace Rpc

open MessagePack

/-- The octets of an envelope in the versioned and in the legacy dialect. -/
def EchoOctets (b b' : Bytes) : Prop :=
  ∃ v fields, b = (Value.record (protocolField .versioned v :: fields)).pack ∧
    b' = (Value.record (protocolField .legacy v :: fields)).pack

/-- Two answers, in the versioned and in the legacy dialect, that say the same to the same call. -/
structure Response.Echoes (r r' : Response) : Prop where
  versioned : r.dialect = .versioned
  legacy : r'.dialect = .legacy
  id : r'.id = r.id
  body : r'.body = r.body

/-- Answers that echo one another differ in their first entry. -/
theorem Response.Echoes.octets {r r' : Response} (h : r.Echoes r') :
    EchoOctets r.encode r'.encode := by
  refine ⟨r.version, [("id", .unsigned r.id), bodyField r.body], ?_, ?_⟩
  · rw [encode, value, h.versioned]
  · rw [encode, value, h.legacy, h.id, h.body]
    rfl

/-- A notice differs from the same notice in the legacy dialect in its first entry. -/
theorem Notice.echoOctets {n : Notice} (h : n.dialect = .versioned) :
    EchoOctets n.encode { n with dialect := .legacy }.encode := by
  refine ⟨n.version, [("method", .text n.method), ("params", n.news.value)], ?_, rfl⟩
  rw [encode, value, h]

end Rpc

namespace Node

open Delivery (Audience Carrier Follower Memory Peer Queues)
open Feed (Store StoreError)
open Rpc (Dialect Method Notice Payload Request Response)

/-- The same frame, but for the dialect in what goes to the caller. -/
inductive Output.Echoes (caller : Peer) : Output → Output → Prop where
  | reply {r r' : Response} (h : r.Echoes r') : Echoes caller (.reply r) (.reply r')
  | enqueue {r r' : Response} (h : r.Echoes r') : Echoes caller (.enqueue r) (.enqueue r')
  | notify (peer : Peer) (n : Notice) : Echoes caller (.notify peer n) (.notify peer n)
  /-- The notice of a backup, which goes to the caller. -/
  | ownNotice {n : Notice} (h : n.dialect = .versioned) :
    Echoes caller (.notify caller n) (.notify caller { n with dialect := .legacy })

/-- The same binding, but for the dialect that the caller asked for. -/
def EchoBinding (caller peer : Peer) (f f' : Follower) : Prop :=
  f' = f ∨ peer = caller ∧ f.dialect = .versioned ∧ f' = { f with dialect := .legacy }

/-- The same services, but for the dialect in the binding of the caller. -/
structure Services.Echoes (caller : Peer) (s s' : Services) : Prop where
  rest : s' = { s with audience := s'.audience }
  audience : s.audience.followers.Alike (EchoBinding caller) s'.audience.followers

/-- The octets of a frame for a peer, the same but for the dialect in what goes to the caller. -/
def EchoFrame (caller peer : Peer) (b b' : Bytes) : Prop :=
  b' = b ∨ peer = caller ∧ Rpc.EchoOctets b b'

/-- Services echo themselves. -/
theorem Services.Echoes.refl (caller : Peer) (s : Services) : s.Echoes caller s :=
  ⟨rfl, .refl (fun _ _ => .inl rfl) _⟩

/-! ## Handlers -/

/-- The call in the legacy dialect. -/
def Call.legacy (c : Call) : Call :=
  { c with request := { c.request with dialect := .legacy } }

/-- Outcomes with the same error, or with frames that echo one another. -/
inductive Outcome.Echoes (caller : Peer) : Outcome → Outcome → Prop where
  | failed {s s' : Services} (h : s.Echoes caller s') (code : Rpc.ErrorCode) :
    Echoes caller (s, .error code) (s', .error code)
  | answered {s s' : Services} (h : s.Echoes caller s') {out out' : List Output}
    (hout : List.Forall₂ (Output.Echoes caller) out out') :
    Echoes caller (s, .ok out) (s', .ok out')

section Handlers

variable {s : Services} {c : Call}

/-- A failure is echoed by the same failure. -/
theorem echoes_fail (s : Services) (code : Rpc.ErrorCode) :
    Outcome.Echoes c.peer (s.fail code) (s.fail code) :=
  .failed (.refl c.peer s) code

/-- What is asked of a member is echoed if the member's call is. -/
theorem echoes_asMember {k k' : Feed.User → Outcome}
    (h : ∀ u, Outcome.Echoes c.peer (k u) (k' u)) :
    Outcome.Echoes c.peer (s.asMember c k) (s.asMember c.legacy k') := by
  show Outcome.Echoes c.peer (s.asMember c k) (s.asMember c k')
  rw [Services.asMember, Services.asMember]
  split
  · exact echoes_fail s _
  · exact h _

/-- What comes of an operation is echoed if what follows it is. -/
theorem echoes_withStore {α : Type} {r : Except StoreError (α × Store)}
    {k k' : α → Services → Outcome} (h : ∀ a t, Outcome.Echoes c.peer (k a t) (k' a t)) :
    Outcome.Echoes c.peer (s.withStore r k) (s.withStore r k') := by
  cases r with
  | error e => exact echoes_fail s _
  | ok result => exact h _ _

/-- The same of an operation without a result. -/
theorem echoes_withStore_ {r : Except StoreError Store} {k k' : Services → Outcome}
    (h : ∀ t, Outcome.Echoes c.peer (k t) (k' t)) :
    Outcome.Echoes c.peer (s.withStore_ r k) (s.withStore_ r k') := by
  cases r with
  | error e => exact echoes_fail s _
  | ok store => exact h _

/-- What comes of a query is echoed if what follows its criteria is. -/
theorem echoes_withCriteria (by_ upper lower maxCount : Int64) {k k' : Feed.Criteria → Outcome}
    (h : ∀ criteria, Outcome.Echoes c.peer (k criteria) (k' criteria)) :
    Outcome.Echoes c.peer (Feeds.withCriteria s by_ upper lower maxCount k)
      (Feeds.withCriteria s by_ upper lower maxCount k') := by
  rw [Feeds.withCriteria, Feeds.withCriteria]
  split
  · exact echoes_fail s _
  · exact h _

variable (hc : c.request.dialect = .versioned)

include hc

/-- An answer is echoed by the answer to the legacy call. -/
theorem echoes_answer (payload : Payload) :
    (c.answer payload).Echoes (c.legacy.answer payload) :=
  ⟨hc, rfl, rfl, rfl⟩

/-- An answer past the queue is echoed by one in the legacy dialect. -/
theorem echoes_done (s : Services) (payload : Payload) :
    Outcome.Echoes c.peer (Feeds.done s c payload) (Feeds.done s c.legacy payload) :=
  .answered (.refl c.peer s) (.cons (.reply (echoes_answer hc payload)) .nil)

/-- An answer through the queue is echoed by one in the legacy dialect. -/
theorem echoes_enqueue (s : Services) (payload : Payload) :
    Outcome.Echoes c.peer (s.finish [.enqueue (c.answer payload)])
      (s.finish [.enqueue (c.legacy.answer payload)]) :=
  .answered (.refl c.peer s) (.cons (.enqueue (echoes_answer hc payload)) .nil)

/-- An answer, and news of what was done, which is the same for all who are told. -/
theorem echoes_tell (s : Services) (payload : Payload) (channelId : Nat) (method : String)
    (news : Rpc.News) :
    Outcome.Echoes c.peer
      (s.finish (.reply (c.answer payload) :: s.tell channelId method news))
      (s.finish (.reply (c.legacy.answer payload) :: s.tell channelId method news)) := by
  refine .answered (.refl c.peer s) (.cons (.reply (echoes_answer hc payload)) ?_)
  -- the news does not know the dialect of the call
  refine List.forall₂_same.2 fun o ho => ?_
  obtain ⟨x, -, rfl⟩ := List.mem_map.1 ho
  exact .notify _ _

/-- The pages of a listing are echoed one by one. -/
theorem echoes_paged {α : Type} [Rpc.WireSize α] (s : Services)
    (payload : Rpc.Page α → Payload) (rows : List α) :
    Outcome.Echoes c.peer (Queries.paged s c payload rows)
      (Queries.paged s c.legacy payload rows) := by
  refine .answered (.refl c.peer s) ?_
  rw [List.forall₂_map_left_iff, List.forall₂_map_right_iff]
  exact List.forall₂_same.2 fun page _ => .enqueue (echoes_answer hc _)

/-- Signing in is echoed. -/
theorem echoes_signIn (a : Rpc.SignInArgs) :
    Outcome.Echoes c.peer (SignIn.signIn s c a) (SignIn.signIn s c.legacy a) := by
  rw [SignIn.signIn, SignIn.signIn]
  split
  · exact echoes_fail s _
  · split
    · exact echoes_fail s _
    · exact echoes_enqueue hc _ _

/-- Answering a challenge is echoed. -/
theorem echoes_didAuth (a : Rpc.DidAuthArgs) :
    Outcome.Echoes c.peer (SignIn.didAuth s c a) (SignIn.didAuth s c.legacy a) := by
  rw [SignIn.didAuth, SignIn.didAuth]
  split
  · exact echoes_fail s _
  · split
    · exact echoes_fail s _
    · exact echoes_enqueue hc _ _

/-- Declaring an owner is echoed. -/
theorem echoes_declareOwner (a : Rpc.DeclareOwnerArgs) :
    Outcome.Echoes c.peer (SignIn.declareOwner s c a) (SignIn.declareOwner s c.legacy a) := by
  rw [SignIn.declareOwner, SignIn.declareOwner]
  split
  · exact echoes_fail s _
  · split
    · exact echoes_fail s _
    · exact echoes_enqueue hc _ _

/-- The caller of a backup gets an answer and a notice, both in the dialect of the call. -/
theorem echoes_backup (a : Rpc.BackupArgs) :
    Outcome.Echoes c.peer (Backup.backup s c a) (Backup.backup s c.legacy a) := by
  rw [Backup.backup, Backup.backup]
  split
  · exact echoes_fail s _
  · split
    · exact echoes_fail _ _
    · exact echoes_fail _ _
    · exact .answered (.refl c.peer _)
        (.cons (.enqueue (echoes_answer hc _)) (.cons (.ownNotice hc) .nil))

/-- The caller is bound, or not bound, with the dialect of the call. -/
theorem echoes_enableNotification (a : Rpc.TokenArgs) :
    Outcome.Echoes c.peer (Feeds.enableNotification s c a)
      (Feeds.enableNotification s c.legacy a) := by
  refine echoes_asMember fun u => ?_
  dsimp only
  rw [Audience.activate?, Audience.activate?, show c.legacy.peer = c.peer from rfl]
  -- whether the peer asked before does not depend on the dialect it asks in
  by_cases hactive : s.audience.isActive c.peer = true
  · -- it did, and fails in both
    rw [if_pos hactive, if_pos hactive]
    exact echoes_fail s _
  · -- it did not, and is bound in both, each in its dialect
    rw [if_neg hactive, if_neg hactive]
    refine .answered ⟨rfl, ?_⟩ (.cons (.reply (echoes_answer hc _)) .nil)
    exact Dict.Alike.insert (.refl (fun _ _ => .inl rfl) _) (.inr ⟨rfl, hc, rfl⟩)

/-- What comes of a call in either dialect. -/
theorem handle_echoes (m : Method) (args : m.Args) :
    Outcome.Echoes c.peer (handle s c m args) (handle s c.legacy m args) := by
  cases m with
  | standardSignIn => exact echoes_signIn hc args
  | standardDidAuth => exact echoes_didAuth hc args
  | declareOwner =>
    simp only [handle]
    exact echoes_declareOwner hc args
  | backupServiceData => exact echoes_backup hc args
  | enableNotification => exact echoes_enableNotification hc args
  -- the paged queries
  | getMultiComments =>
    simp only [handle, Queries.comments]
    split
    · exact echoes_fail s _
    · exact echoes_paged hc s _ _
  | getMultiLikesAndCommentsCount =>
    simp only [handle, Queries.postCounts]
    split
    · exact echoes_fail s _
    · exact echoes_paged hc s _ _
  | getMultiSubscribersCount =>
    simp only [handle, Queries.subscriberCounts]
    split
    · exact echoes_fail s _
    · exact echoes_paged hc s _ _
  -- the calls that write
  | createChannel =>
    simp only [handle, Feeds.createChannel]
    split
    · exact echoes_fail s _
    · exact echoes_withStore fun _ t => echoes_done hc t _
  | publishPost => exact echoes_withStore fun _ t => echoes_tell hc t _ _ _ _
  | editPost => exact echoes_withStore fun _ t => echoes_done hc t _
  | deletePost => exact echoes_withStore_ fun t => echoes_done hc t _
  | postComment =>
    exact echoes_asMember fun u => echoes_withStore fun _ t => echoes_tell hc t _ _ _ _
  | editComment => exact echoes_asMember fun u => echoes_withStore fun _ t => echoes_done hc t _
  | deleteComment => exact echoes_asMember fun u => echoes_withStore_ fun t => echoes_done hc t _
  | blockComment => exact echoes_withStore_ fun t => echoes_done hc t _
  | unblockComment => exact echoes_withStore_ fun t => echoes_done hc t _
  | postLike =>
    exact echoes_asMember fun u => echoes_withStore fun _ t => echoes_tell hc t _ _ _ _
  | postUnlike => exact echoes_asMember fun u => echoes_withStore fun _ t => echoes_done hc t _
  | subscribeChannel =>
    exact echoes_asMember fun u => echoes_withStore_ fun t => echoes_done hc _ _
  | unsubscribeChannel =>
    exact echoes_asMember fun u => echoes_withStore_ fun t => echoes_done hc _ _
  -- the calls that only read
  | getMyChannels => exact echoes_withCriteria _ _ _ _ fun _ => echoes_done hc s _
  | getChannels => exact echoes_withCriteria _ _ _ _ fun _ => echoes_done hc s _
  | getChannelDetail =>
    simp only [handle, Feeds.channelDetail]
    split
    · exact echoes_fail s _
    · exact echoes_done hc s _
  | getSubscribedChannels =>
    exact echoes_asMember fun u => echoes_withCriteria _ _ _ _ fun _ => echoes_done hc s _
  | getPosts => exact echoes_withCriteria _ _ _ _ fun _ => echoes_done hc s _
  | getLikedPosts =>
    exact echoes_asMember fun u => echoes_withCriteria _ _ _ _ fun _ => echoes_done hc s _
  | getComments =>
    simp only [handle, Feeds.comments]
    split
    · exact echoes_fail s _
    · exact echoes_done hc s _
  | getStatistics => exact echoes_done hc s _
  | getServiceVersion => exact echoes_done hc s _

end Handlers

/-! ## Messages -/

/-- A request is served alike in either dialect. -/
theorem serve_echoes (s : Services) (peer : Peer) (request : Request) :
    Outcome.Echoes peer (serve s peer { request with dialect := .versioned })
      (serve s peer { request with dialect := .legacy }) := by
  have hroute : ∀ d, route listeners (fun f m => m.family == f) s.resolver
      { request with dialect := d } =
    route listeners (fun f m => m.family == f) s.resolver request := fun _ => rfl
  -- neither the routing nor the check of the token looks at the dialect
  simp only [serve, hroute]
  split
  · -- the routing refused it
    exact .failed (.refl peer s) _
  · exact handle_echoes (c := { peer, caller := _, request := _ }) rfl _ _
  · -- it has no params
    exact .failed (.refl peer s) _

variable {method : String}

/-- What is found in the octets of a call. -/
theorem decodeAny_callOctets (hmethod : Text.utf8Length method < 2 ^ 32) (id : UInt64)
    (params : Option Bytes) :
    (∀ d, decodeAny (Rpc.callOctets d method id params) = .error (.versioned, .unreadable) ∧
        Rpc.peekId (Rpc.callOctets d method id params) = none) ∨
      (∀ d, decodeAny (Rpc.callOctets d method id params) = .error (d, .badParams id method)) ∨
      ∃ (request : Request) (status : Rpc.DecodeStatus), ∀ d,
        decodeAny (Rpc.callOctets d method id params) =
          .ok { request := { request with dialect := d }, status } := by
  obtain hunreadable | ⟨value, hread⟩ := Rpc.readEntries_callOctets hmethod id params
  · -- params that cannot be read leave no call
    refine .inl fun d => ⟨?_, ?_⟩
    · simp only [decodeAny, Rpc.decode, Rpc.decodeLegacy, hunreadable, bind, Except.bind]
    · rw [Rpc.peekId, hunreadable]
  -- each reader takes the call in its own dialect and finds the other one incomplete
  · obtain ⟨hdecode, hnolegacy⟩ := Rpc.decode_versioned_call (hread .versioned)
    obtain ⟨hnone, hlegacy⟩ := Rpc.decode_legacy_call (hread .legacy)
    -- each reader types the same entries
    obtain hbad | ⟨request, status, hok⟩ := Rpc.decodeTyped_callFields method id value
    · refine .inr (.inl fun d => ?_)
      cases d with
      | versioned => simp only [decodeAny, hdecode, hbad]
      | legacy => simp only [decodeAny, hnone, hlegacy, hbad]
    · refine .inr (.inr ⟨request, status, fun d => ?_⟩)
      cases d with
      | versioned =>
        simp only [decodeAny, hdecode, hok, hnolegacy]
        split <;> rfl
      | legacy => simp only [decodeAny, hnone, hlegacy, hok]

/-- What comes of a call of version 1.0 in either dialect. -/
theorem respond_echoes (hmethod : Text.utf8Length method < 2 ^ 32) (id : UInt64)
    (params : Option Bytes) (s : Services) (peer : Peer) :
    let r := respond s peer (Rpc.callOctets .versioned method id params)
    let r' := respond s peer (Rpc.callOctets .legacy method id params)
    r.1.Echoes peer r'.1 ∧ List.Forall₂ (Output.Echoes peer) r.2 r'.2 := by
  have hone {r r' : Response} (h : r.Echoes r') :
      List.Forall₂ (Output.Echoes peer) [.enqueue r] [.enqueue r'] := .cons (.enqueue h) .nil
  obtain hunreadable | hbad | ⟨request, status, hok⟩ :=
    decodeAny_callOctets hmethod id params
  · -- nothing can be read, and nothing is answered
    obtain ⟨hd, hid⟩ := hunreadable .versioned
    obtain ⟨hd', hid'⟩ := hunreadable .legacy
    simp only [respond, hd, hd', hid, hid', Rpc.WireError.id?, Option.or]
    exact ⟨.refl peer s, .nil⟩
  · -- the params do not fit
    simp only [respond, hbad, Rpc.WireError.id?, Option.or]
    exact ⟨.refl peer s, hone ⟨rfl, rfl, rfl, rfl⟩⟩
  · -- a request, whose fate does not depend on the dialect
    simp only [respond, hok]
    cases status with
    | unknownMethod => exact ⟨.refl peer s, hone ⟨rfl, rfl, rfl, rfl⟩⟩
    | unsupportedVersion => exact ⟨.refl peer s, hone ⟨rfl, rfl, rfl, rfl⟩⟩
    | processed =>
      dsimp only
      split
      · -- the identifier is zero
        exact ⟨.refl peer s, hone ⟨rfl, rfl, rfl, rfl⟩⟩
      · have hserve := serve_echoes s peer request
        generalize serve s peer { request with dialect := .versioned } = o at hserve
        generalize serve s peer { request with dialect := .legacy } = o' at hserve
        cases hserve with
        | failed h code => exact ⟨h, hone ⟨rfl, rfl, rfl, rfl⟩⟩
        | answered h hout => exact ⟨h, hout⟩

/-- Outputs that echo one another leave alike queues alike. -/
theorem send_alike {caller : Peer} {o o' : Output} (ho : o.Echoes caller o')
    {d d' : Queues Memory} (h : d.Alike (EchoFrame caller) d') :
    (send caller d o).Alike (EchoFrame caller) (send caller d' o') := by
  cases ho with
  | reply hr => exact h.sendDirect (.inr ⟨rfl, hr.octets⟩) .handler
  | enqueue hr => exact h.enqueue (.inr ⟨rfl, hr.octets⟩)
  | notify peer n => exact h.enqueue (.inl rfl)
  | ownNotice hn => exact h.enqueue (.inr ⟨rfl, Notice.echoOctets hn⟩)

/-- Frames that echo one another, sent over queues that are alike, leave them alike. -/
theorem foldl_send_alike {caller : Peer} {out out' : List Output}
    (hout : List.Forall₂ (Output.Echoes caller) out out') {d d' : Queues Memory}
    (h : d.Alike (EchoFrame caller) d') :
    (out.foldl (send caller) d).Alike (EchoFrame caller) (out'.foldl (send caller) d') := by
  induction hout generalizing d d' with
  | nil => exact h
  | cons ho _ ih => exact ih (send_alike ho h)

/-- Whatever a peer calls in version 1.0, with whatever params, comes to the same in both dialects:
the node keeps the same, but for the dialect that the peer may have asked for news in; it sends the
same frames, but for the dialect in those to the peer; and what is owed to all peers is the same,
but for the dialect in what is owed to that peer. -/
theorem legacy_echoes (n : Node Memory) (peer : Peer)
    (hmethod : Text.utf8Length method < 2 ^ 32) (id : UInt64) (params : Option Bytes) :
    let octets := Rpc.callOctets .versioned method id params
    let octets' := Rpc.callOctets .legacy method id params
    (n.receive peer octets).services.Echoes peer (n.receive peer octets').services ∧
      List.Forall₂ (Output.Echoes peer) (respond n.services peer octets).2
        (respond n.services peer octets').2 ∧
      (n.receive peer octets).delivery.Alike (EchoFrame peer)
        (n.receive peer octets').delivery := by
  intro octets octets'
  obtain ⟨hservices, hout⟩ := respond_echoes hmethod id params n.services peer
  exact ⟨hservices, hout, foldl_send_alike hout (.refl (fun _ _ => .inl rfl) n.delivery)⟩

/-- A member asks for notices in either dialect. -/
theorem legacy_echoes_enable :
    let call : Rpc.Params := .call .enableNotification { token := "m" }
    let n := sampleNode.receive "member" (Request.make .v1 4 call).encode
    let n' := sampleNode.receive "member" (Request.makeLegacy 4 call).encode
    (n.services.audience.followers.get? "member").map Follower.dialect = some .versioned ∧
      (n'.services.audience.followers.get? "member").map Follower.dialect = some .legacy ∧
      n.delivery.carrier.countSent "member" = 1 ∧
      n'.delivery.carrier.sent ≠ n.delivery.carrier.sent ∧
      n.services.Echoes "member" n'.services ∧
      n.delivery.Alike (EchoFrame "member") n'.delivery := by
  intro call n n'
  have hversioned : (Request.make .v1 4 call).encode = Rpc.callOctets .versioned
      "enable_notification" 4 (some (call.write .v1).pack) := Rpc.encode_eq_callOctets rfl
  have hlegacy : (Request.makeLegacy 4 call).encode = Rpc.callOctets .legacy
      "enable_notification" 4 (some (call.write .v1).pack) := Rpc.encode_eq_callOctets rfl
  have hechoes := legacy_echoes sampleNode "member"
    (by decide : Text.utf8Length "enable_notification" < 2 ^ 32) 4 (some (call.write .v1).pack)
  rw [← hversioned, ← hlegacy] at hechoes
  exact ⟨by decide +kernel, by decide +kernel, by decide +kernel, by decide +kernel, hechoes.1,
    hechoes.2.2⟩

end Node

end FeedNode
