import FeedNode.Proofs.Node.Answers
import FeedNode.Proofs.Node.Followers

/-!
# News reaches the subscribers and nobody else

A new post, a new comment or a new like is told to the peers that asked for notices and whose users
subscribe to the channel: to each once, and in the form in which it asked. What a peer asked for is
read off the history alone (`Bound`): it is what its last successful request for notices since it
last went offline says. Nobody else hears of it, and no other call tells anybody anything, but for a
backup, of which its caller gets a notice.

Main statement: `told_exactly`.
-/

namespace FeedNode.Node

open Delivery (Binding Memory Peer)
open Rpc (Method Params Request)

/-! ## Messages -/

/-- The binding that a message asks for, if it is a request for notices that is served. -/
def Services.enables? (s : Services) (peer : Peer) (octets : Bytes) : Option Binding :=
  (s.served? peer octets).bind fun request =>
    if request.params.method? = some .enableNotification then
      (s.sender? request).map fun u => ⟨u.userId, request.dialect, request.version⟩
    else none

variable {s : Services} {peer : Peer} {octets : Bytes}

/-- What is served was read from octets with an identifier. -/
theorem peekId_of_served? {request : Request} (h : s.served? peer octets = some request) :
    Rpc.peekId octets ≠ none := by
  cases hd : decodeAny octets with
  -- octets that are no request
  | error e =>
    rw [Services.served?, hd] at h
    cases h
  | ok d =>
    -- the head was read, so there is an identifier
    have hid : Rpc.peekId octets = some d.request.id := decodeAny_peekId (by rw [hd]; rfl)
    rw [hid]
    exact Option.some_ne_none _

/-- What comes of a request that is served is what its handler does. -/
theorem served_spread {request : Request} (h : s.served? peer octets = some request) :
    ∃ m args caller, request.params = .call m args ∧
      (caller = none ∨ caller = s.sender? request) ∧
      Spread s { peer, caller, request } m args
        ((respond s peer octets).1, .ok (respond s peer octets).2) := by
  have hpeek := peekId_of_served? h
  have hresponds := respond_responds s peer octets
  generalize respond s peer octets = result at hresponds ⊢
  cases hresponds with
  -- neither dropped nor refused nor failed, since it was served
  | dropped hnone => exact absurd hnone hpeek
  | refused r hid herror hserved =>
    rw [h] at hserved
    cases hserved
  | failed hd hprocessed hid hserve hserved =>
    rw [h] at hserved
    cases hserved
  | @served d s' out hd hid hserve hserved =>
    obtain rfl : request = d.request := Option.some.inj (h.symm.trans hserved)
    rcases serve_cases s peer d.request with
      ⟨code, hfail⟩ | ⟨m, args, caller, hparams, hcaller, -, hhandle⟩
    · -- a request that was served did not fail on its way
      rw [hserve] at hfail
      cases hfail
    · refine ⟨m, args, caller, hparams, hcaller, ?_⟩
      rw [← hserve, hhandle]
      exact handle_spread args

/-- What a handler leaves behind that fails has the same audience and subscriptions. -/
theorem Services.Kept.sameFollowing {s' : Services} {caller : Option Feed.User} {m : Method}
    (h : s.Kept caller m s') : s.SameFollowing s' := by
  rcases h.store with hstore | ⟨u, -, -, hstore⟩
  · exact .of_sameRows (hstore ▸ .refl _) h.audience
  · exact .of_sameRows (hstore ▸ Feed.Store.sameRows_upsertUser s.store u) h.audience

/-- What is not served tells nobody anything and leaves the audience and the subscriptions alone. -/
theorem respond_unserved (h : s.served? peer octets = none) :
    s.SameFollowing (respond s peer octets).1 ∧ notices (respond s peer octets).2 = [] := by
  have hresponds := respond_responds s peer octets
  generalize respond s peer octets = result at hresponds ⊢
  cases hresponds with
  | dropped hnone => exact ⟨.refl s, rfl⟩
  | refused r hid herror hserved => exact ⟨.refl s, rfl⟩
  | failed hd hprocessed hid hserve hserved =>
    refine ⟨?_, rfl⟩
    -- it failed before the handler, or in it
    rcases serve_error hserve with rfl | ⟨m, caller, -, -, hkept⟩
    · exact .refl _
    · exact hkept.sameFollowing
  | served hd hid hserve hserved =>
    rw [h] at hserved
    cases hserved

/-- No message leaves the audience behind the subscriptions. -/
theorem respond_follows (hs : s.audience.Follows s.store.isSubscribed) (peer : Peer)
    (octets : Bytes) :
    (respond s peer octets).1.audience.Follows (respond s peer octets).1.store.isSubscribed := by
  cases hserved : s.served? peer octets with
  | none =>
    have hsame := (respond_unserved hserved).1
    rw [hsame.audience]
    exact hs.congr hsame.subscribed
  | some request =>
    obtain ⟨m, args, caller, -, -, hspread⟩ := served_spread hserved
    exact hspread.follows hs

/-- A message binds its peer if it is a request for notices that is served, which it is not while
the peer is bound. It never changes what another peer is bound to. -/
theorem binding?_respond (s : Services) (peer : Peer) (octets : Bytes) (p : Peer) (b : Binding) :
    (respond s peer octets).1.audience.binding? p = some b ↔
      (p = peer ∧ s.enables? peer octets = some b) ∨ s.audience.binding? p = some b := by
  cases hserved : s.served? peer octets with
  | none =>
    -- what is not served binds nobody
    have hnone : s.enables? peer octets = none := by
      rw [Services.enables?, hserved, Option.bind_none]
    rw [(respond_unserved hserved).1.audience, hnone]
    simp
  | some request =>
    obtain ⟨m, args, caller, hparams, hcaller, hspread⟩ := served_spread hserved
    have hmethod : request.params.method? = some m := by rw [hparams]; rfl
    rcases hspread.binding? with ⟨hm, hsame⟩ | ⟨hm, u, hu, hfree, hbound⟩
    · -- another method
      have hnone : s.enables? peer octets = none := by
        simp [Services.enables?, hserved, hmethod, hm]
      rw [hsame, hnone]
      simp
    · -- a request for notices, from somebody with a token
      have hsender : s.sender? request = some u := by
        rcases hcaller with hnobody | hcaller
        · rw [hnobody] at hu
          cases hu
        · exact hcaller.symm.trans hu
      have hsome : s.enables? peer octets = some ⟨u.userId, request.dialect, request.version⟩ := by
        simp [Services.enables?, hserved, hmethod, hm, hsender]
      rw [hbound, hsome]
      -- the calling peer, which was free, or another one
      by_cases hp : p = peer
      · rw [if_pos hp, hp]
        simp [hfree]
      · rw [if_neg hp]
        simp [hp]

/-! ## Histories -/

/-- What happens to a node whose feeds are changed by its messages only. -/
inductive Happening where
  | message (peer : Peer) (octets : Bytes)
  | departure (peer : Peer)
  /-- Anything that does not concern the feeds or the audience: time passes, tokens come and go. -/
  | elsewhere (services : Services)

/-- The node after something happened. -/
def happen (n : Node Memory) : Happening → Node Memory
  | .message peer octets => n.receive peer octets
  | .departure peer => n.peerOffline peer
  | .elsewhere services =>
    { n with
      services := { services with store := n.services.store, audience := n.services.audience } }

/-- The node after all that happened. -/
def after (n : Node Memory) (history : List Happening) : Node Memory :=
  history.foldl happen n

/-- A node without an audience, over a carrier that confirms every frame at once. -/
def fresh (services : Services) : Node Memory where
  services := { services with audience := .empty }
  delivery := .new (.new true)

/-- The peer asked for notices, was told that it will get them, and has not gone offline since. -/
def Bound (n : Node Memory) (history : List Happening) (peer : Peer) (b : Binding) : Prop :=
  ∃ front octets rest, history = front ++ .message peer octets :: rest ∧
    .departure peer ∉ rest ∧ (n.after front).services.enables? peer octets = some b

variable {n : Node Memory} {b : Binding}

/-- In an empty history nobody asked for notices. -/
theorem not_bound_nil : ¬ n.Bound [] peer b := by
  rintro ⟨front, octets, rest, hsplit, -⟩
  simp at hsplit

/-- The request for notices comes first, or later. -/
theorem bound_cons {e : Happening} {history : List Happening} :
    n.Bound (e :: history) peer b ↔
      (.departure peer ∉ history ∧
        ∃ octets, e = .message peer octets ∧ n.services.enables? peer octets = some b) ∨
      (n.happen e).Bound history peer b := by
  constructor
  · rintro ⟨front, octets, rest, hsplit, hrest, henables⟩
    cases front with
    -- the first of all is the request
    | nil =>
      obtain ⟨rfl, rfl⟩ := List.cons.inj hsplit
      exact .inl ⟨hrest, octets, rfl, henables⟩
    -- the request comes later
    | cons e' front =>
      obtain ⟨rfl, rfl⟩ := List.cons.inj hsplit
      exact .inr ⟨front, octets, rest, rfl, hrest, henables⟩
  · rintro (⟨hrest, octets, rfl, henables⟩ | ⟨front, octets, rest, rfl, hrest, henables⟩)
    · exact ⟨[], octets, history, rfl, hrest, henables⟩
    · exact ⟨e :: front, octets, rest, rfl, hrest, henables⟩

/-- What happens binds a peer by its request for notices, and frees it by its departure. -/
theorem binding?_happen (n : Node Memory) (e : Happening) (peer : Peer) (b : Binding) :
    (n.happen e).services.audience.binding? peer = some b ↔
      (∃ octets, e = .message peer octets ∧ n.services.enables? peer octets = some b) ∨
        (e ≠ .departure peer ∧ n.services.audience.binding? peer = some b) := by
  cases e with
  | message p octets =>
    refine (binding?_respond n.services p octets peer b).trans ?_
    by_cases hp : peer = p
    · subst hp
      simp
    · -- a message of another peer
      simp [hp, Ne.symm hp]
  | departure p =>
    show (n.services.audience.deactivate p).binding? peer = some b ↔ _
    rw [Delivery.Audience.binding?_deactivate]
    by_cases hp : peer = p
    · simp [hp]
    · -- another peer leaves
      simp [hp, Ne.symm hp]
  | elsewhere services =>
    show n.services.audience.binding? peer = some b ↔ _
    simp

/-- The audience remembers what the history says, and what it held before. -/
theorem binding?_after (n : Node Memory) (history : List Happening) (peer : Peer) (b : Binding) :
    (n.after history).services.audience.binding? peer = some b ↔
      n.Bound history peer b ∨
        (.departure peer ∉ history ∧ n.services.audience.binding? peer = some b) := by
  induction history generalizing n with
  | nil =>
    show n.services.audience.binding? peer = some b ↔ _
    simp [not_bound_nil]
  | cons e history ih =>
    have hrest := ih (n.happen e)
    rw [binding?_happen] at hrest
    refine hrest.trans ?_
    rw [bound_cons, List.mem_cons]
    -- the request is the first thing that happened, or came later, or was there before
    grind

/-- In a node that started without an audience, who is bound to what is what the history says. -/
theorem binding?_after_fresh (services : Services) (history : List Happening) (peer : Peer)
    (b : Binding) :
    ((fresh services).after history).services.audience.binding? peer = some b ↔
      (fresh services).Bound history peer b := by
  have hempty : (fresh services).services.audience.binding? peer = none := rfl
  rw [binding?_after, hempty]
  simp

/-- The audience follows the subscriptions, whatever happens. -/
theorem follows_after (hn : n.services.audience.Follows n.services.store.isSubscribed)
    (history : List Happening) :
    (n.after history).services.audience.Follows (n.after history).services.store.isSubscribed := by
  induction history generalizing n with
  | nil => exact hn
  | cons e history ih =>
    refine ih ?_
    cases e with
    | message p octets => exact respond_follows hn p octets
    | departure p => exact hn.deactivate p
    | elsewhere services => exact hn

/-- Nothing waits, and no peer is offline. -/
theorem online_after (hn : n.Prompt) (honline : n.delivery.carrier.offline = [])
    (history : List Happening) :
    (n.after history).Prompt ∧ (n.after history).delivery.carrier.offline = [] := by
  induction history generalizing n with
  | nil => exact ⟨hn, honline⟩
  | cons e history ih =>
    cases e with
    -- a message is sent at once, and nobody is sent offline by it
    | message p octets =>
      have hdelivers := foldl_send_delivers hn.settled p (respond n.services p octets).2
      exact ih (hn.receive p octets) (hdelivers.offline.trans honline)
    | departure p => exact ih (hn.peerOffline p) honline
    | elsewhere services => exact ih (hn.services _) honline

/-! ## What is told -/

/-- A call that makes news tells each peer of it that asked for notices and whose user subscribes to
the channel: once, and in the form in which the peer asked. It tells nobody else. Of a backup its
caller gets one notice, and no other message makes the node tell anybody anything. -/
theorem told_exactly (services : Services) (history : List Happening) (peer : Peer)
    (octets : Bytes) :
    let n := (fresh services).after history
    let out := (respond n.services peer octets).2
    (n.receive peer octets).delivery.carrier.sent =
        n.delivery.carrier.sent ++ out.map (Output.frame peer) ∧
      (∀ request channelId, n.services.served? peer octets = some request →
        request.params.announces? = some channelId → ∀ p,
          (∀ b, (fresh services).Bound history p b →
            n.services.store.isSubscribed b.userId channelId = true →
            ∃ notice, noticesTo p out = [notice] ∧
              notice.dialect = b.dialect ∧ notice.version = b.version) ∧
          ((∀ b, (fresh services).Bound history p b →
            n.services.store.isSubscribed b.userId channelId = false) → noticesTo p out = [])) ∧
      (∀ request, n.services.served? peer octets = some request →
        request.params.method? = some .backupServiceData →
          ∃ notice, notices out = [(peer, notice)]) ∧
      ((∀ request, n.services.served? peer octets = some request →
          request.params.announces? = none ∧
            request.params.method? ≠ some .backupServiceData) → notices out = []) := by
  intro n out
  obtain ⟨hprompt, honline⟩ := online_after (n := fresh services) (.start _) rfl history
  have hfollows : n.services.audience.Follows n.services.store.isSubscribed :=
    follows_after (Delivery.Audience.follows_empty _) history
  have hbound := binding?_after_fresh services history
  refine ⟨?_, fun request channelId hserved hnews p => ?_, fun request hserved hbackup => ?_,
    fun hother => ?_⟩
  · -- nobody is offline, so all that goes out is sent
    have hall : n.sentOn peer octets = out := by
      simp [n, out, sentOn, honline]
    rw [sent_receive hprompt.settled, hall]
  · -- news goes to those who follow, and who follows is who is bound and subscribes
    obtain ⟨m, args, caller, hparams, -, hspread⟩ := served_spread hserved
    rw [hparams] at hnews
    simp only [← hbound]
    exact hspread.noticesTo_news hfollows hnews p
  · -- of a backup the caller hears
    obtain ⟨m, args, caller, hparams, -, hspread⟩ := served_spread hserved
    rw [hparams] at hbackup
    obtain rfl : m = .backupServiceData := Option.some.inj hbackup
    exact (hspread.notices_quiet rfl).1 rfl
  · -- all other messages are quiet
    cases hserved : n.services.served? peer octets with
    | none => exact (respond_unserved hserved).2
    | some request =>
      obtain ⟨hnews, hbackup⟩ := hother request hserved
      obtain ⟨m, args, caller, hparams, -, hspread⟩ := served_spread hserved
      rw [hparams] at hnews hbackup
      exact (hspread.notices_quiet hnews).2 fun hm => hbackup (congrArg some hm)

/-- The owner and a member ask for notices, and then the member subscribes from another peer. -/
def sampleHistory : List Happening :=
  [.message "phone" (Request.makeLegacy 1 (.call .enableNotification { token := "m" })).encode,
    .message "owner" (Request.make .v2 2 (.call .enableNotification { token := "o" })).encode,
    .message "tablet"
      (Request.make .v1 3 (.call .subscribeChannel { token := "m", channelId := 1 })).encode]

/-- The member hears of a post in the form that it asked for, and the owner does not. -/
theorem told_exactly_subscriber :
    let publish :=
      (Request.make .v2 4 (.call .publishPost
        { token := "o"
          channelId := 1
          content := [1]
          thumbnails := []
          hashId := ""
          proof := "" })).encode
    let n := (fresh sampleNode.services).after sampleHistory
    let out := (respond n.services "owner" publish).2
    (n.receive "owner" publish).delivery.carrier.sent =
        n.delivery.carrier.sent ++ out.map (Output.frame "owner") ∧
      (∃ notice, noticesTo "phone" out = [notice] ∧
        notice.dialect = .legacy ∧ notice.version = .v1) ∧
      noticesTo "owner" out = [] ∧ noticesTo "tablet" out = [] := by
  intro publish n out
  obtain ⟨hsent, hnews, -⟩ := told_exactly sampleNode.services sampleHistory "owner" publish
  -- the post is served, and is news of the channel
  obtain ⟨request, hserved⟩ : ∃ request, n.services.served? "owner" publish = some request :=
    Option.isSome_iff_exists.1 (by decide +kernel)
  have hchannel : request.params.announces? = some 1 := by
    have hbind :
        (n.services.served? "owner" publish).bind (fun r => r.params.announces?) = some 1 := by
      decide +kernel
    rwa [hserved, Option.bind_some] at hbind
  have htold := hnews request 1 hserved hchannel
  have hbound := binding?_after_fresh sampleNode.services sampleHistory
  refine ⟨hsent, ?_, (htold "owner").2 fun b hb => ?_, (htold "tablet").2 fun b hb => ?_⟩
  · -- the phone asked in the legacy dialect
    have hphone : (fresh sampleNode.services).Bound sampleHistory "phone" ⟨2, .legacy, .v1⟩ :=
      ⟨[], _, _, rfl, by simp, by decide +kernel⟩
    exact (htold "phone").1 _ hphone (by decide +kernel)
  · -- the owner is bound, but does not subscribe
    have howner : n.services.audience.binding? "owner" = some ⟨1, .versioned, .v2⟩ := by
      decide +kernel
    obtain rfl := Option.some.inj (howner.symm.trans ((hbound "owner" b).2 hb))
    decide +kernel
  · -- the tablet subscribed, but is not bound
    have htablet : n.services.audience.binding? "tablet" = none := by decide +kernel
    cases htablet.symm.trans ((hbound "tablet" b).2 hb)

end FeedNode.Node
