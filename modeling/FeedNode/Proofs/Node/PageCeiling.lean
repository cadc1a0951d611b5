import FeedNode.Proofs.Node.Confinement
import FeedNode.Proofs.Node.Outcomes
import FeedNode.Proofs.Rpc.PageSize

/-!
# Pages stay under the ceiling

A paged query is answered by pages that are cut by what their rows are reckoned to take. As that is
never too little, an answer with more than one row is no longer than the ceiling, whatever the
store holds; and an answer with a single row is not either, unless that row is reckoned to be too
long for any page.

Main statement: `served_pages_le_ceiling`.
-/

namespace FeedNode.Node

open Delivery (Peer)
open Rpc (Method Page Payload Request Response WireSize pageOverhead wireSize)

variable {s s' : Services} {out : List Output}

/-- The pages of a listing are reckoned by the sizes of their rows. -/
theorem paged_reckoned {α : Type} [WireSize α] {c : Call} {payload : Page α → Payload}
    (hsizes : ∀ page, (payload page).rowSizes = page.rows.map wireSize) {rows : List α}
    (h : Queries.paged s c payload rows = (s', .ok out)) :
    ∀ r ∈ answers out, r.Reckoned s.ceiling := by
  unfold Queries.paged Services.finish at h
  cases h
  intro r hr
  rw [answers, List.filterMap_map, List.mem_filterMap] at hr
  -- every answer carries one of the pages that were cut
  obtain ⟨page, hpage, hanswer⟩ := hr
  obtain rfl : c.answer (payload page) = r := Option.some.inj hanswer
  exact .of_page hpage (hsizes page)

/-- The pages of every paged query are cut at the ceiling. -/
theorem handle_reckoned {c : Call} {m : Method} (hpaged : m.isPaged = true) {args : m.Args}
    (h : handle s c m args = (s', .ok out)) : ∀ r ∈ answers out, r.Reckoned s.ceiling := by
  cases m
  case getMultiComments =>
    change Queries.comments s c args = _ at h
    unfold Queries.comments at h
    split at h
    · -- the criteria were refused
      cases h
    · -- a listing
      exact paged_reckoned (fun _ => rfl) h
  case getMultiLikesAndCommentsCount =>
    change Queries.postCounts s c args = _ at h
    unfold Queries.postCounts at h
    split at h
    · cases h
    · exact paged_reckoned (fun _ => rfl) h
  case getMultiSubscribersCount =>
    change Queries.subscriberCounts s c args = _ at h
    unfold Queries.subscriberCounts at h
    split at h
    · cases h
    · exact paged_reckoned (fun _ => rfl) h
  -- the others are not paged
  all_goals cases hpaged

/-- Every answer of a paged query that is served carries rows. With more than one row it is no
longer than the ceiling, and neither is it with one that is reckoned to fit. -/
theorem served_pages_le_ceiling {peer : Peer} {request : Request}
    (hpaged : request.isPaged = true) (h : serve s peer request = (s', .ok out)) :
    ∀ r ∈ answers out, r.rowSizes ≠ [] ∧
      (2 ≤ r.rowSizes.length → r.encode.length ≤ s.ceiling) ∧
      ∀ size, r.rowSizes = [size] → pageOverhead + size ≤ s.ceiling →
        r.encode.length ≤ s.ceiling := by
  intro r hr
  -- a handler served it, since it did not fail
  rcases serve_cases s peer request with ⟨code, hfail⟩ | ⟨m, args, caller, hparams, -, -, hserve⟩
  · rw [h] at hfail
    cases hfail
  · have hmethod : m.isPaged = true := by
      simpa [Request.isPaged, hparams, Rpc.Params.method?] using hpaged
    have hreckoned := handle_reckoned hmethod (hserve.symm.trans h) r hr
    refine ⟨hreckoned.ne_nil, fun htwo => ?_, fun size hsize hfits => ?_⟩
    · -- more than one row
      exact hreckoned.length_encode_le (.inl htwo)
    · -- one row that fits
      exact hreckoned.length_encode_le (.inr ⟨size, hsize, hfits⟩)

/-- Services with three channels and room for two of them on a page. -/
def sampleListing : Services :=
  { sampleStart.services with
    store :=
      { Feed.Store.empty with
        channels := [1, 2, 3].map fun channelId => { (default : Feed.Channel) with channelId } }
    ceiling := 160 }

/-- The channels of the listing, with nobody subscribed. -/
theorem listSubscriberCounts_sampleListing :
    sampleListing.store.listSubscriberCounts 0 = [(1, 0), (2, 0), (3, 0)] := by
  unfold Feed.Store.listSubscriberCounts Feed.Criteria.select
  dsimp only
  -- the channels stand in order already
  rw [List.mergeSort_of_pairwise (by decide)]
  rfl

/-- Two pages: the first is full, and the second has a row that fits. -/
theorem served_pages_le_ceiling_listing :
    let request :=
      Request.make .v2 7 (.call .getMultiSubscribersCount { token := "m", channelId := 0 })
    ∃ s' out, serve sampleListing "member" request = (s', .ok out) ∧
      (answers out).map (fun r => (r.rowSizes, r.encode.length)) = [([48, 48], 108), ([48], 76)] ∧
      ∀ r ∈ answers out, r.encode.length ≤ 160 := by
  intro request
  have hserve : serve sampleListing "member" request =
      Queries.paged sampleListing { peer := "member", caller := some sampleMember, request }
        .subscriberCounts ((sampleListing.store.listSubscriberCounts 0).map .ofPair) := by
    rfl
  rw [listSubscriberCounts_sampleListing] at hserve
  refine ⟨_, _, hserve, by decide +kernel, fun r hr => ?_⟩
  obtain ⟨-, htwo, hone⟩ := served_pages_le_ceiling (by decide +kernel) hserve r hr
  rcases List.mem_cons.1 hr with rfl | hr
  · exact htwo (by decide +kernel)
  · rw [List.mem_singleton.1 hr] at hone ⊢
    exact hone 48 (by decide +kernel) (by decide)

end FeedNode.Node
