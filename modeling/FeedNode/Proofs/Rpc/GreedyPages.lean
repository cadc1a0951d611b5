import FeedNode.Proofs.Rpc.Pages
import Mathlib.Data.List.Chain

/-!
# Pages are as full as they can be

A page takes rows as long as they fit under the ceiling, and at least one. So the first row of each
page would have taken the page in front of it over the ceiling. There is one partition of the rows
that is like that, and pages are cut where it is.

Main statement: `greedy_iff`.
-/

namespace FeedNode.Rpc.Page

variable {α : Type} {ceiling : Nat} {size : α → Nat}

/-- The first of the rows behind a page would take the page over the ceiling. -/
def Full (ceiling : Nat) (size : α → Nat) (rows behind : List α) : Prop :=
  ∀ row ∈ behind.head?, ceiling < pageOverhead + (rows.map size).sum + size row

/-- The greedy partition of rows into pages: the pages cover the rows, fit, and are full up to the
last one. -/
structure Greedy (ceiling : Nat) (size : α → Nat) (rows : List α) (pages : List (Page α)) : Prop
    extends Cover rows pages where
  fit : ∀ page ∈ pages, Fit ceiling size page.rows
  full : pages.IsChain fun page next => Full ceiling size page.rows next.rows

/-! ## Runs are full -/

/-- The run that is being filled comes first. -/
theorem exists_runs_eq_cons (ceiling : Nat) (size : α → Nat) {run : List α} (hrun : run ≠ [])
    (filled : Nat) (rows : List α) :
    ∃ more rest, runs ceiling size run filled rows = (run ++ more) :: rest := by
  induction rows generalizing run filled with
  -- the run that is open is the last one
  | nil =>
    rw [runs, if_neg (by simpa using hrun)]
    exact ⟨[], [], by rw [List.append_nil]⟩
  | cons row rows ih =>
    rw [runs]
    split
    · -- the run is closed in front of the row
      exact ⟨[], _, by rw [List.append_nil]⟩
    · -- the run goes on with the row
      obtain ⟨more, rest, heq⟩ := @ih (run ++ [row]) (by simp) (filled + size row)
      exact ⟨row :: more, rest, by rw [heq, List.append_assoc, List.singleton_append]⟩

/-- A run is closed only by a row that does not fit behind it. -/
theorem isChain_runs {run : List α} {filled : Nat}
    (hfilled : filled = pageOverhead + (run.map size).sum) (rows : List α) :
    (runs ceiling size run filled rows).IsChain (Full ceiling size) := by
  induction rows generalizing run filled with
  | nil =>
    -- at most one run is left
    rw [runs]
    split
    · exact .nil
    · exact .singleton run
  | cons row rows ih =>
    rw [runs]
    split
    · rename_i hclosed
      rw [Bool.and_eq_true, decide_eq_true_eq] at hclosed
      have hmore := @ih [row] (pageOverhead + size row) (by simp)
      -- the row that did not fit starts the next run
      obtain ⟨more, rest, heq⟩ :=
        exists_runs_eq_cons ceiling size (List.cons_ne_nil row []) (pageOverhead + size row) rows
      rw [heq] at hmore ⊢
      refine hmore.cons_cons fun first hfirst => ?_
      obtain rfl : row = first := Option.some.inj hfirst
      rw [← hfilled]
      exact hclosed.2
    · -- the row joins the run, and the run fits still
      refine ih ?_
      rw [hfilled, List.map_append, List.sum_append, List.map_singleton, List.sum_singleton,
        Nat.add_assoc]

/-! ## One partition only -/

/-- Runs of rows, each with as many as fit, and at least one. -/
structure Filled (ceiling : Nat) (size : α → Nat) (rs : List (List α)) : Prop where
  ne_nil : ∀ r ∈ rs, r ≠ []
  fit : ∀ r ∈ rs, Fit ceiling size r
  full : rs.IsChain (Full ceiling size)

namespace Filled

variable {r r' : List α} {rest rest' : List (List α)}

/-- Behind a filled run the others are filled. -/
theorem tail (h : Filled ceiling size (r :: rest)) : Filled ceiling size rest :=
  ⟨fun q hq => h.ne_nil q (List.mem_cons_of_mem r hq),
    fun q hq => h.fit q (List.mem_cons_of_mem r hq), h.full.tail⟩

/-- The first row stands first in the first run. -/
theorem exists_eq_cons {rs : List (List α)} (h : Filled ceiling size rs) {row : α} {rows : List α}
    (hflatten : rs.flatten = row :: rows) : ∃ run rest, rs = (row :: run) :: rest := by
  cases rs with
  -- no runs carry no rows
  | nil => cases hflatten
  | cons r rest =>
    cases r with
    | nil => exact absurd rfl (h.ne_nil [] List.mem_cons_self)
    | cons first run => exact ⟨run, rest, by rw [(List.cons.inj hflatten).1]⟩

/-- Of runs that carry the same rows, the first is not shorter than one that fits. -/
theorem length_le (h : Filled ceiling size (r :: rest)) (hfit : Fit ceiling size r')
    (hflatten : r ++ rest.flatten = r' ++ rest'.flatten) : r'.length ≤ r.length := by
  refine Nat.not_lt.1 fun hlt => ?_
  -- otherwise the longer run goes on with the first row behind the shorter one
  obtain ⟨more, rfl⟩ : ∃ more, r' = r ++ more :=
    (List.prefix_of_prefix_length_le ⟨_, hflatten⟩ (List.prefix_append r' _) (Nat.le_of_lt hlt)).imp
      fun _ => Eq.symm
  rw [List.append_assoc, List.append_right_inj] at hflatten
  obtain ⟨row, more, rfl⟩ : ∃ row l, more = row :: l := List.exists_cons_of_ne_nil <| by
    rintro rfl
    simp at hlt
  obtain ⟨next, behind, rfl⟩ := h.tail.exists_eq_cons hflatten
  -- so it is at least as long as the shorter one and that row, which do not fit together
  have hfull : ceiling < pageOverhead + (r.map size).sum + size row := h.full.rel row rfl
  have hrow : 0 < r.length := List.length_pos_iff.2 (h.ne_nil r List.mem_cons_self)
  have hsum := hfit (by simp; omega)
  rw [List.map_append, List.sum_append, List.map_cons, List.sum_cons] at hsum
  omega

/-- The rows decide how they are cut. -/
theorem eq_of_flatten {rs rs' : List (List α)} (h : Filled ceiling size rs)
    (h' : Filled ceiling size rs') (hflatten : rs.flatten = rs'.flatten) : rs = rs' := by
  induction rs generalizing rs' with
  | nil =>
    cases rs' with
    | nil => rfl
    | cons r' rest' =>
      have hnil : r' = [] := (List.append_eq_nil_iff.1 hflatten.symm).1
      exact absurd hnil (h'.ne_nil r' List.mem_cons_self)
  | cons r rest ih =>
    cases rs' with
    | nil =>
      -- no rows are left for further runs
      have hnil : r = [] := (List.append_eq_nil_iff.1 hflatten).1
      exact absurd hnil (h.ne_nil r List.mem_cons_self)
    | cons r' rest' =>
      rw [List.flatten_cons, List.flatten_cons] at hflatten
      -- neither first run is longer than the other, so that they are the same
      have hle := h.length_le (h'.fit r' List.mem_cons_self) hflatten
      have hge := h'.length_le (h.fit r List.mem_cons_self) hflatten.symm
      obtain ⟨rfl, hrest⟩ := List.append_inj hflatten (Nat.le_antisymm hge hle)
      rw [ih h.tail h'.tail hrest]

end Filled

/-! ## Pages -/

/-- Pages are known by their rows if only the last one is marked as the last. -/
theorem eq_of_map_rows {rows : List α} {pages pages' : List (Page α)} (h : Cover rows pages)
    (h' : Cover rows pages') (hrows : pages.map Page.rows = pages'.map Page.rows) :
    pages = pages' := by
  have hlength : pages.length = pages'.length := by
    simpa using congrArg List.length hrows
  refine List.ext_getElem hlength fun i hi hi' => ?_
  -- the marks agree, since both say where the pages end
  have hpage := h.isLast_iff i pages[i] (List.getElem?_eq_getElem hi)
  have hpage' := h'.isLast_iff i pages'[i] (List.getElem?_eq_getElem hi')
  have hlast : pages[i].isLast = pages'[i].isLast := by
    rw [Bool.eq_iff_iff, hpage, hpage', hlength]
  -- the rows agree
  have hsame : pages[i].rows = pages'[i].rows := by
    have hget := List.getElem_of_eq hrows (by simpa using hi)
    rwa [List.getElem_map, List.getElem_map] at hget
  generalize pages[i] = page at hlast hsame
  generalize pages'[i] = page' at hlast hsame
  obtain ⟨isLast, rows⟩ := page
  obtain rfl : isLast = page'.isLast := hlast
  obtain rfl : rows = page'.rows := hsame
  rfl

/-- The rows of a greedy partition are filled runs. -/
theorem Greedy.filled {rows : List α} {pages : List (Page α)}
    (h : Greedy ceiling size rows pages) : Filled ceiling size (pages.map Page.rows) :=
  ⟨List.forall_mem_map.2 h.ne_nil, List.forall_mem_map.2 h.fit, (List.isChain_map _).2 h.full⟩

/-- What rows are cut into is a greedy partition of them. -/
theorem greedy_of_split (ceiling : Nat) (size : α → Nat) (rows : List α) :
    Greedy ceiling size rows (split ceiling size rows) := by
  refine ⟨cover_split ceiling size rows, fun page hpage => fit_of_mem_split hpage, ?_⟩
  rw [← List.isChain_map (R := Full ceiling size), split, map_rows_mark]
  exact isChain_runs rfl rows

/-- The pages of some rows are the greedy partition of them, and nothing else is: they carry all
rows in order, none is empty, the last one alone is marked, more than one row on a page fits under
the ceiling, and the first row of a page would not have fitted on the page in front of it. -/
theorem greedy_iff {rows : List α} {pages : List (Page α)} :
    Greedy ceiling size rows pages ↔ pages = split ceiling size rows := by
  have hsplit := greedy_of_split ceiling size rows
  constructor
  · intro h
    -- two partitions of the same rows are cut at the same places
    refine eq_of_map_rows h.toCover hsplit.toCover (h.filled.eq_of_flatten hsplit.filled ?_)
    rw [← List.flatMap_def, ← List.flatMap_def, h.rows_eq, hsplit.rows_eq]
  · rintro rfl
    exact hsplit

/-- A row that no page has room for stands alone. -/
example : split 72 (fun n => n) [5, 9, 4, 4] = [⟨false, [5]⟩, ⟨false, [9]⟩, ⟨true, [4, 4]⟩] := by
  decide

end FeedNode.Rpc.Page
