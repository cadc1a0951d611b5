import FeedNode.Rpc.Paging
import Mathlib.Algebra.GroupWithZero.Nat

/-!
# Pages cover their rows

However rows are cut into pages, the pages carry all of them, in order and each once. No page is
empty, so that no rows give no pages, and the last page alone says that it is the last. A page with
more than one row fits under the ceiling.

Main statements: `Page.cover_split` and `Page.fit_of_mem_split`.
-/

namespace FeedNode.Rpc.Page

variable {α : Type}

/-- The pages carry the rows, and whoever reads them knows which page is the last. -/
structure Cover (rows : List α) (pages : List (Page α)) : Prop where
  rows_eq : pages.flatMap Page.rows = rows
  eq_nil_iff : pages = [] ↔ rows = []
  ne_nil : ∀ page ∈ pages, page.rows ≠ []
  isLast_iff : ∀ i page, pages[i]? = some page → (page.isLast = true ↔ i + 1 = pages.length)

/-- Pages that are not empty carry no rows only if there are none of them. -/
theorem eq_nil_iff_flatMap {pages : List (Page α)} (h : ∀ page ∈ pages, page.rows ≠ []) :
    pages = [] ↔ pages.flatMap Page.rows = [] := by
  constructor
  · intro hpages
    rw [hpages, List.flatMap_nil]
  · intro hrows
    cases pages with
    | nil => rfl
    | cons page rest =>
      have hpage : page.rows = [] := (List.append_eq_nil_iff.1 hrows).1
      exact absurd hpage (h page List.mem_cons_self)

/-! ## Runs -/

section Runs

variable (ceiling : Nat) (size : α → Nat)

/-- The runs carry the rows in order, those that a run began with in front. -/
theorem flatten_runs (run : List α) (filled : Nat) (rows : List α) :
    (runs ceiling size run filled rows).flatten = run ++ rows := by
  induction rows generalizing run filled with
  | nil =>
    -- an open run is kept only if it has rows
    rw [runs]
    split
    · rename_i hempty
      rw [List.isEmpty_iff.1 hempty]
      rfl
    · simp
  | cons row rows ih =>
    rw [runs]
    split
    · -- the row starts a run of its own
      rw [List.flatten_cons, ih, List.singleton_append]
    · -- the row joins the open run
      rw [ih, List.append_assoc, List.singleton_append]

/-- A run is closed only when it has rows. -/
theorem ne_nil_of_mem_runs {run : List α} {filled : Nat} {rows r : List α}
    (h : r ∈ runs ceiling size run filled rows) : r ≠ [] := by
  induction rows generalizing run filled with
  | nil =>
    rw [runs] at h
    split at h
    · -- nothing was open
      cases h
    · rename_i hrows
      rw [List.mem_singleton.1 h]
      simpa using hrows
  | cons row rows ih =>
    rw [runs] at h
    split at h
    · -- the run is full, and what is full has rows
      rename_i hfull
      rcases List.mem_cons.1 h with rfl | hrest
      · rw [Bool.and_eq_true, Bool.not_eq_true', List.isEmpty_eq_false_iff] at hfull
        exact hfull.1
      · exact ih hrest
    · -- the run is open still
      exact ih h

/-- The rows of a page fit under the ceiling with the envelope around them, unless it is only one
row. -/
def Fit (rows : List α) : Prop :=
  2 ≤ rows.length → pageOverhead + (rows.map size).sum ≤ ceiling

variable {ceiling size}

/-- A row is added to a run only where it fits. -/
theorem fit_of_mem_runs {run : List α} {filled : Nat} {rows r : List α}
    (hfilled : filled = pageOverhead + (run.map size).sum) (hrun : Fit ceiling size run)
    (h : r ∈ runs ceiling size run filled rows) : Fit ceiling size r := by
  induction rows generalizing run filled with
  | nil =>
    rw [runs] at h
    split at h
    · cases h
    · rw [List.mem_singleton.1 h]
      exact hrun
  | cons row rows ih =>
    rw [runs] at h
    split at h
    · -- a run is closed as it is
      rcases List.mem_cons.1 h with rfl | hrest
      · exact hrun
      · -- the next run starts with the row alone
        have hsingle : Fit ceiling size [row] := by simp [Fit]
        exact ih (by simp) hsingle hrest
    · -- the row joins the run, which keeps count of it
      rename_i hroom
      refine ih ?_ ?_ h
      · rw [hfilled, List.map_append, List.sum_append, List.map_singleton, List.sum_singleton,
          Nat.add_assoc]
      · -- and it joins a run with rows only where there is room
        intro htwo
        have hrows : run.isEmpty = false := by
          cases run with
          | nil => simp at htwo
          | cons => rfl
        rw [hrows, Bool.not_false, Bool.true_and, decide_eq_true_eq] at hroom
        rw [List.map_append, List.sum_append, List.map_singleton, List.sum_singleton]
        omega

end Runs

/-! ## Marks -/

/-- Marks leave the rows of the pages as they are. -/
theorem map_rows_mark (rs : List (List α)) : (mark rs).map Page.rows = rs := by
  induction rs using mark.induct with
  | case1 => rfl
  | case2 rows => rfl
  | case3 rows rest hrest ih => rw [mark.eq_3 rows rest hrest, List.map_cons, ih]

/-- Every run gets one mark. -/
theorem length_mark (rs : List (List α)) : (mark rs).length = rs.length := by
  have hlength := congrArg List.length (map_rows_mark rs)
  rwa [List.length_map] at hlength

/-- The last page alone is marked as the last. -/
theorem isLast_mark (rs : List (List α)) (i : Nat) {page : Page α}
    (h : (mark rs)[i]? = some page) : page.isLast = true ↔ i + 1 = rs.length := by
  induction rs using mark.induct generalizing i with
  | case1 => cases h
  -- one run is the first and the last
  | case2 rows =>
    obtain ⟨hi, hpage⟩ := List.getElem?_eq_some_iff.1 h
    have hzero : i = 0 := by simpa [mark] using hi
    subst hzero
    simp [← hpage, mark]
  | case3 rows rest hrest ih =>
    rw [mark.eq_3 rows rest hrest] at h
    cases i with
    | zero =>
      -- there is a run behind this one
      have hpage : (⟨false, rows⟩ : Page α) = page := Option.some.inj h
      have hmore : rest ≠ [] := hrest
      simp [← hpage, hmore]
    | succ i =>
      have hrec := ih i h
      simpa using hrec

/-- The rows of a page are one of the runs. -/
theorem mem_runs_of_mem_split {ceiling : Nat} {size : α → Nat} {rows : List α} {page : Page α}
    (h : page ∈ split ceiling size rows) :
    page.rows ∈ runs ceiling size [] pageOverhead rows := by
  rw [← map_rows_mark (runs ceiling size [] pageOverhead rows)]
  exact List.mem_map_of_mem h

/-- The pages of some rows cover them. -/
theorem cover_split (ceiling : Nat) (size : α → Nat) (rows : List α) :
    Cover rows (split ceiling size rows) := by
  -- the rows of the pages are the runs, and these carry the rows
  have hrows : (split ceiling size rows).flatMap Page.rows = rows := by
    rw [split, List.flatMap_def, map_rows_mark]
    exact flatten_runs ceiling size [] pageOverhead rows
  have hne : ∀ page ∈ split ceiling size rows, page.rows ≠ [] := fun page hpage =>
    ne_nil_of_mem_runs ceiling size (mem_runs_of_mem_split hpage)
  refine ⟨hrows, ?_, hne, fun i page hpage => ?_⟩
  · -- no page is empty, so that no rows have no pages
    rw [eq_nil_iff_flatMap hne, hrows]
  · rw [split, length_mark]
    exact isLast_mark _ i hpage

/-- A page of more than one row fits under the ceiling. -/
theorem fit_of_mem_split {ceiling : Nat} {size : α → Nat} {rows : List α} {page : Page α}
    (h : page ∈ split ceiling size rows) : Fit ceiling size page.rows :=
  fit_of_mem_runs rfl (by simp [Fit]) (mem_runs_of_mem_split h)

/-- A ceiling that two rows fit under besides the envelope. -/
example : split 72 (fun _ => 4) ["a", "b", "c"] = [⟨false, ["a", "b"]⟩, ⟨true, ["c"]⟩] := by
  decide

end FeedNode.Rpc.Page
