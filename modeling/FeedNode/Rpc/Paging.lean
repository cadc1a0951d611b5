import FeedNode.Rpc.Payload

/-!
# Paging

Long answers are sent in pages. Rows fill a page in order until the next one would take it over the
ceiling; that row starts the next page. Only the last page says that it is the last, and no rows
give no pages.
-/

namespace FeedNode.Rpc

/-- The octets of a page envelope around its rows, at most. -/
def pageOverhead : Nat := 64

/-- The ceiling of a page where none is set. -/
def defaultCeiling : Nat := 4096

namespace Page

variable {α : Type}

/-- Cuts rows into runs, given the run that is being filled and its size so far. -/
def runs (ceiling : Nat) (size : α → Nat) (run : List α) (filled : Nat) :
    List α → List (List α)
  | [] => if run.isEmpty then [] else [run]
  | row :: rows =>
    if !run.isEmpty && decide (ceiling < filled + size row) then
      run :: runs ceiling size [row] (pageOverhead + size row) rows
    else runs ceiling size (run ++ [row]) (filled + size row) rows

/-- The pages of some runs of rows, the last one marked. -/
def mark : List (List α) → List (Page α)
  | [] => []
  | [rows] => [{ isLast := true, rows }]
  | rows :: rest => { isLast := false, rows } :: mark rest

/-- The pages of some rows. -/
def split (ceiling : Nat) (size : α → Nat) (rows : List α) : List (Page α) :=
  mark (runs ceiling size [] pageOverhead rows)

end Page

end FeedNode.Rpc
