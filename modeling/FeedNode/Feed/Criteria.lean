import FeedNode.Rpc.ErrorCode

/-!
# Query criteria

A listing is ordered by one column, bounded on that column, and cut to a number of rows.
`Criteria.ofWire?` builds the criteria from the four numbers of a request, and `Criteria.select`
applies criteria to rows.
-/

namespace FeedNode.Feed

/-- The column that a listing is bounded and ordered by. -/
inductive SortField where
  /-- The identifier, without bounds. -/
  | none
  | id
  | updatedAt
  | createdAt
deriving DecidableEq, Repr, Inhabited

namespace SortField

/-- The column that a request's number names. -/
def ofWire? (n : Int64) : Option SortField :=
  if n = 0 then some .none
  else if n = 1 then some .id
  else if n = 2 then some .updatedAt
  else if n = 3 then some .createdAt
  else Option.none

/-- Identifiers ascend; times descend, newest first. -/
def ascending : SortField → Bool
  | .none | .id => true
  | .updatedAt | .createdAt => false

end SortField

/-- Order, inclusive bounds and greatest number of rows of a listing. -/
structure Criteria where
  field : SortField
  lower : Option UInt64
  upper : Option UInt64
  limit : Option UInt64
deriving DecidableEq, Repr, Inhabited

/-- The three columns of a row that a listing can be ordered by. -/
structure SortKeys where
  id : Nat
  updatedAt : Nat
  createdAt : Nat

namespace Criteria

/-- No bounds and no limit, by identifier. -/
def all : Criteria where
  field := .none
  lower := none
  upper := none
  limit := none

/-- A number of a request that is set only when it is positive. -/
def positive? (n : Int64) : Option UInt64 :=
  if 0 < n then some n.toUInt64 else none

/-- The criteria of a request's numbers. A bound or count that is not positive is unset, and
bounds are dropped where no column is named. -/
def ofWire? (by_ upper lower maxCount : Int64) : Option Criteria :=
  (SortField.ofWire? by_).map fun field =>
    { field
      lower := if field = .none then none else positive? lower
      upper := if field = .none then none else positive? upper
      limit := positive? maxCount }

/-- The value in the column that the criteria name. -/
def key (c : Criteria) (k : SortKeys) : Nat :=
  match c.field with
  | .none | .id => k.id
  | .updatedAt => k.updatedAt
  | .createdAt => k.createdAt

/-- The value lies within the bounds. A bound is a signed word to the rows it is compared with. -/
def within (c : Criteria) (n : Nat) : Bool :=
  (c.lower.all fun lower => decide (lower.toInt64.toInt ≤ (n : Int))) &&
    (c.upper.all fun upper => decide ((n : Int) ≤ upper.toInt64.toInt))

/-- The value `a` may stand before the value `b`. -/
def precedes (c : Criteria) (a b : Nat) : Bool :=
  if c.field.ascending then decide (a ≤ b) else decide (b ≤ a)

/-- The first rows, as many as the limit allows. -/
def cut {α : Type} (c : Criteria) (rows : List α) : List α :=
  match c.limit with
  | none => rows
  | some n => rows.take n.toNat

/-- The rows within the bounds, in the order asked for, cut to the limit. Rows with equal keys stay
in the order given. -/
def select {α : Type} (c : Criteria) (keys : α → SortKeys) (rows : List α) : List α :=
  let within := rows.filter fun r => c.within (c.key (keys r))
  c.cut (within.mergeSort fun a b => c.precedes (c.key (keys a)) (c.key (keys b)))

end Criteria

end FeedNode.Feed
