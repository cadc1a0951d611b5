/-!
# Paths

The parts of a path that its slashes divide, and the name that it ends in. Empty parts and single
dots are no parts; two dots are a part but no name.
-/

namespace FeedNode.Files

/-- The parts of some text between its slashes. -/
def splitSlash : List Char → List (List Char)
  | [] => [[]]
  | c :: cs =>
    if c = '/' then [] :: splitSlash cs
    else
      match splitSlash cs with
      | [] => [[c]]
      | part :: parts => (c :: part) :: parts

/-- The parts of a path. -/
def parts (path : String) : List String :=
  ((splitSlash path.toList).map String.ofList).filter fun p => p ≠ "" ∧ p ≠ "."

/-- The name that a path ends in. -/
def fileName? (path : String) : Option String :=
  (parts path).getLast?.bind fun p => if p = ".." then none else some p

/-- A path followed by another; an absolute one starts anew. -/
def join (path next : String) : String :=
  if next.toList.head? = some '/' then next
  else if path = "" ∨ path.toList.getLast? = some '/' then path ++ next
  else path ++ "/" ++ next

end FeedNode.Files
