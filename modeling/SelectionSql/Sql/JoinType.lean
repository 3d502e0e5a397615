/-!
# Join types - How a graph level is attached to its parent
-/

namespace SelectionSql

/-- The type of a join. -/
inductive JoinType
  | inner
  | leftOuter
  | rightOuter
  deriving DecidableEq

namespace JoinType

/-- A join declared without a type is an inner join. -/
instance : Inhabited JoinType := ⟨inner⟩

/-- The words of the join in a statement. -/
def keyword : JoinType → String
  | inner => "INNER JOIN"
  | leftOuter => "LEFT OUTER JOIN"
  | rightOuter => "RIGHT OUTER JOIN"

end JoinType

end SelectionSql
