import SelectionSql.Sorted.Map

/-!
# Aggregates - Functions that override a plain column selection
-/

namespace SelectionSql

/-- An aggregate function. -/
inductive Aggregate
  | avg
  | sum
  | count
  | max
  | min
  deriving DecidableEq

namespace Aggregate

/-- The name of the function in a statement. -/
def name : Aggregate → String
  | avg => "AVG"
  | sum => "SUM"
  | count => "COUNT"
  | max => "MAX"
  | min => "MIN"

/-- The function applied to an expression. -/
def apply (aggregate : Aggregate) (expression : String) : String :=
  aggregate.name ++ "(" ++ expression ++ ")"

end Aggregate

/-- The aggregate of each column key, `level.column` or a bare `column`. -/
abbrev AggregateMap := SortedMap Aggregate

end SelectionSql
