import SelectionSql.Text.Blank

/-!
# Comparisons - Operators with bound parameters or a sub-query

Values are never written into a statement: a comparison renders its operator
and one `?` for each parameter that the caller binds.
-/

namespace SelectionSql

/-- A comparison whose right-hand side is bound parameters. -/
inductive Comparison
  | equal
  | notEqual
  | greaterThan
  | lessThan
  | greaterThanOrEqual
  | lessThanOrEqual
  | like
  | between
  | isNull
  | isNotNull
  | oneOf (count : Nat)
  deriving DecidableEq

namespace Comparison

/-- The given number of placeholders, but at least one. -/
def placeholders (count : Nat) : List String :=
  List.replicate (max count 1) "?"

/-- The operator and its placeholders. -/
def sql : Comparison → String
  | equal => "= ?"
  | notEqual => "!= ?"
  | greaterThan => "> ?"
  | lessThan => "< ?"
  | greaterThanOrEqual => ">= ?"
  | lessThanOrEqual => "<= ?"
  | like => "LIKE ?"
  | between => "BETWEEN ? AND ?"
  | isNull => "IS NULL"
  | isNotNull => "IS NOT NULL"
  | oneOf count => "IN (" ++ String.intercalate ", " (placeholders count) ++ ")"

end Comparison

/-- A comparison whose right-hand side is a sub-query given by the caller. -/
inductive SubqueryComparison
  | equal
  | notEqual
  | greaterThan
  | lessThan
  | greaterThanOrEqual
  | lessThanOrEqual
  | like
  | oneOf
  | isNull
  | isNotNull
  deriving DecidableEq

namespace SubqueryComparison

/-- The operator in front of the sub-query, if the comparison takes one. -/
def operator? : SubqueryComparison → Option String
  | equal => some "="
  | notEqual => some "!="
  | greaterThan => some ">"
  | lessThan => some "<"
  | greaterThanOrEqual => some ">="
  | lessThanOrEqual => some "<="
  | like => some "LIKE"
  | oneOf => some "IN"
  | isNull => none
  | isNotNull => none

/-- The operator applied to a sub-query in parentheses; the tests for null take
no operand and drop it. -/
def sql (comparison : SubqueryComparison) (subquery : String) : String :=
  match comparison.operator? with
  | some operator => operator ++ " (" ++ Text.trim subquery ++ ")"
  | none => if comparison = isNull then "IS NULL" else "IS NOT NULL"

end SubqueryComparison

end SelectionSql
