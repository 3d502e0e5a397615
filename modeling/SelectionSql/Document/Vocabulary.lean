import SelectionSql.Document.Shape
import SelectionSql.Sql.Aggregate
import SelectionSql.Sql.Comparison
import SelectionSql.Sql.JoinType

/-!
# Vocabulary documents - Operators, aggregates and join types as documents

A word without data is written as its name; membership in a list also holds the
number of members.

Main results:

- `Comparison.ofDocument?_toDocument`, `Aggregate.ofDocument?_toDocument`,
  `JoinType.ofDocument?_toDocument`: what is written is read back.
-/

namespace SelectionSql

namespace Comparison

/-- The comparisons without data. -/
def plainAlternatives : List Comparison :=
  [equal, notEqual, greaterThan, lessThan, greaterThanOrEqual, lessThanOrEqual, like, between,
    isNull, isNotNull]

/-- The name of a comparison in a document. -/
def documentName : Comparison → String
  | equal => "equal"
  | notEqual => "not_equal"
  | greaterThan => "greater_than"
  | lessThan => "less_than"
  | greaterThanOrEqual => "greater_than_or_equal"
  | lessThanOrEqual => "less_than_or_equal"
  | like => "like"
  | between => "between"
  | isNull => "is_null"
  | isNotNull => "is_not_null"
  | oneOf _ => "in"

/-- The comparison that a document stands for. -/
def ofDocument? : Document → Option Comparison
  | .record [("in", count)] => count.nat?.map oneOf
  | document => document.choice? .streamed plainAlternatives documentName

/-- A comparison as a document. -/
def toDocument : Comparison → Document
  | oneOf count => .record [("in", .nat count)]
  | comparison => .text comparison.documentName

/-- A written comparison is read back. -/
theorem ofDocument?_toDocument (comparison : Comparison) :
    ofDocument? comparison.toDocument = some comparison := by
  cases comparison <;> rfl

end Comparison

namespace SubqueryComparison

/-- All comparisons with a sub-query. -/
def alternatives : List SubqueryComparison :=
  [equal, notEqual, greaterThan, lessThan, greaterThanOrEqual, lessThanOrEqual, like, oneOf,
    isNull, isNotNull]

/-- The name of a comparison in a document. -/
def documentName : SubqueryComparison → String
  | equal => "equal"
  | notEqual => "not_equal"
  | greaterThan => "greater_than"
  | lessThan => "less_than"
  | greaterThanOrEqual => "greater_than_or_equal"
  | lessThanOrEqual => "less_than_or_equal"
  | like => "like"
  | oneOf => "in"
  | isNull => "is_null"
  | isNotNull => "is_not_null"

/-- The comparison that a document stands for. -/
def ofDocument? (document : Document) : Option SubqueryComparison :=
  document.choice? .streamed alternatives documentName

/-- A comparison as a document. -/
def toDocument (comparison : SubqueryComparison) : Document :=
  .text comparison.documentName

end SubqueryComparison

namespace Aggregate

/-- All aggregate functions. -/
def alternatives : List Aggregate :=
  [avg, sum, count, max, min]

/-- The name of an aggregate function in a document. -/
def documentName : Aggregate → String
  | avg => "avg"
  | sum => "sum"
  | count => "count"
  | max => "max"
  | min => "min"

/-- The aggregate function that a document stands for. -/
def ofDocument? (reading : Reading) (document : Document) : Option Aggregate :=
  document.choice? reading alternatives documentName

/-- An aggregate function as a document. -/
def toDocument (aggregate : Aggregate) : Document :=
  .text aggregate.documentName

/-- A written aggregate function is read back. -/
theorem ofDocument?_toDocument (reading : Reading) (aggregate : Aggregate) :
    ofDocument? reading aggregate.toDocument = some aggregate := by
  cases aggregate <;> rfl

end Aggregate

namespace JoinType

/-- All join types. -/
def alternatives : List JoinType :=
  [inner, leftOuter, rightOuter]

/-- The name of a join type in a document. -/
def documentName : JoinType → String
  | inner => "inner"
  | leftOuter => "left_outer"
  | rightOuter => "right_outer"

/-- The join type that a document stands for. -/
def ofDocument? (reading : Reading) (document : Document) : Option JoinType :=
  document.choice? reading alternatives documentName

/-- A join type as a document. -/
def toDocument (type : JoinType) : Document :=
  .text type.documentName

/-- A written join type is read back. -/
theorem ofDocument?_toDocument (reading : Reading) (type : JoinType) :
    ofDocument? reading type.toDocument = some type := by
  cases type <;> rfl

end JoinType

end SelectionSql
