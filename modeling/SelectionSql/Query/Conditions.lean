import SelectionSql.Level
import SelectionSql.Sql.Aggregate

/-!
# Conditions - Filters, grouping, order and paging of a query

Conditions accumulate as flat token lists: parentheses and `OR` are tokens of
their own, and `AND` is implied between neighbours.
-/

namespace SelectionSql

/-- One element of a `WHERE` or `HAVING` list. -/
inductive ConditionToken
  /-- A rendered predicate, tagged with the level it filters on, if any. -/
  | clause (level : Option Level) (sql : String)
  | groupOpen
  | groupClose
  | either
  deriving DecidableEq

namespace ConditionToken

/-- The level a clause is tagged with. -/
def level? : ConditionToken → Option Level
  | clause level _ => level
  | _ => none

/-- The text of a token in a statement. -/
def text : ConditionToken → String
  | clause _ sql => sql
  | groupOpen => "("
  | groupClose => ")"
  | either => "OR"

end ConditionToken

/-- One element of an `ORDER BY` list; a direction belongs to the column before it. -/
inductive OrderToken
  | column (text : String)
  | ascending
  | descending
  deriving DecidableEq

/-- A column text, qualified by a level if one is given. -/
def qualify (level : Option Level) (column : String) : String :=
  match level with
  | some level => level ++ "." ++ column
  | none => column

/-- A `GROUP BY` column. -/
structure GroupColumn where
  level : Option Level
  column : String
  deriving DecidableEq

namespace GroupColumn

/-- The column as it stands in a statement. -/
def text (group : GroupColumn) : String :=
  qualify group.level group.column

end GroupColumn

/-- The conditions shared by queries on one level and on several. -/
structure Conditions where
  whereTokens : List ConditionToken := []
  havingTokens : List ConditionToken := []
  orderBy : List OrderToken := []
  groupBy : List GroupColumn := []
  limit : Option String := none
  /-- Whether offset and row count are both bound by the caller. -/
  offsetWithLimit : Bool := false
  aggregates : AggregateMap := SortedMap.empty
  deriving DecidableEq

namespace Conditions

/-- The text of the limit; the offset form wins over a plain limit. -/
def limitText (conditions : Conditions) : Option String :=
  if conditions.offsetWithLimit then some "?, ?" else conditions.limit

/-- The levels that `WHERE` clauses are tagged with. -/
def filteredLevels (conditions : Conditions) : List Level :=
  conditions.whereTokens.filterMap ConditionToken.level?

end Conditions

end SelectionSql
