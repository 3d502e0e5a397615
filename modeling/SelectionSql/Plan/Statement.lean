import SelectionSql.Plan.Aggregation
import SelectionSql.Plan.Join
import SelectionSql.Plan.Template
import SelectionSql.Query.Draft
import SelectionSql.Sql.Clause

/-!
# Statements - From queries to text

Compilation is a function of metadata, a selection and a query.  It gives a
statement: the output columns and what follows them.  A statement without
columns has no text.

Main results:

- `QuerySpec.compile_eq_ok`: the text is that of the statement.
-/

namespace SelectionSql

/-- A compiled statement. -/
structure Statement where
  items : List SelectItem
  /-- What follows the columns, with the space in front of it. -/
  tail : String
  deriving DecidableEq

namespace Statement

/-- The text of a statement. -/
def text (statement : Statement) : String :=
  selectText (statement.items.map SelectItem.text) statement.tail

end Statement

namespace SimpleQuery

/-- The statement of a query against one level: bare columns of one table. -/
def statement (query : SimpleQuery) (request : Request) : Except QueryFault Statement := do
  let level ← requireKey .simple (some query.level)
  let request ← query.conditions.groupBy.foldlM
    (fun request group => request.requestColumn level group.column) request
  let aggregates ← checkedAggregates request level .bare query.conditions.aggregates
  let items ← selectItems request .bare level aggregates
  let entity ← request.entityAt level
  return ⟨items, sourceTail entity.table query.conditions⟩

end SimpleQuery

namespace JoinQuery

/-- The plan of a query with declared joins, its aggregates checked first. -/
def checkedPlan (query : JoinQuery) (request : Request) : Except QueryFault JoinPlan := do
  let anchor ← requireKey .join (some query.anchor)
  let aggregates ←
    checkedAggregates request anchor (.qualified anchor) query.conditions.aggregates
  query.plan request aggregates

/-- The statement of a query with declared joins. -/
def statement (query : JoinQuery) (request : Request) : Except QueryFault Statement :=
  (query.checkedPlan request).map fun plan =>
    ⟨plan.items, sourceTail plan.source.text query.conditions⟩

end JoinQuery

namespace NativeQuery

/-- The statement of a template over one level. -/
def simpleStatement (level : Level) (template : String) (aggregates : AggregateMap)
    (request : Request) : Except QueryFault Statement := do
  let level ← requireKey .nativeSimple (some level)
  let template ← requireTemplate (some template)
  let aggregates ← checkedAggregates request level .bare aggregates
  let items ← selectItems request .bare level aggregates
  return ⟨items, " " ++ Text.trim template⟩

/-- The aggregates with the placeholders in their keys replaced; of two keys
that become alike the later one wins. -/
def substituteKeys (aliases : List TableAlias) (aggregates : AggregateMap) : AggregateMap :=
  SortedMap.ofList (aggregates.entries.map fun entry =>
    (substituteAliases aliases entry.1, entry.2))

/-- The mapped levels that the selection itself knows, each at its first place. -/
def aliasedLevels (aliases : List TableAlias) (selection : Selection) : List Level :=
  keepFirst ((aliases.map TableAlias.level).filter fun level =>
    (selection.entityAt level).isSome)

/-- The statement of a template over mapped levels. -/
def joinStatement (anchor : Level) (template : String) (aliases : List TableAlias)
    (aggregates : AggregateMap) (request : Request) : Except QueryFault Statement := do
  let anchor ← requireKey .nativeJoin (some anchor)
  let template ← requireTemplate (some template)
  let aggregates ←
    checkedAggregates request anchor (.qualified anchor) (substituteKeys aliases aggregates)
  let items ← (aliasedLevels aliases request.selection).mapM fun level =>
    selectItems request (.qualified anchor) level aggregates
  return ⟨items.flatten, " " ++ substituteAliases aliases (Text.trim template)⟩

/-- The statement of a query over a template. -/
def statement (query : NativeQuery) (request : Request) : Except QueryFault Statement :=
  match query with
  | simple level template aggregates => simpleStatement level template aggregates request
  | join anchor template aliases aggregates =>
      joinStatement anchor template aliases aggregates request

end NativeQuery

namespace QuerySpec

/-- The statement of any query. -/
def statement (spec : QuerySpec) (metadata : Metadata) (selection : Selection) :
    Except QueryFault Statement :=
  let request := Request.ofSelection metadata selection
  match spec with
  | simple query => query.statement request
  | join query => query.statement request
  | native query => query.statement request

/-- The text of any query over a selection. -/
def compile (spec : QuerySpec) (metadata : Metadata) (selection : Selection) :
    Except QueryFault String :=
  (spec.statement metadata selection).map Statement.text

/-- The text is that of the statement. -/
theorem compile_eq_ok {spec : QuerySpec} {metadata : Metadata} {selection : Selection}
    {text : String} :
    spec.compile metadata selection = .ok text ↔
      ∃ statement, spec.statement metadata selection = .ok statement ∧
        text = statement.text := by
  unfold compile
  cases spec.statement metadata selection with
  | error fault => simp [Except.map]
  | ok statement => simp [Except.map, eq_comm]

end QuerySpec

end SelectionSql
