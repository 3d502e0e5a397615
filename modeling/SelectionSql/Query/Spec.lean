import SelectionSql.Query.Conditions
import SelectionSql.Sql.JoinType

/-!
# Query specifications - Finished descriptions of queries

A simple query reads one level, a join query an anchor and declared joins, and
a native query puts generated columns in front of a template.
-/

namespace SelectionSql

/-- A query against a single level. -/
structure SimpleQuery where
  level : Level
  conditions : Conditions
  deriving DecidableEq

/-- A declared join of a level. -/
structure DeclaredJoin where
  level : Level
  type : JoinType
  deriving DecidableEq

/-- A query against an anchor level and declared joins. -/
structure JoinQuery where
  /-- The level whose table comes first and to which aliases are relative. -/
  anchor : Level
  joins : List DeclaredJoin
  conditions : Conditions
  deriving DecidableEq

namespace JoinQuery

/-- The type of the first declaration of a level. -/
def joinType? (query : JoinQuery) (level : Level) : Option JoinType :=
  (query.joins.find? fun join => join.level = level).map DeclaredJoin.type

end JoinQuery

/-- A template placeholder and the level it stands for. -/
structure TableAlias where
  /-- The name between the braces of the placeholder. -/
  name : String
  level : Level
  deriving DecidableEq

/-- A query whose source is a template written by hand. -/
inductive NativeQuery
  /-- Bare columns of one level in front of the template. -/
  | simple (level : Level) (template : String) (aggregates : AggregateMap)
  /-- Qualified columns of every mapped level in front of the template. -/
  | join (anchor : Level) (template : String) (aliases : List TableAlias)
      (aggregates : AggregateMap)
  deriving DecidableEq

namespace NativeQuery

/-- The template of a native query. -/
def template : NativeQuery → String
  | simple _ template _ => template
  | join _ template _ _ => template

/-- The aggregates of a native query. -/
def aggregates : NativeQuery → AggregateMap
  | simple _ _ aggregates => aggregates
  | join _ _ _ aggregates => aggregates

end NativeQuery

/-- Any finished query. -/
inductive QuerySpec
  | simple (query : SimpleQuery)
  | join (query : JoinQuery)
  | native (query : NativeQuery)
  deriving DecidableEq

end SelectionSql
