import SelectionSql.Level
import SelectionSql.Sql.Aggregate
import SelectionSql.Sql.JoinType

/-!
# Selections of a statement - Output columns and sources

A column is looked up among aggregates by the same text that names it inside
the statement.  Levels double as table aliases, so a source introduces its
anchor and every joined level.
-/

namespace SelectionSql

/-- How the columns of a statement are written: bare over a single table
without an alias, or qualified by their level relative to an anchor. -/
inductive ColumnStyle
  | bare
  | qualified (anchor : Level)
  deriving DecidableEq

namespace ColumnStyle

/-- The text that names a column of a level inside a statement, which is also
its key among aggregates. -/
def key (style : ColumnStyle) (level : Level) (column : String) : String :=
  match style with
  | bare => column
  | qualified _ => level ++ "." ++ column

/-- What the output names of a level start with. -/
def outputPrefix (style : ColumnStyle) (level : Level) : String :=
  match style with
  | bare => ""
  | qualified anchor => Level.aliasPrefix level anchor

end ColumnStyle

/-- One output column of a statement. -/
structure SelectItem where
  style : ColumnStyle
  level : Level
  column : String
  /-- The aggregate the column is wrapped in, if any. -/
  aggregate : Option Aggregate
  deriving DecidableEq

namespace SelectItem

/-- The text that names the column inside the statement. -/
def source (item : SelectItem) : String :=
  item.style.key item.level item.column

/-- The name of the column in the result. -/
def outputName (item : SelectItem) : String :=
  item.style.outputPrefix item.level ++ item.column

/-- The text of the item: only a bare column without an aggregate needs no
output name. -/
def text (item : SelectItem) : String :=
  match item.style, item.aggregate with
  | .bare, none => item.column
  | _, none => item.source ++ " AS " ++ item.outputName
  | _, some aggregate => aggregate.apply item.source ++ " AS " ++ item.outputName

end SelectItem

/-- A join of one level to its parent. -/
structure JoinClause where
  type : JoinType
  table : String
  /-- The joined level, which is its alias. -/
  level : Level
  /-- The level it is joined to. -/
  parent : Level
  parentColumn : String
  childColumn : String
  deriving DecidableEq

namespace JoinClause

/-- The text of a join. -/
def text (clause : JoinClause) : String :=
  clause.type.keyword ++ " " ++ clause.table ++ " " ++ clause.level ++ " ON " ++
    clause.parent ++ "." ++ clause.parentColumn ++ " = " ++
    clause.level ++ "." ++ clause.childColumn

end JoinClause

/-- The source of a statement: a table under its anchor level and the joins
that follow it. -/
structure FromClause where
  table : String
  /-- The anchor level, which is the alias of the table. -/
  anchor : Level
  joins : List JoinClause
  deriving DecidableEq

namespace FromClause

/-- The text of a source. -/
def text (source : FromClause) : String :=
  source.table ++ " " ++ source.anchor ++
    String.join (source.joins.map fun clause => " " ++ clause.text)

/-- The levels that a source introduces as aliases. -/
def aliases (source : FromClause) : List Level :=
  source.anchor :: source.joins.map JoinClause.level

end FromClause

end SelectionSql
