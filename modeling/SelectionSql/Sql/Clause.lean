import SelectionSql.Query.Conditions
import SelectionSql.Text.Blank

/-!
# Clauses - From tokens to the sections of a statement

`AND` is placed between a token that ends an operand and one that begins one.
Parentheses hug their contents, and `OR` stands between spaces.

Main results:

- `statementText_nil`: a statement that selects nothing is empty.
-/

namespace SelectionSql

/-- The separator between two neighbouring tokens. -/
def separatorBetween : ConditionToken → ConditionToken → String
  | .groupOpen, _ => ""
  | _, .groupClose => ""
  | .clause _ _, .clause _ _ => " AND "
  | .clause _ _, .groupOpen => " AND "
  | .groupClose, .clause _ _ => " AND "
  | .groupClose, .groupOpen => " AND "
  | _, _ => " "

/-- The text of a `WHERE` or `HAVING` token list. -/
def conditionText : List ConditionToken → String
  | [] => ""
  | [token] => token.text
  | token :: next :: rest =>
      token.text ++ separatorBetween token next ++ conditionText (next :: rest)

/-- The text of an `ORDER BY` list continued from the text so far: a comma
stands before every column but the first. -/
def orderTextFrom (written : String) : List OrderToken → String
  | [] => written
  | .column text :: rest =>
      orderTextFrom ((if written = "" then written else written ++ ", ") ++ text) rest
  | .ascending :: rest => orderTextFrom (written ++ " ASC") rest
  | .descending :: rest => orderTextFrom (written ++ " DESC") rest

/-- The text of an `ORDER BY` list. -/
def orderText (tokens : List OrderToken) : String :=
  Text.trimStart (orderTextFrom "" tokens)

/-- A section of a statement: its lead and its text, or nothing for no text. -/
def sectionText (lead text : String) : String :=
  if text = "" then "" else lead ++ text

/-- The text of the `GROUP BY` section. -/
def groupSection (columns : List GroupColumn) : String :=
  if columns = [] then ""
  else " GROUP BY " ++ String.intercalate ", " (columns.map GroupColumn.text)

/-- The text of the `LIMIT` section. -/
def limitSection (limit : Option String) : String :=
  match limit with
  | some text => " LIMIT " ++ text
  | none => ""

/-- The sections after the source of a statement. -/
def conditionSections (conditions : Conditions) : String :=
  sectionText " WHERE " (conditionText conditions.whereTokens) ++
    groupSection conditions.groupBy ++
    sectionText " HAVING " (conditionText conditions.havingTokens) ++
    sectionText " ORDER BY " (orderText conditions.orderBy) ++
    limitSection conditions.limitText

/-- The text of a statement: its columns and what follows them.  A statement
that selects nothing is empty. -/
def selectText (columns : List String) (tail : String) : String :=
  if columns = [] then "" else "SELECT " ++ String.intercalate ", " columns ++ tail

/-- What follows the columns of a statement over a source. -/
def sourceTail (source : String) (conditions : Conditions) : String :=
  " FROM " ++ source ++ conditionSections conditions

/-- The text of a statement over a source. -/
def statementText (columns : List String) (source : String)
    (conditions : Conditions) : String :=
  selectText columns (sourceTail source conditions)

theorem statementText_nil (source : String) (conditions : Conditions) :
    statementText [] source conditions = "" :=
  rfl

end SelectionSql
