import SelectionSql.Document.Vocabulary
import SelectionSql.Query.Spec

/-!
# Query documents - Query specifications as documents

A specification is written with its kind beside the query, a native query with
its form among its own fields.  Everything is written in full, except the level
of a clause or of a grouped column that has none.

Main results:

- `OrderToken.ofDocument?_toDocument`: what is written is read back.
-/

namespace SelectionSql

open Document (Parts)

/-! ## Tokens -/

/-- The field of an optional level, left out when there is none. -/
def levelMember (level : Option Level) : List (String × Document) :=
  match level with
  | some level => [("graph_key", .text level)]
  | none => []

namespace ConditionToken

/-- The tokens without data. -/
def plainAlternatives : List ConditionToken :=
  [groupOpen, groupClose, either]

/-- The name of a token in a document. -/
def documentName : ConditionToken → String
  | clause _ _ => "clause"
  | groupOpen => "open"
  | groupClose => "close"
  | either => "or"

/-- The clause that a document of its fields stands for. -/
def clauseOfDocument? (reading : Reading) (document : Document) : Option ConditionToken := do
  let parts ← document.parts? reading ["graph_key", "sql"]
  let level ← parts.optional "graph_key" Document.text?
  let sql ← parts.required "sql" Document.text?
  return clause level sql

/-- The token that a document stands for. -/
def ofDocument? (reading : Reading) : Document → Option ConditionToken
  | .record [("clause", fields)] => clauseOfDocument? reading fields
  | document => document.choice? reading plainAlternatives documentName

/-- A token as a document. -/
def toDocument : ConditionToken → Document
  | clause level sql => .record [("clause", .record (levelMember level ++ [("sql", .text sql)]))]
  | token => .text token.documentName

end ConditionToken

namespace OrderToken

/-- The tokens without data. -/
def plainAlternatives : List OrderToken :=
  [ascending, descending]

/-- The name of a token in a document. -/
def documentName : OrderToken → String
  | column _ => "column"
  | ascending => "asc"
  | descending => "desc"

/-- The token that a document stands for. -/
def ofDocument? (reading : Reading) : Document → Option OrderToken
  | .record [("column", text)] => text.text?.map column
  | document => document.choice? reading plainAlternatives documentName

/-- A token as a document. -/
def toDocument : OrderToken → Document
  | column text => .record [("column", .text text)]
  | token => .text token.documentName

/-- A written token is read back. -/
theorem ofDocument?_toDocument (reading : Reading) (token : OrderToken) :
    ofDocument? reading token.toDocument = some token := by
  cases token <;> rfl

end OrderToken

namespace GroupColumn

/-- The column that a document stands for. -/
def ofDocument? (reading : Reading) (document : Document) : Option GroupColumn := do
  let parts ← document.parts? reading ["graph_key", "column"]
  let level ← parts.optional "graph_key" Document.text?
  let column ← parts.required "column" Document.text?
  return ⟨level, column⟩

/-- A column as a document. -/
def toDocument (group : GroupColumn) : Document :=
  .record (levelMember group.level ++ [("column", .text group.column)])

end GroupColumn

/-! ## Conditions -/

/-- The aggregate of each column key that a document stands for. -/
def aggregatesOfDocument? (reading : Reading) : Document → Option AggregateMap :=
  Document.mapOf? (Aggregate.ofDocument? reading)

/-- The aggregate of each column key as a document. -/
def aggregatesToDocument : AggregateMap → Document :=
  Document.ofMap Aggregate.toDocument

namespace Conditions

/-- The names of the fields in order. -/
def fieldNames : List String :=
  ["where_tokens", "having_tokens", "order_by", "group_by", "limit", "offset_with_limit",
    "aggregates"]

/-- The conditions that a document stands for; what is absent is empty. -/
def ofDocument? (reading : Reading) (document : Document) : Option Conditions := do
  let parts ← document.parts? reading fieldNames
  let whereTokens ←
    parts.orDefault "where_tokens" [] (Document.listOf? (ConditionToken.ofDocument? reading))
  let havingTokens ←
    parts.orDefault "having_tokens" [] (Document.listOf? (ConditionToken.ofDocument? reading))
  let orderBy ← parts.orDefault "order_by" [] (Document.listOf? (OrderToken.ofDocument? reading))
  let groupBy ← parts.orDefault "group_by" [] (Document.listOf? (GroupColumn.ofDocument? reading))
  let limit ← parts.optional "limit" Document.text?
  let offsetWithLimit ← parts.orDefault "offset_with_limit" false Document.bool?
  let aggregates ← parts.orDefault "aggregates" SortedMap.empty (aggregatesOfDocument? reading)
  return {
    whereTokens := whereTokens
    havingTokens := havingTokens
    orderBy := orderBy
    groupBy := groupBy
    limit := limit
    offsetWithLimit := offsetWithLimit
    aggregates := aggregates }

/-- The fields of conditions, written in order. -/
def members (conditions : Conditions) : List (String × Document) :=
  [("where_tokens", .list (conditions.whereTokens.map ConditionToken.toDocument)),
    ("having_tokens", .list (conditions.havingTokens.map ConditionToken.toDocument)),
    ("order_by", .list (conditions.orderBy.map OrderToken.toDocument)),
    ("group_by", .list (conditions.groupBy.map GroupColumn.toDocument)),
    ("limit", Document.ofOption conditions.limit),
    ("offset_with_limit", .bool conditions.offsetWithLimit),
    ("aggregates", aggregatesToDocument conditions.aggregates)]

/-- Conditions as a document. -/
def toDocument (conditions : Conditions) : Document :=
  .record conditions.members

end Conditions

/-! ## Simple and join queries -/

namespace SimpleQuery

/-- The query that a document stands for. -/
def ofDocument? (reading : Reading) (document : Document) : Option SimpleQuery := do
  let parts ← document.parts? reading ["graph_key", "conditions"]
  let level ← parts.required "graph_key" Document.text?
  let conditions ← parts.orDefault "conditions" {} (Conditions.ofDocument? reading)
  return ⟨level, conditions⟩

/-- The fields of a query, written in order. -/
def members (query : SimpleQuery) : List (String × Document) :=
  [("graph_key", .text query.level), ("conditions", query.conditions.toDocument)]

/-- A query as a document. -/
def toDocument (query : SimpleQuery) : Document :=
  .record query.members

end SimpleQuery

namespace DeclaredJoin

/-- The declaration that a document stands for. -/
def ofDocument? (reading : Reading) (document : Document) : Option DeclaredJoin := do
  let parts ← document.parts? reading ["graph_key", "join_type"]
  let level ← parts.required "graph_key" Document.text?
  let type ← parts.orDefault "join_type" default (JoinType.ofDocument? reading)
  return ⟨level, type⟩

/-- A declaration as a document. -/
def toDocument (join : DeclaredJoin) : Document :=
  .record [("graph_key", .text join.level), ("join_type", join.type.toDocument)]

end DeclaredJoin

namespace JoinQuery

/-- The query that a document stands for. -/
def ofDocument? (reading : Reading) (document : Document) : Option JoinQuery := do
  let parts ← document.parts? reading ["root_key", "joins", "conditions"]
  let anchor ← parts.required "root_key" Document.text?
  let joins ← parts.orDefault "joins" [] (Document.listOf? (DeclaredJoin.ofDocument? reading))
  let conditions ← parts.orDefault "conditions" {} (Conditions.ofDocument? reading)
  return ⟨anchor, joins, conditions⟩

/-- The fields of a query, written in order. -/
def members (query : JoinQuery) : List (String × Document) :=
  [("root_key", .text query.anchor),
    ("joins", .list (query.joins.map DeclaredJoin.toDocument)),
    ("conditions", query.conditions.toDocument)]

/-- A query as a document. -/
def toDocument (query : JoinQuery) : Document :=
  .record query.members

end JoinQuery

/-! ## Native queries -/

namespace TableAlias

/-- The alias that a document stands for. -/
def ofDocument? (reading : Reading) (document : Document) : Option TableAlias := do
  let parts ← document.parts? reading ["alias", "graph_key"]
  let name ← parts.required "alias" Document.text?
  let level ← parts.required "graph_key" Document.text?
  return ⟨name, level⟩

/-- An alias as a document. -/
def toDocument (tableAlias : TableAlias) : Document :=
  .record [("alias", .text tableAlias.name), ("graph_key", .text tableAlias.level)]

end TableAlias

namespace NativeQuery

/-- The query without joins that a document of its fields stands for. -/
def simpleOfDocument? (document : Document) : Option NativeQuery := do
  let parts ← document.parts? .setAside ["graph_key", "template", "aggregates"]
  let level ← parts.required "graph_key" Document.text?
  let template ← parts.required "template" Document.text?
  let aggregates ← parts.orDefault "aggregates" SortedMap.empty (aggregatesOfDocument? .setAside)
  return simple level template aggregates

/-- The query with joins that a document of its fields stands for. -/
def joinOfDocument? (document : Document) : Option NativeQuery := do
  let parts ← document.parts? .setAside ["root_key", "template", "aliases", "aggregates"]
  let anchor ← parts.required "root_key" Document.text?
  let template ← parts.required "template" Document.text?
  let aliases ← parts.orDefault "aliases" [] (Document.listOf? (TableAlias.ofDocument? .setAside))
  let aggregates ← parts.orDefault "aggregates" SortedMap.empty (aggregatesOfDocument? .setAside)
  return join anchor template aliases aggregates

/-- The names of the forms in order. -/
def formNames : List String :=
  ["simple", "join"]

/-- The name of a form that a document gives.  In a value that was set aside the
number of the form will do. -/
def formName? (reading : Reading) : Document → Option String
  | .text name => some name
  | .nat number => if reading = .setAside then formNames[number]? else none
  | _ => none

/-- The name of the form in a document, with a document of the other fields. -/
def form? (reading : Reading) : Document → Option (String × Document)
  | .list (form :: fields) => (formName? reading form).map fun name => (name, .list fields)
  | .record members =>
      match members.partition fun member => member.1 = "form" with
      | ([(_, form)], fields) => (formName? reading form).map fun name => (name, .record fields)
      | _ => none
  | _ => none

/-- The query that a document stands for.  The form may stand after the fields
it decides about, so the document is set aside first and must be fit for that
in all its parts. -/
def ofDocument? (reading : Reading) (document : Document) : Option NativeQuery :=
  if document.plain 126 then
    match form? reading document with
    | some ("simple", fields) => simpleOfDocument? fields
    | some ("join", fields) => joinOfDocument? fields
    | _ => none
  else none

/-- The fields of a query, written in order with the form first. -/
def members : NativeQuery → List (String × Document)
  | simple level template aggregates =>
      [("form", .text "simple"), ("graph_key", .text level), ("template", .text template),
        ("aggregates", aggregatesToDocument aggregates)]
  | join anchor template aliases aggregates =>
      [("form", .text "join"), ("root_key", .text anchor), ("template", .text template),
        ("aliases", .list (aliases.map TableAlias.toDocument)),
        ("aggregates", aggregatesToDocument aggregates)]

/-- A query as a document. -/
def toDocument (query : NativeQuery) : Document :=
  .record query.members

end NativeQuery

/-! ## Query specifications -/

/-- The kind of a query specification. -/
inductive QueryKind
  | simple
  | join
  | native
  deriving DecidableEq

namespace QueryKind

/-- All kinds. -/
def alternatives : List QueryKind :=
  [simple, join, native]

/-- The name of a kind in a document. -/
def documentName : QueryKind → String
  | simple => "simple"
  | join => "join"
  | native => "native"

/-- The kind that a document stands for. -/
def ofDocument? (document : Document) : Option QueryKind :=
  document.choice? .streamed alternatives documentName

/-- The kind at the head of a list, which must be written as its name. -/
def ofName? : Document → Option QueryKind
  | .text name => Document.named? alternatives documentName name
  | _ => none

/-- Every kind is read from its name. -/
theorem ofName?_documentName (kind : QueryKind) :
    ofName? (.text kind.documentName) = some kind := by
  cases kind <;> rfl

end QueryKind

namespace QuerySpec

/-- The kind of a specification. -/
def kind : QuerySpec → QueryKind
  | simple _ => .simple
  | join _ => .join
  | native _ => .native

/-- The specification of a kind that a document of its query stands for. -/
def ofKind? (reading : Reading) (kind : QueryKind) (document : Document) : Option QuerySpec :=
  match kind with
  | .simple => (SimpleQuery.ofDocument? reading document).map simple
  | .join => (JoinQuery.ofDocument? reading document).map join
  | .native => (NativeQuery.ofDocument? reading document).map native

/-- The specification that a document stands for.  In a list only the name of the
kind will do; in a record a query in front of its kind is set aside first. -/
def ofDocument? : Document → Option QuerySpec
  | .list [kind, query] =>
      (QueryKind.ofName? kind).bind fun kind => ofKind? .streamed kind query
  | .record members =>
      match members.filter fun member => member.1 = "kind" ∨ member.1 = "query" with
      | [("kind", kind), ("query", query)] =>
          (QueryKind.ofDocument? kind).bind fun kind => ofKind? .streamed kind query
      | [("query", query), ("kind", kind)] =>
          if query.plain 126 then
            (QueryKind.ofDocument? kind).bind fun kind => ofKind? .setAside kind query
          else none
      | _ => none
  | _ => none

/-- The query of a specification as a document. -/
def queryToDocument : QuerySpec → Document
  | simple query => query.toDocument
  | join query => query.toDocument
  | native query => query.toDocument

/-- The fields of a specification, written in order. -/
def members (spec : QuerySpec) : List (String × Document) :=
  [("kind", .text spec.kind.documentName), ("query", spec.queryToDocument)]

/-- A specification as a document. -/
def toDocument (spec : QuerySpec) : Document :=
  .record spec.members

end QuerySpec

end SelectionSql
