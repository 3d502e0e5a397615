import SelectionSql.Document.Query
import SelectionSql.Proofs.WrittenSchemas

/-!
# Round trips - What is written is read back

Four ways of writing meet in a query specification: it stands beside its kind, a native query
has its form among its fields, tokens with data are records of their name, and the other
structures are records or lists of their fields.  As for definitions, the documents that a value
may be written as are described first.

Main results:

- `HoldsLevelled.parts?`: an optional level is read whether or not it was left out.
- `NativeQuery.form?_of_holds`: the form of a native query is told apart from its other fields.
- `QuerySpec.ofDocument?_of_writtenAs`: a specification is read from whatever it may be written
  as.
- `QuerySpec.writtenAs_of_holds`: this includes the record and the list of its fields.
- `values_read_back`: values are read back from records, from lists and from any mixture.
-/

namespace SelectionSql

section

variable {document : Document} {reading : Reading}

/-! ## Conditions -/

/-- A document holds an optional level and a text under a name.  A level that there is not may
be left out of a record. -/
inductive HoldsLevelled (name text : String) : Option Level → Document → Prop
  | whole {level : Option Level} {document : Document}
      (h : document.Holds [("graph_key", Document.ofOption level), (name, .text text)]) :
      HoldsLevelled name text level document
  | short : HoldsLevelled name text none (.record [(name, .text text)])

/-- What is written of an optional level and a text holds them. -/
theorem holdsLevelled_levelMember (name text : String) (level : Option Level) :
    HoldsLevelled name text level (.record (levelMember level ++ [(name, .text text)])) := by
  cases level with
  | none => exact .short
  | some level => exact .whole .record

/-- An optional level and a text are read from whatever holds them. -/
theorem HoldsLevelled.parts? {level : Option Level} {name text : String}
    (h : HoldsLevelled name text level document) (hname : "graph_key" ≠ name)
    (reading : Reading) :
    ∃ parts, document.parts? reading ["graph_key", name] = some parts ∧
      parts.optional "graph_key" Document.text? = some level ∧
      parts.required name Document.text? = some text := by
  cases h with
  | whole h =>
      have hnodup : ["graph_key", name].Nodup := by simp [hname]
      have hparts := h.parts? reading ["graph_key", name] rfl hnodup
      refine ⟨_, hparts, Document.Parts.optional_eq rfl, ?_⟩
      apply Document.Parts.required_eq _ (Document.text?_text text)
      simp [hname]
  | short =>
      have hsubset : [(name, Document.text text)].map Prod.fst ⊆ ["graph_key", name] := by simp
      have hparts := Document.parts?_record_of_subset hsubset (List.nodup_singleton _) reading
      refine ⟨_, hparts, ?_, ?_⟩
      · simp [Document.Parts.optional, Document.member?, hname.symm]
      · apply Document.Parts.required_eq _ (Document.text?_text text)
        simp

namespace ConditionToken

variable {token : ConditionToken}

/-- The documents that a token may be written as. -/
def WrittenAs : ConditionToken → Document → Prop
  | clause level sql, document =>
      ∃ fields, HoldsLevelled "sql" sql level fields ∧ document = .record [("clause", fields)]
  | token, document => document = .text token.documentName

/-- A token is read from whatever it may be written as. -/
theorem ofDocument?_of_writtenAs (h : token.WrittenAs document) :
    ofDocument? reading document = some token := by
  cases token with
  | clause level sql =>
      rcases h with ⟨fields, hfields, rfl⟩
      rcases hfields.parts? (by decide) reading with ⟨parts, hparts, hlevel, hsql⟩
      show clauseOfDocument? reading fields = some (clause level sql)
      unfold clauseOfDocument?
      rw [hparts]
      show (do
        let level ← parts.optional "graph_key" Document.text?
        let sql ← parts.required "sql" Document.text?
        return clause level sql) = some (clause level sql)
      rw [hlevel, hsql]
      rfl
  | groupOpen => cases h; rfl
  | groupClose => cases h; rfl
  | either => cases h; rfl

/-- A token is written as one of its documents. -/
theorem writtenAs_toDocument (token : ConditionToken) : token.WrittenAs token.toDocument := by
  cases token with
  | clause level sql => exact ⟨_, holdsLevelled_levelMember "sql" sql level, rfl⟩
  | groupOpen => rfl
  | groupClose => rfl
  | either => rfl

end ConditionToken

namespace GroupColumn

variable {group : GroupColumn}

/-- The documents that a grouping column may be written as. -/
def WrittenAs (group : GroupColumn) (document : Document) : Prop :=
  HoldsLevelled "column" group.column group.level document

/-- A grouping column is read from whatever it may be written as. -/
theorem ofDocument?_of_writtenAs (h : group.WrittenAs document) :
    ofDocument? reading document = some group := by
  rcases h.parts? (by decide) reading with ⟨parts, hparts, hlevel, hcolumn⟩
  unfold ofDocument?
  rw [hparts]
  show (do
    let level ← parts.optional "graph_key" Document.text?
    let column ← parts.required "column" Document.text?
    return (⟨level, column⟩ : GroupColumn)) = some group
  rw [hlevel, hcolumn]
  rfl

/-- A grouping column is written as one of its documents. -/
theorem writtenAs_toDocument (group : GroupColumn) : group.WrittenAs group.toDocument :=
  holdsLevelled_levelMember "column" group.column group.level

end GroupColumn

/-- Written aggregates are read back. -/
theorem aggregatesOfDocument?_toDocument (aggregates : AggregateMap) :
    aggregatesOfDocument? reading (aggregatesToDocument aggregates) = some aggregates :=
  Document.mapOf?_ofMap (Aggregate.ofDocument?_toDocument reading) aggregates

namespace Conditions

variable {conditions : Conditions}

/-- The fields of conditions, given what their lists of structures are written as. -/
def membersWith (conditions : Conditions) (whereTokens havingTokens groupBy : List Document) :
    List (String × Document) :=
  [("where_tokens", .list whereTokens), ("having_tokens", .list havingTokens),
    ("order_by", .list (conditions.orderBy.map OrderToken.toDocument)),
    ("group_by", .list groupBy), ("limit", Document.ofOption conditions.limit),
    ("offset_with_limit", .bool conditions.offsetWithLimit),
    ("aggregates", aggregatesToDocument conditions.aggregates)]

/-- The documents that conditions may be written as. -/
def WrittenAs (conditions : Conditions) (document : Document) : Prop :=
  ∃ whereTokens havingTokens groupBy,
    List.Forall₂ ConditionToken.WrittenAs conditions.whereTokens whereTokens ∧
    List.Forall₂ ConditionToken.WrittenAs conditions.havingTokens havingTokens ∧
    List.Forall₂ GroupColumn.WrittenAs conditions.groupBy groupBy ∧
      document.Holds (conditions.membersWith whereTokens havingTokens groupBy)

/-- Conditions are read from whatever they may be written as. -/
theorem ofDocument?_of_writtenAs (h : conditions.WrittenAs document) :
    ofDocument? reading document = some conditions := by
  rcases h with ⟨whereTokens, havingTokens, groupBy, hwhere, hhaving, hgroups, hdocument⟩
  have hreadWhere : (Document.list whereTokens).listOf? (ConditionToken.ofDocument? reading) =
      some conditions.whereTokens :=
    Document.listOf?_of_forall₂ (fun _ _ => ConditionToken.ofDocument?_of_writtenAs) hwhere
  have hreadHaving : (Document.list havingTokens).listOf? (ConditionToken.ofDocument? reading) =
      some conditions.havingTokens :=
    Document.listOf?_of_forall₂ (fun _ _ => ConditionToken.ofDocument?_of_writtenAs) hhaving
  have hreadOrder : (Document.list (conditions.orderBy.map OrderToken.toDocument)).listOf?
      (OrderToken.ofDocument? reading) = some conditions.orderBy :=
    Document.listOf?_map (OrderToken.ofDocument?_toDocument reading) _
  have hreadGroups : (Document.list groupBy).listOf? (GroupColumn.ofDocument? reading) =
      some conditions.groupBy :=
    Document.listOf?_of_forall₂ (fun _ _ => GroupColumn.ofDocument?_of_writtenAs) hgroups
  have hlimit : Document.Parts.optional
      (Document.member? (conditions.membersWith whereTokens havingTokens groupBy)) "limit"
      Document.text? = some conditions.limit := Document.Parts.optional_eq rfl
  unfold ofDocument?
  rw [hdocument.parts? reading fieldNames rfl (by decide)]
  show (do
    let wheres ← (Document.list whereTokens).listOf? (ConditionToken.ofDocument? reading)
    let havings ← (Document.list havingTokens).listOf? (ConditionToken.ofDocument? reading)
    let orders ← (Document.list (conditions.orderBy.map OrderToken.toDocument)).listOf?
      (OrderToken.ofDocument? reading)
    let groups ← (Document.list groupBy).listOf? (GroupColumn.ofDocument? reading)
    let limit ← Document.Parts.optional
      (Document.member? (conditions.membersWith whereTokens havingTokens groupBy)) "limit"
      Document.text?
    let aggregates ← aggregatesOfDocument? reading (aggregatesToDocument conditions.aggregates)
    return (⟨wheres, havings, orders, groups, limit, conditions.offsetWithLimit, aggregates⟩ :
      Conditions)) = some conditions
  rw [hreadWhere, hreadHaving, hreadOrder, hreadGroups, hlimit, aggregatesOfDocument?_toDocument]
  rfl

/-- Conditions are written as one of their documents. -/
theorem writtenAs_toDocument (conditions : Conditions) :
    conditions.WrittenAs conditions.toDocument := by
  have htokens : ∀ tokens, List.Forall₂ ConditionToken.WrittenAs tokens
      (tokens.map ConditionToken.toDocument) :=
    Document.forall₂_map_written ConditionToken.writtenAs_toDocument
  have hgroups : List.Forall₂ GroupColumn.WrittenAs conditions.groupBy
      (conditions.groupBy.map GroupColumn.toDocument) :=
    Document.forall₂_map_written GroupColumn.writtenAs_toDocument _
  exact ⟨_, _, _, htokens _, htokens _, hgroups, .record⟩

end Conditions

/-! ## Simple and join queries -/

namespace SimpleQuery

variable {query : SimpleQuery}

/-- The documents that a simple query may be written as. -/
def WrittenAs (query : SimpleQuery) (document : Document) : Prop :=
  ∃ conditions, query.conditions.WrittenAs conditions ∧
    document.Holds [("graph_key", .text query.level), ("conditions", conditions)]

/-- A simple query is read from whatever it may be written as. -/
theorem ofDocument?_of_writtenAs (h : query.WrittenAs document) :
    ofDocument? reading document = some query := by
  rcases h with ⟨conditions, hconditions, hdocument⟩
  unfold ofDocument?
  rw [hdocument.parts? reading ["graph_key", "conditions"] rfl (by decide)]
  show (do
    let conditions ← Conditions.ofDocument? reading conditions
    return (⟨query.level, conditions⟩ : SimpleQuery)) = some query
  rw [Conditions.ofDocument?_of_writtenAs hconditions]
  rfl

/-- The fields of a simple query in order are its fields. -/
theorem writtenAs_of_holds (h : document.Holds query.members) : query.WrittenAs document :=
  ⟨query.conditions.toDocument, query.conditions.writtenAs_toDocument, h⟩

end SimpleQuery

namespace DeclaredJoin

variable {join : DeclaredJoin}

/-- The documents that a declared join may be written as. -/
def WrittenAs (join : DeclaredJoin) (document : Document) : Prop :=
  document.Holds [("graph_key", .text join.level), ("join_type", join.type.toDocument)]

/-- A declared join is read from whatever it may be written as. -/
theorem ofDocument?_of_writtenAs (h : join.WrittenAs document) :
    ofDocument? reading document = some join := by
  unfold ofDocument?
  rw [h.parts? reading ["graph_key", "join_type"] rfl (by decide)]
  show (do
    let type ← JoinType.ofDocument? reading join.type.toDocument
    return (⟨join.level, type⟩ : DeclaredJoin)) = some join
  rw [JoinType.ofDocument?_toDocument]
  rfl

end DeclaredJoin

namespace JoinQuery

variable {query : JoinQuery}

/-- The documents that a join query may be written as. -/
def WrittenAs (query : JoinQuery) (document : Document) : Prop :=
  ∃ joins conditions, List.Forall₂ DeclaredJoin.WrittenAs query.joins joins ∧
    query.conditions.WrittenAs conditions ∧
      document.Holds [("root_key", .text query.anchor), ("joins", .list joins),
        ("conditions", conditions)]

/-- A join query is read from whatever it may be written as. -/
theorem ofDocument?_of_writtenAs (h : query.WrittenAs document) :
    ofDocument? reading document = some query := by
  rcases h with ⟨joins, conditions, hjoins, hconditions, hdocument⟩
  have hread : (Document.list joins).listOf? (DeclaredJoin.ofDocument? reading) =
      some query.joins :=
    Document.listOf?_of_forall₂ (fun _ _ => DeclaredJoin.ofDocument?_of_writtenAs) hjoins
  unfold ofDocument?
  rw [hdocument.parts? reading ["root_key", "joins", "conditions"] rfl (by decide)]
  show (do
    let joins ← (Document.list joins).listOf? (DeclaredJoin.ofDocument? reading)
    let conditions ← Conditions.ofDocument? reading conditions
    return (⟨query.anchor, joins, conditions⟩ : JoinQuery)) = some query
  rw [hread, Conditions.ofDocument?_of_writtenAs hconditions]
  rfl

/-- The fields of a join query in order are its fields. -/
theorem writtenAs_of_holds (h : document.Holds query.members) : query.WrittenAs document := by
  have hjoins : List.Forall₂ DeclaredJoin.WrittenAs query.joins
      (query.joins.map DeclaredJoin.toDocument) :=
    Document.forall₂_map_written (fun _ => .record) _
  exact ⟨_, _, hjoins, query.conditions.writtenAs_toDocument, h⟩

end JoinQuery

/-! ## Native queries -/

namespace TableAlias

variable {tableAlias : TableAlias}

/-- The documents that an alias may be written as. -/
def WrittenAs (tableAlias : TableAlias) (document : Document) : Prop :=
  document.Holds [("alias", .text tableAlias.name), ("graph_key", .text tableAlias.level)]

/-- An alias is read from whatever it may be written as. -/
theorem ofDocument?_of_writtenAs (h : tableAlias.WrittenAs document) :
    ofDocument? reading document = some tableAlias := by
  unfold ofDocument?
  rw [h.parts? reading ["alias", "graph_key"] rfl (by decide)]
  rfl

/-- An alias nests one deep. -/
theorem plain_of_writtenAs (h : tableAlias.WrittenAs document) : document.plain 1 = true := by
  apply Document.Holds.plain h
  intro field hfield
  rcases List.mem_cons.mp hfield with rfl | hfield
  · rfl
  · cases List.mem_singleton.mp hfield
    rfl

end TableAlias

namespace NativeQuery

variable {query : NativeQuery}

/-- The fields of a native query after its form, given what its aliases are written as. -/
def membersWith (aliases : List Document) : NativeQuery → List (String × Document)
  | simple level template aggregates =>
      [("graph_key", .text level), ("template", .text template),
        ("aggregates", aggregatesToDocument aggregates)]
  | join anchor template _ aggregates =>
      [("root_key", .text anchor), ("template", .text template), ("aliases", .list aliases),
        ("aggregates", aggregatesToDocument aggregates)]

/-- The aliases of a native query. -/
def aliases : NativeQuery → List TableAlias
  | simple _ _ _ => []
  | join _ _ aliases _ => aliases

/-- The name of the form of a native query. -/
def formName : NativeQuery → String
  | simple _ _ _ => "simple"
  | join _ _ _ _ => "join"

/-- The documents that a native query may be written as. -/
def WrittenAs (query : NativeQuery) (document : Document) : Prop :=
  ∃ aliases, List.Forall₂ TableAlias.WrittenAs query.aliases aliases ∧
    document.Holds (("form", .text query.formName) :: query.membersWith aliases)

/-- The form of a structure that holds it before other fields. -/
theorem form?_of_holds {name : String} {fields : List (String × Document)}
    (hfields : ∀ field ∈ fields, field.1 ≠ "form")
    (h : document.Holds (("form", .text name) :: fields)) :
    ∃ rest, form? reading document = some (name, rest) ∧ rest.Holds fields := by
  cases h with
  | record =>
      have hform : (("form", Document.text name) :: fields).partition
          (fun member => decide (member.1 = "form")) = ([("form", .text name)], fields) := by
        have hnone : fields.filter (fun member => decide (member.1 = "form")) = [] := by
          rw [List.filter_eq_nil_iff]
          intro field hfield
          simp [hfields field hfield]
        have hall : fields.filter (fun member => !decide (member.1 = "form")) = fields := by
          rw [List.filter_eq_self]
          intro field hfield
          simp [hfields field hfield]
        rw [List.partition_eq_filter_filter]
        refine congrArg₂ Prod.mk ?_ ?_
        · rw [List.filter_cons_of_pos (by simp), hnone]
        · rw [List.filter_cons_of_neg (by simp)]
          exact hall
      refine ⟨.record fields, ?_, .record⟩
      unfold form?
      simp only [hform]
      rfl
  | list => exact ⟨.list (fields.map Prod.snd), rfl, .list⟩

/-- No field after the form is called like it. -/
theorem ne_form_of_mem_membersWith {aliases : List Document} {field : String × Document}
    (h : field ∈ query.membersWith aliases) : field.1 ≠ "form" := by
  have hnames : ∀ name ∈ (query.membersWith aliases).map Prod.fst, name ≠ "form" := by
    cases query with
    | simple level template aggregates =>
        show ∀ name ∈ ["graph_key", "template", "aggregates"], name ≠ "form"
        decide
    | join anchor template names aggregates =>
        show ∀ name ∈ ["root_key", "template", "aliases", "aggregates"], name ≠ "form"
        decide
  exact hnames field.1 (List.mem_map_of_mem h)

/-- A native query nests three deep. -/
theorem plain_of_writtenAs (h : query.WrittenAs document) : document.plain 3 = true := by
  rcases h with ⟨aliases, haliases, hdocument⟩
  have hlist : (Document.list aliases).plain 2 = true :=
    Document.plain_list_of_forall₂ (fun _ _ => TableAlias.plain_of_writtenAs) haliases
  have haggregates : ∀ aggregates, (aggregatesToDocument aggregates).plain 2 = true := by
    intro aggregates
    have hflat := Document.plain_ofMap (fun aggregate : Aggregate =>
      (rfl : aggregate.toDocument.plain 0 = true)) aggregates
    exact Document.plain_of_le (Nat.le_succ 1) hflat
  apply Document.Holds.plain hdocument
  intro field hfield
  rcases List.mem_cons.mp hfield with rfl | hfield
  · rfl
  · cases query with
    | simple level template aggregates =>
        simp only [membersWith, List.mem_cons, List.not_mem_nil, or_false] at hfield
        rcases hfield with rfl | rfl | rfl
        · rfl
        · rfl
        · exact haggregates aggregates
    | join anchor template names aggregates =>
        simp only [membersWith, List.mem_cons, List.not_mem_nil, or_false] at hfield
        rcases hfield with rfl | rfl | rfl | rfl
        · rfl
        · rfl
        · exact hlist
        · exact haggregates aggregates

/-- A simple native query is read from its fields after the form. -/
theorem simpleOfDocument?_of_holds {level template : String} {aggregates : AggregateMap}
    {aliases : List Document}
    (h : document.Holds ((simple level template aggregates).membersWith aliases)) :
    simpleOfDocument? document = some (simple level template aggregates) := by
  unfold simpleOfDocument?
  rw [h.parts? .setAside ["graph_key", "template", "aggregates"] rfl (by decide)]
  show (do
    let aggregates ← aggregatesOfDocument? .setAside (aggregatesToDocument aggregates)
    return simple level template aggregates) = some (simple level template aggregates)
  rw [aggregatesOfDocument?_toDocument]
  rfl

/-- A native join query is read from its fields after the form. -/
theorem joinOfDocument?_of_holds {anchor template : String} {names : List TableAlias}
    {aggregates : AggregateMap} {aliases : List Document}
    (haliases : List.Forall₂ TableAlias.WrittenAs names aliases)
    (h : document.Holds ((join anchor template names aggregates).membersWith aliases)) :
    joinOfDocument? document = some (join anchor template names aggregates) := by
  have hread : (Document.list aliases).listOf? (TableAlias.ofDocument? .setAside) = some names :=
    Document.listOf?_of_forall₂ (fun _ _ => TableAlias.ofDocument?_of_writtenAs) haliases
  unfold joinOfDocument?
  rw [h.parts? .setAside ["root_key", "template", "aliases", "aggregates"] rfl (by decide)]
  show (do
    let names ← (Document.list aliases).listOf? (TableAlias.ofDocument? .setAside)
    let aggregates ← aggregatesOfDocument? .setAside (aggregatesToDocument aggregates)
    return join anchor template names aggregates) = some (join anchor template names aggregates)
  rw [hread, aggregatesOfDocument?_toDocument]
  rfl

/-- A native query is read from whatever it may be written as. -/
theorem ofDocument?_of_writtenAs (h : query.WrittenAs document) :
    ofDocument? reading document = some query := by
  have hplain : document.plain 126 = true :=
    Document.plain_of_le (by decide) (plain_of_writtenAs h)
  rcases h with ⟨aliases, haliases, hdocument⟩
  have hnames : ∀ field ∈ query.membersWith aliases, field.1 ≠ "form" :=
    fun field hfield => ne_form_of_mem_membersWith hfield
  have hsplit : ∃ rest, form? reading document = some (query.formName, rest) ∧
      rest.Holds (query.membersWith aliases) := form?_of_holds hnames hdocument
  rcases hsplit with ⟨rest, hform, hrest⟩
  unfold ofDocument?
  rw [if_pos hplain, hform]
  cases query with
  | simple level template aggregates => exact simpleOfDocument?_of_holds hrest
  | join anchor template names aggregates => exact joinOfDocument?_of_holds haliases hrest

/-- The fields of a native query in order are its fields. -/
theorem writtenAs_of_holds (h : document.Holds query.members) : query.WrittenAs document := by
  have haliases : List.Forall₂ TableAlias.WrittenAs query.aliases
      (query.aliases.map TableAlias.toDocument) :=
    Document.forall₂_map_written (fun _ => .record) _
  refine ⟨_, haliases, ?_⟩
  cases query <;> exact h

end NativeQuery

/-! ## Query specifications -/

namespace QuerySpec

variable {spec : QuerySpec}

/-- The documents that the query of a specification may be written as. -/
def QueryWrittenAs : QuerySpec → Document → Prop
  | simple query => query.WrittenAs
  | join query => query.WrittenAs
  | native query => query.WrittenAs

/-- The documents that a specification may be written as. -/
def WrittenAs (spec : QuerySpec) (document : Document) : Prop :=
  ∃ query, spec.QueryWrittenAs query ∧
    document.Holds [("kind", .text spec.kind.documentName), ("query", query)]

/-- The query of a specification is read from whatever it may be written as. -/
theorem ofKind?_of_queryWrittenAs (h : spec.QueryWrittenAs document) :
    ofKind? reading spec.kind document = some spec := by
  cases spec with
  | simple query => exact congrArg (Option.map simple) (SimpleQuery.ofDocument?_of_writtenAs h)
  | join query => exact congrArg (Option.map join) (JoinQuery.ofDocument?_of_writtenAs h)
  | native query => exact congrArg (Option.map native) (NativeQuery.ofDocument?_of_writtenAs h)

/-- A specification is read from whatever it may be written as. -/
theorem ofDocument?_of_writtenAs (h : spec.WrittenAs document) :
    ofDocument? document = some spec := by
  rcases h with ⟨query, hquery, hdocument⟩
  have hread : ofKind? .streamed spec.kind query = some spec := ofKind?_of_queryWrittenAs hquery
  cases hdocument with
  | record =>
      have hkind : QueryKind.ofDocument? (.text spec.kind.documentName) = some spec.kind := by
        cases spec.kind <;> rfl
      show (QueryKind.ofDocument? (.text spec.kind.documentName)).bind
        (fun kind => ofKind? .streamed kind query) = some spec
      rw [hkind]
      exact hread
  | list =>
      show (QueryKind.ofName? (.text spec.kind.documentName)).bind
        (fun kind => ofKind? .streamed kind query) = some spec
      rw [QueryKind.ofName?_documentName]
      exact hread

/-- The fields of a specification in order are its fields. -/
theorem writtenAs_of_holds (h : document.Holds spec.members) : spec.WrittenAs document := by
  refine ⟨spec.queryToDocument, ?_, h⟩
  cases spec with
  | simple query => exact SimpleQuery.writtenAs_of_holds .record
  | join query => exact JoinQuery.writtenAs_of_holds .record
  | native query => exact NativeQuery.writtenAs_of_holds .record

/-- A specification is written as its record. -/
theorem writtenAs_toDocument (spec : QuerySpec) : spec.WrittenAs spec.toDocument :=
  writtenAs_of_holds .record

end QuerySpec

end

/-! ## Values -/

/-- Query specifications, selections, entity definitions and comparisons are read back from what
they are written as, structures also from the list of their fields in order, and so they are
when the structures within them are written as records or as lists in any mixture. -/
theorem values_read_back :
    (∀ spec : QuerySpec, QuerySpec.ofDocument? spec.toDocument = some spec ∧
      QuerySpec.ofDocument? (.list (spec.members.map Prod.snd)) = some spec ∧
      ∀ document, spec.WrittenAs document → QuerySpec.ofDocument? document = some spec) ∧
    (∀ selection : Selection, Selection.ofDocument? selection.toDocument = some selection ∧
      Selection.ofDocument? (.list (selection.members.map Prod.snd)) = some selection) ∧
    (∀ (reading : Reading) (entity : EntityDef),
      EntityDef.ofDocument? reading entity.toDocument = some entity ∧
      EntityDef.ofDocument? reading (.list (entity.members.map Prod.snd)) = some entity ∧
      ∀ document, entity.WrittenAs document →
        EntityDef.ofDocument? reading document = some entity) ∧
    ∀ comparison : Comparison, Comparison.ofDocument? comparison.toDocument = some comparison := by
  refine ⟨?_, ?_, ?_, Comparison.ofDocument?_toDocument⟩
  · intro spec
    have hrecord : spec.WrittenAs spec.toDocument := QuerySpec.writtenAs_of_holds .record
    have hlist : spec.WrittenAs (.list (spec.members.map Prod.snd)) :=
      QuerySpec.writtenAs_of_holds .list
    exact ⟨QuerySpec.ofDocument?_of_writtenAs hrecord, QuerySpec.ofDocument?_of_writtenAs hlist,
      fun _ => QuerySpec.ofDocument?_of_writtenAs⟩
  · intro selection
    exact ⟨Selection.ofDocument?_of_holds .record, Selection.ofDocument?_of_holds .list⟩
  · intro reading entity
    have hrecord : entity.WrittenAs entity.toDocument := EntityDef.writtenAs_of_holds .record
    have hlist : entity.WrittenAs (.list (entity.members.map Prod.snd)) :=
      EntityDef.writtenAs_of_holds .list
    exact ⟨EntityDef.ofDocument?_of_writtenAs hrecord, EntityDef.ofDocument?_of_writtenAs hlist,
      fun _ => EntityDef.ofDocument?_of_writtenAs⟩

/-- A native query over an aliased table, all in lists, and an entity with a field in a list. -/
theorem nested_lists_read_back :
    QuerySpec.ofDocument? (.list [.text "native", .list [.text "join", .text "rootObject",
        .text "FROM hospital_tbl", .list [.list [.text "h", .text "rootObject"]],
        .record [("hospital_id", .text "count")]]]) =
      some (.native (.join Level.root "FROM hospital_tbl" [⟨"h", Level.root⟩]
        (SortedMap.empty.insert "hospital_id" .count))) ∧
    EntityDef.ofDocument? .streamed (.list [.text "Ward", .text "ward_tbl", .bool false,
        .list [.list [.text "wardId", .text "ward_id", .bool true, .bool false]], .list [],
        .record []]) =
      some { name := "Ward", table := "ward_tbl",
             fields := [{ name := "wardId", column := "ward_id", key := true }] } := by
  rcases values_read_back with ⟨hspecs, -, hentities, -⟩
  constructor
  · have haliases : List.Forall₂ TableAlias.WrittenAs [⟨"h", Level.root⟩]
        [.list [.text "h", .text "rootObject"]] := .cons .list .nil
    exact (hspecs _).2.2 _ ⟨_, ⟨_, haliases, .list⟩, .list⟩
  · have hfields : List.Forall₂ FieldDef.WrittenAs
        [{ name := "wardId", column := "ward_id", key := true }]
        [.list [.text "wardId", .text "ward_id", .bool true, .bool false]] := .cons .list .nil
    exact (hentities .streamed _).2.2 _ ⟨_, _, hfields, .nil, .list⟩

end SelectionSql
