import SelectionSql.Query.Fault
import SelectionSql.Query.Spec
import SelectionSql.Sequence
import SelectionSql.Sql.Comparison

/-!
# Drafts - Building queries step by step

A draft accumulates steps.  Tokens and columns are appended, single settings
and aggregates are overwritten, and a join or alias that is declared again
takes its new value at its old place.

Main results:

- `SimpleDraft.run_append`, `JoinDraft.run_append`: steps are taken one after another.
- `SimpleDraft.build_eq_ok_iff`, `JoinDraft.build_eq_ok_iff`: a draft builds exactly
  when its key is given and not blank.
-/

namespace SelectionSql

/-! ## Columns named by a step -/

/-- A column as a step names it. -/
structure ColumnRef where
  /-- The level that tokens are tagged with, if any. -/
  tag : Option Level
  column : String
  /-- The column as it is written. -/
  text : String
  deriving DecidableEq

namespace ColumnRef

/-- A column of the only table of a statement. -/
def bare (column : String) : ColumnRef :=
  ⟨none, column, column⟩

/-- A column of a level.  A blank level leaves the column unqualified; the tag
is the level without surrounding white space, the written level is as given. -/
def ofLevel (level : Level) (column : String) : ColumnRef :=
  if Text.isBlankText level then bare column
  else ⟨some (Text.trim level), column, level ++ "." ++ column⟩

end ColumnRef

/-! ## Conditions -/

/-- One step that extends the conditions of a query. -/
inductive ConditionStep
  | filter (column : ColumnRef) (comparison : Comparison)
  | filterSubquery (column : ColumnRef) (comparison : SubqueryComparison) (subquery : String)
  | filterOpen
  | filterClose
  | filterOr
  | having (column : ColumnRef) (comparison : Comparison)
  | havingAggregate (aggregate : Aggregate) (column : ColumnRef) (comparison : Comparison)
  | havingSubquery (column : ColumnRef) (comparison : SubqueryComparison) (subquery : String)
  | havingOpen
  | havingClose
  | havingOr
  | orderBy (column : ColumnRef)
  | orderByAggregate (aggregate : Aggregate) (column : ColumnRef)
  | ascending
  | descending
  | groupBy (column : ColumnRef)
  | aggregate (aggregate : Aggregate) (column : ColumnRef)
  | limit (count : Nat)
  | limitParameter
  | offsetWithLimit
  deriving DecidableEq

namespace Conditions

/-- Append a `WHERE` token. -/
def addWhere (conditions : Conditions) (token : ConditionToken) : Conditions :=
  { conditions with whereTokens := conditions.whereTokens ++ [token] }

/-- Append a `HAVING` token. -/
def addHaving (conditions : Conditions) (token : ConditionToken) : Conditions :=
  { conditions with havingTokens := conditions.havingTokens ++ [token] }

/-- Append an `ORDER BY` token. -/
def addOrder (conditions : Conditions) (token : OrderToken) : Conditions :=
  { conditions with orderBy := conditions.orderBy ++ [token] }

/-- The conditions after one more step. -/
def step (conditions : Conditions) : ConditionStep → Conditions
  | .filter column comparison =>
      conditions.addWhere (.clause column.tag (column.text ++ " " ++ comparison.sql))
  | .filterSubquery column comparison subquery =>
      conditions.addWhere (.clause column.tag (column.text ++ " " ++ comparison.sql subquery))
  | .filterOpen => conditions.addWhere .groupOpen
  | .filterClose => conditions.addWhere .groupClose
  | .filterOr => conditions.addWhere .either
  | .having column comparison =>
      conditions.addHaving (.clause column.tag (column.text ++ " " ++ comparison.sql))
  | .havingAggregate aggregate column comparison =>
      conditions.addHaving
        (.clause column.tag (aggregate.apply column.text ++ " " ++ comparison.sql))
  | .havingSubquery column comparison subquery =>
      conditions.addHaving (.clause column.tag (column.text ++ " " ++ comparison.sql subquery))
  | .havingOpen => conditions.addHaving .groupOpen
  | .havingClose => conditions.addHaving .groupClose
  | .havingOr => conditions.addHaving .either
  | .orderBy column => conditions.addOrder (.column column.text)
  | .orderByAggregate aggregate column =>
      conditions.addOrder (.column (aggregate.apply column.text))
  | .ascending => conditions.addOrder .ascending
  | .descending => conditions.addOrder .descending
  | .groupBy column =>
      { conditions with groupBy := conditions.groupBy ++ [⟨column.tag, column.column⟩] }
  | .aggregate aggregate column =>
      { conditions with aggregates := conditions.aggregates.insert column.text aggregate }
  | .limit count => { conditions with limit := some (toString count) }
  | .limitParameter => { conditions with limit := some "?" }
  | .offsetWithLimit => { conditions with offsetWithLimit := true }

/-- The conditions after several more steps. -/
def run (conditions : Conditions) (steps : List ConditionStep) : Conditions :=
  steps.foldl step conditions

end Conditions

/-! ## Queries against one level -/

/-- A simple query in the making. -/
structure SimpleDraft where
  /-- The level named last, if any. -/
  key : Option Level := none
  conditions : Conditions := {}

/-- One step that extends a simple query. -/
inductive SimpleStep
  | key (level : Level)
  | condition (step : ConditionStep)

namespace SimpleDraft

/-- The draft after one more step. -/
def step (draft : SimpleDraft) : SimpleStep → SimpleDraft
  | .key level => { draft with key := some level }
  | .condition step => { draft with conditions := draft.conditions.step step }

/-- The draft after several more steps. -/
def run (draft : SimpleDraft) (steps : List SimpleStep) : SimpleDraft :=
  steps.foldl step draft

/-- The finished query. -/
def build (draft : SimpleDraft) : Except QueryFault SimpleQuery :=
  (requireKey .simple draft.key).map fun level => ⟨level, draft.conditions⟩

/-- Steps are taken one after another. -/
theorem run_append (draft : SimpleDraft) (first second : List SimpleStep) :
    draft.run (first ++ second) = (draft.run first).run second := by
  simp [run]

/-- A draft builds exactly when its key is given and not blank. -/
theorem build_eq_ok_iff {draft : SimpleDraft} {query : SimpleQuery} :
    draft.build = .ok query ↔
      draft.key = some query.level ∧ Text.isBlankText query.level = false ∧
        query.conditions = draft.conditions := by
  unfold build
  cases hkey : requireKey .simple draft.key with
  | error fault =>
      simp only [Except.map, reduceCtorEq, false_iff, not_and]
      intro h hblank
      rw [requireKey_eq_ok_iff.mpr ⟨h, hblank⟩] at hkey
      simp at hkey
  | ok level =>
      obtain ⟨h, hblank⟩ := requireKey_eq_ok_iff.mp hkey
      simp only [Except.map, Except.ok.injEq]
      constructor
      · rintro rfl
        exact ⟨h, hblank, rfl⟩
      · rintro ⟨hsame, _, hconditions⟩
        rw [h, Option.some.injEq] at hsame
        cases query
        simp_all

end SimpleDraft

/-! ## Queries with declared joins -/

/-- A join query in the making. -/
structure JoinDraft where
  /-- The anchor named last, if any. -/
  key : Option Level := none
  joins : List DeclaredJoin := []
  conditions : Conditions := {}

/-- One step that extends a join query. -/
inductive JoinStep
  | key (level : Level)
  | join (level : Level) (type : JoinType)
  | condition (step : ConditionStep)

/-- Declare a join; a level that is declared again keeps its place. -/
def declareJoin (joins : List DeclaredJoin) (join : DeclaredJoin) : List DeclaredJoin :=
  declareBy DeclaredJoin.level join joins

namespace JoinDraft

/-- The draft after one more step. -/
def step (draft : JoinDraft) : JoinStep → JoinDraft
  | .key level => { draft with key := some level }
  | .join level type => { draft with joins := declareJoin draft.joins ⟨level, type⟩ }
  | .condition step => { draft with conditions := draft.conditions.step step }

/-- The draft after several more steps. -/
def run (draft : JoinDraft) (steps : List JoinStep) : JoinDraft :=
  steps.foldl step draft

/-- The finished query. -/
def build (draft : JoinDraft) : Except QueryFault JoinQuery :=
  (requireKey .join draft.key).map fun level => ⟨level, draft.joins, draft.conditions⟩

/-- Steps are taken one after another. -/
theorem run_append (draft : JoinDraft) (first second : List JoinStep) :
    draft.run (first ++ second) = (draft.run first).run second := by
  simp [run]

/-- A draft builds exactly when its key is given and not blank. -/
theorem build_eq_ok_iff {draft : JoinDraft} {query : JoinQuery} :
    draft.build = .ok query ↔
      draft.key = some query.anchor ∧ Text.isBlankText query.anchor = false ∧
        query.joins = draft.joins ∧ query.conditions = draft.conditions := by
  unfold build
  cases hkey : requireKey .join draft.key with
  | error fault =>
      simp only [Except.map, reduceCtorEq, false_iff, not_and]
      intro h hblank
      rw [requireKey_eq_ok_iff.mpr ⟨h, hblank⟩] at hkey
      simp at hkey
  | ok level =>
      obtain ⟨h, hblank⟩ := requireKey_eq_ok_iff.mp hkey
      simp only [Except.map, Except.ok.injEq]
      constructor
      · rintro rfl
        exact ⟨h, hblank, rfl, rfl⟩
      · rintro ⟨hsame, _, hjoins, hconditions⟩
        rw [h, Option.some.injEq] at hsame
        cases query
        simp_all

end JoinDraft

/-! ## Queries over a template -/

/-- The template unless it is missing or blank. -/
def requireTemplate : Option String → Except QueryFault String
  | some template =>
      if Text.isBlankText template then .error .emptyTemplate else .ok template
  | none => .error .emptyTemplate

/-- A native query in the making. -/
structure NativeDraft where
  /-- The level or anchor named last, if any. -/
  key : Option Level := none
  /-- The template given last, if any. -/
  template : Option String := none
  /-- The placeholders mapped so far; only the join form has them. -/
  aliases : List TableAlias := []
  aggregates : AggregateMap := SortedMap.empty

/-- One step that extends a native query. -/
inductive NativeStep
  | key (level : Level)
  | template (text : String)
  | tableAlias (name : String) (level : Level)
  | aggregate (aggregate : Aggregate) (column : String)

/-- Map a placeholder; one that is mapped again keeps its place. -/
def declareAlias (aliases : List TableAlias) (entry : TableAlias) : List TableAlias :=
  declareBy TableAlias.name entry aliases

namespace NativeDraft

/-- The draft after one more step. -/
def step (draft : NativeDraft) : NativeStep → NativeDraft
  | .key level => { draft with key := some level }
  | .template text => { draft with template := some text }
  | .tableAlias name level => { draft with aliases := declareAlias draft.aliases ⟨name, level⟩ }
  | .aggregate aggregate column =>
      { draft with aggregates := draft.aggregates.insert column aggregate }

/-- The draft after several more steps. -/
def run (draft : NativeDraft) (steps : List NativeStep) : NativeDraft :=
  steps.foldl step draft

/-- The finished query over one level; a missing key is reported before a
missing template. -/
def buildSimple (draft : NativeDraft) : Except QueryFault NativeQuery := do
  let level ← requireKey .nativeSimple draft.key
  let template ← requireTemplate draft.template
  return .simple level template draft.aggregates

/-- The finished query over mapped levels; a missing key is reported before a
missing template. -/
def buildJoin (draft : NativeDraft) : Except QueryFault NativeQuery := do
  let anchor ← requireKey .nativeJoin draft.key
  let template ← requireTemplate draft.template
  return .join anchor template draft.aliases draft.aggregates

end NativeDraft

end SelectionSql
