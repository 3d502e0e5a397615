import SelectionSql.Plan.Column
import SelectionSql.Query.Spec

/-!
# Join plans - Which levels a join query joins, and how

The anchor comes first.  Declared joins follow in declaration order; a declared
level is joined only when the request selects or filters on it, and every level
between it and the anchor that is not joined yet is joined right before it.

A level that is declared takes the type of its first declaration.  One that is
not takes the type of the level that it is joined for.

Main results:

- `JoinQuery.joinFault?_eq_none`: when a declared join is accepted.
- `JoinPlan.levels_extend`: which levels a plan joins.
-/

namespace SelectionSql

namespace JoinQuery

/-! ## Accepting declared joins -/

/-- The levels from which a declared join may hang: those requested, declared or
filtered on. -/
def reachableLevels (query : JoinQuery) (requested : List Level) : List Level :=
  requested ++ query.joins.map DeclaredJoin.level ++ query.conditions.filteredLevels

/-- Why a declared join cannot be made: it lies outside the scope of the anchor,
or its parent is missing. -/
def joinFault? (query : JoinQuery) (requested : List Level) (join : DeclaredJoin) :
    Option QueryFault :=
  if join.level = query.anchor then none
  else if Level.isInScope join.level query.anchor = false then
    some (.outOfScope query.anchor join.level)
  else if Level.parent join.level = query.anchor ∨
      Level.parent join.level ∈ query.reachableLevels requested then
    none
  else some (.missingParent (Level.parent join.level))

/-- A declared join is accepted exactly when it is the anchor, or lies in its
scope below a parent that is the anchor or reachable. -/
theorem joinFault?_eq_none {query : JoinQuery} {requested : List Level}
    {join : DeclaredJoin} :
    query.joinFault? requested join = none ↔
      join.level = query.anchor ∨
        (Level.isInScope join.level query.anchor = true ∧
          (Level.parent join.level = query.anchor ∨
            Level.parent join.level ∈ query.reachableLevels requested)) := by
  unfold joinFault?
  split
  next h => simp [h]
  next h =>
    split
    next hscope => simp [h, hscope]
    next hscope =>
      simp only [Bool.not_eq_false] at hscope
      split
      next hparent => simp [hscope, hparent]
      next hparent => simp [h, hscope, hparent]

/-- In scope, a declared join is refused exactly for the parent that it misses. -/
theorem joinFault?_eq_some_of_isInScope {query : JoinQuery} {requested : List Level}
    {join : DeclaredJoin} {fault : QueryFault}
    (hscope : Level.isInScope join.level query.anchor = true) :
    query.joinFault? requested join = some fault ↔
      join.level ≠ query.anchor ∧ Level.parent join.level ≠ query.anchor ∧
        Level.parent join.level ∉ query.reachableLevels requested ∧
        fault = .missingParent (Level.parent join.level) := by
  unfold joinFault?
  split
  next h => simp [h]
  next h =>
    rw [if_neg (by simp [hscope])]
    split
    next hparent => rcases hparent with hparent | hparent <;> simp [hparent]
    next hparent => simp [h, not_or.mp hparent, eq_comm]

/-- Refuse the first declared join that cannot be made. -/
def checkJoins (query : JoinQuery) (requested : List Level) : Except QueryFault Unit :=
  match query.joins.findSome? (query.joinFault? requested) with
  | some fault => .error fault
  | none => .ok ()

/-- Declared joins are accepted exactly when each of them is. -/
theorem checkJoins_eq_ok {query : JoinQuery} {requested : List Level} :
    query.checkJoins requested = .ok () ↔
      ∀ join ∈ query.joins, query.joinFault? requested join = none := by
  unfold checkJoins
  rw [← List.findSome?_eq_none_iff]
  cases query.joins.findSome? (query.joinFault? requested) <;> simp

/-! ## The levels to join -/

/-- Whether the request selects or filters on a level. -/
def isNeeded (query : JoinQuery) (fields : FieldMap) (level : Level) : Bool :=
  fields.contains level || decide (level ∈ query.conditions.filteredLevels)

/-- The declared joins that the request needs, in declaration order. -/
def neededJoins (query : JoinQuery) (fields : FieldMap) : List DeclaredJoin :=
  query.joins.filter fun join => query.isNeeded fields join.level

/-- The type of a level that is joined for another one: that of its first
declaration, or else the type of the other level. -/
def typeOr (query : JoinQuery) (level : Level) (other : JoinType) : JoinType :=
  (query.joinType? level).getD other

end JoinQuery

/-! ## The plan -/

/-- The join of a level to its parent over the first join columns that the
parent declares for the reference. -/
def joinClause (request : Request) (join : DeclaredJoin) : Except QueryFault JoinClause := do
  let parent := Level.parent join.level
  let reference := Level.reference join.level
  let parentEntity ← request.entityAt parent
  let childEntity ← request.entityAt join.level
  match parentEntity.firstJoinColumns? reference with
  | some columns =>
      return ⟨join.type, childEntity.table, join.level, parent, columns.parent, columns.child⟩
  | none => .error (.noAssociation parentEntity.name childEntity.name reference)

/-- The columns and the source of a join query. -/
structure JoinPlan where
  items : List SelectItem
  source : FromClause
  deriving DecidableEq

namespace JoinPlan

/-- The levels that a plan has joined so far, its anchor among them. -/
def levels (plan : JoinPlan) : List Level :=
  plan.source.aliases

/-- The plan with the columns and the joins of more levels. -/
def extend (plan : JoinPlan) (joined : List (List SelectItem × JoinClause)) : JoinPlan where
  items := plan.items ++ joined.flatMap Prod.fst
  source := { plan.source with joins := plan.source.joins ++ joined.map Prod.snd }

@[simp] theorem extend_nil (plan : JoinPlan) : plan.extend [] = plan := by
  simp [extend]

@[simp] theorem extend_extend (plan : JoinPlan)
    (first second : List (List SelectItem × JoinClause)) :
    (plan.extend first).extend second = plan.extend (first ++ second) := by
  simp [extend]

@[simp] theorem anchor_extend (plan : JoinPlan)
    (joined : List (List SelectItem × JoinClause)) :
    (plan.extend joined).source.anchor = plan.source.anchor :=
  rfl

@[simp] theorem levels_extend (plan : JoinPlan)
    (joined : List (List SelectItem × JoinClause)) :
    (plan.extend joined).levels =
      plan.levels ++ joined.map fun entry => entry.2.level := by
  simp [levels, extend, FromClause.aliases]

/-- The anchor of a plan is joined from the start. -/
theorem anchor_mem_levels (plan : JoinPlan) : plan.source.anchor ∈ plan.levels :=
  List.mem_cons_self

/-- A level in scope that is not joined yet is not the root. -/
theorem ne_root_of_not_mem_levels {plan : JoinPlan} {level : Level}
    (hlevel : level ∉ plan.levels)
    (hscope : Level.isInScope level plan.source.anchor = true) : level ≠ Level.root := by
  rintro rfl
  have hanchor := Level.anchor_eq_root_of_isInScope_root hscope
  exact hlevel (hanchor ▸ plan.anchor_mem_levels)

end JoinPlan

/-- Request the fields in front of the grouping columns; one without a level
belongs to the anchor. -/
def requestGroups (request : Request) (anchor : Level) (groups : List GroupColumn) :
    Except QueryFault Request :=
  groups.foldlM (fun request group =>
    request.requestColumn (group.level.getD anchor) group.column) request

/-- The columns of a joined level and its join. -/
def joinLevel (request : Request) (anchor : Level) (aggregates : AggregateMap)
    (join : DeclaredJoin) : Except QueryFault (List SelectItem × JoinClause) := do
  let items ← selectItems request (.qualified anchor) join.level aggregates
  let clause ← joinClause request join
  return (items, clause)

/-- The plan with a level joined to it.  A level that is joined already stays where
it is, and a level whose parent is not joined yet has its parent joined before it. -/
def JoinQuery.ensureJoined (query : JoinQuery) (request : Request) (aggregates : AggregateMap)
    (plan : JoinPlan) (level : Level) (type : JoinType) : Except QueryFault JoinPlan :=
  let anchor := plan.source.anchor
  if _hlevel : level ∈ plan.levels then .ok plan
  else if _hscope : Level.isInScope level anchor = true then do
    let parent := Level.parent level
    let plan ← query.ensureJoined request aggregates plan parent (query.typeOr parent type)
    let joined ← joinLevel request anchor aggregates ⟨level, type⟩
    return plan.extend [joined]
  else .error (.outOfScope anchor level)
termination_by Level.height level
decreasing_by exact Level.height_parent_lt (JoinPlan.ne_root_of_not_mem_levels _hlevel _hscope)

/-- The request with the fields that grouping and the anchor need. -/
def JoinQuery.prepare (query : JoinQuery) (request : Request) : Except QueryFault Request := do
  let request ← requestGroups request query.anchor query.conditions.groupBy
  request.requireKeyFields query.anchor

/-- The plan of a join query before any join: the columns and the table of its anchor. -/
def JoinQuery.anchorPlan (query : JoinQuery) (request : Request) (aggregates : AggregateMap) :
    Except QueryFault JoinPlan := do
  let entity ← request.entityAt query.anchor
  let items ← selectItems request (.qualified query.anchor) query.anchor aggregates
  return ⟨items, ⟨entity.table, query.anchor, []⟩⟩

/-- The plan of a join query over aggregates with checked keys. -/
def JoinQuery.plan (query : JoinQuery) (request : Request) (aggregates : AggregateMap) :
    Except QueryFault JoinPlan := do
  query.checkJoins request.fields.keys
  let request ← query.prepare request
  let plan ← query.anchorPlan request aggregates
  (query.neededJoins request.fields).foldlM
    (fun plan join => query.ensureJoined request aggregates plan join.level join.type) plan

end SelectionSql
