import SelectionSql.Proofs.Emission

/-!
# Reach - Which levels a request makes a join query join

A plan is made in steps: fields are requested for grouping and for the anchor, the
declared joins are sifted and the missing ancestors are joined.  The levels that come
of it can be told from the query and the request alone.

Main results:

- `JoinQuery.contains_of_prepare`: where a prepared request has fields.
- `JoinQuery.mem_levels_of_plan`: a plan joins exactly the levels that are reached.
-/

namespace SelectionSql

variable {request next : Request} {level other : Level} {column : String}

/-! ## Requests that only gain fields -/

namespace Request

/-- Whether the entity at a level maps a column. -/
def Maps (request : Request) (level : Level) (column : String) : Prop :=
  ∃ entity, request.entityAt level = .ok entity ∧ entity.hasColumn column = true

/-- The request with other fields. -/
def withFields (request : Request) (fields : FieldMap) : Request :=
  { request with fields := fields }

@[simp] theorem fields_withFields (fields : FieldMap) :
    (request.withFields fields).fields = fields :=
  rfl

/-- What sits at a level does not depend on the fields. -/
@[simp] theorem entityAt_withFields (fields : FieldMap) :
    (request.withFields fields).entityAt level = request.entityAt level :=
  rfl

/-- Requesting a column adds its level when the entity there maps the column. -/
theorem requestColumn_eq_ok (h : request.requestColumn level column = .ok next) :
    ∃ fields, next = request.withFields fields ∧ ∀ other, fields.contains other = true ↔
      request.fields.contains other = true ∨ (other = level ∧ request.Maps level column) := by
  rcases Outcome.map_eq_ok.mp h with ⟨entity, hentity, hnext⟩
  have hmaps : request.Maps level column ↔ (entity.fieldForColumn column).isSome = true := by
    constructor
    · intro hparts
      rcases hparts with ⟨found, hfound, hcolumn⟩
      cases Except.ok.inj (hentity.symm.trans hfound)
      exact hcolumn
    · intro hcolumn
      exact ⟨entity, hentity, hcolumn⟩
  rw [hmaps]
  cases hfield : entity.fieldForColumn column with
  | none =>
      rw [hfield] at hnext
      exact ⟨request.fields, hnext.symm, by simp⟩
  | some field =>
      rw [hfield] at hnext
      refine ⟨request.fields.request level [field], hnext.symm, ?_⟩
      intro other
      rw [FieldMap.request, SortedMap.update, SortedMap.contains_insert, Bool.or_eq_true,
        decide_eq_true_eq, or_comm]
      simp

/-- Requiring key fields adds their level. -/
theorem requireKeyFields_eq_ok (h : request.requireKeyFields level = .ok next) :
    ∃ fields, next = request.withFields fields ∧ ∀ other, fields.contains other = true ↔
      request.fields.contains other = true ∨ other = level := by
  unfold requireKeyFields at h
  by_cases hpresent : request.fields.contains level = true
  · rw [if_pos hpresent] at h
    refine ⟨request.fields, (Except.ok.inj h).symm, ?_⟩
    intro other
    constructor
    · exact Or.inl
    · intro hcase
      rcases hcase with hother | rfl
      · exact hother
      · exact hpresent
  · rw [if_neg hpresent] at h
    rcases Outcome.map_eq_ok.mp h with ⟨entity, -, rfl⟩
    refine ⟨_, rfl, ?_⟩
    intro other
    rw [SortedMap.contains_insert, Bool.or_eq_true, decide_eq_true_eq, or_comm]

end Request

/-- Grouping adds the levels of the columns that are mapped there. -/
theorem requestGroups_eq_ok {anchor : Level} {groups : List GroupColumn}
    (h : requestGroups request anchor groups = .ok next) :
    ∃ fields, next = request.withFields fields ∧ ∀ other, fields.contains other = true ↔
      request.fields.contains other = true ∨ ∃ group ∈ groups,
        group.level.getD anchor = other ∧ request.Maps other group.column := by
  induction groups generalizing request with
  | nil => exact ⟨request.fields, (Except.ok.inj h).symm, by simp⟩
  | cons group rest ih =>
      rw [requestGroups, List.foldlM_cons] at h
      rcases Outcome.bind_eq_ok.mp h with ⟨middle, hmiddle, hrest⟩
      rcases Request.requestColumn_eq_ok hmiddle with ⟨first, rfl, hfirst⟩
      rcases ih hrest with ⟨fields, rfl, hfields⟩
      refine ⟨fields, rfl, ?_⟩
      intro other
      rw [hfields, Request.fields_withFields, hfirst, or_assoc]
      simp only [List.mem_cons, exists_eq_or_imp]
      refine or_congr_right (or_congr ?_ Iff.rfl)
      constructor
      · intro hparts
        rcases hparts with ⟨rfl, hmaps⟩
        exact ⟨rfl, hmaps⟩
      · intro hparts
        rcases hparts with ⟨rfl, hmaps⟩
        exact ⟨rfl, hmaps⟩

/-! ## Levels that are reached -/

namespace JoinQuery

variable {query : JoinQuery} {aggregates : AggregateMap} {plan : JoinPlan}

/-- A level is grouped when a grouping column belongs to it that its entity maps. -/
def Groups (query : JoinQuery) (request : Request) (level : Level) : Prop :=
  ∃ group ∈ query.conditions.groupBy,
    group.level.getD query.anchor = level ∧ request.Maps level group.column

/-- A level is touched when the request selects fields there, or the query filters on it
or groups by one of its columns. -/
def Touches (query : JoinQuery) (request : Request) (level : Level) : Prop :=
  request.fields.contains level = true ∨ level ∈ query.conditions.filteredLevels ∨
    query.Groups request level

/-- A level is reached when it is the anchor, or lies on the way down to a declared level
that is touched. -/
def Reaches (query : JoinQuery) (request : Request) (level : Level) : Prop :=
  level = query.anchor ∨
    ∃ join ∈ query.joins, query.Touches request join.level ∧
      level ∈ Level.below query.anchor join.level

/-- A prepared request has fields where the request had some, where the query groups,
and at the anchor. -/
theorem contains_of_prepare (h : query.prepare request = .ok next) :
    ∃ fields, next = request.withFields fields ∧ ∀ other, fields.contains other = true ↔
      request.fields.contains other = true ∨ query.Groups request other ∨
        other = query.anchor := by
  rcases Outcome.bind_eq_ok.mp h with ⟨grouped, hgrouped, h⟩
  rcases requestGroups_eq_ok hgrouped with ⟨first, rfl, hfirst⟩
  rcases Request.requireKeyFields_eq_ok h with ⟨fields, rfl, hfields⟩
  refine ⟨fields, rfl, ?_⟩
  intro other
  rw [hfields, Request.fields_withFields, hfirst, or_assoc]
  rfl

/-- The needed joins are the declared ones that are touched, and those of the anchor. -/
theorem mem_neededJoins (h : query.prepare request = .ok next) {join : DeclaredJoin} :
    join ∈ query.neededJoins next.fields ↔ join ∈ query.joins ∧
      (query.Touches request join.level ∨ join.level = query.anchor) := by
  rcases contains_of_prepare h with ⟨fields, rfl, hfields⟩
  rw [neededJoins, List.mem_filter, isNeeded, Bool.or_eq_true, decide_eq_true_eq,
    Request.fields_withFields, hfields]
  apply and_congr_right
  intro _
  unfold Touches
  constructor
  · intro hcase
    rcases hcase with (hfield | hgroup | hanchor) | hfilter
    · exact Or.inl (Or.inl hfield)
    · exact Or.inl (Or.inr (Or.inr hgroup))
    · exact Or.inr hanchor
    · exact Or.inl (Or.inr (Or.inl hfilter))
  · intro hcase
    rcases hcase with (hfield | hfilter | hgroup) | hanchor
    · exact Or.inl (Or.inl hfield)
    · exact Or.inr hfilter
    · exact Or.inl (Or.inr (Or.inl hgroup))
    · exact Or.inl (Or.inr (Or.inr hanchor))

/-- A plan joins exactly the levels that are reached. -/
theorem mem_levels_of_plan (h : query.plan request aggregates = .ok plan) :
    level ∈ plan.levels ↔ query.Reaches request level := by
  rcases plan_eq_ok.mp h with ⟨prepared, -, -, hprepared, -, -⟩
  rw [(levels_of_plan hprepared h).2, List.mem_cons, mem_keepFirst, List.mem_flatMap]
  apply or_congr_right
  constructor
  · intro hparts
    rcases hparts with ⟨join, hjoin, hbelow⟩
    rcases (mem_neededJoins hprepared).mp hjoin with ⟨hdeclared, htouched | hanchor⟩
    · exact ⟨join, hdeclared, htouched, hbelow⟩
    · -- no level lies on the way from the anchor to itself
      rw [hanchor, Level.below_self] at hbelow
      exact absurd hbelow List.not_mem_nil
  · intro hparts
    rcases hparts with ⟨join, hdeclared, htouched, hbelow⟩
    exact ⟨join, (mem_neededJoins hprepared).mpr ⟨hdeclared, Or.inl htouched⟩, hbelow⟩

/-- A declared level that is touched is joined. -/
theorem reaches_of_touches (hcheck : query.checkJoins request.fields.keys = .ok ())
    {join : DeclaredJoin} (hjoin : join ∈ query.joins)
    (htouched : query.Touches request join.level) : query.Reaches request join.level := by
  by_cases hanchor : join.level = query.anchor
  · exact Or.inl hanchor
  · have hbelow := Level.mem_below_self (isInScope_of_checkJoins hcheck hjoin) hanchor
    exact Or.inr ⟨join, hjoin, htouched, hbelow⟩

end JoinQuery

end SelectionSql
