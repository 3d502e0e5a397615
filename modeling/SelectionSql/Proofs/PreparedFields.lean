import SelectionSql.Proofs.Columns
import SelectionSql.Proofs.JoinPlan
import SelectionSql.Proofs.Reach

/-!
# Prepared fields - What a join query requests and selects in the end

A join query adds fields to those of its request: the ones in front of its grouping columns,
and the key fields of its anchor if nothing is requested there by then.  What it selects comes
of the names at the levels of its plan.

Main results:

- `requestGroups_mem_fieldsAt`: the fields that grouping requests.
- `JoinQuery.mem_fieldsAt_of_prepare`: the fields of a prepared request.
- `JoinQuery.mem_items_of_plan`: what a plan selects.
-/

namespace SelectionSql

section

variable {request next prepared : Request} {level other : Level} {column field : String}

/-! ## Fields of a prepared request -/

namespace Request

/-- The fields at a level are those of its entry in the field map. -/
theorem mem_fieldsAt :
    field ∈ request.fieldsAt level ↔ ∃ fields, request.fields.get? level = some fields ∧
      field ∈ fields := by
  unfold fieldsAt
  cases request.fields.get? level with
  | none => simp
  | some fields => simp [SortedSet.mem_toList]

/-- Whether a field stands in front of a column of a level. -/
def Fronts (request : Request) (level : Level) (column field : String) : Prop :=
  ∃ entity, request.entityAt level = .ok entity ∧ entity.fieldForColumn column = some field

/-- Requesting a column adds the field in front of it. -/
theorem mem_fieldsAt_of_requestColumn (h : request.requestColumn level column = .ok next) :
    field ∈ next.fieldsAt other ↔ field ∈ request.fieldsAt other ∨
      (level = other ∧ request.Fronts other column field) := by
  rcases Outcome.map_eq_ok.mp h with ⟨entity, hentity, hnext⟩
  have hfronts : (level = other ∧ request.Fronts other column field) ↔
      level = other ∧ entity.fieldForColumn column = some field := by
    apply and_congr_right
    rintro rfl
    constructor
    · rintro ⟨found, hfound, hfield⟩
      cases Except.ok.inj (hentity.symm.trans hfound)
      exact hfield
    · intro hfield
      exact ⟨entity, hentity, hfield⟩
  rw [hfronts]
  cases hcolumn : entity.fieldForColumn column with
  | none =>
      rw [hcolumn] at hnext
      simp [← hnext]
  | some front =>
      rw [hcolumn] at hnext
      have hadded : next = request.withFields (request.fields.request level [front]) := hnext.symm
      rw [hadded, mem_fieldsAt, mem_fieldsAt, fields_withFields, FieldMap.request,
        SortedMap.get?_update]
      by_cases hlevel : other = level
      · subst hlevel
        cases hfields : request.fields.get? other with
        | none => simp [SortedSet.mem_insertAll, eq_comm]
        | some fields => simp [SortedSet.mem_insertAll, eq_comm, or_comm]
      · simp [hlevel, Ne.symm hlevel]

/-- Requiring key fields adds them where nothing is requested. -/
theorem mem_fieldsAt_of_requireKeyFields (h : request.requireKeyFields level = .ok next) :
    field ∈ next.fieldsAt other ↔ field ∈ request.fieldsAt other ∨
      (other = level ∧ request.fields.contains level = false ∧
        ∃ entity, request.entityAt level = .ok entity ∧ field ∈ entity.keyFields) := by
  unfold requireKeyFields at h
  split at h
  next hpresent =>
    cases Except.ok.inj h
    simp [hpresent]
  next habsent =>
    rcases Outcome.map_eq_ok.mp h with ⟨entity, hentity, rfl⟩
    have hnone : request.fields.get? level = none := Option.not_isSome_iff_eq_none.mp habsent
    rw [mem_fieldsAt, mem_fieldsAt, SortedMap.get?_insert]
    by_cases hlevel : other = level
    · simp [hlevel, hnone, habsent, hentity, SortedSet.mem_ofList]
    · simp [hlevel]

end Request

/-- Grouping requests the fields in front of its columns. -/
theorem requestGroups_mem_fieldsAt {anchor : Level} {groups : List GroupColumn}
    (h : requestGroups request anchor groups = .ok next) :
    field ∈ next.fieldsAt other ↔ field ∈ request.fieldsAt other ∨
      ∃ group ∈ groups, group.level.getD anchor = other ∧
        request.Fronts other group.column field := by
  induction groups generalizing request with
  | nil =>
      cases Except.ok.inj h
      simp
  | cons group rest ih =>
      rw [requestGroups, List.foldlM_cons] at h
      rcases Outcome.bind_eq_ok.mp h with ⟨middle, hmiddle, hrest⟩
      have hfields : field ∈ middle.fieldsAt other ↔ field ∈ request.fieldsAt other ∨
          (group.level.getD anchor = other ∧ request.Fronts other group.column field) :=
        Request.mem_fieldsAt_of_requestColumn hmiddle
      rcases Request.requestColumn_eq_ok hmiddle with ⟨fields, rfl, -⟩
      rw [ih hrest, hfields, or_assoc]
      simp only [List.mem_cons, exists_eq_or_imp]
      exact Iff.rfl

/-! ## What a join query selects -/

namespace JoinQuery

variable {query : JoinQuery} {aggregates : AggregateMap} {plan : JoinPlan}

/-- Grouping requests a field at a level when it stands in front of a grouping column there. -/
def RequestsForGroup (query : JoinQuery) (request : Request) (level : Level)
    (field : String) : Prop :=
  ∃ group ∈ query.conditions.groupBy,
    group.level.getD query.anchor = level ∧ request.Fronts level group.column field

/-- The key fields of the anchor are requested when nothing else is requested there. -/
def RequestsKey (query : JoinQuery) (request : Request) (field : String) : Prop :=
  (request.fields.contains query.anchor = false ∧ ¬ query.Groups request query.anchor) ∧
    ∃ entity, request.entityAt query.anchor = .ok entity ∧ field ∈ entity.keyFields

/-- A prepared request has the fields of the request, those of the grouping columns and, if
there would be none at the anchor, the key fields of the anchor. -/
theorem mem_fieldsAt_of_prepare (h : query.prepare request = .ok prepared) :
    field ∈ prepared.fieldsAt level ↔ field ∈ request.fieldsAt level ∨
      query.RequestsForGroup request level field ∨
        (level = query.anchor ∧ query.RequestsKey request field) := by
  rcases Outcome.bind_eq_ok.mp h with ⟨grouped, hgrouped, hrequired⟩
  have hfields : field ∈ grouped.fieldsAt level ↔ field ∈ request.fieldsAt level ∨
      query.RequestsForGroup request level field := requestGroups_mem_fieldsAt hgrouped
  rcases requestGroups_eq_ok hgrouped with ⟨fields, rfl, hcontains⟩
  have habsent : fields.contains query.anchor = false ↔
      request.fields.contains query.anchor = false ∧ ¬ query.Groups request query.anchor := by
    rw [← Bool.not_eq_true, ← Bool.not_eq_true, hcontains, not_or]
    exact Iff.rfl
  rw [Request.mem_fieldsAt_of_requireKeyFields hrequired, hfields, Request.fields_withFields,
    habsent, or_assoc]
  exact Iff.rfl

/-- Every level of a plan has an entity. -/
theorem exists_entityAt_of_plan (h : query.plan request aggregates = .ok plan)
    (hlevel : level ∈ plan.levels) : ∃ entity, request.entityAt level = .ok entity := by
  rcases plan_eq_ok.mp h with ⟨prepared, -, -, hprepared, -, -⟩
  rcases items_of_plan hprepared h with ⟨parts, hparts, -⟩
  rcases Outcome.exists_of_mem_mapM hparts hlevel with ⟨items, -, hitems⟩
  rcases contains_of_prepare hprepared with ⟨fields, rfl, -⟩
  rcases (selectItems_eq_ok.mp hitems).2 with ⟨entity, hentity, -⟩
  exact ⟨entity, hentity⟩

/-- A plan selects what is selected at its levels. -/
theorem mem_items_of_plan (hprepared : query.prepare request = .ok prepared)
    (h : query.plan request aggregates = .ok plan) {item : SelectItem} :
    item ∈ plan.items ↔ item.level ∈ plan.levels ∧
      ∃ entity, request.entityAt item.level = .ok entity ∧
        ∃ name ∈ contributedNames entity (.qualified query.anchor) item.level
            (prepared.fieldsAt item.level) aggregates,
          entity.resolve? name = some item.column ∧
            item = columnItem (.qualified query.anchor) item.level aggregates item.column := by
  rcases items_of_plan hprepared h with ⟨parts, hparts, hitems⟩
  rcases contains_of_prepare hprepared with ⟨fields, rfl, -⟩
  rw [hitems, List.mem_flatten]
  constructor
  · intro hitem
    rcases hitem with ⟨part, hpart, hitem⟩
    rcases Outcome.exists_of_mapM hparts hpart with ⟨level, hlevel, hpart⟩
    rcases (mem_of_selectItems hpart).mp hitem with
      ⟨entity, hentity, name, hname, column, hcolumn, rfl⟩
    exact ⟨hlevel, entity, hentity, name, hname, hcolumn, rfl⟩
  · intro hitem
    rcases hitem with ⟨hlevel, entity, hentity, name, hname, hcolumn, heq⟩
    rcases Outcome.exists_of_mem_mapM hparts hlevel with ⟨part, hpart, hselected⟩
    refine ⟨part, hpart, (mem_of_selectItems hselected).mpr ?_⟩
    exact ⟨entity, hentity, name, hname, item.column, hcolumn, heq⟩

end JoinQuery

end

end SelectionSql
