import SelectionSql.Proofs.Columns
import SelectionSql.Proofs.Reach

/-!
# Faults - Where the failure of a statement lies

A statement is made of entities at levels and of columns behind names.  When it cannot be
made, one of these is missing, or a declared join or an aggregate is refused.

Main results:

- `Request.entityAt_eq_error`: why a level has no entity.
- `selectItems_eq_error`: why a level cannot be selected.
- `joinClause_eq_error`: why a level cannot be joined to its parent.
- `JoinQuery.plan_eq_error`: the level at which a plan fails.
-/

namespace SelectionSql

variable {request next : Request} {level : Level} {fault : QueryFault}
variable {style : ColumnStyle} {aggregates : AggregateMap}

/-! ## What a query is given -/

/-- A key is refused for being missing. -/
theorem requireKey_eq_error {shape : QueryShape} {key : Option Level}
    (h : requireKey shape key = .error fault) : fault = .missingKey shape := by
  unfold requireKey at h
  split at h
  · split at h
    · exact (Except.error.inj h).symm
    · exact absurd h (by simp)
  · exact (Except.error.inj h).symm

/-- A template is refused for being empty. -/
theorem requireTemplate_eq_error {template : Option String}
    (h : requireTemplate template = .error fault) : fault = .emptyTemplate := by
  unfold requireTemplate at h
  split at h
  · split at h
    · exact (Except.error.inj h).symm
    · exact absurd h (by simp)
  · exact (Except.error.inj h).symm

/-! ## One level -/

/-- A level has no entity when nothing names one there, or when metadata does not know the
one that is named. -/
theorem Request.entityAt_eq_error :
    request.entityAt level = .error fault ↔
      (request.entityName? level = none ∧ fault = .unknownLevel level) ∨
        ∃ name, request.entityName? level = some name ∧
          request.metadata.entity? name = none ∧ fault = .unknownEntity name := by
  unfold entityAt
  cases request.entityName? level with
  | none => simp [eq_comm]
  | some name =>
      unfold Metadata.requireEntity
      cases hentity : request.metadata.entity? name <;> simp [hentity, eq_comm]

/-- A name is refused exactly when no column is behind it. -/
theorem Entity.resolve_eq_error {entity : Entity} {name : String} :
    entity.resolve name = .error fault ↔
      entity.resolve? name = none ∧ fault = .fieldNotFound name entity.name := by
  unfold resolve
  cases entity.resolve? name <;> simp [eq_comm]

/-- A level that cannot be selected is out of scope, has no entity, or contributes a name
without a column. -/
theorem selectItems_eq_error (h : selectItems request style level aggregates = .error fault) :
    (style.admits level = false ∧ fault = .outOfScope (style.anchorOr level) level) ∨
      request.entityAt level = .error fault ∨
      ∃ entity, request.entityAt level = .ok entity ∧
        ∃ name ∈ contributedNames entity style level (request.fieldsAt level) aggregates,
          entity.resolve? name = none ∧ fault = .fieldNotFound name entity.name := by
  unfold selectItems at h
  by_cases hadmits : style.admits level = true
  · rw [if_pos hadmits] at h
    rcases Outcome.bind_eq_error.mp h with hentity | ⟨entity, hentity, hitems⟩
    · exact Or.inr (Or.inl hentity)
    · rw [entityItems_eq] at hitems
      have hnames := Outcome.map_eq_error.mp hitems
      rcases Outcome.exists_of_mapM_eq_error hnames with ⟨name, hname, hfault⟩
      exact Or.inr (Or.inr ⟨entity, hentity, name, hname, Entity.resolve_eq_error.mp hfault⟩)
  · rw [if_neg hadmits] at h
    exact Or.inl ⟨Bool.eq_false_iff.mpr hadmits, (Except.error.inj h).symm⟩

/-- A level cannot be joined when its parent or itself has no entity, or when the parent
declares no join columns for it. -/
theorem joinClause_eq_error {join : DeclaredJoin}
    (h : joinClause request join = .error fault) :
    request.entityAt (Level.parent join.level) = .error fault ∨
      request.entityAt join.level = .error fault ∨
      ∃ parent child, fault = .noAssociation parent child (Level.reference join.level) := by
  rcases Outcome.bind_eq_error.mp h with hparent | ⟨parent, -, h⟩
  · exact Or.inl hparent
  rcases Outcome.bind_eq_error.mp h with hchild | ⟨child, -, h⟩
  · exact Or.inr (Or.inl hchild)
  split at h
  · exact absurd h (by simp [pure, Except.pure])
  · exact Or.inr (Or.inr ⟨parent.name, child.name, (Except.error.inj h).symm⟩)

/-- An aggregate key is refused because a level has no entity or the entity lacks its column. -/
theorem checkedKey_eq_error {anchor : Level} {key : String}
    (h : checkedKey request anchor style key = .error fault) :
    (∃ level, request.entityAt level = .error fault) ∨
      ∃ column entity, fault = .aggregateColumnNotFound column entity := by
  unfold checkedKey at h
  simp only at h
  split at h
  · rcases Outcome.bind_eq_error.mp h with hentity | ⟨entity, -, h⟩
    · exact Or.inl ⟨anchor, hentity⟩
    · exact Or.inr ⟨key, entity.name, (Except.error.inj h).symm⟩
  · rcases Outcome.bind_eq_error.mp h with hentity | ⟨entity, -, h⟩
    · exact Or.inl ⟨_, hentity⟩
    · split at h
      · exact absurd h (by simp)
      · exact Or.inr ⟨_, entity.name, (Except.error.inj h).symm⟩

/-- Aggregates are refused for one of their keys. -/
theorem checkedAggregates_eq_error {anchor : Level}
    (h : checkedAggregates request anchor style aggregates = .error fault) :
    (∃ level, request.entityAt level = .error fault) ∨
      ∃ column entity, fault = .aggregateColumnNotFound column entity := by
  rcases Outcome.exists_of_mapM_eq_error (Outcome.map_eq_error.mp h) with ⟨entry, -, hentry⟩
  exact checkedKey_eq_error (Outcome.map_eq_error.mp hentry)

/-! ## Plans -/

namespace JoinQuery

variable {query : JoinQuery}

/-- Declared joins are refused for one that is out of scope or misses its parent. -/
theorem checkJoins_eq_error {requested : List Level}
    (h : query.checkJoins requested = .error fault) :
    ∃ join ∈ query.joins, query.joinFault? requested join = some fault := by
  unfold checkJoins at h
  split at h
  next first hfirst =>
    cases Except.error.inj h
    exact List.exists_of_findSome?_eq_some hfirst
  next => exact absurd h (by simp)

/-- Grouping fails at a level without entity. -/
theorem requestGroups_eq_error {anchor : Level} {groups : List GroupColumn}
    (h : requestGroups request anchor groups = .error fault) :
    ∃ level, request.entityAt level = .error fault := by
  rcases Outcome.foldlM_eq_error.mp h with ⟨before, group, after, state, -, hbefore, hgroup⟩
  -- the columns before have added fields, which no entity depends on
  rcases requestGroups_eq_ok hbefore with ⟨fields, rfl, -⟩
  exact ⟨_, Outcome.map_eq_error.mp hgroup⟩

/-- A request cannot be prepared when a level that is grouped or the anchor has no entity. -/
theorem prepare_eq_error (h : query.prepare request = .error fault) :
    ∃ level, request.entityAt level = .error fault := by
  rcases Outcome.bind_eq_error.mp h with hgroups | ⟨grouped, hgroups, hkeys⟩
  · exact requestGroups_eq_error hgroups
  · rcases requestGroups_eq_ok hgroups with ⟨fields, rfl, -⟩
    unfold Request.requireKeyFields at hkeys
    split at hkeys
    · exact absurd hkeys (by simp)
    · exact ⟨_, Outcome.map_eq_error.mp hkeys⟩

/-- A plan without joins fails at the anchor. -/
theorem anchorPlan_eq_error (h : query.anchorPlan request aggregates = .error fault) :
    request.entityAt query.anchor = .error fault ∨
      selectItems request (.qualified query.anchor) query.anchor aggregates = .error fault := by
  rcases Outcome.bind_eq_error.mp h with hentity | ⟨entity, -, h⟩
  · exact Or.inl hentity
  rcases Outcome.bind_eq_error.mp h with hitems | ⟨items, -, h⟩
  · exact Or.inr hitems
  · exact absurd h (by simp [pure, Except.pure])

/-- Levels fail to be joined at one of them: it cannot be selected, or not be joined. -/
theorem joinAll_eq_error {plan : JoinPlan} {joins : List DeclaredJoin}
    (h : plan.joinAll request aggregates joins = .error fault) :
    ∃ join ∈ joins,
      selectItems request (.qualified plan.source.anchor) join.level aggregates = .error fault ∨
        joinClause request join = .error fault := by
  rcases Outcome.bind_eq_error.mp h with hjoins | ⟨joined, -, h⟩
  · rcases Outcome.exists_of_mapM_eq_error hjoins with ⟨join, hjoin, hfault⟩
    refine ⟨join, hjoin, ?_⟩
    rcases Outcome.bind_eq_error.mp hfault with hitems | ⟨items, -, hfault⟩
    · exact Or.inl hitems
    rcases Outcome.bind_eq_error.mp hfault with hclause | ⟨clause, -, hfault⟩
    · exact Or.inr hclause
    · exact absurd hfault (by simp [pure, Except.pure])
  · exact absurd h (by simp [pure, Except.pure])

/-- A plan fails because a declared join is refused, because the request cannot be prepared, or
at a level that it emits: there it has no entity, cannot be selected or cannot be joined. -/
theorem plan_eq_error (h : query.plan request aggregates = .error fault) :
    (∃ join ∈ query.joins, query.joinFault? request.fields.keys join = some fault) ∨
      query.prepare request = .error fault ∨
      ∃ prepared, query.prepare request = .ok prepared ∧
        (prepared.entityAt query.anchor = .error fault ∨
          selectItems prepared (.qualified query.anchor) query.anchor aggregates =
            .error fault ∨
          ∃ join ∈ query.emission prepared.fields,
            selectItems prepared (.qualified query.anchor) join.level aggregates =
                .error fault ∨
              joinClause prepared join = .error fault) := by
  rw [plan_eq] at h
  rcases Outcome.bind_eq_error.mp h with hcheck | ⟨-, -, h⟩
  · exact Or.inl (checkJoins_eq_error hcheck)
  rcases Outcome.bind_eq_error.mp h with hprepare | ⟨prepared, hprepared, h⟩
  · exact Or.inr (Or.inl hprepare)
  refine Or.inr (Or.inr ⟨prepared, hprepared, ?_⟩)
  rcases Outcome.bind_eq_error.mp h with hanchor | ⟨plan, hplan, hjoins⟩
  · rcases anchorPlan_eq_error hanchor with hentity | hitems
    · exact Or.inl hentity
    · exact Or.inr (Or.inl hitems)
  · rcases closed_of_anchorPlan hplan with ⟨hsource, -, -⟩
    rw [← hsource]
    exact Or.inr (Or.inr (joinAll_eq_error hjoins))

end JoinQuery

end SelectionSql
