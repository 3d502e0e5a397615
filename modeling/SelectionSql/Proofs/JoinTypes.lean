import SelectionSql.Proofs.JoinPlan

/-!
# Join types - How the levels of a plan are joined

A declared level is joined with the type of its first declaration.  An undeclared one is joined
for the sake of a declared level below it, and takes the type of the nearest declared level on
the way down to that one.  Which level that is depends on the declarations alone, and not on
whether the level is met among them or filled in.

Main results:

- `JoinQuery.type_of_mem_joinsTo`: the types on the way down to one level.
- `JoinQuery.firstNeeded?_of_mem_emission`: a level is joined for the first needed level below it.
- `JoinQuery.settledType?_of_mem_emission`: the types of a statement are settled.
- `JoinQuery.type_of_plan`: every level of a plan is joined with its settled type.
-/

namespace SelectionSql

variable {query : JoinQuery} {request : Request} {aggregates : AggregateMap}
variable {plan : JoinPlan} {level : Level} {type : JoinType} {join : DeclaredJoin}

namespace JoinQuery

/-! ## Settled types -/

/-- The first needed declaration of a level or of one below it. -/
def firstNeeded? (query : JoinQuery) (fields : FieldMap) (level : Level) : Option DeclaredJoin :=
  (query.neededJoins fields).find? fun join => Level.isInScope join.level level

/-- The type of the nearest declared level on the way down from one level to another. -/
def nearestType? (query : JoinQuery) (level lower : Level) : Option JoinType :=
  (Level.below level lower).findSome? query.joinType?

/-- The type that the declarations settle for a level: that of its first declaration, or else
that of the nearest declared level on the way down to the first needed one. -/
def settledType? (query : JoinQuery) (fields : FieldMap) (level : Level) : Option JoinType :=
  match query.joinType? level with
  | some type => some type
  | none => do
      let join ← query.firstNeeded? fields level
      query.nearestType? level join.level

/-! ## The way down to one level -/

/-- One more level at the end of a way down decides only where nothing above it does. -/
theorem nearestType?_of_scope {lower : Level} (hscope : Level.isInScope lower level = true)
    (hlower : lower ≠ level) :
    query.nearestType? level lower =
      (query.nearestType? level (Level.parent lower)).or (query.joinType? lower) := by
  rw [nearestType?, Level.below_eq_append hscope hlower, List.findSome?_append]
  simp [nearestType?]

/-- A join on the way down to a level has the type of its own declaration, or else that of the
nearest declared level below it, or else the one that the way was begun with. -/
theorem type_of_mem_joinsTo {lower : Level}
    (hscope : Level.isInScope lower query.anchor = true) (hjoin : join ∈ query.joinsTo type lower) :
    join.type = ((query.joinType? join.level).or
      (query.nearestType? join.level lower)).getD type := by
  induction lower, hscope using Level.scope_induction generalizing type with
  | hanchor => simp at hjoin
  | hstep lower hscope hlower ih =>
      rw [joinsTo_eq_append hscope hlower, List.mem_append, List.mem_singleton] at hjoin
      rcases hjoin with habove | rfl
      · have hmem : join.level ∈ Level.below query.anchor (Level.parent lower) := by
          rw [← query.map_level_joinsTo (query.typeOr lower type)]
          exact List.mem_map_of_mem habove
        have hne : lower ≠ join.level := by
          rintro rfl
          have hnodup := Level.nodup_below hscope
          rw [Level.below_eq_append hscope hlower, List.nodup_append] at hnodup
          exact hnodup.2.2 _ hmem _ List.mem_cons_self rfl
        have hbelow : Level.isInScope lower join.level = true :=
          Level.isInScope_trans (Level.isInScope_parent_self lower)
            ((Level.mem_below_iff (Level.isInScope_parent hscope hlower)).mp hmem).1
        rw [ih habove, nearestType?_of_scope hbelow hne, typeOr]
        simp only [Option.getD_or]
      · simp [nearestType?, typeOr]

/-- On the way down to a declared level every join has a type that a declaration settles. -/
theorem type_of_mem_joinsTo_of_isSome {lower : Level}
    (hscope : Level.isInScope lower query.anchor = true)
    (hdeclared : (query.joinType? lower).isSome = true) (hjoin : join ∈ query.joinsTo type lower) :
    (query.joinType? join.level).or (query.nearestType? join.level lower) = some join.type := by
  have hmem : join.level ∈ Level.below query.anchor lower := by
    rw [← query.map_level_joinsTo type]
    exact List.mem_map_of_mem hjoin
  have hbelow := ((Level.mem_below_iff hscope).mp hmem).1
  have hsome : ((query.joinType? join.level).or
      (query.nearestType? join.level lower)).isSome = true := by
    by_cases heq : lower = join.level
    · rw [← heq, Option.isSome_or, hdeclared, Bool.true_or]
    · rw [nearestType?_of_scope hbelow heq]
      simp [hdeclared]
  rcases Option.isSome_iff_exists.mp hsome with ⟨settled, hsettled⟩
  rw [type_of_mem_joinsTo hscope hjoin, hsettled, Option.getD_some]

/-! ## The whole plan -/

theorem isSome_joinType?_of_neededJoins {fields : FieldMap}
    (hjoin : join ∈ query.neededJoins fields) : (query.joinType? join.level).isSome = true := by
  have hmem : join ∈ query.joins := (List.mem_filter.mp hjoin).1
  rw [joinType?, Option.isSome_map, List.find?_isSome]
  exact ⟨join, hmem, by simp⟩

/-- A level is joined on the way down to the first needed level in its scope. -/
theorem firstNeeded?_of_mem_emission {fields : FieldMap}
    (hscope : ∀ needed ∈ query.neededJoins fields,
      Level.isInScope needed.level query.anchor = true)
    (hjoin : join ∈ query.emission fields) :
    ∃ needed ∈ query.neededJoins fields,
      query.firstNeeded? fields join.level = some needed ∧
        join ∈ query.joinsTo needed.type needed.level := by
  rw [emission, mem_keepFirstBy_iff, List.find?_flatMap, List.findSome?_eq_some_iff] at hjoin
  rcases hjoin with ⟨before, needed, after, hsplit, hfind, hnone⟩
  have hneeded : needed ∈ query.neededJoins fields := by
    rw [hsplit]
    exact List.mem_append_right _ List.mem_cons_self
  have hmem : join ∈ query.joinsTo needed.type needed.level := List.mem_of_find?_eq_some hfind
  have hbelow : join.level ∈ Level.below query.anchor needed.level := by
    rw [← query.map_level_joinsTo needed.type]
    exact List.mem_map_of_mem hmem
  obtain ⟨hlower, hinScope, hanchor⟩ := (Level.mem_below_iff (hscope needed hneeded)).mp hbelow
  refine ⟨needed, hneeded, ?_, hmem⟩
  -- no earlier needed level lies below, or the level would have been joined for that one
  have hearlier : before.find? (fun earlier => Level.isInScope earlier.level join.level) = none := by
    rw [List.find?_eq_none]
    intro earlier hmemBefore hunder
    have hearlierScope : Level.isInScope earlier.level query.anchor = true :=
      hscope earlier (hsplit ▸ List.mem_append_left _ hmemBefore)
    have hpassed : join.level ∈ (query.joinsTo earlier.type earlier.level).map
        DeclaredJoin.level := by
      rw [map_level_joinsTo, Level.mem_below_iff hearlierScope]
      exact ⟨hunder, hinScope, hanchor⟩
    rcases List.mem_map.mp hpassed with ⟨other, hother, hlevel⟩
    have hmissing := List.find?_eq_none.mp (hnone earlier hmemBefore) other hother
    exact hmissing (by simpa using hlevel)
  rw [firstNeeded?, hsplit, List.find?_append, hearlier, Option.none_or]
  exact List.find?_cons_of_pos hlower

/-- Every join of a statement has the type that the declarations settle for its level. -/
theorem settledType?_of_mem_emission {fields : FieldMap}
    (hscope : ∀ needed ∈ query.neededJoins fields,
      Level.isInScope needed.level query.anchor = true)
    (hjoin : join ∈ query.emission fields) :
    query.settledType? fields join.level = some join.type := by
  rcases firstNeeded?_of_mem_emission hscope hjoin with ⟨needed, hneeded, hfirst, hmem⟩
  have htype := type_of_mem_joinsTo_of_isSome (hscope needed hneeded)
    (isSome_joinType?_of_neededJoins hneeded) hmem
  unfold settledType?
  cases hown : query.joinType? join.level with
  | some type => rwa [hown, Option.some_or] at htype
  | none =>
      rw [hown, Option.none_or] at htype
      exact Option.bind_eq_some_iff.mpr ⟨needed, hfirst, htype⟩

/-- Every level that a plan joins has its settled type, in whatever order the levels are
declared and however often. -/
theorem type_of_plan (h : query.plan request aggregates = .ok plan) :
    ∃ prepared, query.prepare request = .ok prepared ∧ ∀ clause ∈ plan.source.joins,
      query.settledType? prepared.fields clause.level = some clause.type := by
  rcases plan_eq_ok.mp h with ⟨prepared, -, hcheck, hprepared, -, -⟩
  refine ⟨prepared, hprepared, ?_⟩
  intro clause hclause
  have hemitted : JoinPlan.declarationOf clause ∈ query.emission prepared.fields := by
    rw [← joins_of_plan hprepared h]
    exact List.mem_map_of_mem hclause
  exact settledType?_of_mem_emission
    (fun needed hneeded => isInScope_of_neededJoins hcheck hneeded) hemitted

end JoinQuery

namespace Hospital

/-- The departments declared twice, and their surgeons not at all. -/
def departmentsTwice : JoinQuery :=
  ⟨Level.root, [⟨"surgeon_department", .rightOuter⟩, ⟨"surgeon_department", .inner⟩], {}⟩

/-- A request for names in which the surgeons only lead to their departments. -/
def departmentsOfSurgeons : Request :=
  Request.ofSelection catalog.metadata
    ((hospitalNames.withFields "surgeon" []).withFields "surgeon_department" ["deptName"])

/-- The departments are joined by their first declaration, and so are their surgeons. -/
theorem departments_joined_by_first_declaration : ∃ plan, ∃ prepared : Request,
    departmentsTwice.plan departmentsOfSurgeons SortedMap.empty = .ok plan ∧
      plan.source.joins.map JoinPlan.declarationOf =
        [⟨"surgeon", .rightOuter⟩, ⟨"surgeon_department", .rightOuter⟩] ∧
      ∀ clause ∈ plan.source.joins,
        departmentsTwice.settledType? prepared.fields clause.level = some clause.type := by
  have h : (departmentsTwice.plan departmentsOfSurgeons SortedMap.empty).map
      (fun plan => plan.source.joins.map JoinPlan.declarationOf) =
        .ok [⟨"surgeon", .rightOuter⟩, ⟨"surgeon_department", .rightOuter⟩] := by
    decide +kernel
  rcases Outcome.map_eq_ok.mp h with ⟨plan, hplan, hjoins⟩
  rcases JoinQuery.type_of_plan hplan with ⟨prepared, -, htypes⟩
  exact ⟨plan, prepared, hplan, hjoins, htypes⟩

end Hospital

end SelectionSql
