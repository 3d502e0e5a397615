import SelectionSql.Plan.Statement
import SelectionSql.Proofs.Emission

/-!
# Join plans - What a finished join plan looks like

Main results:

- `JoinPlan.Linked.ensureJoined`, `JoinPlan.linked_of_plan`: every join of a plan hangs
  from a level that the source introduces before it.
- `JoinQuery.items_of_plan`: the columns of a plan are those of its levels in order.
- `JoinQuery.plan_exact`: the levels, joins and columns of a plan.
-/

namespace SelectionSql

variable {query : JoinQuery} {request : Request} {aggregates : AggregateMap}
variable {plan grown : JoinPlan} {level : Level} {type : JoinType}

/-! ## Parents come first -/

namespace JoinPlan

/-- Every join hangs from the anchor or from a level that was joined before it. -/
def Linked (plan : JoinPlan) : Prop :=
  ∀ before clause after, plan.source.joins = before ++ clause :: after →
    clause.parent = Level.parent clause.level ∧
      clause.parent ∈ plan.source.anchor :: before.map JoinClause.level

/-- One more join keeps a plan linked when it hangs from a level of the plan. -/
theorem Linked.extend {items : List SelectItem} {clause : JoinClause} (hlinked : plan.Linked)
    (hparent : clause.parent = Level.parent clause.level) (hmem : clause.parent ∈ plan.levels) :
    (plan.extend [(items, clause)]).Linked := by
  intro before other after h
  have hjoins : plan.source.joins ++ [clause] = before ++ other :: after := h
  rcases List.eq_nil_or_concat after with rfl | ⟨rest, last, rfl⟩
  · rcases List.append_inj' hjoins rfl with ⟨hbefore, hother⟩
    cases List.singleton_inj.mp hother
    exact ⟨hparent, hbefore ▸ hmem⟩
  · rw [List.concat_eq_append, ← List.cons_append, ← List.append_assoc] at hjoins
    exact hlinked before other rest (List.append_inj_left' hjoins rfl)

/-- Joining a level keeps a plan linked, and the level is joined then. -/
theorem Linked.ensureJoined (hlinked : plan.Linked)
    (h : query.ensureJoined request aggregates plan level type = .ok grown) :
    grown.Linked ∧ grown.source.anchor = plan.source.anchor ∧ level ∈ grown.levels := by
  fun_induction JoinQuery.ensureJoined query request aggregates plan level type
    generalizing grown with
  | case1 level type hlevel =>
      cases Except.ok.inj h
      exact ⟨hlinked, rfl, hlevel⟩
  | case2 level type anchor hlevel hscope parent =>
      rename_i ih
      rcases Outcome.bind_eq_ok.mp h with ⟨middle, hmiddle, h⟩
      rcases Outcome.bind_eq_ok.mp h with ⟨joined, hjoined, h⟩
      cases Except.ok.inj h
      rcases ih hmiddle with ⟨hmiddleLinked, hanchor, hparent⟩
      have hclauseLevel := level_of_joinLevel hjoined
      have hclauseParent := (clause_of_joinLevel hjoined).2
      refine ⟨hmiddleLinked.extend ?_ ?_, hanchor, ?_⟩
      · rw [hclauseLevel, hclauseParent]
      · rw [hclauseParent]
        exact hparent
      · rw [levels_extend]
        exact List.mem_append_right _ (by simp [hclauseLevel])
  | case3 level type anchor hlevel => exact absurd h (by simp)

/-- Every plan is linked. -/
theorem linked_of_plan (h : query.plan request aggregates = .ok plan) : plan.Linked := by
  rcases Outcome.bind_eq_ok.mp h with ⟨-, -, h⟩
  rcases Outcome.bind_eq_ok.mp h with ⟨prepared, -, h⟩
  rcases Outcome.bind_eq_ok.mp h with ⟨anchored, hanchored, h⟩
  refine Outcome.foldlM_invariant Linked ?_ ?_ h
  · intro state join next _ hlinked hnext
    exact (Linked.ensureJoined hlinked hnext).1
  · rcases Outcome.bind_eq_ok.mp hanchored with ⟨entity, -, hanchored⟩
    rcases Outcome.bind_eq_ok.mp hanchored with ⟨items, -, hanchored⟩
    cases Except.ok.inj hanchored
    intro before clause after hjoins
    simp at hjoins

end JoinPlan

/-! ## Levels and columns -/

namespace JoinQuery

/-- Every needed level lies in the scope of the anchor once the joins are accepted. -/
theorem isInScope_of_neededJoins {requested : List Level} {fields : FieldMap}
    {join : DeclaredJoin} (h : query.checkJoins requested = .ok ())
    (hjoin : join ∈ query.neededJoins fields) :
    Level.isInScope join.level query.anchor = true :=
  isInScope_of_checkJoins h (List.mem_filter.mp hjoin).1

/-- A plan joins no level twice and no level outside the scope of its anchor. -/
theorem nodup_levels_of_plan (h : query.plan request aggregates = .ok plan) :
    plan.levels.Nodup ∧ ∀ level ∈ plan.levels, Level.isInScope level query.anchor = true := by
  rcases plan_eq_ok.mp h with ⟨prepared, -, hcheck, hprepared, -, -⟩
  have hbelow : ∀ level ∈ keepFirst ((query.neededJoins prepared.fields).flatMap
      fun join => Level.below query.anchor join.level),
      Level.isInScope level query.anchor = true ∧ level ≠ query.anchor := by
    intro level hlevel
    rcases List.mem_flatMap.mp (mem_keepFirst.mp hlevel) with ⟨join, hjoin, hmem⟩
    exact Level.isInScope_of_mem_below (isInScope_of_neededJoins hcheck hjoin) hmem
  rw [(levels_of_plan hprepared h).2, List.nodup_cons]
  refine ⟨⟨fun hmem => (hbelow _ hmem).2 rfl, nodup_keepFirst _⟩, ?_⟩
  intro level hlevel
  rcases List.mem_cons.mp hlevel with rfl | hmem
  · exact Level.isInScope_self _
  · exact (hbelow level hmem).1

/-- The columns of a plan are those of its levels in order. -/
theorem items_of_plan {prepared : Request} (hprepared : query.prepare request = .ok prepared)
    (h : query.plan request aggregates = .ok plan) :
    ∃ parts, (plan.levels.mapM fun level =>
        selectItems prepared (.qualified query.anchor) level aggregates) = .ok parts ∧
      plan.items = parts.flatten := by
  rcases plan_eq_ok.mp h with ⟨other, anchored, -, hother, hanchored, h⟩
  cases Except.ok.inj (hprepared.symm.trans hother)
  rcases Outcome.bind_eq_ok.mp hanchored with ⟨entity, -, hanchored⟩
  rcases Outcome.bind_eq_ok.mp hanchored with ⟨items, hitems, hanchored⟩
  cases Except.ok.inj hanchored
  rcases Outcome.bind_eq_ok.mp h with ⟨joined, hjoined, h⟩
  cases Except.ok.inj h
  refine ⟨items :: joined.map Prod.fst, Outcome.mapM_eq_ok.mpr ?_, ?_⟩
  · rw [JoinPlan.levels_extend]
    refine List.Forall₂.cons hitems ?_
    show List.Forall₂ _ (joined.map fun entry => entry.2.level) (joined.map Prod.fst)
    rw [List.forall₂_map_left_iff, List.forall₂_map_right_iff, List.forall₂_same]
    intro entry hentry
    rcases Outcome.exists_of_mapM hjoined hentry with ⟨join, -, hjoin⟩
    rw [JoinPlan.level_of_joinLevel hjoin]
    rcases Outcome.bind_eq_ok.mp hjoin with ⟨columns, hcolumns, hjoin⟩
    rcases Outcome.bind_eq_ok.mp hjoin with ⟨clause, -, hjoin⟩
    cases Except.ok.inj hjoin
    exact hcolumns
  · rw [JoinPlan.extend, List.flatten_cons, List.flatMap_def]

end JoinQuery

/-! ## The depth of the recursion -/

namespace JoinQuery

/-- Joining a level within a number of nested calls: nothing when they do not suffice.
Unlike `ensureJoined` this recursion owes no account of why it ends. -/
def joinWithin (query : JoinQuery) (request : Request) (aggregates : AggregateMap)
    (plan : JoinPlan) : Nat → Level → JoinType → Option (Except QueryFault JoinPlan)
  | 0, _, _ => none
  | calls + 1, level, type =>
      if level ∈ plan.levels then some (.ok plan)
      else if Level.isInScope level plan.source.anchor = true then
        (query.joinWithin request aggregates plan calls (Level.parent level)
          (query.typeOr (Level.parent level) type)).map fun outcome => do
            let grown ← outcome
            let joined ← joinLevel request plan.source.anchor aggregates ⟨level, type⟩
            return grown.extend [joined]
      else some (.error (.outOfScope plan.source.anchor level))

/-- One call more than the height of a level suffices to join it to any plan. -/
theorem joinWithin_eq {calls : Nat} (h : Level.height level < calls) (type : JoinType) :
    query.joinWithin request aggregates plan calls level type =
      some (query.ensureJoined request aggregates plan level type) := by
  induction calls generalizing level type with
  | zero => exact absurd h (Nat.not_lt_zero _)
  | succ calls ih =>
      rw [joinWithin]
      by_cases hlevel : level ∈ plan.levels
      · rw [if_pos hlevel, ensureJoined_of_mem hlevel]
      · rw [if_neg hlevel]
        by_cases hscope : Level.isInScope level plan.source.anchor = true
        · have hparent : Level.height (Level.parent level) < calls := by
            have hlt := Level.height_parent_lt (JoinPlan.ne_root_of_not_mem_levels hlevel hscope)
            omega
          rw [if_pos hscope, ensureJoined_of_not_mem hlevel hscope, ih hparent]
          rfl
        · rw [if_neg hscope, ensureJoined, dif_neg hlevel, dif_neg hscope]

end JoinQuery

/-! ## A hospital with surgeons and their departments -/

namespace Hospital

/-- Three entities, each of which refers to the next one. -/
def definitions : List EntityDef :=
  [{ name := "Hospital", table := "hospital_tbl", root := true
     fields := [{ name := "hospitalId", column := "hospital_id", key := true },
       { name := "name", column := "name" },
       { name := "surgeonName", column := "surgeon_name" }]
     references := [{ name := "surgeon", target := "Surgeon"
                      joinColumns := [⟨"hospital_id", "hospital_id"⟩] }] },
   { name := "Surgeon", table := "surgeon_tbl"
     fields := [{ name := "surgeonId", column := "surgeon_id", key := true },
       { name := "name", column := "name" }]
     references := [{ name := "department", target := "Department"
                      joinColumns := [⟨"dept_id", "dept_id"⟩] }] },
   { name := "Department", table := "dept_tbl"
     fields := [{ name := "deptId", column := "dept_id", key := true },
       { name := "deptName", column := "dept_name" }] }]

/-- The catalog of the three entities. -/
def catalog : Catalog :=
  match Catalog.ofDefs definitions with
  | .ok catalog => catalog
  | .error _ => ⟨SortedMap.empty, SortedMap.empty⟩

theorem ofDefs_definitions : Catalog.ofDefs definitions = .ok catalog := by decide +kernel

/-- A request for the names of hospitals. -/
def hospitalNames : Selection :=
  (Selection.new "Hospital").withFields Level.root ["name"]

/-- A request for the names of hospitals and of the departments of their surgeons. -/
def departmentNames : Request :=
  Request.ofSelection catalog.metadata
    (hospitalNames.withFields "surgeon_department" ["deptName"])

/-- A query that declares the join of the departments before that of the surgeons. -/
def departments : JoinQuery :=
  ⟨Level.root, [⟨"surgeon_department", .leftOuter⟩, ⟨"surgeon", .inner⟩], {}⟩

end Hospital

/-! ## Exactness -/

/-- What a join query plans over a prepared request, said without the plan that grows. -/
structure JoinPlan.Exact (plan : JoinPlan) (query : JoinQuery) (prepared : Request)
    (aggregates : AggregateMap) : Prop where
  /-- From every needed level the anchor is reached by taking parents, and the way down
  is that climb in reverse. -/
  climbs : ∀ join ∈ query.neededJoins prepared.fields, ∃ steps,
    Level.parent^[steps] join.level = query.anchor ∧
      (∀ i < steps, Level.parent^[i] join.level ≠ query.anchor) ∧
      Level.below query.anchor join.level =
        ((List.range steps).map fun i => Level.parent^[i] join.level).reverse
  /-- The source introduces the anchor and then the ways down to the needed levels, every
  level at its first place. -/
  levels : plan.source.aliases = query.anchor :: keepFirst
    ((query.neededJoins prepared.fields).flatMap fun join =>
      Level.below query.anchor join.level)
  nodup : plan.source.aliases.Nodup
  inScope : ∀ level ∈ plan.source.aliases, Level.isInScope level query.anchor = true
  /-- Every join hangs from the parent of its level, which the source introduces earlier. -/
  linked : ∀ before clause after, plan.source.joins = before ++ clause :: after →
    clause.parent = Level.parent clause.level ∧
      clause.parent ∈ query.anchor :: before.map JoinClause.level
  /-- The columns are those of the levels, in the order of the levels. -/
  items : ∃ parts, (plan.source.aliases.mapM fun level =>
      selectItems prepared (.qualified query.anchor) level aggregates) = .ok parts ∧
    plan.items = parts.flatten

/-- Joining a level ends for every level, plan and anchor, within one call more than the
height of the level; and every plan is exact over the prepared request. -/
theorem JoinQuery.plan_exact (query : JoinQuery) (request : Request)
    (aggregates : AggregateMap) :
    (∀ plan level type calls, Level.height level < calls →
      query.joinWithin request aggregates plan calls level type =
        some (query.ensureJoined request aggregates plan level type)) ∧
    ∀ plan, query.plan request aggregates = .ok plan →
      ∃ prepared, query.prepare request = .ok prepared ∧
        plan.Exact query prepared aggregates := by
  refine ⟨fun plan level type calls h => joinWithin_eq h type, ?_⟩
  intro plan h
  rcases plan_eq_ok.mp h with ⟨prepared, -, hcheck, hprepared, -, -⟩
  rcases levels_of_plan hprepared h with ⟨hanchor, hlevels⟩
  rcases nodup_levels_of_plan h with ⟨hnodup, hscope⟩
  refine ⟨prepared, hprepared, ⟨?_, hlevels, hnodup, hscope, ?_, items_of_plan hprepared h⟩⟩
  · intro join hjoin
    exact Level.below_eq_iterate (isInScope_of_neededJoins hcheck hjoin)
  · rw [← hanchor]
    exact JoinPlan.linked_of_plan h

/-- The surgeons are not requested, yet they are joined before their departments. -/
theorem Hospital.exists_exact_plan : ∃ plan prepared,
    departments.plan departmentNames SortedMap.empty = .ok plan ∧
      plan.source.aliases = [Level.root, "surgeon", "surgeon_department"] ∧
      plan.Exact departments prepared SortedMap.empty := by
  have h : (departments.plan departmentNames SortedMap.empty).map (fun plan => plan.source.aliases) =
      .ok [Level.root, "surgeon", "surgeon_department"] := by decide +kernel
  rcases Outcome.map_eq_ok.mp h with ⟨plan, hplan, haliases⟩
  rcases (JoinQuery.plan_exact departments _ _).2 plan hplan with ⟨prepared, -, hexact⟩
  exact ⟨plan, prepared, hplan, haliases, hexact⟩

end SelectionSql
