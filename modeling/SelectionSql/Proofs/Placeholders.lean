import SelectionSql.Proofs.Fragments
import SelectionSql.Proofs.TableAliases

/-!
# Placeholders - The order in which parameters are bound

Whoever binds values to the parameters of a statement has to know their order.  It is that of
the calls which append conditions to a builder, as long as no condition on groups is appended
before one on rows.

Main results:

- `SimpleDraft.conditions_run`, `JoinDraft.conditions_run`: the calls among the steps of a
  builder make up the conditions of its query.
- `QuerySpec.BuiltBy.exists_head`: what stands before the conditions has no marks.
- `QuerySpec.bound_in_call_order_iff`: when parameters stand in the order of the calls.
-/

namespace SelectionSql

/-! ## Queries that are built -/

namespace SimpleStep

/-- The call of a step that extends the conditions. -/
def condition? : SimpleStep → Option ConditionStep
  | key _ => none
  | condition step => some step

/-- A step that names a level without marks, or appends a comparison. -/
def Unmarked : SimpleStep → Prop
  | key level => Text.marks level = 0
  | condition step => step.Compares

end SimpleStep

namespace JoinStep

/-- The call of a step that extends the conditions. -/
def condition? : JoinStep → Option ConditionStep
  | condition step => some step
  | _ => none

/-- A step that names a level without marks, or appends a comparison. -/
def Unmarked : JoinStep → Prop
  | key level => Text.marks level = 0
  | join level _ => Text.marks level = 0
  | condition step => step.Compares

end JoinStep

/-- The conditions of a simple query in the making are those of the calls among its steps. -/
theorem SimpleDraft.conditions_run (draft : SimpleDraft) (steps : List SimpleStep) :
    (draft.run steps).conditions =
      draft.conditions.run (steps.filterMap SimpleStep.condition?) := by
  induction steps generalizing draft with
  | nil => rfl
  | cons step rest ih =>
      have hrun : draft.run (step :: rest) = (draft.step step).run rest := rfl
      rw [hrun, ih]
      cases step <;> rfl

/-- The conditions of a join query in the making are those of the calls among its steps. -/
theorem JoinDraft.conditions_run (draft : JoinDraft) (steps : List JoinStep) :
    (draft.run steps).conditions = draft.conditions.run (steps.filterMap JoinStep.condition?) := by
  induction steps generalizing draft with
  | nil => rfl
  | cons step rest ih =>
      have hrun : draft.run (step :: rest) = (draft.step step).run rest := rfl
      rw [hrun, ih]
      cases step <;> rfl

/-- A simple query in the making names a level without marks. -/
def SimpleDraft.Unmarked (draft : SimpleDraft) : Prop :=
  ∀ level, draft.key = some level → Text.marks level = 0

/-- A join query in the making names levels without marks. -/
structure JoinDraft.Unmarked (draft : JoinDraft) : Prop where
  key : ∀ level, draft.key = some level → Text.marks level = 0
  joins : ∀ level ∈ draft.joins.map DeclaredJoin.level, Text.marks level = 0

/-- Steps that name levels without marks keep a simple query unmarked. -/
theorem SimpleDraft.Unmarked.run {draft : SimpleDraft} (h : draft.Unmarked)
    {steps : List SimpleStep} (hsteps : ∀ step ∈ steps, step.Unmarked) :
    (draft.run steps).Unmarked := by
  induction steps generalizing draft with
  | nil => exact h
  | cons step rest ih =>
      have hstep : (draft.step step).Unmarked := by
        cases step with
        | key level =>
            intro other hother
            cases Option.some.inj hother
            exact hsteps _ List.mem_cons_self
        | condition call => exact h
      exact ih hstep fun other hother => hsteps other (List.mem_cons_of_mem _ hother)

/-- Steps that name levels without marks keep a join query unmarked. -/
theorem JoinDraft.Unmarked.run {draft : JoinDraft} (h : draft.Unmarked)
    {steps : List JoinStep} (hsteps : ∀ step ∈ steps, step.Unmarked) :
    (draft.run steps).Unmarked := by
  induction steps generalizing draft with
  | nil => exact h
  | cons step rest ih =>
      have hstep : (draft.step step).Unmarked := by
        cases step with
        | key level =>
            refine ⟨?_, h.joins⟩
            intro other hother
            cases Option.some.inj hother
            exact hsteps _ List.mem_cons_self
        | join level type =>
            refine ⟨h.key, ?_⟩
            intro other hother
            rcases mem_map_declareBy.mp hother with rfl | hold
            · exact hsteps _ List.mem_cons_self
            · exact h.joins other hold
        | condition call => exact ⟨h.key, h.joins⟩
      exact ih hstep fun other hother => hsteps other (List.mem_cons_of_mem _ hother)

namespace QuerySpec

/-- A query is built by calls that append comparisons when a builder gives it that takes these
calls in this order, and names levels without marks between them in any way. -/
inductive BuiltBy : QuerySpec → List ConditionStep → Prop
  | simple {query : SimpleQuery} (steps : List SimpleStep)
      (hsteps : ∀ step ∈ steps, step.Unmarked)
      (hbuild : (SimpleDraft.run {} steps).build = .ok query) :
      BuiltBy (.simple query) (steps.filterMap SimpleStep.condition?)
  | join {query : JoinQuery} (steps : List JoinStep) (hsteps : ∀ step ∈ steps, step.Unmarked)
      (hbuild : (JoinDraft.run {} steps).build = .ok query) :
      BuiltBy (.join query) (steps.filterMap JoinStep.condition?)

variable {definitions : List EntityDef} {catalog : Catalog} {selection : Selection}
variable {spec : QuerySpec} {calls : List ConditionStep} {text : String}

/-- The calls that build a query append comparisons. -/
theorem BuiltBy.compares (h : spec.BuiltBy calls) : ∀ call ∈ calls, call.Compares := by
  cases h with
  | simple steps hsteps hbuild =>
      intro call hcall
      rcases List.mem_filterMap.mp hcall with ⟨step, hstep, hcondition⟩
      cases step with
      | key => exact absurd hcondition (by simp [SimpleStep.condition?])
      | condition other =>
          cases Option.some.inj hcondition
          exact hsteps _ hstep
  | join steps hsteps hbuild =>
      intro call hcall
      rcases List.mem_filterMap.mp hcall with ⟨step, hstep, hcondition⟩
      cases step with
      | condition other =>
          cases Option.some.inj hcondition
          exact hsteps _ hstep
      | _ => exact absurd hcondition (by simp [JoinStep.condition?])

/-- What stands before the conditions of a statement with unmarked columns and an unmarked
source has no marks. -/
theorem exists_head {columns : List String} {source : String} (conditions : Conditions)
    (hcolumns : ∀ column ∈ columns, Text.marks column = 0) (hsource : Text.marks source = 0)
    (htext : statementText columns source conditions ≠ "") :
    ∃ head, Text.marks head = 0 ∧
      statementText columns source conditions = head ++ conditionSections conditions := by
  have hselect : Text.marks "SELECT " = 0 := by decide
  have hfrom : Text.marks " FROM " = 0 := by decide
  have hlist : Text.marks (String.intercalate ", " columns) = 0 := by
    rw [Text.marks_intercalate (by decide)]
    exact Text.sum_marks_eq_zero hcolumns
  refine ⟨"SELECT " ++ String.intercalate ", " columns ++ " FROM " ++ source, ?_, ?_⟩
  · simp only [Text.marks_append, hselect, hlist, hfrom, hsource]
  · unfold statementText selectText at htext ⊢
    split at htext
    next => exact absurd rfl htext
    next hne =>
      rw [if_neg hne, sourceTail]
      simp only [String.append_assoc]

/-- The statement of an ungrouped query against an unmarked level is an unmarked head and the
conditions. -/
theorem exists_head_of_simple {query : SimpleQuery}
    (hrequest : (Request.ofSelection catalog.metadata selection).Unmarked)
    (hlevel : Text.marks query.level = 0) (hgroups : query.conditions.groupBy = [])
    (h : (QuerySpec.simple query).compile catalog.metadata selection = .ok text)
    (htext : text ≠ "") :
    ∃ head, Text.marks head = 0 ∧ text = head ++ conditionSections query.conditions := by
  rcases compile_eq_ok.mp h with ⟨statement, hstatement, rfl⟩
  rcases SimpleQuery.statement_eq_ok.mp hstatement with
    ⟨-, grouped, checked, items, entity, hgrouped, -, hitems, hentity, rfl⟩
  rw [hgroups] at hgrouped
  cases Except.ok.inj hgrouped
  refine exists_head query.conditions ?_ (hrequest.entityAt hentity).table htext
  intro column hcolumn
  rcases List.mem_map.mp hcolumn with ⟨item, hitem, rfl⟩
  exact hrequest.marks_of_selectItems hlevel hitems item hitem

/-- The statement of an unmarked join query is an unmarked head and the conditions. -/
theorem exists_head_of_join {query : JoinQuery}
    (hrequest : (Request.ofSelection catalog.metadata selection).Unmarked)
    (hquery : query.Unmarked)
    (h : (QuerySpec.join query).compile catalog.metadata selection = .ok text)
    (htext : text ≠ "") :
    ∃ head, Text.marks head = 0 ∧ text = head ++ conditionSections query.conditions := by
  rcases JoinQuery.compile_join_eq_ok h with ⟨plan, hplan, rfl⟩
  rcases JoinQuery.checkedPlan_eq_ok.mp hplan with ⟨-, checked, -, hplan⟩
  rcases JoinQuery.unmarked_of_plan hquery hrequest hplan with ⟨hitems, hsource⟩
  refine exists_head query.conditions ?_ hsource htext
  intro column hcolumn
  rcases List.mem_map.mp hcolumn with ⟨item, hitem, rfl⟩
  exact hitems item hitem

/-- A statement over unmarked metadata that is built by calls is made of an unmarked head and
the conditions of the calls. -/
theorem BuiltBy.exists_head (hbuilt : spec.BuiltBy calls)
    (hcatalog : Catalog.ofDefs definitions = .ok catalog)
    (hunmarked : ∀ definition ∈ definitions, definition.Unmarked)
    (h : spec.compile catalog.metadata selection = .ok text) (htext : text ≠ "") :
    ∃ head, Text.marks head = 0 ∧
      text = head ++ conditionSections (Conditions.run {} calls) := by
  have hrequest := Catalog.unmarked_ofSelection hcatalog hunmarked selection
  have hcompares := hbuilt.compares
  cases hbuilt with
  | @simple query steps hsteps hbuild =>
      rcases SimpleDraft.build_eq_ok_iff.mp hbuild with ⟨hkey, -, hconditions⟩
      rw [SimpleDraft.conditions_run] at hconditions
      have hgroups : query.conditions.groupBy = [] := by
        rw [hconditions, Conditions.run_of_compares hcompares]
      have hdraft : SimpleDraft.Unmarked {} := fun level hnone => absurd hnone (by simp)
      rw [← hconditions]
      exact exists_head_of_simple hrequest (hdraft.run hsteps _ hkey) hgroups h htext
  | @join query steps hsteps hbuild =>
      rcases JoinDraft.build_eq_ok_iff.mp hbuild with ⟨hkey, -, hjoins, hconditions⟩
      rw [JoinDraft.conditions_run] at hconditions
      have hquery : query.Unmarked := by
        have hdraft : JoinDraft.Unmarked {} :=
          ⟨fun level hnone => absurd hnone (by simp), fun level hnone => absurd hnone (by simp)⟩
        have hrun := hdraft.run hsteps
        refine ⟨hrun.key _ hkey, ?_⟩
        intro join hjoin
        rw [hjoins] at hjoin
        exact hrun.joins _ (List.mem_map_of_mem hjoin)
      rw [← hconditions]
      exact exists_head_of_join hrequest hquery h htext

/-- Over accepted metadata without marks, the statement of a query that is built by calls is cut
into fragments, of which each that comes from a call is what the call appends, and every mark
comes from a call.  These calls follow one another in the order in which they were made exactly
when no call for `HAVING` parameters comes before one for `WHERE` parameters. -/
theorem bound_in_call_order_iff (hcatalog : Catalog.ofDefs definitions = .ok catalog)
    (hunmarked : ∀ definition ∈ definitions, definition.Unmarked)
    (hbuilt : spec.BuiltBy calls) (h : spec.compile catalog.metadata selection = .ok text)
    (htext : text ≠ "") :
    ∃ head, Text.marks head = 0 ∧ text = Fragment.joined (statementFragments head calls) ∧
      (∀ fragment ∈ statementFragments head calls, ∀ place, fragment.call = some place →
        ∃ call token, calls[place]? = some call ∧
          (call.whereToken? = some token ∨ call.havingToken? = some token) ∧
          fragment.text = token.text) ∧
      Fragment.markCalls (statementFragments head calls) = (bindingOrder calls).map some ∧
      ((bindingOrder calls).Pairwise (· ≤ ·) ↔
        ∀ (early late : Nat) (earlier later : ConditionStep), early < late →
          calls[early]? = some earlier → calls[late]? = some later →
            ¬ (earlier.Binds ConditionStep.havingToken? ∧
              later.Binds ConditionStep.whereToken?)) := by
  rcases hbuilt.exists_head hcatalog hunmarked h htext with ⟨head, hhead, heq⟩
  refine ⟨head, hhead, ?_, ?_, markCalls_statementFragments hhead,
    pairwise_bindingOrder_iff hbuilt.compares⟩
  · rw [joined_statementFragments hbuilt.compares, heq]
  · intro fragment hfragment place hplace
    exact call_of_mem_statementFragments hfragment hplace

end QuerySpec

namespace Hospital

/-- A call that filters hospitals by their name. -/
def byName : ConditionStep :=
  .filter (.bare "name") .equal

/-- A call that filters groups of hospitals by their size. -/
def byCount : ConditionStep :=
  .havingAggregate .count (.bare "name") .greaterThan

/-- The query that a builder gives after some calls. -/
def calledWith (calls : List ConditionStep) : QuerySpec :=
  .simple ⟨Level.root, Conditions.run {} calls⟩

/-- A builder that takes some calls, and then the level of hospitals, gives this query. -/
theorem builtBy_calledWith {calls : List ConditionStep} (h : ∀ call ∈ calls, call.Compares) :
    (calledWith calls).BuiltBy calls := by
  have hcalls : (calls.map SimpleStep.condition ++ [SimpleStep.key Level.root]).filterMap
      SimpleStep.condition? = calls := by
    rw [List.filterMap_append, List.filterMap_map]
    simp [Function.comp_def, SimpleStep.condition?]
  have hbuild : (SimpleDraft.run {} (calls.map SimpleStep.condition ++ [.key Level.root])).build =
      .ok ⟨Level.root, Conditions.run {} calls⟩ := by
    rw [SimpleDraft.build_eq_ok_iff]
    have hblank : Text.isBlankText Level.root = false := by decide
    refine ⟨?_, hblank, ?_⟩
    · rw [SimpleDraft.run_append]
      rfl
    · rw [SimpleDraft.conditions_run, hcalls]
  have hbuilt := QuerySpec.BuiltBy.simple _ ?_ hbuild
  · rwa [hcalls] at hbuilt
  · intro step hstep
    rcases List.mem_append.mp hstep with hcondition | hkey
    · rcases List.mem_map.mp hcondition with ⟨call, hcall, rfl⟩
      exact h call hcall
    · cases List.mem_singleton.mp hkey
      exact Level.marks_root

theorem compares_filters : ∀ call ∈ [byName, byCount], call.Compares := by
  simp only [List.forall_mem_cons]
  exact ⟨rfl, rfl, List.forall_mem_nil _⟩

theorem unmarked_definitions : ∀ definition ∈ definitions, definition.Unmarked := by
  decide +kernel

/-- Rows are filtered before groups, and the parameters stand in this order. -/
theorem name_bound_before_count : ∃ head,
    "SELECT hospital_id, name FROM hospital_tbl WHERE name = ? HAVING COUNT(name) > ?" =
        Fragment.joined (statementFragments head [byName, byCount]) ∧
      Fragment.markCalls (statementFragments head [byName, byCount]) = [some 0, some 1] := by
  have hcompile : (calledWith [byName, byCount]).compile catalog.metadata hospitalNames =
      .ok "SELECT hospital_id, name FROM hospital_tbl WHERE name = ? HAVING COUNT(name) > ?" := by
    decide +kernel
  rcases QuerySpec.bound_in_call_order_iff ofDefs_definitions unmarked_definitions
    (builtBy_calledWith compares_filters) hcompile (by decide) with ⟨head, -, htext, -, hcalls, -⟩
  refine ⟨head, htext, hcalls.trans ?_⟩
  decide +kernel

/-- Parameters do not always stand in the order of the calls: a filter of groups that is
appended before one of rows gives way to it. -/
theorem not_forall_bound_in_call_order :
    ¬ ∀ (definitions : List EntityDef) (catalog : Catalog) (selection : Selection)
        (spec : QuerySpec) (calls : List ConditionStep) (text : String),
      Catalog.ofDefs definitions = .ok catalog →
      (∀ definition ∈ definitions, definition.Unmarked) → spec.BuiltBy calls →
      spec.compile catalog.metadata selection = .ok text → text ≠ "" →
      ∃ (head : String) (order : List Nat), Text.marks head = 0 ∧
        text = Fragment.joined (statementFragments head calls) ∧
        Fragment.markCalls (statementFragments head calls) = order.map some ∧
        order.Pairwise (· ≤ ·) := by
  intro hclaim
  have hcompares : ∀ call ∈ [byCount, byName], call.Compares := fun call hcall =>
    compares_filters call ((List.Perm.swap byName byCount []).mem_iff.mp hcall)
  have hcompile : (calledWith [byCount, byName]).compile catalog.metadata hospitalNames =
      .ok "SELECT hospital_id, name FROM hospital_tbl WHERE name = ? HAVING COUNT(name) > ?" := by
    decide +kernel
  rcases hclaim definitions catalog hospitalNames _ _ _ ofDefs_definitions unmarked_definitions
    (builtBy_calledWith hcompares) hcompile (by decide) with
    ⟨head, order, hhead, -, hcalls, hordered⟩
  rw [markCalls_statementFragments hhead] at hcalls
  have horder : order = [1, 0] := by
    have hbinding : bindingOrder [byCount, byName] = [1, 0] := by decide +kernel
    rw [hbinding] at hcalls
    exact ((List.map_inj_right fun _ _ => Option.some.inj).mp hcalls).symm
  rw [horder] at hordered
  exact absurd hordered (by decide)

end Hospital

end SelectionSql
