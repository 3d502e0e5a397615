import SelectionSql.Plan.Statement
import SelectionSql.Proofs.Outcome

/-!
# Statements - What succeeded before a statement

A statement is made in steps of which each may fail.  Here every form of query is taken apart
once, into its keys that are not blank and the results of its steps.

Main results:

- `SimpleQuery.statement_eq_ok`, `JoinQuery.checkedPlan_eq_ok`,
  `NativeQuery.simpleStatement_eq_ok`, `NativeQuery.joinStatement_eq_ok`: the steps of each form.
- `JoinQuery.compile_join_eq`: the text of a join query is that of its checked plan.
-/

namespace SelectionSql

variable {request : Request} {statement : Statement} {aggregates : AggregateMap}

/-- A given key is required successfully exactly when it is not blank. -/
theorem requireKey_some_eq_ok {shape : QueryShape} {key level : Level} :
    requireKey shape (some key) = .ok level ↔ Text.isBlankText key = false ∧ key = level := by
  rw [requireKey_eq_ok_iff, Option.some.injEq]
  constructor
  · rintro ⟨rfl, hblank⟩
    exact ⟨hblank, rfl⟩
  · rintro ⟨hblank, rfl⟩
    exact ⟨rfl, hblank⟩

/-- A given template is required successfully exactly when it is not blank. -/
theorem requireTemplate_some_eq_ok {template result : String} :
    requireTemplate (some template) = .ok result ↔
      Text.isBlankText template = false ∧ template = result := by
  cases hblank : Text.isBlankText template <;> simp [requireTemplate, hblank]

/-- The steps of a statement against one level. -/
theorem SimpleQuery.statement_eq_ok {query : SimpleQuery} :
    query.statement request = .ok statement ↔
      Text.isBlankText query.level = false ∧ ∃ grouped checked items entity,
        query.conditions.groupBy.foldlM
            (fun request group => request.requestColumn query.level group.column) request =
          .ok grouped ∧
        checkedAggregates grouped query.level .bare query.conditions.aggregates = .ok checked ∧
        selectItems grouped .bare query.level checked = .ok items ∧
        grouped.entityAt query.level = .ok entity ∧
        statement = ⟨items, sourceTail entity.table query.conditions⟩ := by
  unfold SimpleQuery.statement
  simp only [Outcome.bind_eq_ok, requireKey_some_eq_ok]
  constructor
  · rintro ⟨level, ⟨hblank, rfl⟩, grouped, hgrouped, checked, hchecked, items, hitems, entity,
      hentity, hstatement⟩
    exact ⟨hblank, grouped, checked, items, entity, hgrouped, hchecked, hitems, hentity,
      (Except.ok.inj hstatement).symm⟩
  · rintro ⟨hblank, grouped, checked, items, entity, hgrouped, hchecked, hitems, hentity, rfl⟩
    exact ⟨_, ⟨hblank, rfl⟩, grouped, hgrouped, checked, hchecked, items, hitems, entity, hentity,
      rfl⟩

namespace JoinQuery

variable {query : JoinQuery} {plan : JoinPlan}

/-- The steps of a checked plan. -/
theorem checkedPlan_eq_ok :
    query.checkedPlan request = .ok plan ↔
      Text.isBlankText query.anchor = false ∧ ∃ checked,
        checkedAggregates request query.anchor (.qualified query.anchor)
          query.conditions.aggregates = .ok checked ∧
        query.plan request checked = .ok plan := by
  unfold checkedPlan
  simp only [Outcome.bind_eq_ok, requireKey_some_eq_ok]
  constructor
  · rintro ⟨anchor, ⟨hblank, rfl⟩, checked, hchecked, hplan⟩
    exact ⟨hblank, checked, hchecked, hplan⟩
  · rintro ⟨hblank, checked, hchecked, hplan⟩
    exact ⟨_, ⟨hblank, rfl⟩, checked, hchecked, hplan⟩

/-- The text of a join query is that of its checked plan. -/
theorem compile_join_eq (query : JoinQuery) (metadata : Metadata) (selection : Selection) :
    (QuerySpec.join query).compile metadata selection =
      (query.checkedPlan (Request.ofSelection metadata selection)).map fun plan =>
        statementText (plan.items.map SelectItem.text) plan.source.text query.conditions := by
  show ((query.checkedPlan _).map _).map _ = _
  cases query.checkedPlan (Request.ofSelection metadata selection) <;> rfl

/-- A text of a join query comes of its checked plan. -/
theorem compile_join_eq_ok {metadata : Metadata} {selection : Selection} {text : String}
    (h : (QuerySpec.join query).compile metadata selection = .ok text) :
    ∃ plan, query.checkedPlan (Request.ofSelection metadata selection) = .ok plan ∧
      text = statementText (plan.items.map SelectItem.text) plan.source.text
        query.conditions := by
  rw [compile_join_eq] at h
  obtain ⟨plan, hplan, htext⟩ := Outcome.map_eq_ok.mp h
  exact ⟨plan, hplan, htext.symm⟩

end JoinQuery

namespace NativeQuery

variable {level anchor : Level} {template : String} {aliases : List TableAlias}

/-- The steps of a statement of a template over one level. -/
theorem simpleStatement_eq_ok :
    simpleStatement level template aggregates request = .ok statement ↔
      Text.isBlankText level = false ∧ Text.isBlankText template = false ∧ ∃ checked items,
        checkedAggregates request level .bare aggregates = .ok checked ∧
        selectItems request .bare level checked = .ok items ∧
        statement = ⟨items, " " ++ Text.trim template⟩ := by
  unfold simpleStatement
  simp only [Outcome.bind_eq_ok, requireKey_some_eq_ok, requireTemplate_some_eq_ok]
  constructor
  · rintro ⟨key, ⟨hkey, rfl⟩, text, ⟨htext, rfl⟩, checked, hchecked, items, hitems, hstatement⟩
    exact ⟨hkey, htext, checked, items, hchecked, hitems, (Except.ok.inj hstatement).symm⟩
  · rintro ⟨hkey, htext, checked, items, hchecked, hitems, rfl⟩
    exact ⟨_, ⟨hkey, rfl⟩, _, ⟨htext, rfl⟩, checked, hchecked, items, hitems, rfl⟩

/-- The steps of a statement of a template over mapped levels. -/
theorem joinStatement_eq_ok :
    joinStatement anchor template aliases aggregates request = .ok statement ↔
      Text.isBlankText anchor = false ∧ Text.isBlankText template = false ∧ ∃ checked parts,
        checkedAggregates request anchor (.qualified anchor)
          (substituteKeys aliases aggregates) = .ok checked ∧
        ((aliasedLevels aliases request.selection).mapM fun level =>
          selectItems request (.qualified anchor) level checked) = .ok parts ∧
        statement =
          ⟨parts.flatten, " " ++ substituteAliases aliases (Text.trim template)⟩ := by
  unfold joinStatement
  simp only [Outcome.bind_eq_ok, requireKey_some_eq_ok, requireTemplate_some_eq_ok]
  constructor
  · rintro ⟨key, ⟨hkey, rfl⟩, text, ⟨htext, rfl⟩, checked, hchecked, parts, hparts, hstatement⟩
    exact ⟨hkey, htext, checked, parts, hchecked, hparts, (Except.ok.inj hstatement).symm⟩
  · rintro ⟨hkey, htext, checked, parts, hchecked, hparts, rfl⟩
    exact ⟨_, ⟨hkey, rfl⟩, _, ⟨htext, rfl⟩, checked, hchecked, parts, hparts, rfl⟩

end NativeQuery

end SelectionSql
