import SelectionSql.Proofs.Columns
import SelectionSql.Proofs.Entities
import SelectionSql.Proofs.JoinPlan
import SelectionSql.Proofs.Reach
import SelectionSql.Proofs.Statements

/-!
# Aggregates - Which aggregates a statement applies

The keys of aggregates are checked first, then the levels to select are found, and each
of them looks its columns up among the checked keys.  A key passes the check without a
look at the levels, and of two keys that name one column only one stays.

Main results:

- `exists_get?_checkedAggregates`, `exists_of_get?_checkedAggregates`: which keys stay.
- `QuerySpec.selects_of_statement`: every form of query selects the columns of some levels.
- `QuerySpec.aggregates_applied_iff`: when a statement applies every aggregate asked for.
-/

namespace SelectionSql

/-! ## Checked keys -/

section

variable {request : Request} {anchor : Level} {style : ColumnStyle}
variable {aggregates checked : AggregateMap} {key : String} {function : Aggregate}

/-- The column that an accepted key names exists, and its written key is bound. -/
theorem exists_get?_checkedAggregates
    (h : checkedAggregates request anchor style aggregates = .ok checked)
    (hkey : aggregates.get? key = some function) :
    request.Maps (splitKey anchor key).1 (splitKey anchor key).2 ∧
      ∃ last, checked.get? (style.key (splitKey anchor key).1 (splitKey anchor key).2) =
        some last := by
  rcases Outcome.map_eq_ok.mp h with ⟨bindings, hbindings, rfl⟩
  have hentry := (aggregates.mem_entries_iff key function).mpr hkey
  rcases Outcome.exists_of_mem_mapM hbindings hentry with ⟨binding, hbinding, hchecked⟩
  rcases Outcome.map_eq_ok.mp hchecked with ⟨written, hwritten, rfl⟩
  rcases checkedKey_eq_ok.mp hwritten with ⟨-, hmaps, rfl⟩
  exact ⟨hmaps, SortedMap.exists_get?_ofList (List.mem_map_of_mem hbinding)⟩

/-- What is bound to a checked key was asked for under a key that is written so. -/
theorem exists_of_get?_checkedAggregates {written : String}
    (h : checkedAggregates request anchor style aggregates = .ok checked)
    (hwritten : checked.get? written = some function) :
    ∃ key, aggregates.get? key = some function ∧
      style.key (splitKey anchor key).1 (splitKey anchor key).2 = written := by
  rcases Outcome.map_eq_ok.mp h with ⟨bindings, hbindings, rfl⟩
  have hbinding := SortedMap.mem_of_get?_ofList hwritten
  rcases Outcome.exists_of_mapM hbindings hbinding with ⟨⟨key, value⟩, hentry, hchecked⟩
  rcases Outcome.map_eq_ok.mp hchecked with ⟨other, hother, heq⟩
  rcases Prod.mk.inj heq with ⟨rfl, rfl⟩
  rcases checkedKey_eq_ok.mp hother with ⟨-, -, rfl⟩
  exact ⟨key, (aggregates.mem_entries_iff key value).mp hentry, rfl⟩

end

/-! ## Forms of queries -/

namespace QuerySpec

/-- The level at which a query is anchored. -/
def anchor : QuerySpec → Level
  | simple query => query.level
  | join query => query.anchor
  | native (.simple level _ _) => level
  | native (.join anchor _ _ _) => anchor

/-- How a query writes its columns. -/
def style : QuerySpec → ColumnStyle
  | simple _ => .bare
  | join query => .qualified query.anchor
  | native (.simple _ _ _) => .bare
  | native (.join anchor _ _ _) => .qualified anchor

/-- The aggregates that a query asks for. -/
def aggregates : QuerySpec → AggregateMap
  | simple query => query.conditions.aggregates
  | join query => query.conditions.aggregates
  | native query => query.aggregates

/-- A key of an aggregate with its placeholders replaced, where a query has some. -/
def rewriteKey (spec : QuerySpec) (key : String) : String :=
  match spec with
  | native (.join _ _ aliases _) => substituteAliases aliases key
  | _ => key

/-- The aggregates that a query has checked. -/
def rewritten : QuerySpec → AggregateMap
  | native (.join _ _ aliases aggregates) => NativeQuery.substituteKeys aliases aggregates
  | spec => spec.aggregates

/-- The level and the column that a key of an aggregate names. -/
def namedColumn (spec : QuerySpec) (key : String) : Level × String :=
  splitKey spec.anchor (spec.rewriteKey key)

/-- The item that applies a function to the column that a key names. -/
def applied (spec : QuerySpec) (key : String) (function : Aggregate) : SelectItem :=
  ⟨spec.style, (spec.namedColumn key).1, (spec.namedColumn key).2, some function⟩

/-- Whether a query selects the columns of a level: those of its only level, of the levels
that it reaches, or of the mapped levels. -/
def Selects (spec : QuerySpec) (request : Request) (level : Level) : Prop :=
  match spec with
  | simple query => level = query.level
  | join query => query.Reaches request level
  | native (.simple anchor _ _) => level = anchor
  | native (.join _ _ aliases _) => level ∈ NativeQuery.aliasedLevels aliases request.selection

variable {spec : QuerySpec} {key : String} {function : Aggregate}

/-- Every key asked for is checked in its rewritten form. -/
theorem exists_get?_rewritten (h : spec.aggregates.get? key = some function) :
    ∃ last, spec.rewritten.get? (spec.rewriteKey key) = some last := by
  match spec with
  | simple query => exact ⟨function, h⟩
  | join query => exact ⟨function, h⟩
  | native (.simple level template aggregates) => exact ⟨function, h⟩
  | native (.join anchor template aliases aggregates) =>
      have hentry := (SortedMap.mem_entries_iff _ key function).mpr h
      refine SortedMap.exists_get?_ofList ?_
      rw [List.map_map]
      exact List.mem_map.mpr ⟨(key, function), hentry, rfl⟩

/-- Every key that is checked is the rewritten form of one asked for. -/
theorem exists_of_get?_rewritten (h : spec.rewritten.get? key = some function) :
    ∃ asked, spec.aggregates.get? asked = some function ∧ spec.rewriteKey asked = key := by
  match spec with
  | simple query => exact ⟨key, h, rfl⟩
  | join query => exact ⟨key, h, rfl⟩
  | native (.simple level template aggregates) => exact ⟨key, h, rfl⟩
  | native (.join anchor template aliases aggregates) =>
      rcases List.mem_map.mp (SortedMap.mem_of_get?_ofList h) with ⟨entry, hentry, heq⟩
      rcases Prod.mk.inj heq with ⟨hkey, rfl⟩
      exact ⟨entry.1, (SortedMap.mem_entries_iff _ entry.1 entry.2).mp hentry, hkey⟩

/-! ## Selected levels -/

/-- Items are selected by a query when they are those of the levels that it selects, over
its checked aggregates and perhaps more fields than were requested. -/
def SelectsItems (spec : QuerySpec) (request : Request) (items : List SelectItem) : Prop :=
  ∃ (fields : FieldMap) (checked : AggregateMap) (levels : List Level)
      (parts : List (List SelectItem)),
    checkedAggregates request spec.anchor spec.style spec.rewritten = .ok checked ∧
      (levels.mapM fun level =>
        selectItems (request.withFields fields) spec.style level checked) = .ok parts ∧
      items = parts.flatten ∧ ∀ level, level ∈ levels ↔ spec.Selects request level

variable {request : Request} {statement : Statement}

theorem selectsItems_simple {query : SimpleQuery}
    (h : query.statement request = .ok statement) :
    (simple query).SelectsItems request statement.items := by
  rcases SimpleQuery.statement_eq_ok.mp h with
    ⟨-, grouped, checked, items, entity, hgrouped, hchecked, hitems, -, rfl⟩
  have hfields : ∃ fields, grouped = request.withFields fields := by
    refine Outcome.foldlM_invariant (fun state => ∃ fields, state = request.withFields fields)
      ?_ ⟨request.fields, rfl⟩ hgrouped
    rintro state group next - ⟨fields, rfl⟩ hnext
    rcases Request.requestColumn_eq_ok hnext with ⟨more, rfl, -⟩
    exact ⟨more, rfl⟩
  rcases hfields with ⟨fields, rfl⟩
  refine ⟨fields, checked, [query.level], [items], hchecked, ?_, by simp, ?_⟩
  · exact Outcome.mapM_eq_ok.mpr (List.Forall₂.cons hitems List.Forall₂.nil)
  · exact fun level => List.mem_singleton

theorem selectsItems_join {query : JoinQuery} (h : query.statement request = .ok statement) :
    (join query).SelectsItems request statement.items := by
  rcases Outcome.map_eq_ok.mp h with ⟨plan, hplan, rfl⟩
  rcases JoinQuery.checkedPlan_eq_ok.mp hplan with ⟨-, checked, hchecked, hmade⟩
  rcases JoinQuery.plan_eq_ok.mp hmade with ⟨prepared, -, -, hprepared, -, -⟩
  rcases JoinQuery.items_of_plan hprepared hmade with ⟨parts, hparts, hitems⟩
  rcases JoinQuery.contains_of_prepare hprepared with ⟨fields, rfl, -⟩
  refine ⟨fields, checked, plan.levels, parts, hchecked, hparts, hitems, ?_⟩
  exact fun level => JoinQuery.mem_levels_of_plan hmade

theorem selectsItems_native {query : NativeQuery}
    (h : query.statement request = .ok statement) :
    (native query).SelectsItems request statement.items := by
  cases query with
  | simple level template aggregates =>
      rcases NativeQuery.simpleStatement_eq_ok.mp h with
        ⟨-, -, checked, items, hchecked, hitems, rfl⟩
      refine ⟨request.fields, checked, [level], [items], hchecked, ?_, by simp, ?_⟩
      · exact Outcome.mapM_eq_ok.mpr (List.Forall₂.cons hitems List.Forall₂.nil)
      · exact fun level => List.mem_singleton
  | join anchor template aliases aggregates =>
      rcases NativeQuery.joinStatement_eq_ok.mp h with
        ⟨-, -, checked, parts, hchecked, hparts, rfl⟩
      exact ⟨request.fields, checked, _, parts, hchecked, hparts, rfl, fun level => Iff.rfl⟩

/-- Whatever its form, a query selects the columns of some levels. -/
theorem selects_of_statement {metadata : Metadata} {selection : Selection}
    (h : spec.statement metadata selection = .ok statement) :
    spec.SelectsItems (Request.ofSelection metadata selection) statement.items := by
  cases spec with
  | simple query => exact selectsItems_simple h
  | join query => exact selectsItems_join h
  | native query => exact selectsItems_native h

/-! ## Applied aggregates -/

/-- What is looked up for a column was asked for under a key that names it so. -/
theorem exists_asked {checked : AggregateMap} {written : String}
    (h : checkedAggregates request spec.anchor spec.style spec.rewritten = .ok checked)
    (hwritten : checked.get? written = some function) :
    ∃ key, spec.aggregates.get? key = some function ∧
      (spec.applied key function).source = written := by
  rcases exists_of_get?_checkedAggregates h hwritten with ⟨rewritten, hrewritten, hsource⟩
  rcases exists_of_get?_rewritten hrewritten with ⟨key, hkey, rfl⟩
  exact ⟨key, hkey, hsource⟩

/-- An aggregate that a statement applies is the one looked up for its column. -/
theorem get?_of_applied_mem {fields : FieldMap} {checked : AggregateMap} {levels : List Level}
    {parts : List (List SelectItem)}
    (h : (levels.mapM fun level =>
      selectItems (request.withFields fields) spec.style level checked) = .ok parts)
    (hmem : spec.applied key function ∈ parts.flatten) :
    (spec.namedColumn key).1 ∈ levels ∧
      checked.get? (spec.applied key function).source = some function := by
  rcases exists_of_mem_flatten h hmem with ⟨hlevel, heq⟩
  exact ⟨hlevel, (congrArg SelectItem.aggregate heq).symm⟩

/-- The item of an aggregate applies its function to the column, and a statement over
accepted metadata has the items of all aggregates exactly when the query selects the levels
that the keys name and no two keys ask for different functions of one column. -/
theorem aggregates_applied_iff {definitions : List EntityDef} {catalog : Catalog}
    {selection : Selection} (hcatalog : Catalog.ofDefs definitions = .ok catalog)
    (h : spec.statement catalog.metadata selection = .ok statement) :
    (∀ key function, (spec.applied key function).text =
      function.apply (spec.applied key function).source ++ " AS " ++
        (spec.applied key function).outputName) ∧
    ((∀ key function, spec.aggregates.get? key = some function →
        spec.applied key function ∈ statement.items) ↔
      (∀ key function, spec.aggregates.get? key = some function →
        spec.Selects (Request.ofSelection catalog.metadata selection)
          (spec.namedColumn key).1) ∧
      ∀ key function other last, spec.aggregates.get? key = some function →
        spec.aggregates.get? other = some last →
        (spec.applied key function).source = (spec.applied other last).source →
          function = last) := by
  obtain ⟨fields, checked, levels, parts, hchecked, hparts, hitems, hlevels⟩ :=
    selects_of_statement h
  refine ⟨?_, ?_⟩
  · intro key function
    unfold SelectItem.text
    cases (spec.applied key function).style <;> rfl
  rw [hitems]
  constructor
  · intro happlied
    refine ⟨?_, ?_⟩
    · intro key function hkey
      exact (hlevels _).mp (get?_of_applied_mem hparts (happlied key function hkey)).1
    · intro key function other last hkey hother hsource
      have hfunction := (get?_of_applied_mem hparts (happlied key function hkey)).2
      have hlast := (get?_of_applied_mem hparts (happlied other last hother)).2
      rw [← hsource, hfunction] at hlast
      exact Option.some.inj hlast
  · rintro ⟨hselects, hunique⟩ key function hkey
    rcases exists_get?_rewritten hkey with ⟨first, hrewritten⟩
    obtain ⟨⟨entity, hentity, hcolumn⟩, last, hlast⟩ :=
      exists_get?_checkedAggregates hchecked hrewritten
    -- the function that stays for the column is one that was asked for, hence this one
    rcases exists_asked hchecked hlast with ⟨other, hother, hsource⟩
    rcases hunique key function other last hkey hother hsource.symm with rfl
    obtain ⟨part, hpart, hselected⟩ := Outcome.exists_of_mem_mapM hparts
      ((hlevels _).mpr (hselects key function hkey))
    rcases Request.entityAt_eq_ok.mp hentity with ⟨name, -, hname⟩
    have hpaired := Catalog.paired_of_ofDefs hcatalog hname
    have hmem := columnItem_mem_selectItems (fun column field => (hpaired column field).mp)
      ((Request.entityAt_withFields fields).trans hentity) hcolumn hlast hselected
    have hitem : columnItem spec.style (spec.namedColumn key).1 checked
        (spec.namedColumn key).2 = spec.applied key function := by
      rw [columnItem, applied]
      congr 1
    exact List.mem_flatten.mpr ⟨part, hpart, hitem ▸ hmem⟩

end QuerySpec

namespace Hospital

/-- A query that counts the surgeons of hospitals. -/
def counted : QuerySpec :=
  .join
    { anchor := Level.root
      joins := [⟨"surgeon", .inner⟩]
      conditions := { aggregates := SortedMap.ofList [("surgeon.surgeon_id", .count)] } }

/-- The statement selects the name of the hospital, and nothing is counted. -/
theorem statement_counted :
    (counted.statement catalog.metadata hospitalNames).map
        (fun statement => (statement.text,
          decide (counted.applied "surgeon.surgeon_id" .count ∈ statement.items))) =
      .ok ("SELECT rootObject.name AS name FROM hospital_tbl rootObject", false) := by
  decide +kernel

/-- The surgeons are counted and not selected. -/
theorem surgeon_not_selected :
    ¬ counted.Selects (Request.ofSelection catalog.metadata hospitalNames) "surgeon" := by
  intro hselects
  rcases Outcome.map_eq_ok.mp statement_counted with ⟨statement, hstatement, heq⟩
  rcases QuerySpec.aggregates_applied_iff ofDefs_definitions hstatement with ⟨-, hiff⟩
  have hkeys : ∀ key function, counted.aggregates.get? key = some function →
      key = "surgeon.surgeon_id" ∧ function = .count := by
    intro key function hkey
    exact Prod.mk.inj (List.mem_singleton.mp (SortedMap.mem_of_get?_ofList hkey))
  have happlied : counted.applied "surgeon.surgeon_id" .count ∈ statement.items := by
    refine hiff.mpr ⟨?_, ?_⟩ _ _ (by decide +kernel)
    · intro key function hkey
      rw [(hkeys key function hkey).1]
      exact hselects
    · intro key function other last hkey hother _
      rw [(hkeys key function hkey).2, (hkeys other last hother).2]
  exact of_decide_eq_false (Prod.mk.inj heq).2 happlied

/-- Statements over accepted metadata do not always apply the aggregates asked for. -/
theorem not_forall_aggregates_applied :
    ¬ ∀ (definitions : List EntityDef) (catalog : Catalog) (selection : Selection)
        (spec : QuerySpec) (statement : Statement),
      Catalog.ofDefs definitions = .ok catalog →
      spec.statement catalog.metadata selection = .ok statement → statement.text ≠ "" →
      ∀ key function, spec.aggregates.get? key = some function →
        spec.applied key function ∈ statement.items := by
  intro hclaim
  rcases Outcome.map_eq_ok.mp statement_counted with ⟨statement, hstatement, heq⟩
  rcases Prod.mk.inj heq with ⟨htext, hdropped⟩
  have happlied := hclaim definitions catalog hospitalNames counted statement ofDefs_definitions
    hstatement (by rw [htext]; decide) "surgeon.surgeon_id" .count (by decide +kernel)
  exact of_decide_eq_false hdropped happlied

end Hospital

end SelectionSql
