import SelectionSql.Proofs.AggregateColumns
import SelectionSql.Proofs.PreparedFields
import SelectionSql.Proofs.TableAliases
import SelectionSql.Selection.Path

/-!
# Anchor keys - When a join query selects the key of an anchor that is not requested

The key fields of an entity are selected for two reasons: they are among its join keys, which
are left out when there are aggregates, and they are requested where the anchor has no entry in
the field map.  An entry without fields, which paths leave at the levels that they only pass,
counts as a request there, so that with aggregates neither reason may apply.

Main results:

- `Entity.WellFormed.exists_contributed_iff`: for which reasons a column of a level is selected.
- `exists_get?_anchorKey_iff`: which aggregates are applied to a column of the anchor.
- `JoinQuery.selects_anchorKey_iff`: when a plan selects a key column of its anchor.
- `QuerySpec.anchorKey_selected_iff`: the same of every statement over accepted metadata.
-/

namespace SelectionSql

section

variable {entity : Entity} {style : ColumnStyle} {level anchor : Level}
variable {requested : List String} {aggregates checked : AggregateMap}
variable {column key : String} {request : Request}

/-! ## Reasons to select a column -/

/-- Whether a column belongs to the primary key. -/
def Entity.HasKeyColumn (entity : Entity) (column : String) : Prop :=
  ∃ field ∈ entity.keyFields, entity.columnForField field = some column

/-- A column that an entity maps is selected for its join keys unless there are aggregates, for
a requested name, or for its own aggregate. -/
theorem Entity.WellFormed.exists_contributed_iff (h : entity.WellFormed)
    (hcolumn : entity.hasColumn column = true) :
    (∃ name ∈ contributedNames entity style level requested checked,
        entity.resolve? name = some column) ↔
      (checked.entries = [] ∧ ∃ name ∈ entity.joinKeyFields, entity.resolve? name = some column) ∨
        (∃ name ∈ requested, entity.resolve? name = some column) ∨
        ∃ function, checked.get? (style.key level column) = some function := by
  have hown : (∃ name ∈ checked.keys.filterMap (fun key =>
      (style.columnOfKey? level key).bind entity.fieldForColumn),
        entity.resolve? name = some column) ↔
      ∃ function, checked.get? (style.key level column) = some function := by
    constructor
    · rintro ⟨name, hname, hresolve⟩
      obtain ⟨key, hkey, hfield⟩ := List.mem_filterMap.mp hname
      obtain ⟨other, hother, hfront⟩ := Option.bind_eq_some_iff.mp hfield
      cases Option.some.inj ((h.resolve?_of_column hfront).symm.trans hresolve)
      rw [← ColumnStyle.columnOfKey?_eq_some.mp hother]
      exact SortedMap.exists_get?_of_mem_keys hkey
    · rintro ⟨function, hfunction⟩
      obtain ⟨field, hfield⟩ := Option.isSome_iff_exists.mp hcolumn
      refine ⟨field, List.mem_filterMap.mpr ⟨_, SortedMap.mem_keys_of_get? hfunction, ?_⟩,
        h.resolve?_of_column hfield⟩
      rw [ColumnStyle.columnOfKey?_key]
      exact hfield
  rw [← hown, contributedNames]
  simp only [List.mem_append, or_and_right, exists_or, or_assoc]
  by_cases hempty : checked.entries = []
  · simp [hempty]
  · simp [hempty]

/-! ## Aggregates of the anchor -/

/-- Whether a key asks for a column of the anchor, behind the anchor or, when the column has no
dot, by itself. -/
def NamesAnchorColumn (anchor : Level) (column key : String) : Prop :=
  key = anchor ++ "." ++ column ∨ ('.' ∉ key.toList ∧ key = column)

/-- A key is written behind the anchor exactly when it asks for the column of the anchor. -/
theorem key_splitKey_eq_iff :
    (ColumnStyle.qualified anchor).key (splitKey anchor key).1 (splitKey anchor key).2 =
      anchor ++ "." ++ column ↔ NamesAnchorColumn anchor column key := by
  have hnames : NamesColumn anchor key (splitKey anchor key).1 (splitKey anchor key).2 :=
    splitKey_eq_iff.mp rfl
  generalize (splitKey anchor key).1 = level at hnames
  generalize (splitKey anchor key).2 = named at hnames
  unfold NamesAnchorColumn
  cases hnames with
  | dotted hlevel =>
      have hdot : '.' ∈ (level ++ "." ++ named).toList := by simp
      simp only [hdot, not_true_eq_false, false_and, or_false]
      exact Iff.rfl
  | plain hkey =>
      have hne : key ≠ anchor ++ "." ++ column := by
        rintro rfl
        simp at hkey
      have hsame : anchor ++ "." ++ key = anchor ++ "." ++ column ↔ key = column := by
        simp [← String.toList_inj]
      simp only [ColumnStyle.key, hsame, hne, hkey, not_false_eq_true, true_and, false_or]

/-- Checking keeps an aggregate for a column of the anchor exactly when it is asked for. -/
theorem exists_get?_anchorKey_iff
    (h : checkedAggregates request anchor (.qualified anchor) aggregates = .ok checked) :
    (∃ function, checked.get? ((ColumnStyle.qualified anchor).key anchor column) =
        some function) ↔
      ∃ key ∈ aggregates.keys, NamesAnchorColumn anchor column key := by
  constructor
  · rintro ⟨function, hfunction⟩
    obtain ⟨key, hkey, hwritten⟩ := exists_of_get?_checkedAggregates h hfunction
    exact ⟨key, SortedMap.mem_keys_of_get? hkey, key_splitKey_eq_iff.mp hwritten⟩
  · rintro ⟨key, hkey, hnames⟩
    obtain ⟨function, hfunction⟩ := SortedMap.exists_get?_of_mem_keys hkey
    obtain ⟨-, last, hlast⟩ := exists_get?_checkedAggregates h hfunction
    rw [key_splitKey_eq_iff.mpr hnames] at hlast
    exact ⟨last, hlast⟩

/-- Checking leaves no aggregates exactly when none are asked for. -/
theorem entries_checkedAggregates_eq_nil
    (h : checkedAggregates request anchor style aggregates = .ok checked) :
    checked.entries = [] ↔ aggregates.entries = [] := by
  constructor
  · intro hchecked
    refine List.eq_nil_iff_forall_not_mem.mpr fun entry hentry => ?_
    obtain ⟨-, last, hlast⟩ := exists_get?_checkedAggregates h
      ((aggregates.mem_entries_iff entry.1 entry.2).mp hentry)
    have hmem := (checked.mem_entries_iff _ last).mpr hlast
    rw [hchecked] at hmem
    exact List.not_mem_nil hmem
  · intro haggregates
    refine List.eq_nil_iff_forall_not_mem.mpr fun entry hentry => ?_
    obtain ⟨key, hkey, -⟩ := exists_of_get?_checkedAggregates h
      ((checked.mem_entries_iff entry.1 entry.2).mp hentry)
    have hmem := (aggregates.mem_entries_iff key _).mpr hkey
    rw [haggregates] at hmem
    exact List.not_mem_nil hmem

end

/-! ## Plans -/

/-- Whether a plan selects a column of a level. -/
def JoinPlan.Selects (plan : JoinPlan) (level : Level) (column : String) : Prop :=
  ∃ item ∈ plan.items, item.level = level ∧ item.column = column

namespace JoinQuery

variable {query : JoinQuery} {request prepared : Request} {aggregates : AggregateMap}
variable {plan : JoinPlan} {entity : Entity} {column : String}

/-- A plan selects the columns of its anchor that the entity there contributes. -/
theorem selects_anchor_iff (hprepared : query.prepare request = .ok prepared)
    (h : query.plan request aggregates = .ok plan)
    (hentity : request.entityAt query.anchor = .ok entity) :
    plan.Selects query.anchor column ↔
      ∃ name ∈ contributedNames entity (.qualified query.anchor) query.anchor
        (prepared.fieldsAt query.anchor) aggregates, entity.resolve? name = some column := by
  constructor
  · rintro ⟨item, hitem, hlevel, rfl⟩
    obtain ⟨-, found, hfound, name, hname, hresolve, -⟩ := (mem_items_of_plan hprepared h).mp hitem
    rw [hlevel] at hfound hname
    cases Except.ok.inj (hentity.symm.trans hfound)
    exact ⟨name, hname, hresolve⟩
  · rintro ⟨name, hname, hresolve⟩
    have hanchor : query.anchor ∈ plan.levels := (mem_levels_of_plan h).mpr (Or.inl rfl)
    exact ⟨columnItem (.qualified query.anchor) query.anchor aggregates column,
      (mem_items_of_plan hprepared h).mpr ⟨hanchor, entity, hentity, name, hname, hresolve, rfl⟩,
      rfl, rfl⟩

/-- A plan whose anchor has no requested and no grouped fields selects a key column there when
there are no aggregates, when the anchor has no entry among the requested fields, or for the
aggregate of the column. -/
theorem selects_anchorKey_iff (hsound : request.Sound)
    (h : query.plan request aggregates = .ok plan)
    (hentity : request.entityAt query.anchor = .ok entity)
    (hfields : request.fieldsAt query.anchor = []) (hgroups : ¬ query.Groups request query.anchor)
    (hkey : entity.HasKeyColumn column) :
    plan.Selects query.anchor column ↔
      aggregates.entries = [] ∨ request.fields.contains query.anchor = false ∨
        ∃ function, aggregates.get?
          ((ColumnStyle.qualified query.anchor).key query.anchor column) = some function := by
  obtain ⟨field, hfield, hcolumn⟩ := hkey
  have hwell : entity.WellFormed := hsound.entityAt hentity
  have hresolve : entity.resolve? field = some column := Entity.resolve?_of_field hcolumn
  have hjoinKey : ∃ name ∈ entity.joinKeyFields, entity.resolve? name = some column :=
    ⟨field, hwell.keyFields_subset field hfield, hresolve⟩
  rcases plan_eq_ok.mp h with ⟨prepared, -, -, hprepared, -, -⟩
  -- all that preparation requests at the anchor are its key fields
  have hrequested : (∃ name ∈ prepared.fieldsAt query.anchor,
      entity.resolve? name = some column) ↔ request.fields.contains query.anchor = false := by
    have hnone : ∀ name, ¬ query.RequestsForGroup request query.anchor name := by
      rintro name ⟨group, hgroup, hlevel, found, hfound, hfront⟩
      exact hgroups ⟨group, hgroup, hlevel, found, hfound, Option.isSome_iff_exists.mpr ⟨_, hfront⟩⟩
    constructor
    · rintro ⟨name, hname, -⟩
      rcases (mem_fieldsAt_of_prepare hprepared).mp hname with hasked | hgrouped | ⟨-, hkey⟩
      · rw [hfields] at hasked
        exact absurd hasked List.not_mem_nil
      · exact absurd hgrouped (hnone name)
      · exact hkey.1.1
    · intro habsent
      refine ⟨field, (mem_fieldsAt_of_prepare hprepared).mpr ?_, hresolve⟩
      exact Or.inr (Or.inr ⟨rfl, ⟨habsent, hgroups⟩, entity, hentity, hfield⟩)
  rw [selects_anchor_iff hprepared h hentity,
    hwell.exists_contributed_iff (hwell.hasColumn_of_resolve? hresolve), hrequested]
  simp only [hjoinKey, and_true]

end JoinQuery

/-- In every statement over accepted metadata, an anchor that has neither requested fields nor a
grouping column is selected with a key column exactly when the query has no aggregates, when the
selection has no entry at the anchor, or when an aggregate names the column. -/
theorem QuerySpec.anchorKey_selected_iff {definitions : List EntityDef} {catalog : Catalog}
    (hcatalog : Catalog.ofDefs definitions = .ok catalog) {selection : Selection}
    {query : JoinQuery} {text : String}
    (h : (QuerySpec.join query).compile catalog.metadata selection = .ok text)
    (hfields : (Request.ofSelection catalog.metadata selection).fieldsAt query.anchor = [])
    (hgroups : ¬ query.Groups (Request.ofSelection catalog.metadata selection) query.anchor) :
    ∃ plan entity,
      query.checkedPlan (Request.ofSelection catalog.metadata selection) = .ok plan ∧
      text = statementText (plan.items.map SelectItem.text) plan.source.text
        query.conditions ∧
      (Request.ofSelection catalog.metadata selection).entityAt query.anchor = .ok entity ∧
      ∀ column, entity.HasKeyColumn column →
        (plan.Selects query.anchor column ↔
          query.conditions.aggregates.entries = [] ∨
            selection.fields.contains query.anchor = false ∨
            ∃ key ∈ query.conditions.aggregates.keys,
              NamesAnchorColumn query.anchor column key) := by
  have hsound := Catalog.sound_ofSelection hcatalog selection
  obtain ⟨plan, hplan, htext⟩ := JoinQuery.compile_join_eq_ok h
  obtain ⟨-, checked, hchecked, hmade⟩ := JoinQuery.checkedPlan_eq_ok.mp hplan
  rcases JoinQuery.plan_eq_ok.mp hmade with ⟨prepared, anchored, -, hprepared, hanchored, -⟩
  rcases Outcome.bind_eq_ok.mp hanchored with ⟨entity, hentity, -⟩
  rcases JoinQuery.contains_of_prepare hprepared with ⟨fields, rfl, -⟩
  rw [Request.entityAt_withFields] at hentity
  refine ⟨plan, entity, hplan, htext, hentity, ?_⟩
  intro column hkey
  rw [JoinQuery.selects_anchorKey_iff hsound hmade hentity hfields hgroups hkey,
    entries_checkedAggregates_eq_nil hchecked, exists_get?_anchorKey_iff hchecked]
  rfl

namespace Hospital

/-- The names of departments, whose surgeons are only passed. -/
def departmentsThroughSurgeons : Selection :=
  let surgeons := ((Selection.new "Hospital").withLevel "surgeon" "Surgeon").withFields "surgeon" []
  (surgeons.withLevel "surgeon_department" "Department").withFields "surgeon_department"
    ["deptName"]

theorem ofPaths_departmentsThroughSurgeons :
    Selection.ofPaths catalog.metadata "Hospital" ["surgeon/department/deptName"] =
      .ok departmentsThroughSurgeons := by
  decide +kernel

/-- A query for the departments of surgeons that counts some columns. -/
def departmentsCounted (keys : List String) : JoinQuery :=
  { anchor := "surgeon"
    joins := [⟨"surgeon_department", .inner⟩]
    conditions := { aggregates := SortedMap.ofList (keys.map fun key => (key, .count)) } }

/-- Counting departments selects columns, and none of them is one of the surgeons. -/
theorem compile_departmentsCounted :
    (QuerySpec.join (departmentsCounted ["surgeon_department.dept_id"])).compile catalog.metadata
        departmentsThroughSurgeons =
      .ok ("SELECT surgeon_department.dept_name AS department_dept_name, " ++
        "COUNT(surgeon_department.dept_id) AS department_dept_id FROM surgeon_tbl surgeon " ++
        "INNER JOIN dept_tbl surgeon_department ON surgeon.dept_id = surgeon_department.dept_id") ∧
    ((departmentsCounted ["surgeon_department.dept_id"]).checkedPlan
        (Request.ofSelection catalog.metadata departmentsThroughSurgeons)).map
          (fun plan => plan.items.map SelectItem.level) =
      .ok ["surgeon_department", "surgeon_department"] := by
  decide +kernel

/-- The key of surgeons is their one column of this field. -/
theorem hasKeyColumn_surgeon : ∃ entity,
    (Request.ofSelection catalog.metadata departmentsThroughSurgeons).entityAt "surgeon" =
        .ok entity ∧
      entity.HasKeyColumn "surgeon_id" := by
  have h : ((Request.ofSelection catalog.metadata departmentsThroughSurgeons).entityAt
      "surgeon").map (fun entity => (entity.keyFields, entity.columnForField "surgeonId")) =
        .ok (["surgeonId"], some "surgeon_id") := by
    decide +kernel
  rcases Outcome.map_eq_ok.mp h with ⟨entity, hentity, hfacts⟩
  obtain ⟨hfields, hcolumn⟩ := Prod.mk.inj hfacts
  exact ⟨entity, hentity, "surgeonId", hfields ▸ List.mem_singleton.mpr rfl, hcolumn⟩

/-- Surgeons that are only passed lose their key when departments are counted, and keep it when
they are counted themselves. -/
theorem surgeonKey_counted :
    (∃ plan, (departmentsCounted ["surgeon_department.dept_id"]).checkedPlan
        (Request.ofSelection catalog.metadata departmentsThroughSurgeons) = .ok plan ∧
      ¬ plan.Selects "surgeon" "surgeon_id") ∧
    ∃ plan, (departmentsCounted ["surgeon_department.dept_id", "surgeon_id"]).checkedPlan
        (Request.ofSelection catalog.metadata departmentsThroughSurgeons) = .ok plan ∧
      plan.Selects "surgeon" "surgeon_id" := by
  have hfields : (Request.ofSelection catalog.metadata departmentsThroughSurgeons).fieldsAt
      "surgeon" = [] := by decide +kernel
  have hgroups : ∀ keys, ¬ (departmentsCounted keys).Groups
      (Request.ofSelection catalog.metadata departmentsThroughSurgeons) "surgeon" := by
    rintro keys ⟨group, hgroup, -⟩
    exact absurd hgroup List.not_mem_nil
  obtain ⟨entity, hentity, hkey⟩ := hasKeyColumn_surgeon
  have hcounted : (QuerySpec.join (departmentsCounted
      ["surgeon_department.dept_id", "surgeon_id"])).compile catalog.metadata
        departmentsThroughSurgeons =
      .ok ("SELECT COUNT(surgeon.surgeon_id) AS surgeon_id, " ++
        "surgeon_department.dept_name AS department_dept_name, " ++
        "COUNT(surgeon_department.dept_id) AS department_dept_id FROM surgeon_tbl surgeon " ++
        "INNER JOIN dept_tbl surgeon_department " ++
        "ON surgeon.dept_id = surgeon_department.dept_id") := by
    decide +kernel
  constructor
  · obtain ⟨plan, found, hplan, -, hfound, hselected⟩ := QuerySpec.anchorKey_selected_iff
      ofDefs_definitions compile_departmentsCounted.1 hfields (hgroups _)
    cases Except.ok.inj (hentity.symm.trans hfound)
    refine ⟨plan, hplan, fun hselects => ?_⟩
    rcases (hselected "surgeon_id" hkey).mp hselects with hnone | habsent | ⟨key, hmem, hnames⟩
    · exact absurd hnone (by decide +kernel)
    · exact absurd habsent (by decide +kernel)
    · cases List.mem_singleton.mp hmem
      rcases hnames with hbehind | ⟨-, halone⟩
      · exact absurd hbehind (by decide +kernel)
      · exact absurd halone (by decide +kernel)
  · obtain ⟨plan, found, hplan, -, hfound, hselected⟩ := QuerySpec.anchorKey_selected_iff
      ofDefs_definitions hcounted hfields (hgroups _)
    cases Except.ok.inj (hentity.symm.trans hfound)
    refine ⟨plan, hplan, (hselected "surgeon_id" hkey).mpr (Or.inr (Or.inr ?_))⟩
    exact ⟨"surgeon_id", by decide +kernel, Or.inr ⟨by decide, rfl⟩⟩

/-- An anchor without requested fields does not always yield its key, not even where the
selection comes of paths. -/
theorem not_forall_anchorKey_selected :
    ¬ ∀ (definitions : List EntityDef) (catalog : Catalog) (rootEntity : String)
      (paths : List String) (selection : Selection) (query : JoinQuery) (text : String)
      (plan : JoinPlan) (entity : Entity),
      Catalog.ofDefs definitions = .ok catalog →
      Selection.ofPaths catalog.metadata rootEntity paths = .ok selection →
      (QuerySpec.join query).compile catalog.metadata selection = .ok text → text ≠ "" →
      query.checkedPlan (Request.ofSelection catalog.metadata selection) = .ok plan →
      (Request.ofSelection catalog.metadata selection).entityAt query.anchor = .ok entity →
      (Request.ofSelection catalog.metadata selection).fieldsAt query.anchor = [] →
      (∀ group ∈ query.conditions.groupBy, group.level.getD query.anchor ≠ query.anchor) →
      ∀ column, entity.HasKeyColumn column → plan.Selects query.anchor column := by
  intro hclaim
  obtain ⟨entity, hentity, hkey⟩ := hasKeyColumn_surgeon
  obtain ⟨hcompile, hplan⟩ := compile_departmentsCounted
  rcases Outcome.map_eq_ok.mp hplan with ⟨plan, hplan, hlevels⟩
  have hfields : (Request.ofSelection catalog.metadata departmentsThroughSurgeons).fieldsAt
      "surgeon" = [] := by decide +kernel
  rcases hclaim definitions catalog "Hospital" ["surgeon/department/deptName"]
    departmentsThroughSurgeons _ _ plan entity ofDefs_definitions
    ofPaths_departmentsThroughSurgeons hcompile (by decide +kernel) hplan hentity hfields
    (fun group hgroup => absurd hgroup List.not_mem_nil) "surgeon_id" hkey with
    ⟨item, hitem, hlevel, -⟩
  have hmem : item.level ∈ plan.items.map SelectItem.level := List.mem_map_of_mem hitem
  rw [hlevels, hlevel] at hmem
  exact absurd hmem (by decide)

end Hospital

end SelectionSql
