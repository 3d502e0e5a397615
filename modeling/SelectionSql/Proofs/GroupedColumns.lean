import SelectionSql.Proofs.AggregateColumns
import SelectionSql.Proofs.ColumnSelection
import SelectionSql.Proofs.PreparedFields
import SelectionSql.Proofs.TableAliases

/-!
# Grouped columns - What a statement groups by is among its columns

A grouping column is requested by the field in front of it, before it is decided which levels are
joined, and the field is resolved to a column again.  Fields and columns of accepted metadata map
one to one, so it is the same column that comes back, however else it is asked for.

Main results:

- `Request.Sound.filter_of_fronts`: a column whose field is requested is selected once.
- `SimpleQuery.filter_items_of_statement`: the fields that a simple query groups by.
- `JoinQuery.filter_items_of_plan`: what is selected at a level of a plan has one place there.
- `QuerySpec.grouped_selected_once`: grouping columns are selected once at a level of the source.
-/

namespace SelectionSql

section

variable {request : Request} {style : ColumnStyle} {level : Level} {aggregates : AggregateMap}
variable {items : List SelectItem} {column field : String}

/-! ## One level -/

/-- The column behind a requested field in front of it is selected. -/
theorem Request.Sound.columnItem_mem (hsound : request.Sound)
    (hfronts : request.Fronts level column field) (hfield : field ∈ request.fieldsAt level)
    (h : selectItems request style level aggregates = .ok items) :
    columnItem style level aggregates column ∈ items := by
  obtain ⟨entity, hentity, hfront⟩ := hfronts
  have hresolve : entity.resolve? field = some column :=
    (hsound.entityAt hentity).resolve?_of_column hfront
  have hname : field ∈ contributedNames entity style level (request.fieldsAt level) aggregates :=
    List.mem_append_left _ (List.mem_append_right _ hfield)
  exact (mem_of_selectItems h).mpr ⟨entity, hentity, field, hname, column, hresolve, rfl⟩

/-- A column whose field is requested is selected once. -/
theorem Request.Sound.filter_of_fronts (hsound : request.Sound)
    (hfronts : request.Fronts level column field) (hfield : field ∈ request.fieldsAt level)
    (h : selectItems request style level aggregates = .ok items) :
    items.filter (fun item => decide (item.column = column)) =
      [columnItem style level aggregates column] :=
  filter_key_eq (nodup_columns h) (hsound.columnItem_mem hfronts hfield h)

end

/-! ## Statements -/

/-- A simple query requests its grouping columns at its level, like those of a join query that
have no tag. -/
theorem SimpleQuery.requestColumns_eq (request : Request) (level : Level)
    (groups : List GroupColumn) :
    groups.foldlM (fun request group => request.requestColumn level group.column) request =
      requestGroups request level (groups.map fun group => ⟨none, group.column⟩) := by
  rw [requestGroups, List.foldlM_map]
  rfl

/-- A simple query selects every mapped column that it groups by once. -/
theorem SimpleQuery.filter_items_of_statement {query : SimpleQuery} {request : Request}
    {statement : Statement} (hsound : request.Sound)
    (h : query.statement request = .ok statement) :
    ∃ entity checked, request.entityAt query.level = .ok entity ∧
      checkedAggregates request query.level .bare query.conditions.aggregates = .ok checked ∧
      statement.tail = sourceTail entity.table query.conditions ∧
      ∀ group ∈ query.conditions.groupBy, entity.hasColumn group.column = true →
        statement.items.filter (fun item => decide (item.column = group.column)) =
          [columnItem .bare query.level checked group.column] := by
  obtain ⟨-, grouped, checked, items, entity, hgrouped, hchecked, hitems, hentity, rfl⟩ :=
    statement_eq_ok.mp h
  rw [requestColumns_eq] at hgrouped
  rcases requestGroups_eq_ok hgrouped with ⟨fields, rfl, -⟩
  refine ⟨entity, checked, hentity, hchecked, rfl, ?_⟩
  intro group hgroup hcolumn
  obtain ⟨field, hfield⟩ := Option.isSome_iff_exists.mp hcolumn
  have hfronts : request.Fronts query.level group.column field := ⟨entity, hentity, hfield⟩
  have hrequested : field ∈ (request.withFields fields).fieldsAt query.level := by
    rw [requestGroups_mem_fieldsAt hgrouped]
    exact Or.inr ⟨⟨none, group.column⟩, List.mem_map_of_mem hgroup, rfl, hfronts⟩
  have hwith : (request.withFields fields).Sound := hsound
  exact hwith.filter_of_fronts hfronts hrequested hitems

namespace JoinQuery

variable {query : JoinQuery} {request : Request} {aggregates : AggregateMap} {plan : JoinPlan}

/-- An item of a plan is the only one of its column at its level. -/
theorem filter_items_of_plan (h : query.plan request aggregates = .ok plan) {item : SelectItem}
    (hitem : item ∈ plan.items) :
    plan.items.filter (fun other =>
      decide (other.level = item.level ∧ other.column = item.column)) = [item] := by
  rcases plan_eq_ok.mp h with ⟨prepared, -, -, hprepared, -, -⟩
  rcases items_of_plan hprepared h with ⟨parts, hparts, hitems⟩
  have hnodup := nodup_positions (nodup_levels_of_plan h).1 hparts
  rw [hitems] at hitem ⊢
  have hfilter := filter_key_eq hnodup hitem
  simpa only [Prod.mk.injEq] using hfilter

/-- A mapped grouping column of the anchor or of a declared level makes its level part of the
source and is selected there once. -/
theorem grouped_of_plan (hsound : request.Sound)
    (h : query.plan request aggregates = .ok plan) {group : GroupColumn} {level : Level}
    (hgroup : group ∈ query.conditions.groupBy) (hlevel : group.level.getD query.anchor = level)
    (hknown : level = query.anchor ∨ level ∈ query.joins.map DeclaredJoin.level)
    (hmaps : request.Maps level group.column) :
    level ∈ plan.source.aliases ∧
      plan.items.filter (fun item => decide (item.level = level ∧ item.column = group.column)) =
        [columnItem (.qualified query.anchor) level aggregates group.column] := by
  rcases plan_eq_ok.mp h with ⟨prepared, -, hcheck, hprepared, -, -⟩
  have hreached : query.Reaches request level := by
    rcases hknown with hanchor | hdeclared
    · exact Or.inl hanchor
    · rcases List.mem_map.mp hdeclared with ⟨join, hjoin, rfl⟩
      exact reaches_of_touches hcheck hjoin (Or.inr (Or.inr ⟨group, hgroup, hlevel, hmaps⟩))
  have hjoined : level ∈ plan.levels := (mem_levels_of_plan h).mpr hreached
  refine ⟨hjoined, ?_⟩
  obtain ⟨entity, hentity, hcolumn⟩ := hmaps
  obtain ⟨field, hfield⟩ := Option.isSome_iff_exists.mp hcolumn
  have hfronts : request.Fronts level group.column field := ⟨entity, hentity, hfield⟩
  have hrequested : field ∈ prepared.fieldsAt level :=
    (mem_fieldsAt_of_prepare hprepared).mpr (Or.inr (Or.inl ⟨group, hgroup, hlevel, hfronts⟩))
  rcases items_of_plan hprepared h with ⟨parts, hparts, hitems⟩
  rcases contains_of_prepare hprepared with ⟨fields, rfl, -⟩
  obtain ⟨part, hpart, hselected⟩ := Outcome.exists_of_mem_mapM hparts hjoined
  have hwith : (request.withFields fields).Sound := hsound
  have hmem := hwith.columnItem_mem hfronts hrequested hselected
  have hitem : columnItem (.qualified query.anchor) level aggregates group.column ∈
      plan.items := hitems ▸ List.mem_flatten.mpr ⟨part, hpart, hmem⟩
  exact filter_items_of_plan h hitem

end JoinQuery

/-- In every statement over accepted metadata the columns that it is grouped by are selected
once, by themselves or within the aggregate of their key.  In that of a simple query this holds
of the columns that its entity maps.  In that of a join query it holds of those whose level, the
anchor if they have no tag, is the anchor or declared and has an entity that maps them, and this
level is part of the source. -/
theorem QuerySpec.grouped_selected_once {definitions : List EntityDef} {catalog : Catalog}
    (hcatalog : Catalog.ofDefs definitions = .ok catalog) (selection : Selection) :
    (∀ (query : SimpleQuery) (text : String),
      (QuerySpec.simple query).compile catalog.metadata selection = .ok text →
      ∃ statement entity checked,
        (QuerySpec.simple query).statement catalog.metadata selection = .ok statement ∧
        (Request.ofSelection catalog.metadata selection).entityAt query.level = .ok entity ∧
        checkedAggregates (Request.ofSelection catalog.metadata selection) query.level .bare
          query.conditions.aggregates = .ok checked ∧
        text = statementText (statement.items.map SelectItem.text) entity.table
          query.conditions ∧
        ∀ group ∈ query.conditions.groupBy, entity.hasColumn group.column = true →
          ∃ item, statement.items.filter (fun other => decide (other.column = group.column)) =
              [item] ∧
            item.text = columnText .bare query.level checked group.column) ∧
    ∀ (query : JoinQuery) (text : String),
      (QuerySpec.join query).compile catalog.metadata selection = .ok text →
      ∃ plan checked,
        query.checkedPlan (Request.ofSelection catalog.metadata selection) = .ok plan ∧
        checkedAggregates (Request.ofSelection catalog.metadata selection) query.anchor
          (.qualified query.anchor) query.conditions.aggregates = .ok checked ∧
        text = statementText (plan.items.map SelectItem.text) plan.source.text
          query.conditions ∧
        ∀ group ∈ query.conditions.groupBy, ∀ level, group.level.getD query.anchor = level →
          (level = query.anchor ∨ level ∈ query.joins.map DeclaredJoin.level) →
          (Request.ofSelection catalog.metadata selection).Maps level group.column →
          level ∈ plan.source.aliases ∧
            ∃ item, plan.items.filter (fun other =>
                decide (other.level = level ∧ other.column = group.column)) = [item] ∧
              item.text = columnText (.qualified query.anchor) level checked group.column := by
  have hsound := Catalog.sound_ofSelection hcatalog selection
  constructor
  · intro query text h
    obtain ⟨statement, hstatement, rfl⟩ := compile_eq_ok.mp h
    obtain ⟨entity, checked, hentity, hchecked, htail, hgroups⟩ :=
      SimpleQuery.filter_items_of_statement hsound hstatement
    refine ⟨statement, entity, checked, hstatement, hentity, hchecked, ?_, ?_⟩
    · rw [Statement.text, htail]
      rfl
    · intro group hgroup hcolumn
      exact ⟨_, hgroups group hgroup hcolumn, text_columnItem _ _ _ _⟩
  · intro query text h
    obtain ⟨plan, hplan, htext⟩ := JoinQuery.compile_join_eq_ok h
    obtain ⟨-, checked, hchecked, hmade⟩ := JoinQuery.checkedPlan_eq_ok.mp hplan
    refine ⟨plan, checked, hplan, hchecked, htext, ?_⟩
    intro group hgroup level hlevel hknown hmaps
    obtain ⟨hjoined, hfilter⟩ :=
      JoinQuery.grouped_of_plan hsound hmade hgroup hlevel hknown hmaps
    exact ⟨hjoined, _, hfilter, text_columnItem _ _ _ _⟩

namespace Hospital

/-- A request for the names of hospitals by two names. -/
def namesTwice : Selection :=
  (Selection.new "Hospital").withFields Level.root ["getName", "name"]

/-- A query that counts hospitals by their name. -/
def namesCounted : SimpleQuery :=
  ⟨Level.root, { groupBy := [⟨none, "name"⟩], aggregates := SortedMap.ofList [("name", .count)] }⟩

/-- A query that counts hospitals by the names of their surgeons, which are not requested. -/
def hospitalsCounted : JoinQuery :=
  { anchor := Level.root
    joins := [⟨"surgeon", .leftOuter⟩]
    conditions :=
      { groupBy := [⟨some "surgeon", "name"⟩]
        aggregates := SortedMap.ofList [("hospital_id", .count)] } }

/-- The name that hospitals are grouped by is selected once within its count, and the name of
surgeons once by itself. -/
theorem names_grouped :
    (∃ statement item,
      (QuerySpec.simple namesCounted).statement catalog.metadata namesTwice = .ok statement ∧
      statement.items.filter (fun other => decide (other.column = "name")) = [item] ∧
      item.text = "COUNT(name) AS name") ∧
    ∃ plan item,
      hospitalsCounted.checkedPlan (Request.ofSelection catalog.metadata namesTwice) = .ok plan ∧
      "surgeon" ∈ plan.source.aliases ∧
      plan.items.filter (fun other =>
        decide (other.level = "surgeon" ∧ other.column = "name")) = [item] ∧
      item.text = "surgeon.name AS surgeon_name" := by
  obtain ⟨hsimple, hjoin⟩ := QuerySpec.grouped_selected_once ofDefs_definitions namesTwice
  constructor
  · have hcompile : ((QuerySpec.simple namesCounted).compile catalog.metadata namesTwice) =
        .ok "SELECT COUNT(name) AS name FROM hospital_tbl GROUP BY name" := by decide +kernel
    have hfacts : ((Request.ofSelection catalog.metadata namesTwice).entityAt Level.root).map
        (fun entity => entity.hasColumn "name") = .ok true := by decide +kernel
    have haggregates : checkedAggregates (Request.ofSelection catalog.metadata namesTwice)
        Level.root .bare (SortedMap.ofList [("name", .count)]) =
          .ok (SortedMap.ofList [("name", .count)]) := by decide +kernel
    obtain ⟨statement, entity, checked, hstatement, hentity, hchecked, -, hgroups⟩ :=
      hsimple namesCounted _ hcompile
    obtain ⟨found, hfound, hcolumn⟩ := Outcome.map_eq_ok.mp hfacts
    cases Except.ok.inj (hentity.symm.trans hfound)
    cases Except.ok.inj (hchecked.symm.trans haggregates)
    obtain ⟨item, hfilter, htext⟩ :=
      hgroups ⟨none, "name"⟩ (List.mem_singleton.mpr rfl) hcolumn
    exact ⟨statement, item, hstatement, hfilter, htext.trans (by decide +kernel)⟩
  · have hcompile : (QuerySpec.join hospitalsCounted).compile catalog.metadata namesTwice =
        .ok ("SELECT rootObject.name AS name, COUNT(rootObject.hospital_id) AS hospital_id, " ++
          "surgeon.name AS surgeon_name FROM hospital_tbl rootObject LEFT OUTER JOIN " ++
          "surgeon_tbl surgeon ON rootObject.hospital_id = surgeon.hospital_id " ++
          "GROUP BY surgeon.name") := by decide +kernel
    have hfacts : ((Request.ofSelection catalog.metadata namesTwice).entityAt "surgeon").map
        (fun entity => entity.hasColumn "name") = .ok true := by decide +kernel
    have haggregates : checkedAggregates (Request.ofSelection catalog.metadata namesTwice)
        Level.root (.qualified Level.root) (SortedMap.ofList [("hospital_id", .count)]) =
          .ok (SortedMap.ofList [("rootObject.hospital_id", .count)]) := by decide +kernel
    obtain ⟨plan, checked, hplan, hchecked, -, hgroups⟩ := hjoin hospitalsCounted _ hcompile
    cases Except.ok.inj (hchecked.symm.trans haggregates)
    obtain ⟨hjoined, item, hfilter, htext⟩ :=
      hgroups ⟨some "surgeon", "name"⟩ (List.mem_singleton.mpr rfl) "surgeon" rfl
        (Or.inr (List.mem_singleton.mpr rfl)) (Outcome.map_eq_ok.mp hfacts)
    exact ⟨plan, item, hplan, hjoined, hfilter, htext.trans (by decide +kernel)⟩

end Hospital

end SelectionSql
