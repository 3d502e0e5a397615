import SelectionSql.Proofs.CatalogLevels
import SelectionSql.Proofs.Faults
import SelectionSql.Proofs.PreparedFields
import SelectionSql.Proofs.SelectionPaths
import SelectionSql.Proofs.TableAliases

/-!
# Serving - One declaration of joins for all requests

A query that declares the joins of a whole level map serves every selection of paths below
its root entity.  In the map every level has an entity and a parent, so only a name without
column or a reference without join columns can stand in the way.  The query may declare levels
that the map does not know.  These are inert, unless one of them hangs from nothing or is
filtered on: then no selection of paths has a statement.

Main results:

- `Selection.Within.entityAt_eq_error`: exactly the levels outside the map have no entity.
- `JoinQuery.Serves.joinFault?_eq_some`: only stranded declarations are refused.
- `JoinQuery.Serves.plan_eq_error`: why a plan fails that has no stranded declarations.
- `JoinQuery.Serves.compile_of_paths`: what compiling for a selection of paths comes to.
-/

namespace SelectionSql

section

variable {definitions : List EntityDef} {catalog : Catalog} {map : LevelMap}
variable {rootEntity : String} {selection : Selection} {level : Level}
variable {query : JoinQuery} {request : Request} {aggregates : AggregateMap}
variable {fault : QueryFault}

/-- Within a level map of a catalog every level of the map has an entity. -/
theorem Selection.Within.exists_entityAt (hwithin : selection.Within map rootEntity)
    (hcatalog : Catalog.ofDefs definitions = .ok catalog)
    (hmap : catalog.levelMaps.get? rootEntity = some map) (hlevel : level ∈ map.keys) :
    ∃ entity, (Request.ofSelection catalog.metadata selection).entityAt level = .ok entity := by
  have hnamed : ∃ name entity,
      (Request.ofSelection catalog.metadata selection).entityName? level = some name ∧
        catalog.metadata.entity? name = some entity := by
    unfold Request.entityName?
    cases hregistered : selection.entityAt level with
    | some name =>
        have hknown : ∃ entity, catalog.metadata.entity? name = some entity := by
          rcases hwithin.entities level name hregistered with ⟨-, rfl⟩ | hname
          · exact Catalog.exists_entity?_of_root hcatalog hmap
          · exact Catalog.exists_entity?_of_level hcatalog hmap hname
        rcases hknown with ⟨entity, hentity⟩
        exact ⟨name, entity, by simp [Request.ofSelection, hregistered], hentity⟩
    | none =>
        rcases SortedMap.exists_get?_of_mem_keys hlevel with ⟨name, hname⟩
        rcases Catalog.exists_entity?_of_level hcatalog hmap hname with ⟨entity, hentity⟩
        refine ⟨name, entity, ?_, hentity⟩
        simp [Request.ofSelection, hregistered, Metadata.entityForLevel?, Catalog.metadata,
          hwithin.rootEntity_eq, hmap, hname]
  rcases hnamed with ⟨name, entity, hname, hentity⟩
  exact ⟨entity, Request.entityAt_eq_ok.mpr ⟨name, hname, hentity⟩⟩

/-- Within a level map of a catalog exactly the levels outside the map have no entity, and these
are unknown. -/
theorem Selection.Within.entityAt_eq_error (hwithin : selection.Within map rootEntity)
    (hcatalog : Catalog.ofDefs definitions = .ok catalog)
    (hmap : catalog.levelMaps.get? rootEntity = some map) :
    (Request.ofSelection catalog.metadata selection).entityAt level = .error fault ↔
      level ∉ map.keys ∧ fault = .unknownLevel level := by
  by_cases hlevel : level ∈ map.keys
  · rcases hwithin.exists_entityAt hcatalog hmap hlevel with ⟨entity, hentity⟩
    simp [hentity, hlevel]
  · have hroot : Level.root ∈ map.keys :=
      (Catalog.exact_of_levelMaps hcatalog hmap).root_mem_keys
    have hregistered : selection.entityAt level = none := by
      by_contra hname
      rcases Option.ne_none_iff_exists'.mp hname with ⟨name, hname⟩
      rcases hwithin.entities level name hname with ⟨rfl, -⟩ | hmapped
      · exact hlevel hroot
      · exact hlevel (SortedMap.mem_keys_of_get? hmapped)
    have hunmapped : map.get? level = none :=
      Option.eq_none_iff_forall_ne_some.mpr fun name hname =>
        hlevel (SortedMap.mem_keys_of_get? hname)
    have hunnamed :
        (Request.ofSelection catalog.metadata selection).entityName? level = none := by
      simp [Request.entityName?, Request.ofSelection, hregistered, Metadata.entityForLevel?,
        Catalog.metadata, hwithin.rootEntity_eq, hmap, hunmapped]
    simp [Request.entityAt, hunnamed, hlevel, eq_comm]

namespace JoinQuery

/-- Without grouping only the key fields of the anchor are added to a request. -/
theorem prepare_of_no_groups (hgroups : query.conditions.groupBy = []) :
    query.prepare request = request.requireKeyFields query.anchor := by
  unfold prepare
  rw [hgroups]
  rfl

/-- Without aggregates a plan at an anchor that is not blank is planned right away. -/
theorem checkedPlan_of_no_aggregates (hanchor : Text.isBlankText query.anchor = false)
    (haggregates : query.conditions.aggregates = SortedMap.empty) :
    query.checkedPlan request = query.plan request SortedMap.empty := by
  unfold checkedPlan
  rw [haggregates, requireKey_eq_ok_iff.mpr ⟨rfl, hanchor⟩]
  rfl

/-- Without aggregates, and with an anchor that is not blank, a query fails to compile as its plan
does. -/
theorem compile_of_plan_eq_error {metadata : Metadata}
    (hanchor : Text.isBlankText query.anchor = false)
    (haggregates : query.conditions.aggregates = SortedMap.empty)
    (hplan : query.plan (Request.ofSelection metadata selection) SortedMap.empty =
      .error fault) :
    (QuerySpec.join query).compile metadata selection = .error fault := by
  apply Outcome.map_eq_error.mpr
  apply Outcome.map_eq_error.mpr
  rw [checkedPlan_of_no_aggregates hanchor haggregates, hplan]

/-- A query serves a level map when it is anchored at the root and declares joins for all other
levels of the map. -/
structure Serves (query : JoinQuery) (map : LevelMap) : Prop where
  anchor : query.anchor = Level.root
  declared : ∀ level ∈ map.keys, level ≠ Level.root →
    level ∈ query.joins.map DeclaredJoin.level

/-- A declared level is stranded when its parent is neither the anchor nor declared nor filtered
on. -/
def Stranded (query : JoinQuery) (level : Level) : Prop :=
  level ∈ query.joins.map DeclaredJoin.level ∧ Level.parent level ≠ query.anchor ∧
    Level.parent level ∉ query.joins.map DeclaredJoin.level ∧
    Level.parent level ∉ query.conditions.filteredLevels

/-- A level is astray when the map does not know it and it lies on the way down to a declared
level that is filtered on. -/
def Astray (query : JoinQuery) (map : LevelMap) (level : Level) : Prop :=
  level ∉ map.keys ∧ ∃ join ∈ query.joins, join.level ∈ query.conditions.filteredLevels ∧
    level ∈ Level.below query.anchor join.level

namespace Serves

variable {requested : List Level} {fields : FieldMap} {join : DeclaredJoin}

/-- Every level is in the scope of the anchor. -/
theorem isInScope (h : query.Serves map) (level : Level) :
    Level.isInScope level query.anchor = true := by
  rw [h.anchor]
  exact Level.isInScope_root level

/-- For a request at levels of the map exactly the stranded declarations are refused. -/
theorem joinFault?_eq_some (h : query.Serves map)
    (hrequested : ∀ level ∈ requested, level ∈ map.keys) (hjoin : join ∈ query.joins) :
    query.joinFault? requested join = some fault ↔
      query.Stranded join.level ∧ fault = .missingParent (Level.parent join.level) := by
  rw [joinFault?_eq_some_of_isInScope (h.isInScope join.level)]
  have hdeclared : join.level ∈ query.joins.map DeclaredJoin.level := List.mem_map_of_mem hjoin
  constructor
  · rintro ⟨-, hanchor, hparent, rfl⟩
    simp only [reachableLevels, List.mem_append, not_or] at hparent
    exact ⟨⟨hdeclared, hanchor, hparent.1.2, hparent.2⟩, rfl⟩
  · rintro ⟨⟨-, hanchor, hparent, hfiltered⟩, rfl⟩
    have hroot : Level.parent join.level ≠ Level.root :=
      fun heq => hanchor (heq.trans h.anchor.symm)
    refine ⟨fun heq => hanchor ?_, hanchor, ?_, rfl⟩
    · rw [heq, h.anchor, Level.parent_root]
    · -- a parent that is requested lies in the map and is declared
      simp only [reachableLevels, List.mem_append, not_or]
      exact ⟨⟨fun hlevel => hparent (h.declared _ (hrequested _ hlevel) hroot), hparent⟩,
        hfiltered⟩

/-- Without stranded declarations the declared joins are accepted. -/
theorem checkJoins_eq_ok (h : query.Serves map)
    (hrequested : ∀ level ∈ requested, level ∈ map.keys) :
    query.checkJoins requested = .ok () ↔ ∀ level, ¬ query.Stranded level := by
  rw [JoinQuery.checkJoins_eq_ok]
  constructor
  · intro hcheck level hstranded
    rcases List.mem_map.mp hstranded.1 with ⟨join, hjoin, rfl⟩
    have hfault := (h.joinFault?_eq_some hrequested hjoin).mpr ⟨hstranded, rfl⟩
    exact absurd (hcheck join hjoin) (by simp [hfault])
  · intro hnone join hjoin
    refine Option.eq_none_iff_forall_ne_some.mpr fun fault hfault => ?_
    exact hnone _ ((h.joinFault?_eq_some hrequested hjoin).mp hfault).1

/-- With a stranded declaration every plan fails for one. -/
theorem plan_of_stranded (h : query.Serves map)
    (hrequested : ∀ level ∈ request.fields.keys, level ∈ map.keys)
    (hstranded : query.Stranded level) : ∃ other, query.Stranded other ∧
      query.plan request aggregates = .error (.missingParent (Level.parent other)) := by
  cases hcheck : query.checkJoins request.fields.keys with
  | ok checked => exact absurd hstranded ((h.checkJoins_eq_ok hrequested).mp hcheck level)
  | error fault =>
      rcases checkJoins_eq_error hcheck with ⟨join, hjoin, hfault⟩
      rcases (h.joinFault?_eq_some hrequested hjoin).mp hfault with ⟨hother, rfl⟩
      refine ⟨join.level, hother, ?_⟩
      rw [plan, hcheck]
      rfl

/-- Stranded levels lie outside the map, where parents are declared. -/
theorem not_mem_keys_of_stranded (h : query.Serves map) (hmap : map.Exact definitions rootEntity)
    (hstranded : query.Stranded level) : level ∉ map.keys := by
  intro hlevel
  rcases hstranded with ⟨-, hanchor, hparent, -⟩
  rw [h.anchor] at hanchor
  exact hparent (h.declared _ (hmap.parents level hlevel) hanchor)

/-- Where fields are requested at levels of the map only, the levels outside the map on the way
down to a needed one are astray. -/
theorem astray_of_mem_below (h : query.Serves map) (hmap : map.Exact definitions rootEntity)
    (hfields : ∀ level, fields.contains level = true → level ∈ map.keys)
    (hneeded : join ∈ query.neededJoins fields)
    (hbelow : level ∈ Level.below query.anchor join.level) (hlevel : level ∉ map.keys) :
    query.Astray map level := by
  rcases List.mem_filter.mp hneeded with ⟨hdeclared, hreason⟩
  rcases Bool.or_eq_true_iff.mp hreason with hrequested | hfiltered
  · rw [h.anchor] at hbelow
    exact absurd (hmap.mem_keys_of_mem_below (hfields _ hrequested) hbelow) hlevel
  · exact ⟨hlevel, join, hdeclared, of_decide_eq_true hfiltered, hbelow⟩

/-- Columns cannot be selected at a level without entity, or for a name without column. -/
theorem selectItems_eq_error (h : query.Serves map)
    (hfault : selectItems request (.qualified query.anchor) level aggregates = .error fault) :
    request.entityAt level = .error fault ∨ ∃ name entity, fault = .fieldNotFound name entity := by
  rcases SelectionSql.selectItems_eq_error hfault with
    ⟨hscope, -⟩ | hentity | ⟨entity, -, name, -, -, rfl⟩
  · rw [ColumnStyle.admits, h.isInScope] at hscope
    exact absurd hscope (by simp)
  · exact Or.inl hentity
  · exact Or.inr ⟨name, entity.name, rfl⟩

/-- Where fields are requested within the map, they still are once the request is prepared. -/
theorem contains_of_prepare (h : query.Serves map) (hmap : map.Exact definitions rootEntity)
    (hgroups : query.conditions.groupBy = [])
    (hrequested : ∀ level ∈ request.fields.keys, level ∈ map.keys) {prepared : Request}
    (hprepared : query.prepare request = .ok prepared) :
    ∃ fields, prepared = request.withFields fields ∧
      ∀ level, fields.contains level = true → level ∈ map.keys := by
  rcases JoinQuery.contains_of_prepare hprepared with ⟨fields, heq, hfields⟩
  refine ⟨fields, heq, fun level hlevel => ?_⟩
  rcases (hfields level).mp hlevel with hold | ⟨group, hgroup, -⟩ | rfl
  · exact hrequested _ ((SortedMap.contains_iff_mem_keys _ _).mp hold)
  · rw [hgroups] at hgroup
    exact absurd hgroup List.not_mem_nil
  · exact h.anchor ▸ hmap.root_mem_keys

/-- Where the levels outside the map are unknown and fields are requested within it, a plan
without stranded declarations fails for a name without column, for a reference without join
columns, or at a level that is astray. -/
theorem plan_eq_error (h : query.Serves map) (hmap : map.Exact definitions rootEntity)
    (hgroups : query.conditions.groupBy = [])
    (hunknown : ∀ level fault, request.entityAt level = .error fault ↔
      level ∉ map.keys ∧ fault = .unknownLevel level)
    (hrequested : ∀ level ∈ request.fields.keys, level ∈ map.keys)
    (hstranded : ∀ level, ¬ query.Stranded level)
    (hfault : query.plan request aggregates = .error fault) :
    (∃ name entity, fault = .fieldNotFound name entity) ∨
      (∃ parent child reference, fault = .noAssociation parent child reference) ∨
      ∃ level, query.Astray map level ∧ fault = .unknownLevel level := by
  have hanchor : query.anchor ∈ map.keys := h.anchor ▸ hmap.root_mem_keys
  have hpresent : request.entityAt query.anchor ≠ .error fault := fun herror =>
    ((hunknown _ _).mp herror).1 hanchor
  rcases JoinQuery.plan_eq_error hfault with ⟨join, hjoin, hfault⟩ | hprepare |
    ⟨prepared, hprepared, hcase⟩
  · exact absurd ((h.joinFault?_eq_some hrequested hjoin).mp hfault).1 (hstranded _)
  · rw [prepare_of_no_groups hgroups, Request.requireKeyFields] at hprepare
    split at hprepare
    · exact absurd hprepare (by simp)
    · exact absurd (Outcome.map_eq_error.mp hprepare) hpresent
  rcases h.contains_of_prepare hmap hgroups hrequested hprepared with ⟨fields, rfl, hfields⟩
  rcases hcase with hentity | hcase | ⟨join, hjoin, hcase⟩
  · exact absurd hentity hpresent
  · exact Or.inl ((h.selectItems_eq_error hcase).resolve_left hpresent)
  -- a level that is joined, and its parent, lie on the way down to a needed one
  rcases mem_levels_emission.mp (List.mem_map_of_mem hjoin) with ⟨declared, hneeded, hbelow⟩
  have hastray : ∀ level ∈ Level.below query.anchor declared.level,
      request.entityAt level = .error fault →
        ∃ level, query.Astray map level ∧ fault = .unknownLevel level := by
    intro level hlevel hentity
    rcases (hunknown _ _).mp hentity with ⟨houtside, rfl⟩
    exact ⟨level, h.astray_of_mem_below hmap hfields hneeded hlevel houtside, rfl⟩
  rcases hcase with hcase | hcase
  · exact (h.selectItems_eq_error hcase).symm.imp_right fun hentity =>
      Or.inr (hastray _ hbelow hentity)
  rcases joinClause_eq_error hcase with hparent | hchild | ⟨parent, child, rfl⟩
  · have hne : Level.parent join.level ≠ query.anchor := fun heq => hpresent (heq ▸ hparent)
    exact Or.inr (Or.inr (hastray _
      (Level.parent_mem_below (h.isInScope declared.level) hbelow hne) hparent))
  · exact Or.inr (Or.inr (hastray _ hbelow hchild))
  · exact Or.inr (Or.inl ⟨parent, child, _, rfl⟩)

/-- No plan reaches a level that is astray, when the levels outside the map are unknown. -/
theorem not_astray_of_plan {plan : JoinPlan}
    (hunknown : ∀ level fault, request.entityAt level = .error fault ↔
      level ∉ map.keys ∧ fault = .unknownLevel level)
    (hplan : query.plan request aggregates = .ok plan) : ¬ query.Astray map level := by
  rintro ⟨houtside, join, hjoin, hfiltered, hbelow⟩
  have hreached : level ∈ plan.levels := (mem_levels_of_plan hplan).mpr
    (Or.inr ⟨join, hjoin, Or.inr (Or.inl hfiltered), hbelow⟩)
  rcases exists_entityAt_of_plan hplan hreached with ⟨entity, hentity⟩
  have herror := (hunknown level _).mpr ⟨houtside, rfl⟩
  exact absurd (hentity.symm.trans herror) (by simp)

end Serves

/-- The source of a plan introduces every level of the map where fields are requested. -/
theorem Serves.mem_aliases_of_plan (h : query.Serves map) {plan : JoinPlan}
    (hplan : query.plan request aggregates = .ok plan)
    (hrequested : ∀ level ∈ request.fields.keys, level ∈ map.keys) :
    ∀ level ∈ request.fields.keys, level ∈ plan.source.aliases := by
  rcases plan_eq_ok.mp hplan with ⟨prepared, -, hcheck, -, -, -⟩
  intro level hlevel
  apply (mem_levels_of_plan hplan).mpr
  by_cases hroot : level = Level.root
  · exact Or.inl (hroot.trans h.anchor.symm)
  · rcases List.mem_map.mp (h.declared _ (hrequested _ hlevel) hroot) with ⟨join, hjoin, rfl⟩
    have hfields := (SortedMap.contains_iff_mem_keys _ _).mpr hlevel
    exact reaches_of_touches hcheck hjoin (Or.inl hfields)

/-- Over accepted metadata, a query that declares the joins of a whole level map serves every
selection of paths below its root entity: without grouping and aggregates its source introduces
every level where fields are requested, or else a name has no column or a reference no join
columns.  What it declares outside the map may stand in the way of all selections.  A stranded
declaration is refused first, and otherwise a level that is astray leaves no plan. -/
theorem Serves.compile_of_paths (h : query.Serves map)
    (hcatalog : Catalog.ofDefs definitions = .ok catalog)
    (hmap : catalog.levelMaps.get? rootEntity = some map) {paths : List String}
    (hselection : Selection.ofPaths catalog.metadata rootEntity paths = .ok selection)
    (hgroups : query.conditions.groupBy = [])
    (haggregates : query.conditions.aggregates = SortedMap.empty) :
    (∃ level ∉ map.keys, query.Stranded level ∧
      (QuerySpec.join query).compile catalog.metadata selection =
        .error (.missingParent (Level.parent level))) ∨
    (∀ level, ¬ query.Stranded level) ∧
      ((∃ plan text, query.checkedPlan (Request.ofSelection catalog.metadata selection) = .ok plan ∧
          (QuerySpec.join query).compile catalog.metadata selection = .ok text ∧
          text = statementText (plan.items.map SelectItem.text) plan.source.text
            query.conditions ∧
          (∀ level ∈ selection.levels, level ∈ plan.source.aliases) ∧
          ∀ level, ¬ query.Astray map level) ∨
        ∃ fault, (QuerySpec.join query).compile catalog.metadata selection = .error fault ∧
          ((∃ name entity, fault = .fieldNotFound name entity) ∨
            (∃ parent child reference, fault = .noAssociation parent child reference) ∨
            ∃ level, query.Astray map level ∧ fault = .unknownLevel level)) := by
  have hexact := Catalog.exact_of_levelMaps hcatalog hmap
  have hwithin := Selection.within_of_ofPaths hmap hexact.root_mem_keys hselection
  have hunknown : ∀ level fault,
      (Request.ofSelection catalog.metadata selection).entityAt level = .error fault ↔
        level ∉ map.keys ∧ fault = .unknownLevel level :=
    fun level fault => hwithin.entityAt_eq_error hcatalog hmap
  have hrequested : ∀ level ∈ (Request.ofSelection catalog.metadata selection).fields.keys,
      level ∈ map.keys := hwithin.levels
  have hblank : Text.isBlankText query.anchor = false := by
    rw [h.anchor]
    decide
  by_cases hstranded : ∃ level, query.Stranded level
  · rcases hstranded with ⟨level, hlevel⟩
    rcases h.plan_of_stranded hrequested hlevel with ⟨other, hother, hplan⟩
    exact Or.inl ⟨other, h.not_mem_keys_of_stranded hexact hother, hother,
      compile_of_plan_eq_error hblank haggregates hplan⟩
  refine Or.inr ⟨not_exists.mp hstranded, ?_⟩
  cases hplan : query.plan (Request.ofSelection catalog.metadata selection) SortedMap.empty with
  | error fault =>
      exact Or.inr ⟨fault, compile_of_plan_eq_error hblank haggregates hplan,
        h.plan_eq_error hexact hgroups hunknown hrequested (not_exists.mp hstranded) hplan⟩
  | ok plan =>
      have hchecked : query.checkedPlan (Request.ofSelection catalog.metadata selection) = _ :=
        checkedPlan_of_no_aggregates hblank haggregates
      rw [hplan] at hchecked
      have hcompile : (QuerySpec.join query).compile catalog.metadata selection = .ok _ :=
        QuerySpec.compile_eq_ok.mpr ⟨_, Outcome.map_eq_ok.mpr ⟨plan, hchecked, rfl⟩, rfl⟩
      exact Or.inl ⟨plan, _, hchecked, hcompile, rfl,
        h.mem_aliases_of_plan hplan hrequested, fun _ => Serves.not_astray_of_plan hunknown hplan⟩

end JoinQuery

end

namespace Hospital

/-- The names of hospitals and of the departments of their surgeons, as paths ask for them. -/
def departmentsByPath : Selection :=
  let surgeons := (hospitalNames.withLevel "surgeon" "Surgeon").withFields "surgeon" []
  (surgeons.withLevel "surgeon_department" "Department").withFields "surgeon_department"
    ["deptName"]

theorem ofPaths_departments :
    Selection.ofPaths catalog.metadata "Hospital" ["name", "surgeon/department/deptName"] =
      .ok departmentsByPath := by
  decide +kernel

theorem keys_levels : levels.keys = [Level.root, "surgeon", "surgeon_department"] := by
  decide +kernel

/-- The joins of surgeons and departments, and one more that hospitals know nothing of. -/
def departmentsAnd (level : Level) : JoinQuery :=
  { departments with joins := departments.joins ++ [⟨level, .inner⟩] }

/-- The joins of surgeons and departments are all there are below a hospital. -/
theorem serves_departmentsAnd (level : Level) : (departmentsAnd level).Serves levels where
  anchor := rfl
  declared := by
    intro other hother hroot
    rw [keys_levels] at hother
    simp only [List.mem_cons, hroot, List.not_mem_nil, or_false, false_or] at hother
    rcases hother with rfl | rfl <;> simp [departmentsAnd, departments]

/-- The departments are asked for by their names alone, and the source introduces the surgeons
between them and the hospitals.  The wards of the surgeons are declared too, and left alone. -/
theorem departments_served : ∃ plan text,
    (departmentsAnd "surgeon_ward").checkedPlan
        (Request.ofSelection catalog.metadata departmentsByPath) = .ok plan ∧
      (QuerySpec.join (departmentsAnd "surgeon_ward")).compile catalog.metadata
        departmentsByPath = .ok text ∧
      departmentsByPath.levels = [Level.root, "surgeon", "surgeon_department"] ∧
      ∀ level ∈ departmentsByPath.levels, level ∈ plan.source.aliases := by
  have hcompiles : ((QuerySpec.join (departmentsAnd "surgeon_ward")).compile catalog.metadata
      departmentsByPath).isOk = true := by decide +kernel
  rcases (serves_departmentsAnd "surgeon_ward").compile_of_paths ofDefs_definitions
    levelMap_hospital ofPaths_departments rfl rfl with ⟨level, -, -, hfault⟩ |
    ⟨-, ⟨plan, text, hplan, htext, -, hlevels, -⟩ | ⟨fault, hfault, -⟩⟩
  · rw [hfault] at hcompiles
    exact absurd hcompiles Bool.false_ne_true
  · exact ⟨plan, text, hplan, htext, by decide +kernel, hlevels⟩
  · rw [hfault] at hcompiles
    exact absurd hcompiles Bool.false_ne_true

/-- A declared level whose parent is not declared stands in the way of all selections, even of
those that do not ask for it. -/
theorem not_forall_served :
    ¬ ∀ (definitions : List EntityDef) (catalog : Catalog) (rootEntity : String)
      (map : LevelMap) (paths : List String) (selection : Selection) (query : JoinQuery),
      Catalog.ofDefs definitions = .ok catalog →
      catalog.levelMaps.get? rootEntity = some map →
      Selection.ofPaths catalog.metadata rootEntity paths = .ok selection →
      query.Serves map → query.conditions.groupBy = [] →
      query.conditions.aggregates = SortedMap.empty →
      (∃ plan text, query.checkedPlan (Request.ofSelection catalog.metadata selection) = .ok plan ∧
        (QuerySpec.join query).compile catalog.metadata selection = .ok text ∧
        ∀ level ∈ selection.levels, level ∈ plan.source.aliases) ∨
      ∃ fault, (QuerySpec.join query).compile catalog.metadata selection = .error fault ∧
        ((∃ name entity, fault = .fieldNotFound name entity) ∨
          ∃ parent child reference, fault = .noAssociation parent child reference) := by
  intro hclaim
  have hrefused : (QuerySpec.join (departmentsAnd "ward_bed")).compile catalog.metadata
      departmentsByPath = .error (.missingParent "ward") := by decide +kernel
  rcases hclaim definitions catalog "Hospital" levels _ departmentsByPath
    (departmentsAnd "ward_bed") ofDefs_definitions levelMap_hospital ofPaths_departments
    (serves_departmentsAnd "ward_bed") rfl rfl with ⟨plan, text, -, htext, -⟩ |
    ⟨fault, hfault, ⟨name, entity, rfl⟩ | ⟨parent, child, reference, rfl⟩⟩
  · exact absurd (hrefused.symm.trans htext) (by simp)
  · exact absurd (hrefused.symm.trans hfault) (by simp)
  · exact absurd (hrefused.symm.trans hfault) (by simp)

end Hospital

end SelectionSql
