import SelectionSql.Proofs.Entities
import SelectionSql.Proofs.Serving
import SelectionSql.Proofs.Templates

/-!
# Native joins - The same statement from a template

A join query writes its source from declared joins, a native one is given it as a template.
Both select the columns of their levels.  The join query adds the key fields of its anchor
when nothing is requested there, but these are among the fields that are selected at every
level anyway, so the columns are the same.

Main results:

- `keepFirst_append_of_subset`: what was met before adds nothing.
- `selectItems_of_requireKeyFields`: the key fields that are added change no selection.
- `JoinQuery.native_items_of_plan`: the columns of a plan are those of its mapped levels.
- `JoinQuery.native_statement_of_plan`: a native query has the columns of the plan.
- `JoinQuery.compile_native_of_compile`: the source of a join query as a template gives its
  statement.
-/

namespace SelectionSql

/-- What was met before adds nothing. -/
theorem keepFirst_append_of_subset {β : Type*} [DecidableEq β] {first second : List β}
    (h : ∀ element ∈ second, element ∈ first) : keepFirst (first ++ second) = keepFirst first := by
  have hnone : (keepFirst second).filter (fun other => decide (other ∉ first)) = [] := by
    rw [List.filter_eq_nil_iff]
    intro element helement
    have hmem := h element (mem_keepFirst.mp helement)
    simp [hmem]
  have happend : keepFirst (first ++ second) = keepFirst first ++
      (keepFirst second).filter fun other => decide (other ∉ first.map id) :=
    keepFirstBy_append id first second
  rw [happend, List.map_id, hnone, List.append_nil]

section

variable {request prepared : Request} {level anchor : Level} {style : ColumnStyle}
variable {items : List SelectItem}

/-! ## Key fields of the anchor -/

/-- Names that occur before add no column. -/
theorem Entity.columns_of_append {entity : Entity} {names more columns : List String}
    (hmore : ∀ name ∈ more, name ∈ names)
    (h : (names ++ more).mapM entity.resolve = .ok columns) :
    ∃ fewer, names.mapM entity.resolve = .ok fewer ∧ keepFirst columns = keepFirst fewer := by
  rw [List.mapM_append] at h
  rcases Outcome.bind_eq_ok.mp h with ⟨first, hfirst, h⟩
  rcases Outcome.bind_eq_ok.mp h with ⟨second, hsecond, h⟩
  cases Except.ok.inj h
  refine ⟨first, hfirst, keepFirst_append_of_subset ?_⟩
  intro column hcolumn
  rcases Outcome.exists_of_mapM hsecond hcolumn with ⟨name, hname, hresolve⟩
  rcases Outcome.exists_of_mem_mapM hfirst (hmore name hname) with ⟨found, hfound, hsame⟩
  cases Except.ok.inj (hsame.symm.trans hresolve)
  exact hfound

/-- Without aggregates a level contributes its join keys and what is requested there. -/
theorem contributedNames_of_no_aggregates (entity : Entity) (requested : List String) :
    contributedNames entity style level requested SortedMap.empty =
      entity.joinKeyFields ++ requested := by
  have hkeys : (SortedMap.empty : AggregateMap).keys = [] := rfl
  have hentries : (SortedMap.empty : AggregateMap).entries = [] := rfl
  simp [contributedNames, hkeys, hentries]

/-- The key fields that are required at a level are all that it has, or it has what it had. -/
theorem Request.fieldsAt_of_requireKeyFields {entity : Entity}
    (hentity : request.entityAt level = .ok entity)
    (h : request.requireKeyFields anchor = .ok prepared) :
    prepared.fieldsAt level = request.fieldsAt level ∨
      request.fieldsAt level = [] ∧
        ∀ field ∈ prepared.fieldsAt level, field ∈ entity.keyFields := by
  unfold Request.requireKeyFields at h
  split at h
  next =>
    cases Except.ok.inj h
    exact Or.inl rfl
  next habsent =>
    rcases Outcome.map_eq_ok.mp h with ⟨found, hfound, rfl⟩
    unfold Request.fieldsAt
    simp only [SortedMap.get?_insert]
    by_cases hlevel : level = anchor
    · have hnone : request.fields.get? level = none := by
        rw [hlevel]
        exact Option.not_isSome_iff_eq_none.mp habsent
      rw [← hlevel] at hfound
      cases Except.ok.inj (hentity.symm.trans hfound)
      right
      rw [hnone, if_pos hlevel]
      refine ⟨rfl, ?_⟩
      intro field hfield
      exact SortedSet.mem_ofList.mp hfield
    · rw [if_neg hlevel]
      exact Or.inl rfl

/-- The key fields that are required at the anchor change no selection, since they are always
selected. -/
theorem selectItems_of_requireKeyFields (hsound : request.Sound)
    (h : request.requireKeyFields anchor = .ok prepared)
    (hitems : selectItems prepared style level SortedMap.empty = .ok items) :
    selectItems request style level SortedMap.empty = .ok items := by
  rcases Request.requireKeyFields_eq_ok h with ⟨fields, hprepared, -⟩
  rcases selectItems_eq_ok.mp hitems with ⟨hadmits, entity, hentity, columns, hcolumns, rfl⟩
  have hsame : request.entityAt level = .ok entity := by
    rw [hprepared] at hentity
    exact hentity
  refine selectItems_eq_ok.mpr ⟨hadmits, entity, hsame, ?_⟩
  rw [contributedNames_of_no_aggregates] at hcolumns ⊢
  rcases Request.fieldsAt_of_requireKeyFields hsame h with hfields | ⟨hnone, hkeys⟩
  · rw [hfields] at hcolumns
    exact ⟨columns, hcolumns, rfl⟩
  · have hselected : ∀ field ∈ prepared.fieldsAt level, field ∈ entity.joinKeyFields := by
      intro field hfield
      exact (hsound.entityAt hsame).keyFields_subset field (hkeys field hfield)
    rcases Entity.columns_of_append hselected hcolumns with ⟨fewer, hfewer, hkept⟩
    rw [hnone, List.append_nil]
    exact ⟨fewer, hfewer, by rw [hkept]⟩

/-! ## Columns of mapped levels -/

namespace JoinQuery

variable {query : JoinQuery} {plan : JoinPlan} {aliases : List TableAlias}

/-- The columns of a plan are those of its levels in the request, in order. -/
theorem native_items_of_plan (hsound : request.Sound) (hgroups : query.conditions.groupBy = [])
    (h : query.plan request SortedMap.empty = .ok plan) :
    ∃ parts, (plan.source.aliases.mapM fun level =>
        selectItems request (.qualified query.anchor) level SortedMap.empty) = .ok parts ∧
      plan.items = parts.flatten := by
  rcases plan_eq_ok.mp h with ⟨prepared, -, -, hprepared, -, -⟩
  rcases items_of_plan hprepared h with ⟨parts, hparts, hitems⟩
  rw [prepare_of_no_groups hgroups] at hprepared
  refine ⟨parts, ?_, hitems⟩
  apply Outcome.mapM_eq_ok.mpr
  refine List.Forall₂.imp ?_ (Outcome.mapM_eq_ok.mp hparts)
  intro level part hpart
  exact selectItems_of_requireKeyFields hsound hprepared hpart

/-- The levels of a plan are mapped as they stand when the selection knows all of them. -/
theorem aliasedLevels_of_plan {selection : Selection} {aggregates : AggregateMap}
    (h : query.plan request aggregates = .ok plan)
    (hregistered : ∀ level ∈ plan.source.aliases, (selection.entityAt level).isSome = true)
    (haliases : aliases.map TableAlias.level = plan.source.aliases) :
    NativeQuery.aliasedLevels aliases selection = plan.source.aliases := by
  unfold NativeQuery.aliasedLevels
  rw [haliases, List.filter_eq_self.mpr hregistered]
  exact keepFirst_of_nodup (nodup_levels_of_plan h).1

end JoinQuery

end

/-! ## Templates of sources -/

/-- The template of a source is not blank, and trimming it cuts its end alone. -/
theorem trim_sourceTemplate (source : String) :
    Text.isBlankText ("FROM " ++ source) = false ∧
      Text.trim ("FROM " ++ source) = Text.trimEnd ("FROM " ++ source) := by
  have hlist : ("FROM " ++ source).toList = 'F' :: ("ROM ".toList ++ source.toList) := by
    rw [String.toList_append]
    rfl
  have hletter : Text.isBlank 'F' = false := by decide
  refine ⟨?_, Text.trim_of_not_isBlank hlist hletter⟩
  rw [Text.isBlankText, hlist, List.all_cons, hletter, Bool.false_and]

/-- The template of a source without braced names is only trimmed by a native query. -/
theorem substituteAliases_sourceTemplate {source : String}
    (h : ¬ Text.HasBracedName source.toList) (aliases : List TableAlias) :
    substituteAliases aliases (Text.trim ("FROM " ++ source)) =
      Text.trimEnd ("FROM " ++ source) := by
  rw [(trim_sourceTemplate source).2]
  apply substituteAliases_of_not_hasBracedName
  intro hbraced
  have hlead : '$' ∉ "FROM ".toList := by decide
  have hwhole := hbraced.of_trimEnd
  rw [String.toList_append] at hwhole
  exact h (hwhole.of_append hlead)

/-- A statement over a trimmed template is the trimmed statement. -/
theorem selectText_trimEnd (columns : List String) (source : String) :
    selectText columns (" " ++ Text.trimEnd ("FROM " ++ source)) =
      Text.trimEnd (selectText columns (" FROM " ++ source)) := by
  unfold selectText
  split
  · rfl
  have hfrom : " FROM " ++ source = " " ++ ("FROM " ++ source) := by
    rw [← String.append_assoc]
    rfl
  have hlead : ∀ text : String, "SELECT " ++ String.intercalate ", " columns ++ (" " ++ text) =
      "SELECT " ++ String.intercalate ", " columns ++ " " ++ text :=
    fun _ => String.append_assoc.symm
  rw [hfrom, hlead, hlead, Text.trimEnd_append (trim_sourceTemplate source).1]

section

variable {definitions : List EntityDef} {catalog : Catalog} {selection : Selection}
variable {query : JoinQuery} {text : String}

/-- The native query over the source of a plan, with an alias for each of its levels in order,
has the columns of the plan and its trimmed source. -/
theorem JoinQuery.native_statement_of_plan {plan : JoinPlan} {aliases : List TableAlias}
    (hsound : (Request.ofSelection catalog.metadata selection).Sound)
    (hkey : Text.isBlankText query.anchor = false) (hgroups : query.conditions.groupBy = [])
    (hplan : query.plan (Request.ofSelection catalog.metadata selection) SortedMap.empty =
      .ok plan)
    (hregistered : ∀ level ∈ plan.source.aliases, (selection.entityAt level).isSome = true)
    (hbraced : ¬ Text.HasBracedName plan.source.text.toList)
    (haliases : aliases.map TableAlias.level = plan.source.aliases) :
    NativeQuery.joinStatement query.anchor ("FROM " ++ plan.source.text) aliases SortedMap.empty
        (Request.ofSelection catalog.metadata selection) =
      .ok ⟨plan.items, " " ++ Text.trimEnd ("FROM " ++ plan.source.text)⟩ := by
  rcases native_items_of_plan hsound hgroups hplan with ⟨parts, hparts, hitems⟩
  have hlevels := aliasedLevels_of_plan hplan hregistered haliases
  refine NativeQuery.joinStatement_eq_ok.mpr
    ⟨hkey, (trim_sourceTemplate _).1, SortedMap.empty, parts, rfl, ?_, ?_⟩
  · show (NativeQuery.aliasedLevels aliases selection).mapM _ = _
    rw [hlevels]
    exact hparts
  · rw [hitems, substituteAliases_sourceTemplate hbraced aliases]

/-- Over accepted metadata the statement of a join query without conditions is its columns and
its source.  Where the selection knows every level of the source and no braced name occurs in
it, the native query over this source with an alias for each of its levels in order gives the
same statement without trailing white space. -/
theorem JoinQuery.compile_native_of_compile (hcatalog : Catalog.ofDefs definitions = .ok catalog)
    (hconditions : query.conditions = {})
    (h : (QuerySpec.join query).compile catalog.metadata selection = .ok text) :
    ∃ plan, query.checkedPlan (Request.ofSelection catalog.metadata selection) = .ok plan ∧
      text = selectText (plan.items.map SelectItem.text) (" FROM " ++ plan.source.text) ∧
      ((∀ level ∈ plan.source.aliases, (selection.entityAt level).isSome = true) →
        ¬ Text.HasBracedName plan.source.text.toList →
        ∀ aliases : List TableAlias, aliases.map TableAlias.level = plan.source.aliases →
          (QuerySpec.native (.join query.anchor ("FROM " ++ plan.source.text) aliases
            SortedMap.empty)).compile catalog.metadata selection = .ok (Text.trimEnd text)) := by
  rcases compile_join_eq_ok h with ⟨plan, hchecked, htext⟩
  have hsections : conditionSections query.conditions = "" := by
    rw [hconditions]
    rfl
  rw [statementText, sourceTail, hsections, String.append_empty] at htext
  refine ⟨plan, hchecked, htext, ?_⟩
  intro hregistered hbraced aliases haliases
  have hgroups : query.conditions.groupBy = [] := by rw [hconditions]
  have haggregates : query.conditions.aggregates = SortedMap.empty := by rw [hconditions]
  rcases Outcome.bind_eq_ok.mp hchecked with ⟨anchor, hanchor, -⟩
  have hkey := (requireKey_eq_ok_iff.mp hanchor).2
  cases Option.some.inj (requireKey_eq_ok_iff.mp hanchor).1
  rw [checkedPlan_of_no_aggregates hkey haggregates] at hchecked
  have hnative := native_statement_of_plan (Catalog.sound_ofSelection hcatalog selection) hkey
    hgroups hchecked hregistered hbraced haliases
  apply QuerySpec.compile_eq_ok.mpr
  refine ⟨_, hnative, ?_⟩
  rw [htext, Statement.text, selectText_trimEnd]

end

namespace Hospital

/-- The source of the departments of surgeons as a template gives their statement. -/
theorem compile_departments_by_template : ∃ plan text,
    (QuerySpec.join departments).compile catalog.metadata departmentsByPath = .ok text ∧
      text ≠ "" ∧
      departments.checkedPlan (Request.ofSelection catalog.metadata departmentsByPath) =
        .ok plan ∧
      plan.source.aliases = [Level.root, "surgeon", "surgeon_department"] ∧
      (QuerySpec.native (.join Level.root ("FROM " ++ plan.source.text)
          [⟨"h", Level.root⟩, ⟨"s", "surgeon"⟩, ⟨"d", "surgeon_department"⟩]
          SortedMap.empty)).compile catalog.metadata departmentsByPath =
        .ok (Text.trimEnd text) := by
  have hcompile : ((QuerySpec.join departments).compile catalog.metadata departmentsByPath).map
      (fun text => decide (text = "")) = .ok false := by decide +kernel
  have hsource : (departments.checkedPlan
      (Request.ofSelection catalog.metadata departmentsByPath)).map
        (fun plan => (plan.source.aliases, decide ('$' ∈ plan.source.text.toList))) =
      .ok ([Level.root, "surgeon", "surgeon_department"], false) := by decide +kernel
  rcases Outcome.map_eq_ok.mp hcompile with ⟨text, htext, hempty⟩
  rcases JoinQuery.compile_native_of_compile ofDefs_definitions rfl htext with
    ⟨plan, hplan, -, hnative⟩
  rcases Outcome.map_eq_ok.mp hsource with ⟨same, hsame, hfacts⟩
  cases Except.ok.inj (hplan.symm.trans hsame)
  rcases Prod.mk.inj hfacts with ⟨haliases, hdollar⟩
  rw [haliases] at hnative
  have hregistered : ∀ level ∈ [Level.root, "surgeon", "surgeon_department"],
      (departmentsByPath.entityAt level).isSome = true := by decide +kernel
  have hbraced := Text.not_hasBracedName_of_not_mem (of_decide_eq_false hdollar)
  exact ⟨plan, text, htext, of_decide_eq_false hempty, hplan, haliases,
    hnative hregistered hbraced _ rfl⟩

end Hospital

end SelectionSql
