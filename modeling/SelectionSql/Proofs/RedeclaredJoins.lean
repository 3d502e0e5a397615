import SelectionSql.Proofs.InertJoins
import SelectionSql.Proofs.JoinTypes

/-!
# Redeclared joins - A join list as it is and declared again

A builder keeps one declaration for every level, the last type at the first place.  A join list
that comes from elsewhere may declare a level several times, and then its first type counts.
Both give the same levels, columns and faults, so that they differ in the types alone.

Main results:

- `JoinQuery.joinType?_redeclared`: a builder keeps the last type of every level.
- `JoinPlan.eq_of_untyped`: a plan is known by its declarations and the rest of it.
- `JoinQuery.untyped_checkedPlan_redeclared`: redeclaring joins changes at most their types.
- `JoinQuery.emission_redeclared_eq_iff`: when it changes none of those that are joined.
- `JoinQuery.compile_redeclared_eq_iff`: when it leaves the text of a query as it is.
-/

namespace SelectionSql

variable {request : Request} {aggregates : AggregateMap}

/-! ## Types in the text of a plan -/

/-- The words of a join tell its type. -/
theorem JoinType.eq_of_keyword_append {left right : JoinType} {rest more : List Char}
    (h : left.keyword.toList ++ rest = right.keyword.toList ++ more) : left = right := by
  have hhead := congrArg List.head? h
  cases left <;> cases right <;> first | rfl | exact absurd hhead (by simp [JoinType.keyword])

/-- A join but for its type. -/
def JoinClause.untyped (clause : JoinClause) : JoinClause :=
  { clause with type := .inner }

/-- A source but for the types of its joins. -/
def FromClause.untyped (source : FromClause) : FromClause :=
  { source with joins := source.joins.map JoinClause.untyped }

/-- A plan but for the types of its joins. -/
def JoinPlan.untyped (plan : JoinPlan) : JoinPlan :=
  { plan with source := plan.source.untyped }

/-- A join is known by its declaration and the rest of it. -/
theorem JoinClause.eq_of_untyped {left right : JoinClause} (h : left.untyped = right.untyped)
    (htype : left.type = right.type) : left = right := by
  cases left
  cases right
  simp_all [JoinClause.untyped]

/-- The texts of joins tell their types. -/
theorem JoinClause.eq_of_text_append {left right : JoinClause} {rest more : List Char}
    (h : left.untyped = right.untyped)
    (htext : left.text.toList ++ rest = right.text.toList ++ more) :
    left = right ∧ rest = more := by
  have hwords : ∀ clause : JoinClause,
      ∃ tail, clause.text.toList = clause.type.keyword.toList ++ tail := by
    intro clause
    simp only [text, String.toList_append, List.append_assoc]
    exact ⟨_, rfl⟩
  obtain ⟨leftTail, hleft⟩ := hwords left
  obtain ⟨rightTail, hright⟩ := hwords right
  have hsame : left = right := by
    rw [hleft, hright, List.append_assoc, List.append_assoc] at htext
    exact eq_of_untyped h (JoinType.eq_of_keyword_append htext)
  subst hsame
  exact ⟨rfl, List.append_cancel_left htext⟩

/-- The texts of several joins tell their types. -/
theorem JoinClause.eq_of_join_text {left right : List JoinClause} {rest more : List Char}
    (h : left.map untyped = right.map untyped)
    (htext : (String.join (left.map fun clause => " " ++ clause.text)).toList ++ rest =
      (String.join (right.map fun clause => " " ++ clause.text)).toList ++ more) :
    left = right ∧ rest = more := by
  induction left generalizing right with
  | nil =>
      cases List.map_eq_nil_iff.mp h.symm
      exact ⟨rfl, htext⟩
  | cons head tail ih =>
      obtain ⟨other, others, rfl, hhead, htail⟩ := List.map_eq_cons_iff.mp h.symm
      simp only [List.map_cons, String.join_cons, String.toList_append, List.append_assoc] at htext
      obtain ⟨rfl, htexts⟩ := eq_of_text_append hhead.symm (List.append_cancel_left htext)
      obtain ⟨rfl, hrest⟩ := ih htail.symm htexts
      exact ⟨rfl, hrest⟩

/-- The text of a source tells the types of its joins. -/
theorem FromClause.eq_of_text {left right : FromClause} (h : left.untyped = right.untyped)
    (htext : left.text = right.text) : left = right := by
  rcases left with ⟨table, anchor, joins⟩
  rcases right with ⟨otherTable, otherAnchor, others⟩
  obtain ⟨rfl, rfl, hjoins⟩ := FromClause.mk.inj h
  have hchars := congrArg String.toList htext
  simp only [text, String.toList_append, List.append_assoc] at hchars
  have htails := List.append_cancel_left
    (List.append_cancel_left (List.append_cancel_left hchars))
  have hsame : joins = others :=
    (JoinClause.eq_of_join_text hjoins (congrArg (fun chars => chars ++ []) htails)).1
  rw [hsame]

/-- Joins are known by their declarations and the rest of them. -/
theorem JoinClause.eq_of_map_untyped {left right : List JoinClause}
    (h : left.map untyped = right.map untyped)
    (hdeclared : left.map JoinPlan.declarationOf = right.map JoinPlan.declarationOf) :
    left = right := by
  induction left generalizing right with
  | nil => exact (List.map_eq_nil_iff.mp h.symm).symm
  | cons head tail ih =>
      obtain ⟨other, others, rfl, hhead, htail⟩ := List.map_eq_cons_iff.mp h.symm
      obtain ⟨hsame, hrest⟩ := List.cons.inj hdeclared
      rw [eq_of_untyped hhead.symm (congrArg DeclaredJoin.type hsame), ih htail.symm hrest]

/-- A plan is known by its declarations and the rest of it. -/
theorem JoinPlan.eq_of_untyped {left right : JoinPlan} (h : left.untyped = right.untyped)
    (hdeclared : left.source.joins.map declarationOf = right.source.joins.map declarationOf) :
    left = right := by
  rcases left with ⟨items, table, anchor, joins⟩
  rcases right with ⟨otherItems, otherTable, otherAnchor, others⟩
  obtain ⟨rfl, hsource⟩ := JoinPlan.mk.inj h
  obtain ⟨rfl, rfl, hjoins⟩ := FromClause.mk.inj hsource
  have hsame : joins = others := JoinClause.eq_of_map_untyped hjoins hdeclared
  rw [hsame]

/-- A statement that selects something tells what follows its columns. -/
theorem selectText_inj {columns : List String} {tail other : String} (hcolumns : columns ≠ []) :
    selectText columns tail = selectText columns other ↔ tail = other := by
  simp [selectText, hcolumns, ← String.toList_inj]

/-- A statement that selects something tells its source. -/
theorem statementText_inj {columns : List String} {source other : String}
    {conditions : Conditions} (hcolumns : columns ≠ []) :
    statementText columns source conditions = statementText columns other conditions ↔
      source = other := by
  rw [statementText, statementText, selectText_inj hcolumns]
  simp [sourceTail, ← String.toList_inj]

namespace JoinPlan

variable {plan : JoinPlan}

/-! ## Plans that join the same levels -/

/-- What a joined level adds to a plan but for the type of the join. -/
def untypedEntry (entry : List SelectItem × JoinClause) : List SelectItem × JoinClause :=
  (entry.1, entry.2.untyped)

/-- Whatever the type, a level is joined or refused alike. -/
theorem untyped_joinLevel (anchor : Level) (join : DeclaredJoin) :
    (joinLevel request anchor aggregates join).map untypedEntry =
      joinLevel request anchor aggregates ⟨join.level, .inner⟩ := by
  have hclause : (joinClause request join).map JoinClause.untyped =
      joinClause request ⟨join.level, .inner⟩ := by
    dsimp only [joinClause]
    cases request.entityAt (Level.parent join.level) with
    | error fault => rfl
    | ok parent =>
        cases request.entityAt join.level with
        | error fault => rfl
        | ok child =>
            cases hcolumns : parent.firstJoinColumns? (Level.reference join.level) with
            | none => simp [bind, Except.bind, Except.map, hcolumns]
            | some columns =>
                simp [bind, Except.bind, Except.map, pure, Except.pure, hcolumns,
                  JoinClause.untyped]
  unfold joinLevel
  rw [← hclause]
  cases selectItems request (.qualified anchor) join.level aggregates with
  | error fault => rfl
  | ok items => cases joinClause request join <;> rfl

/-- Joining the same levels one after another gives the same plan but for the types. -/
theorem untyped_joinAll {joins others : List DeclaredJoin}
    (h : joins.map DeclaredJoin.level = others.map DeclaredJoin.level) :
    (plan.joinAll request aggregates joins).map untyped =
      (plan.joinAll request aggregates others).map untyped := by
  have hentries : ∀ list : List DeclaredJoin,
      (plan.joinAll request aggregates list).map untyped =
        ((list.map DeclaredJoin.level).mapM fun level =>
          joinLevel request plan.source.anchor aggregates ⟨level, .inner⟩).map
            plan.untyped.extend := by
    intro list
    rw [List.mapM_map]
    have hlevels : (list.mapM (joinLevel request plan.source.anchor aggregates)).map
        (List.map untypedEntry) =
          list.mapM fun join => joinLevel request plan.source.anchor aggregates
            ⟨join.level, .inner⟩ := by
      rw [Outcome.map_mapM]
      simp only [untyped_joinLevel]
    rw [show ((fun level => joinLevel request plan.source.anchor aggregates ⟨level, .inner⟩) ∘
      DeclaredJoin.level) = fun join : DeclaredJoin => joinLevel request plan.source.anchor
        aggregates ⟨join.level, .inner⟩ from rfl, ← hlevels]
    unfold joinAll
    cases list.mapM (joinLevel request plan.source.anchor aggregates) with
    | error fault => rfl
    | ok joined =>
        show Except.ok (plan.extend joined).untyped =
          Except.ok (plan.untyped.extend (joined.map untypedEntry))
        simp [untyped, extend, FromClause.untyped, untypedEntry, List.flatMap_map,
          Function.comp_def]
  rw [hentries, hentries, h]

end JoinPlan

namespace JoinQuery

variable {query : JoinQuery} {level : Level} {fields : FieldMap}

/-! ## Declaring joins again -/

/-- The query with the joins that a builder keeps when they are declared one after another. -/
def redeclared (query : JoinQuery) : JoinQuery :=
  query.withJoins (declareAll DeclaredJoin.level query.joins)

/-- The type of the last declaration of a level. -/
def lastJoinType? (query : JoinQuery) (level : Level) : Option JoinType :=
  (query.joins.reverse.find? fun join => join.level = level).map DeclaredJoin.type

/-- A builder keeps the last type of every level. -/
theorem joinType?_redeclared (query : JoinQuery) (level : Level) :
    query.redeclared.joinType? level = query.lastJoinType? level := by
  show ((declareAll DeclaredJoin.level query.joins).find? fun join =>
    decide (join.level = level)).map DeclaredJoin.type = _
  rw [find?_declareAll]
  rfl

/-- A level that has a first type has a last one. -/
theorem isSome_lastJoinType? (query : JoinQuery) (level : Level) :
    (query.lastJoinType? level).isSome = (query.joinType? level).isSome := by
  rw [lastJoinType?, joinType?, Option.isSome_map, Option.isSome_map, Bool.eq_iff_iff,
    List.find?_isSome, List.find?_isSome]
  simp

/-- A builder keeps the levels, each at its first place. -/
theorem levels_redeclared (query : JoinQuery) :
    query.redeclared.joins.map DeclaredJoin.level =
      keepFirst (query.joins.map DeclaredJoin.level) :=
  map_declareAll DeclaredJoin.level query.joins

/-- The same joins are refused, for the same reason. -/
theorem checkJoins_redeclared (query : JoinQuery) (requested : List Level) :
    query.redeclared.checkJoins requested = query.checkJoins requested := by
  have hreachable : ∀ level, level ∈ query.redeclared.reachableLevels requested ↔
      level ∈ query.reachableLevels requested := by
    intro level
    simp only [reachableLevels, levels_redeclared, List.mem_append, mem_keepFirst]
    rfl
  have hfault : ∀ join, query.redeclared.joinFault? requested join =
      query.joinFault? requested ⟨join.level, .inner⟩ := by
    intro join
    unfold joinFault?
    simp only [hreachable]
    rfl
  have hlevels : ∀ joins : List DeclaredJoin,
      joins.findSome? (fun join => query.joinFault? requested ⟨join.level, .inner⟩) =
        (joins.map DeclaredJoin.level).findSome?
          fun level => query.joinFault? requested ⟨level, .inner⟩ := by
    intro joins
    rw [List.findSome?_map]
    rfl
  have hfirst : query.redeclared.joins.findSome? (query.redeclared.joinFault? requested) =
      query.joins.findSome? (query.joinFault? requested) := by
    rw [funext hfault, hlevels, levels_redeclared, findSome?_keepFirst, ← hlevels]
    rfl
  unfold checkJoins
  rw [hfirst]

/-- The same levels are needed, in the same order. -/
theorem levels_neededJoins_redeclared (query : JoinQuery) (fields : FieldMap) :
    (query.redeclared.neededJoins fields).map DeclaredJoin.level =
      keepFirst ((query.neededJoins fields).map DeclaredJoin.level) := by
  have hfilter : ∀ other : JoinQuery, (other.neededJoins fields).map DeclaredJoin.level =
      (other.joins.map DeclaredJoin.level).filter (other.isNeeded fields) := by
    intro other
    rw [List.filter_map]
    rfl
  rw [hfilter, hfilter, levels_redeclared, keepFirst_filter]
  rfl

/-- The same levels are joined, in the same order. -/
theorem levels_emission_redeclared (query : JoinQuery) (fields : FieldMap) :
    (query.redeclared.emission fields).map DeclaredJoin.level =
      (query.emission fields).map DeclaredJoin.level := by
  have hflatMap : ∀ joins : List DeclaredJoin,
      (joins.flatMap fun join => Level.below query.anchor join.level) =
        (joins.map DeclaredJoin.level).flatMap (Level.below query.anchor) := by
    intro joins
    rw [List.flatMap_map]
  rw [map_level_emission, map_level_emission]
  show keepFirst ((query.redeclared.neededJoins fields).flatMap fun join =>
    Level.below query.anchor join.level) = _
  rw [hflatMap, hflatMap, levels_neededJoins_redeclared, keepFirst_flatMap_keepFirst]

/-- Redeclaring joins changes at most the types of a plan. -/
theorem untyped_plan_redeclared (query : JoinQuery) (request : Request)
    (aggregates : AggregateMap) :
    (query.redeclared.plan request aggregates).map JoinPlan.untyped =
      (query.plan request aggregates).map JoinPlan.untyped := by
  rw [plan_eq, plan_eq, checkJoins_redeclared]
  refine Outcome.map_bind_congr fun _ => ?_
  refine Outcome.map_bind_congr fun prepared => ?_
  refine Outcome.map_bind_congr fun anchored => ?_
  exact JoinPlan.untyped_joinAll (query.levels_emission_redeclared prepared.fields)

/-- Redeclaring joins changes at most the types of a checked plan. -/
theorem untyped_checkedPlan_redeclared (query : JoinQuery) (request : Request) :
    (query.redeclared.checkedPlan request).map JoinPlan.untyped =
      (query.checkedPlan request).map JoinPlan.untyped := by
  refine Outcome.map_bind_congr fun anchor => ?_
  refine Outcome.map_bind_congr fun checked => ?_
  exact untyped_plan_redeclared query request checked

/-! ## Types that change -/

/-- The first needed level is found among the levels that are needed. -/
theorem level_firstNeeded? (query : JoinQuery) (fields : FieldMap) (level : Level) :
    (query.firstNeeded? fields level).map DeclaredJoin.level =
      ((query.neededJoins fields).map DeclaredJoin.level).find? fun lower =>
        Level.isInScope lower level := by
  rw [List.find?_map]
  rfl

/-- A level is joined for the same level below it. -/
theorem level_firstNeeded?_redeclared (query : JoinQuery) (fields : FieldMap) (level : Level) :
    (query.redeclared.firstNeeded? fields level).map DeclaredJoin.level =
      (query.firstNeeded? fields level).map DeclaredJoin.level := by
  rw [level_firstNeeded?, level_firstNeeded?, levels_neededJoins_redeclared]
  simp only [List.find?_eq_findSome?_guard]
  exact findSome?_keepFirst _ _

/-- What a statement joins in order, by the types that the declarations settle. -/
theorem emission_eq_map_settledType?
    (hscope : ∀ needed ∈ query.neededJoins fields,
      Level.isInScope needed.level query.anchor = true) :
    query.emission fields = ((query.emission fields).map DeclaredJoin.level).map fun level =>
      ⟨level, (query.settledType? fields level).getD .inner⟩ := by
  have hself : ∀ join ∈ query.emission fields,
      (⟨join.level, (query.settledType? fields join.level).getD .inner⟩ : DeclaredJoin) =
        id join := by
    intro join hjoin
    rw [settledType?_of_mem_emission hscope hjoin, Option.getD_some]
    rfl
  rw [List.map_map]
  exact (List.map_congr_left hself).trans (List.map_id _) |>.symm

/-- Every declared level that a builder keeps lies in scope. -/
theorem isInScope_of_redeclared
    (hscope : ∀ join ∈ query.joins, Level.isInScope join.level query.anchor = true)
    {join : DeclaredJoin} (hjoin : join ∈ query.redeclared.joins) :
    Level.isInScope join.level query.anchor = true := by
  have hlevel : join.level ∈ keepFirst (query.joins.map DeclaredJoin.level) := by
    rw [← levels_redeclared]
    exact List.mem_map_of_mem hjoin
  obtain ⟨declared, hdeclared, heq⟩ := List.mem_map.mp (mem_keepFirst.mp hlevel)
  rw [← heq]
  exact hscope declared hdeclared

/-- Where all levels that are joined keep their types, the settled types stay. -/
theorem settledType?_redeclared
    (hscope : ∀ join ∈ query.joins, Level.isInScope join.level query.anchor = true)
    (hagree : ∀ join ∈ query.emission fields,
      query.joinType? join.level = query.lastJoinType? join.level)
    {join : DeclaredJoin} (hjoin : join ∈ query.emission fields) :
    query.redeclared.settledType? fields join.level = query.settledType? fields join.level := by
  have hneededScope : ∀ needed ∈ query.neededJoins fields,
      Level.isInScope needed.level query.anchor = true :=
    fun needed hneeded => hscope needed (List.mem_filter.mp hneeded).1
  obtain ⟨needed, hneeded, hfirst, hmem⟩ := firstNeeded?_of_mem_emission hneededScope hjoin
  have hsame := query.level_firstNeeded?_redeclared fields join.level
  rw [hfirst] at hsame
  obtain ⟨other, hother, hlevel⟩ := Option.map_eq_some_iff.mp hsame
  -- every level between the two is joined as well
  have hbetween : ∀ level ∈ Level.below join.level needed.level,
      query.redeclared.joinType? level = query.joinType? level := by
    have hway : join.level ∈ Level.below query.anchor needed.level := by
      rw [← query.map_level_joinsTo needed.type]
      exact List.mem_map_of_mem hmem
    obtain ⟨hunder, hinScope, hanchor⟩ :=
      (Level.mem_below_iff (hneededScope needed hneeded)).mp hway
    intro level hbelow
    obtain ⟨hlower, hupper, hne⟩ := (Level.mem_below_iff hunder).mp hbelow
    have hnotAnchor : level ≠ query.anchor := by
      rintro rfl
      exact hanchor (Level.isInScope_antisymm hinScope hupper)
    have hjoined : level ∈ (query.emission fields).map DeclaredJoin.level :=
      mem_levels_emission.mpr ⟨needed, hneeded, (Level.mem_below_iff
        (hneededScope needed hneeded)).mpr
          ⟨hlower, Level.isInScope_trans hupper hinScope, hnotAnchor⟩⟩
    obtain ⟨joined, hjoinedMem, rfl⟩ := List.mem_map.mp hjoined
    rw [joinType?_redeclared, hagree joined hjoinedMem]
  have hnearest : query.redeclared.nearestType? join.level other.level =
      query.nearestType? join.level needed.level := by
    rw [nearestType?, nearestType?, hlevel, ← List.head?_filterMap, ← List.head?_filterMap,
      List.filterMap_congr hbetween]
  unfold settledType?
  rw [joinType?_redeclared, ← hagree join hjoin, hfirst, hother]
  cases query.joinType? join.level with
  | some type => rfl
  | none => exact hnearest

theorem settledType?_of_joinType? {type : JoinType} (h : query.joinType? level = some type) :
    query.settledType? fields level = some type := by
  rw [settledType?, h]

/-- Redeclaring joins keeps the types that are joined exactly when, for every level that is
joined, the first and the last declaration agree. -/
theorem emission_redeclared_eq_iff
    (hscope : ∀ join ∈ query.joins, Level.isInScope join.level query.anchor = true) :
    query.redeclared.emission fields = query.emission fields ↔
      ∀ join ∈ query.emission fields,
        query.joinType? join.level = query.lastJoinType? join.level := by
  have hneededScope : ∀ needed ∈ query.neededJoins fields,
      Level.isInScope needed.level query.anchor = true :=
    fun needed hneeded => hscope needed (List.mem_filter.mp hneeded).1
  have hkeptScope : ∀ needed ∈ query.redeclared.neededJoins fields,
      Level.isInScope needed.level query.redeclared.anchor = true :=
    fun needed hneeded => isInScope_of_redeclared hscope (List.mem_filter.mp hneeded).1
  constructor
  · intro hsame join hjoin
    have hfirst := settledType?_of_mem_emission hneededScope hjoin
    have hlast := settledType?_of_mem_emission hkeptScope (hsame.symm ▸ hjoin)
    cases hown : query.joinType? join.level with
    | none =>
        have hnone := query.isSome_lastJoinType? join.level
        rw [hown] at hnone
        exact (Option.isNone_iff_eq_none.mp (by simpa using hnone)).symm
    | some type =>
        have hsome := query.isSome_lastJoinType? join.level
        rw [hown] at hsome
        obtain ⟨last, hlastType⟩ := Option.isSome_iff_exists.mp hsome
        rw [settledType?_of_joinType? hown] at hfirst
        rw [settledType?_of_joinType? ((joinType?_redeclared query _).trans hlastType)] at hlast
        rw [hlastType, hfirst, hlast]
  · intro hagree
    rw [emission_eq_map_settledType? hkeptScope, levels_emission_redeclared]
    refine Eq.trans (List.map_congr_left fun level hlevel => ?_)
      (emission_eq_map_settledType? hneededScope).symm
    obtain ⟨join, hjoin, rfl⟩ := List.mem_map.mp hlevel
    rw [settledType?_redeclared hscope hagree hjoin]

/-! ## Texts -/

/-- Redeclaring joins leaves the plan of a query as it is exactly when, for every level that is
joined, the first and the last declaration agree. -/
theorem plan_redeclared_eq_iff {plan kept : JoinPlan}
    (h : query.plan request aggregates = .ok plan)
    (hkept : query.redeclared.plan request aggregates = .ok kept) :
    kept = plan ↔ ∀ clause ∈ plan.source.joins,
      query.joinType? clause.level = query.lastJoinType? clause.level := by
  rcases plan_eq_ok.mp h with ⟨prepared, -, hcheck, hprepared, -, -⟩
  have hscope : ∀ join ∈ query.joins, Level.isInScope join.level query.anchor = true :=
    fun join hjoin => isInScope_of_checkJoins hcheck hjoin
  have hdeclared := joins_of_plan hprepared h
  have hkeptPrepared : query.redeclared.prepare request = .ok prepared := hprepared
  have hkeptDeclared := joins_of_plan hkeptPrepared hkept
  have huntyped : kept.untyped = plan.untyped := by
    have hsame := untyped_plan_redeclared query request aggregates
    rw [h, hkept] at hsame
    exact Except.ok.inj hsame
  have htypes : (∀ clause ∈ plan.source.joins,
      query.joinType? clause.level = query.lastJoinType? clause.level) ↔
        ∀ join ∈ query.emission prepared.fields,
          query.joinType? join.level = query.lastJoinType? join.level := by
    rw [← hdeclared]
    simp only [List.mem_map, forall_exists_index, and_imp, forall_apply_eq_imp_iff₂]
    exact Iff.rfl
  rw [htypes, ← emission_redeclared_eq_iff hscope, ← hdeclared, ← hkeptDeclared]
  constructor
  · rintro rfl
    rfl
  · exact JoinPlan.eq_of_untyped huntyped

/-- Redeclaring joins leaves the text of a query as it is, or its fault, exactly when nothing is
selected or the first and the last declaration agree for every level that is joined. -/
theorem compile_redeclared_eq_iff (query : JoinQuery) (metadata : Metadata)
    (selection : Selection) :
    (QuerySpec.join query).compile metadata selection =
        (QuerySpec.join query.redeclared).compile metadata selection ↔
      ∀ plan, query.checkedPlan (Request.ofSelection metadata selection) = .ok plan →
        plan.items ≠ [] → ∀ clause ∈ plan.source.joins,
          query.joinType? clause.level = query.lastJoinType? clause.level := by
  have hsame := untyped_checkedPlan_redeclared query (Request.ofSelection metadata selection)
  rw [compile_join_eq, compile_join_eq]
  cases hplan : query.checkedPlan (Request.ofSelection metadata selection) with
  | error fault =>
      rw [hplan] at hsame
      rw [Outcome.map_eq_error.mp hsame]
      simp [Except.map]
  | ok plan =>
      rw [hplan] at hsame
      obtain ⟨kept, hkept, huntyped⟩ := Outcome.map_eq_ok.mp hsame
      obtain ⟨hitems, hsource⟩ := JoinPlan.mk.inj huntyped
      have hplans : kept = plan ↔ ∀ clause ∈ plan.source.joins,
          query.joinType? clause.level = query.lastJoinType? clause.level := by
        obtain ⟨-, checked, hchecked, hmade⟩ := checkedPlan_eq_ok.mp hplan
        obtain ⟨-, sameChecked, hsameChecked, hkeptMade⟩ := checkedPlan_eq_ok.mp hkept
        cases Except.ok.inj (hchecked.symm.trans hsameChecked)
        exact plan_redeclared_eq_iff hmade hkeptMade
      rw [hkept]
      show Except.ok (statementText _ _ _) = Except.ok (statementText _ _ query.conditions) ↔ _
      rw [Except.ok.injEq, hitems]
      by_cases hempty : plan.items = []
      · simp [hempty, statementText_nil]
      · have hcolumns : plan.items.map SelectItem.text ≠ [] := by simpa using hempty
        rw [statementText_inj hcolumns]
        constructor
        · intro htext same hplanSame _
          cases Except.ok.inj hplanSame
          refine hplans.mp (JoinPlan.eq_of_untyped huntyped ?_)
          rw [FromClause.eq_of_text hsource htext.symm]
        · intro hagree
          rw [hplans.mpr (hagree plan rfl hempty)]

/-! ## Replaying -/

/-- The query that is built when the joins of another one are declared one after another. -/
def replayed (query : JoinQuery) : Except QueryFault JoinQuery :=
  (JoinDraft.run { key := some query.anchor, conditions := query.conditions }
    (query.joins.map fun join => .join join.level join.type)).build

/-- What is replayed are the redeclared joins, under the condition that the anchor is not
blank. -/
theorem replayed_eq (query : JoinQuery) :
    query.replayed =
      (requireKey .join (some query.anchor)).map fun anchor => { query.redeclared with anchor } := by
  have hrun : ∀ (joins : List DeclaredJoin) (draft : JoinDraft),
      draft.run (joins.map fun join => .join join.level join.type) =
        ⟨draft.key, joins.foldl (fun declared join => declareBy DeclaredJoin.level join declared)
          draft.joins, draft.conditions⟩ := by
    intro joins
    induction joins with
    | nil => exact fun draft => rfl
    | cons join rest ih => exact fun draft => ih (draft.step (.join join.level join.type))
  rw [replayed, hrun]
  rfl

/-- Compiling what is replayed is compiling the redeclared joins, and a blank anchor is refused
either way. -/
theorem replayed_bind_compile (query : JoinQuery) (metadata : Metadata) (selection : Selection) :
    (query.replayed.bind fun built => (QuerySpec.join built).compile metadata selection) =
      (QuerySpec.join query.redeclared).compile metadata selection := by
  rw [replayed_eq, compile_join_eq]
  cases hkey : requireKey .join (some query.anchor) with
  | error fault =>
      show Except.error fault = Except.map _ (requireKey .join (some query.anchor) >>= _)
      rw [hkey]
      rfl
  | ok anchor =>
      cases (requireKey_some_eq_ok.mp hkey).2
      exact compile_join_eq query.redeclared metadata selection

end JoinQuery

end SelectionSql
