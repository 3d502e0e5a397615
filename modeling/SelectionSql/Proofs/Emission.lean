import SelectionSql.Plan.Join
import SelectionSql.Proofs.Ancestry
import SelectionSql.Proofs.Outcome

/-!
# Emission - The order in which a join plan joins its levels

A plan grows by joining one needed level after another, each with those of its
ancestors that are missing.  What it joins in the end can be said without the plan
that grows: the ways down from the anchor to the needed levels one after another,
every level at its first place.

Main results:

- `JoinQuery.ensureJoined_eq`: what joining one level adds to a plan.
- `JoinQuery.plan_eq`: a plan joins the levels of `JoinQuery.emission`.
- `JoinQuery.levels_of_plan`: the levels of a plan in order.
- `JoinQuery.joins_of_plan`: the joins of a plan with their types, in order.
-/

namespace SelectionSql

variable {query : JoinQuery} {request : Request} {aggregates : AggregateMap}
variable {plan grown : JoinPlan} {level : Level} {type : JoinType}

/-! ## Ways down from the anchor -/

namespace JoinQuery

/-- Levels on the way up with the type of each: that of its first declaration,
or else the type of the level below. -/
def typedChain (query : JoinQuery) (type : JoinType) : List Level → List DeclaredJoin
  | [] => []
  | level :: above =>
      ⟨level, query.typeOr level type⟩ :: query.typedChain (query.typeOr level type) above

/-- The joins that lead from the anchor down to a level. -/
def joinsTo (query : JoinQuery) (type : JoinType) (level : Level) : List DeclaredJoin :=
  (query.typedChain type (Level.below query.anchor level).reverse).reverse

/-- The joins of a statement in order, each level at its first place. -/
def emission (query : JoinQuery) (fields : FieldMap) : List DeclaredJoin :=
  keepFirstBy DeclaredJoin.level
    ((query.neededJoins fields).flatMap fun join => query.joinsTo join.type join.level)

theorem map_level_typedChain (type : JoinType) (levels : List Level) :
    (query.typedChain type levels).map DeclaredJoin.level = levels := by
  induction levels generalizing type with
  | nil => rfl
  | cons level above ih => simp [typedChain, ih]

/-- The joins to a level join the levels on the way down to it. -/
theorem map_level_joinsTo (type : JoinType) (level : Level) :
    (query.joinsTo type level).map DeclaredJoin.level = Level.below query.anchor level := by
  simp [joinsTo, map_level_typedChain]

@[simp] theorem joinsTo_anchor (type : JoinType) : query.joinsTo type query.anchor = [] := by
  simp [joinsTo, typedChain]

/-- The joins to a level are those to its parent and the join of the level. -/
theorem joinsTo_eq_append (hscope : Level.isInScope level query.anchor = true)
    (hlevel : level ≠ query.anchor) (type : JoinType) :
    query.joinsTo type level =
      query.joinsTo (query.typeOr level type) (Level.parent level) ++
        [⟨level, query.typeOr level type⟩] := by
  unfold joinsTo
  rw [Level.below_eq_append hscope hlevel]
  simp [typedChain]

/-- The levels of the emission are those on the ways down to the needed levels. -/
theorem map_level_emission (query : JoinQuery) (fields : FieldMap) :
    (query.emission fields).map DeclaredJoin.level =
      keepFirst ((query.neededJoins fields).flatMap fun join =>
        Level.below query.anchor join.level) := by
  rw [emission, map_keepFirstBy, List.map_flatMap]
  simp only [map_level_joinsTo]

theorem mem_levels_emission {fields : FieldMap} :
    level ∈ (query.emission fields).map DeclaredJoin.level ↔
      ∃ join ∈ query.neededJoins fields, level ∈ Level.below query.anchor join.level := by
  rw [map_level_emission, mem_keepFirst, List.mem_flatMap]

end JoinQuery

/-! ## Joining several levels -/

namespace JoinPlan

/-- The plan with some levels joined one after another. -/
def joinAll (plan : JoinPlan) (request : Request) (aggregates : AggregateMap)
    (joins : List DeclaredJoin) : Except QueryFault JoinPlan := do
  let joined ← joins.mapM (joinLevel request plan.source.anchor aggregates)
  return plan.extend joined

@[simp] theorem joinAll_nil : plan.joinAll request aggregates [] = .ok plan := by
  simp [joinAll, pure, Except.pure, bind, Except.bind]

theorem joinAll_append (joins more : List DeclaredJoin) :
    plan.joinAll request aggregates (joins ++ more) =
      plan.joinAll request aggregates joins >>= fun grown =>
        grown.joinAll request aggregates more := by
  simp only [joinAll, List.mapM_append, bind_assoc, pure_bind, extend_extend, anchor_extend]

/-- The declaration that a join carries out. -/
def declarationOf (clause : JoinClause) : DeclaredJoin :=
  ⟨clause.level, clause.type⟩

/-- A join carries out the declaration it was made for and hangs from the parent. -/
theorem clause_of_joinLevel {anchor : Level} {join : DeclaredJoin}
    {joined : List SelectItem × JoinClause}
    (h : joinLevel request anchor aggregates join = .ok joined) :
    declarationOf joined.2 = join ∧ joined.2.parent = Level.parent join.level := by
  rcases Outcome.bind_eq_ok.mp h with ⟨items, hitems, h⟩
  rcases Outcome.bind_eq_ok.mp h with ⟨clause, hclause, h⟩
  rcases Outcome.bind_eq_ok.mp hclause with ⟨parent, hparent, hclause⟩
  rcases Outcome.bind_eq_ok.mp hclause with ⟨child, hchild, hclause⟩
  cases Except.ok.inj h
  split at hclause
  · cases Except.ok.inj hclause
    exact ⟨rfl, rfl⟩
  · exact absurd hclause (by simp)

theorem level_of_joinLevel {anchor : Level} {join : DeclaredJoin}
    {joined : List SelectItem × JoinClause}
    (h : joinLevel request anchor aggregates join = .ok joined) :
    joined.2.level = join.level :=
  congrArg DeclaredJoin.level (clause_of_joinLevel h).1

/-- Joining levels keeps the anchor and carries out exactly these declarations. -/
theorem joins_of_joinAll {joins : List DeclaredJoin}
    (h : plan.joinAll request aggregates joins = .ok grown) :
    grown.source.anchor = plan.source.anchor ∧
      grown.source.joins.map declarationOf = plan.source.joins.map declarationOf ++ joins := by
  rcases Outcome.bind_eq_ok.mp h with ⟨joined, hjoined, h⟩
  cases Except.ok.inj h
  refine ⟨rfl, ?_⟩
  have hdeclared : joined.map (fun entry => declarationOf entry.2) = joins.map id :=
    Outcome.map_eq_of_mapM (fun join entry hentry => (clause_of_joinLevel hentry).1) hjoined
  simpa [extend, Function.comp_def] using hdeclared

/-- Joining levels keeps the anchor and adds exactly these levels. -/
theorem levels_of_joinAll {joins : List DeclaredJoin}
    (h : plan.joinAll request aggregates joins = .ok grown) :
    grown.source.anchor = plan.source.anchor ∧
      grown.levels = plan.levels ++ joins.map DeclaredJoin.level := by
  rcases joins_of_joinAll h with ⟨hanchor, hjoins⟩
  have hmap := congrArg (List.map DeclaredJoin.level) hjoins
  rw [List.map_append, List.map_map, List.map_map] at hmap
  exact ⟨hanchor, congrArg₂ List.cons hanchor hmap⟩

/-- The joins whose levels are not joined yet. -/
def missing (plan : JoinPlan) (joins : List DeclaredJoin) : List DeclaredJoin :=
  joins.filter fun join => decide (join.level ∉ plan.levels)

theorem missing_append (joins more : List DeclaredJoin) :
    plan.missing (joins ++ more) = plan.missing joins ++ plan.missing more :=
  List.filter_append _ _

/-- A plan is closed when its levels lie in the scope of its anchor and every level
between the anchor and one of them is joined too. -/
structure Closed (plan : JoinPlan) : Prop where
  inScope : ∀ level ∈ plan.levels, Level.isInScope level plan.source.anchor = true
  ancestors : ∀ level ∈ plan.levels, ∀ above ∈ Level.below plan.source.anchor level,
    above ∈ plan.levels

/-- In a closed plan nothing is missing on the way down to one of its levels. -/
theorem missing_joinsTo_eq_nil (hanchor : plan.source.anchor = query.anchor)
    (hclosed : plan.Closed) (hlevel : level ∈ plan.levels) (type : JoinType) :
    plan.missing (query.joinsTo type level) = [] := by
  rw [missing, List.filter_eq_nil_iff]
  intro join hjoin
  have hbelow : join.level ∈ Level.below plan.source.anchor level := by
    rw [hanchor, ← query.map_level_joinsTo type level]
    exact List.mem_map_of_mem hjoin
  simpa using hclosed.ancestors level hlevel join.level hbelow

/-- Joining what is missing on the way down to a level keeps a plan closed. -/
theorem Closed.joinAll (hclosed : plan.Closed) (hanchor : plan.source.anchor = query.anchor)
    (hscope : Level.isInScope level query.anchor = true)
    (h : plan.joinAll request aggregates (plan.missing (query.joinsTo type level)) = .ok grown) :
    grown.Closed ∧ ∀ other, other ∈ grown.levels ↔
      other ∈ plan.levels ∨ other ∈ Level.below query.anchor level := by
  rcases levels_of_joinAll h with ⟨hsource, hlevels⟩
  have hmem : ∀ other, other ∈ grown.levels ↔
      other ∈ plan.levels ∨ other ∈ Level.below query.anchor level := by
    intro other
    rw [hlevels, ← query.map_level_joinsTo type level]
    simp only [missing, List.mem_append, List.mem_map, List.mem_filter, decide_eq_true_eq]
    constructor
    · intro hcase
      rcases hcase with hold | ⟨join, ⟨hjoin, -⟩, rfl⟩
      · exact Or.inl hold
      · exact Or.inr ⟨join, hjoin, rfl⟩
    · intro hcase
      rcases hcase with hold | ⟨join, hjoin, rfl⟩
      · exact Or.inl hold
      · by_cases hold : join.level ∈ plan.levels
        · exact Or.inl hold
        · exact Or.inr ⟨join, ⟨hjoin, hold⟩, rfl⟩
  refine ⟨⟨?_, ?_⟩, hmem⟩
  · intro other hother
    rw [hsource]
    rcases (hmem other).mp hother with hold | hnew
    · exact hclosed.inScope other hold
    · rw [hanchor]
      exact (Level.isInScope_of_mem_below hscope hnew).1
  · intro other hother above habove
    rw [hsource] at habove
    rcases (hmem other).mp hother with hold | hnew
    · exact (hmem above).mpr (Or.inl (hclosed.ancestors other hold above habove))
    · rw [hanchor] at habove
      exact (hmem above).mpr (Or.inr (Level.mem_below_of_mem hscope hnew habove))

end JoinPlan

/-! ## Joining one level -/

namespace JoinQuery

theorem ensureJoined_of_mem (hlevel : level ∈ plan.levels) :
    query.ensureJoined request aggregates plan level type = .ok plan := by
  rw [ensureJoined, dif_pos hlevel]

theorem ensureJoined_of_not_mem (hlevel : level ∉ plan.levels)
    (hscope : Level.isInScope level plan.source.anchor = true) :
    query.ensureJoined request aggregates plan level type = do
      let grown ← query.ensureJoined request aggregates plan (Level.parent level)
        (query.typeOr (Level.parent level) type)
      let joined ← joinLevel request plan.source.anchor aggregates ⟨level, type⟩
      return grown.extend [joined] := by
  rw [ensureJoined, dif_neg hlevel, dif_pos hscope]

/-- Joining a level with the type of its first declaration adds what is missing on
the way down to it. -/
theorem ensureJoined_typeOr_eq (hanchor : plan.source.anchor = query.anchor)
    (hclosed : plan.Closed) (hscope : Level.isInScope level query.anchor = true)
    (type : JoinType) :
    query.ensureJoined request aggregates plan level (query.typeOr level type) =
      plan.joinAll request aggregates (plan.missing (query.joinsTo type level)) := by
  induction level, hscope using Level.scope_induction generalizing type with
  | hanchor =>
      have hmem : query.anchor ∈ plan.levels := hanchor ▸ plan.anchor_mem_levels
      rw [ensureJoined_of_mem hmem, joinsTo_anchor]
      exact JoinPlan.joinAll_nil.symm
  | hstep level hscope hlevel ih =>
      by_cases hmem : level ∈ plan.levels
      · rw [ensureJoined_of_mem hmem, plan.missing_joinsTo_eq_nil hanchor hclosed hmem]
        exact JoinPlan.joinAll_nil.symm
      · have hnew : plan.missing [⟨level, query.typeOr level type⟩] =
            [⟨level, query.typeOr level type⟩] := by
          simp [JoinPlan.missing, hmem]
        rw [ensureJoined_of_not_mem hmem (hanchor ▸ hscope), ih,
          joinsTo_eq_append hscope hlevel, JoinPlan.missing_append, hnew,
          JoinPlan.joinAll_append]
        simp only [JoinPlan.joinAll, List.mapM_cons, List.mapM_nil, bind_assoc, pure_bind,
          JoinPlan.anchor_extend]

/-- Joining a declared level adds what is missing on the way down to it, provided
that the level is joined already or declared with that type first. -/
theorem ensureJoined_eq (hanchor : plan.source.anchor = query.anchor) (hclosed : plan.Closed)
    (hscope : Level.isInScope level query.anchor = true)
    (htype : level ∈ plan.levels ∨ query.typeOr level type = type) :
    query.ensureJoined request aggregates plan level type =
      plan.joinAll request aggregates (plan.missing (query.joinsTo type level)) := by
  rcases htype with hmem | htype
  · rw [ensureJoined_of_mem hmem, plan.missing_joinsTo_eq_nil hanchor hclosed hmem]
    exact JoinPlan.joinAll_nil.symm
  · have h : query.ensureJoined request aggregates plan level (query.typeOr level type) = _ :=
      ensureJoined_typeOr_eq hanchor hclosed hscope type
    rwa [htype] at h

end JoinQuery

/-! ## Joining the needed levels -/

namespace JoinPlan

/-- Once a plan has grown by the missing joins of a list, those of a second list are
missing that were missing before and are new to the first list. -/
theorem missing_of_levels {joins more : List DeclaredJoin}
    (hlevels : grown.levels = plan.levels ++ (plan.missing joins).map DeclaredJoin.level) :
    grown.missing more = plan.missing (more.filter fun join =>
      decide (join.level ∉ joins.map DeclaredJoin.level)) := by
  rw [missing, missing, List.filter_filter]
  apply List.filter_congr
  intro join _
  rw [hlevels, ← Bool.decide_and, decide_eq_decide, List.mem_append, not_or]
  apply and_congr_right
  intro hnew
  apply not_congr
  simp only [missing, List.mem_map, List.mem_filter, decide_eq_true_eq]
  constructor
  · intro hparts
    rcases hparts with ⟨other, ⟨hother, -⟩, heq⟩
    exact ⟨other, hother, heq⟩
  · intro hparts
    rcases hparts with ⟨other, hother, heq⟩
    exact ⟨other, ⟨hother, heq ▸ hnew⟩, heq⟩

end JoinPlan

namespace JoinQuery

/-- Joining declared levels one after another adds, in order, what is missing on the
ways down to them, provided that each is declared with its type first. -/
theorem foldlM_ensureJoined_eq (joins : List DeclaredJoin)
    (hanchor : plan.source.anchor = query.anchor) (hclosed : plan.Closed)
    (hscope : ∀ join ∈ joins, Level.isInScope join.level query.anchor = true)
    (htype : ∀ before join after, joins = before ++ join :: after →
      join.level ∈ plan.levels ∨ join.level ∈ before.map DeclaredJoin.level ∨
        query.typeOr join.level join.type = join.type) :
    joins.foldlM (fun plan join =>
        query.ensureJoined request aggregates plan join.level join.type) plan =
      plan.joinAll request aggregates (plan.missing (keepFirstBy DeclaredJoin.level
        (joins.flatMap fun join => query.joinsTo join.type join.level))) := by
  induction joins generalizing plan with
  | nil => exact JoinPlan.joinAll_nil.symm
  | cons join rest ih =>
      have hjoin : Level.isInScope join.level query.anchor = true :=
        hscope join List.mem_cons_self
      have hhead : join.level ∈ plan.levels ∨ query.typeOr join.level join.type = join.type := by
        simpa using htype [] join rest rfl
      have hnodup : ((query.joinsTo join.type join.level).map DeclaredJoin.level).Nodup := by
        rw [map_level_joinsTo]
        exact Level.nodup_below hjoin
      rw [List.foldlM_cons, ensureJoined_eq hanchor hclosed hjoin hhead, List.flatMap_cons,
        keepFirstBy_append, keepFirstBy_of_nodup hnodup, JoinPlan.missing_append,
        JoinPlan.joinAll_append]
      cases hgrown : plan.joinAll request aggregates
          (plan.missing (query.joinsTo join.type join.level)) with
      | error fault => rfl
      | ok grown =>
          rcases JoinPlan.levels_of_joinAll hgrown with ⟨hsource, hlevels⟩
          rcases hclosed.joinAll hanchor hjoin hgrown with ⟨hgrownClosed, hmem⟩
          have hjoined : join.level ∈ grown.levels := by
            by_cases heq : join.level = query.anchor
            · exact (hmem _).mpr (Or.inl (heq ▸ hanchor ▸ plan.anchor_mem_levels))
            · exact (hmem _).mpr (Or.inr (Level.mem_below_self hjoin heq))
          show rest.foldlM _ grown = grown.joinAll request aggregates _
          rw [← JoinPlan.missing_of_levels hlevels]
          refine ih (hsource.trans hanchor) hgrownClosed
            (fun other hother => hscope other (List.mem_cons_of_mem _ hother)) ?_
          intro before other after hrest
          rcases htype (join :: before) other after (by rw [hrest]; rfl) with hold | hbefore | htype
          · exact Or.inl ((hmem _).mpr (Or.inl hold))
          · rw [List.map_cons, List.mem_cons] at hbefore
            rcases hbefore with heq | hbefore
            · exact Or.inl (heq ▸ hjoined)
            · exact Or.inr (Or.inl hbefore)
          · exact Or.inr (Or.inr htype)

/-! ## The whole plan -/

/-- Of the needed joins, the first one of a level is the first declared one. -/
theorem typeOr_of_neededJoins {fields : FieldMap} {before after : List DeclaredJoin}
    {join : DeclaredJoin} (h : query.neededJoins fields = before ++ join :: after)
    (hfirst : join.level ∉ before.map DeclaredJoin.level) :
    query.typeOr join.level join.type = join.type := by
  have hneeded : query.isNeeded fields join.level = true := by
    have hmem : join ∈ query.neededJoins fields := by
      rw [h]
      exact List.mem_append_right _ List.mem_cons_self
    exact (List.mem_filter.mp hmem).2
  have hfind : (query.neededJoins fields).find? (fun other => other.level = join.level) =
      some join := by
    have hbefore : before.find? (fun other => other.level = join.level) = none := by
      rw [List.find?_eq_none]
      intro other hother heq
      exact hfirst (List.mem_map.mpr ⟨other, hother, by simpa using heq⟩)
    rw [h, List.find?_append, hbefore]
    simp
  have hdeclared : query.joins.find? (fun other => other.level = join.level) = some join := by
    rw [neededJoins, List.find?_filter] at hfind
    rw [← hfind]
    congr 1
    funext other
    by_cases heq : other.level = join.level
    · simp [heq, hneeded]
    · simp [heq]
  simp [typeOr, joinType?, hdeclared]

/-- Every declared join lies in the scope of the anchor once the joins are accepted. -/
theorem isInScope_of_checkJoins {requested : List Level} {join : DeclaredJoin}
    (h : query.checkJoins requested = .ok ()) (hjoin : join ∈ query.joins) :
    Level.isInScope join.level query.anchor = true := by
  have hnone : query.joins.findSome? (query.joinFault? requested) = none := by
    unfold checkJoins at h
    split at h
    · exact absurd h (by simp)
    · assumption
  rcases joinFault?_eq_none.mp (List.findSome?_eq_none_iff.mp hnone join hjoin) with heq | hscope
  · rw [heq]
    exact Level.isInScope_self _
  · exact hscope.1

/-- A plan without joins is closed. -/
theorem closed_of_anchorPlan (h : query.anchorPlan request aggregates = .ok plan) :
    plan.source.anchor = query.anchor ∧ plan.levels = [query.anchor] ∧ plan.Closed := by
  rcases Outcome.bind_eq_ok.mp h with ⟨entity, hentity, h⟩
  rcases Outcome.bind_eq_ok.mp h with ⟨items, hitems, h⟩
  cases Except.ok.inj h
  refine ⟨rfl, rfl, ⟨?_, ?_⟩⟩
  · intro level hlevel
    cases List.mem_singleton.mp hlevel
    exact Level.isInScope_self _
  · intro level hlevel above habove
    cases List.mem_singleton.mp hlevel
    simp at habove

/-- The plan of a join query joins the levels of its emission in order. -/
theorem plan_eq (query : JoinQuery) (request : Request) (aggregates : AggregateMap) :
    query.plan request aggregates = (do
      query.checkJoins request.fields.keys
      let prepared ← query.prepare request
      let plan ← query.anchorPlan prepared aggregates
      plan.joinAll prepared aggregates (query.emission prepared.fields)) := by
  unfold plan
  cases hcheck : query.checkJoins request.fields.keys with
  | error fault => rfl
  | ok checked =>
      show (query.prepare request >>= _) = (query.prepare request >>= _)
      congr 1
      funext prepared
      cases hplan : query.anchorPlan prepared aggregates with
      | error fault => rfl
      | ok plan =>
          rcases closed_of_anchorPlan hplan with ⟨hanchor, hlevels, hclosed⟩
          show (query.neededJoins prepared.fields).foldlM _ plan =
            plan.joinAll prepared aggregates _
          have hscope : ∀ join ∈ query.neededJoins prepared.fields,
              Level.isInScope join.level query.anchor = true := fun join hjoin =>
            isInScope_of_checkJoins hcheck (List.mem_filter.mp hjoin).1
          rw [foldlM_ensureJoined_eq _ hanchor hclosed hscope]
          · congr 1
            -- nothing is joined yet but the anchor, and no way down passes the anchor
            apply List.filter_eq_self.mpr
            intro join hjoin
            have hbelow := mem_levels_emission.mp (List.mem_map_of_mem hjoin)
            rcases hbelow with ⟨declared, hdeclared, hmem⟩
            have hne := (Level.isInScope_of_mem_below (hscope declared hdeclared) hmem).2
            simp [hlevels, hne]
          · intro before join after h
            by_cases hfirst : join.level ∈ before.map DeclaredJoin.level
            · exact Or.inr (Or.inl hfirst)
            · exact Or.inr (Or.inr (typeOr_of_neededJoins h hfirst))

/-- What succeeded before a plan. -/
theorem plan_eq_ok :
    query.plan request aggregates = .ok plan ↔
      ∃ prepared anchored, query.checkJoins request.fields.keys = .ok () ∧
        query.prepare request = .ok prepared ∧
        query.anchorPlan prepared aggregates = .ok anchored ∧
        anchored.joinAll prepared aggregates (query.emission prepared.fields) = .ok plan := by
  rw [plan_eq]
  constructor
  · intro h
    rcases Outcome.bind_eq_ok.mp h with ⟨checked, hcheck, h⟩
    rcases Outcome.bind_eq_ok.mp h with ⟨prepared, hprepared, h⟩
    rcases Outcome.bind_eq_ok.mp h with ⟨anchored, hanchored, h⟩
    exact ⟨prepared, anchored, hcheck, hprepared, hanchored, h⟩
  · intro hparts
    rcases hparts with ⟨prepared, anchored, hcheck, hprepared, hanchored, h⟩
    exact Outcome.bind_eq_ok.mpr ⟨(), hcheck, Outcome.bind_eq_ok.mpr ⟨prepared, hprepared,
      Outcome.bind_eq_ok.mpr ⟨anchored, hanchored, h⟩⟩⟩

/-- The levels of a plan are the anchor and the levels on the ways down to the needed
levels, in order and each at its first place. -/
theorem levels_of_plan {prepared : Request} (hprepared : query.prepare request = .ok prepared)
    (h : query.plan request aggregates = .ok plan) :
    plan.source.anchor = query.anchor ∧
      plan.levels = query.anchor :: keepFirst ((query.neededJoins prepared.fields).flatMap
        fun join => Level.below query.anchor join.level) := by
  rcases plan_eq_ok.mp h with ⟨other, anchored, -, hother, hanchored, h⟩
  cases Except.ok.inj (hprepared.symm.trans hother)
  rcases closed_of_anchorPlan hanchored with ⟨hanchor, hlevels, -⟩
  rcases JoinPlan.levels_of_joinAll h with ⟨hsource, hgrown⟩
  refine ⟨hsource.trans hanchor, ?_⟩
  rw [hgrown, hlevels, map_level_emission]
  rfl

/-- The joins of a plan carry out its emission. -/
theorem joins_of_plan {prepared : Request} (hprepared : query.prepare request = .ok prepared)
    (h : query.plan request aggregates = .ok plan) :
    plan.source.joins.map JoinPlan.declarationOf = query.emission prepared.fields := by
  rcases plan_eq_ok.mp h with ⟨other, anchored, -, hother, hanchored, h⟩
  cases Except.ok.inj (hprepared.symm.trans hother)
  have hnone : anchored.source.joins = [] :=
    List.map_eq_nil_iff.mp (List.cons.inj (closed_of_anchorPlan hanchored).2.1).2
  rw [(JoinPlan.joins_of_joinAll h).2, hnone]
  rfl

end JoinQuery

end SelectionSql
