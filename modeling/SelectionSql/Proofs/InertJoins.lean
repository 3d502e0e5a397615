import SelectionSql.Proofs.OutputNames
import SelectionSql.Proofs.TableAliases

/-!
# Inert joins - Declarations that a request does not touch

Declared joins are looked at four times: they are checked, they are levels that others may
hang from, the needed ones among them are joined, and they give the types of the levels that
are joined on the way.  A declaration of a level that is neither needed nor joined comes up in
the first two alone, and there it does no harm.

Main results:

- `Interspersed.filter_eq`, `Interspersed.find?_eq`: elements that are put in and fail a test
  do not change what passes it.
- `JoinQuery.checkJoins_eq_ok`: when all declared joins are accepted.
- `JoinQuery.emission_congr`: the joins of a statement depend on the needed joins and on the
  types of the levels that are joined.
- `JoinQuery.plan_of_inert`: the plan of a query with inert declarations is the plan without.
- `JoinQuery.compile_of_inert`: and so is its text.
-/

namespace SelectionSql

/-! ## Elements put in at any places -/

/-- A list is interspersed with more elements when it keeps its order among them. -/
structure Interspersed {α : Type*} (list more longer : List α) : Prop where
  sublist : list.Sublist longer
  perm : longer.Perm (list ++ more)

namespace Interspersed

variable {α : Type*} {list more longer : List α}

theorem mem_iff (h : Interspersed list more longer) {element : α} :
    element ∈ longer ↔ element ∈ list ∨ element ∈ more := by
  rw [h.perm.mem_iff, List.mem_append]

/-- Elements that fail a test do not change what passes it. -/
theorem filter_eq (h : Interspersed list more longer) {test : α → Bool}
    (hmore : ∀ element ∈ more, test element = false) :
    longer.filter test = list.filter test := by
  have hsublist : (list.filter test).Sublist (longer.filter test) := h.sublist.filter test
  have hnone : more.filter test = [] := by
    rw [List.filter_eq_nil_iff]
    intro element helement
    rw [hmore element helement]
    exact Bool.false_ne_true
  have hlength : (list.filter test).length = (longer.filter test).length := by
    rw [(h.perm.filter test).length_eq, List.filter_append, hnone, List.append_nil]
  exact (hsublist.eq_of_length hlength).symm

/-- Elements that fail a test are not what is found first. -/
theorem find?_eq (h : Interspersed list more longer) {test : α → Bool}
    (hmore : ∀ element ∈ more, test element = false) :
    longer.find? test = list.find? test := by
  rw [← List.head?_filter, ← List.head?_filter, h.filter_eq hmore]

end Interspersed

namespace JoinQuery

variable {query other : JoinQuery} {request : Request} {aggregates : AggregateMap}
variable {plan : JoinPlan} {joins more : List DeclaredJoin}

/-! ## What the joins of a statement depend on -/

/-- The types on a way up depend on the declarations of its levels. -/
theorem typedChain_congr {levels : List Level}
    (h : ∀ level ∈ levels, other.joinType? level = query.joinType? level) (type : JoinType) :
    other.typedChain type levels = query.typedChain type levels := by
  induction levels generalizing type with
  | nil => rfl
  | cons level above ih =>
      have htype : other.typeOr level type = query.typeOr level type := by
        rw [typeOr, typeOr, h level List.mem_cons_self]
      have habove := ih fun higher hhigher => h higher (List.mem_cons_of_mem _ hhigher)
      rw [typedChain, typedChain, htype, habove]

/-- The joins of a statement depend on the needed ones and on the declarations of the levels
that are joined. -/
theorem emission_congr {fields : FieldMap} (hanchor : other.anchor = query.anchor)
    (hneeded : other.neededJoins fields = query.neededJoins fields)
    (htypes : ∀ level ∈ (query.emission fields).map DeclaredJoin.level,
      other.joinType? level = query.joinType? level) :
    other.emission fields = query.emission fields := by
  unfold emission
  rw [hneeded]
  congr 1
  apply List.flatMap_congr
  intro join hjoin
  unfold joinsTo
  rw [hanchor, typedChain_congr]
  intro level hlevel
  have hbelow := List.mem_reverse.mp hlevel
  exact htypes level (mem_levels_emission.mpr ⟨join, hjoin, hbelow⟩)

/-! ## Inert declarations -/

/-- The query with other declared joins. -/
def withJoins (query : JoinQuery) (joins : List DeclaredJoin) : JoinQuery :=
  { query with joins := joins }

/-- What is filtered on does not depend on the declared joins. -/
@[simp] theorem conditions_withJoins : (query.withJoins joins).conditions = query.conditions :=
  rfl

/-- A level is inert when a query does not declare it although it might, and neither selects
nor filters on it nor joins it. -/
structure Inert (query : JoinQuery) (request : Request) (level : Level) : Prop where
  undeclared : level ∉ query.joins.map DeclaredJoin.level
  inScope : Level.isInScope level query.anchor = true
  parent : Level.parent level = query.anchor ∨
    Level.parent level ∈ query.reachableLevels request.fields.keys
  unselected : ∀ prepared, query.prepare request = .ok prepared →
    prepared.fields.contains level = false
  unfiltered : level ∉ query.conditions.filteredLevels
  unjoined : ∀ plan, query.checkedPlan request = .ok plan → level ∉ plan.source.aliases

/-- Declarations in scope below levels that are reachable anyway are accepted with the others. -/
theorem checkJoins_withJoins {requested : List Level}
    (hjoins : Interspersed query.joins more joins)
    (hmore : ∀ join ∈ more, Level.isInScope join.level query.anchor = true ∧
      (Level.parent join.level = query.anchor ∨
        Level.parent join.level ∈ query.reachableLevels requested))
    (h : query.checkJoins requested = .ok ()) :
    (query.withJoins joins).checkJoins requested = .ok () := by
  have hreachable : ∀ level ∈ query.reachableLevels requested,
      level ∈ (query.withJoins joins).reachableLevels requested := by
    intro level hlevel
    have hdeclared : ∀ level ∈ query.joins.map DeclaredJoin.level,
        level ∈ joins.map DeclaredJoin.level := fun level hlevel =>
      (hjoins.sublist.map DeclaredJoin.level).subset hlevel
    simp only [reachableLevels, List.mem_append] at hlevel ⊢
    rcases hlevel with (hrequested | hjoin) | hfiltered
    · exact Or.inl (Or.inl hrequested)
    · exact Or.inl (Or.inr (hdeclared level hjoin))
    · exact Or.inr hfiltered
  apply checkJoins_eq_ok.mpr
  intro join hjoin
  apply joinFault?_eq_none.mpr
  rcases hjoins.mem_iff.mp hjoin with hold | hnew
  · rcases joinFault?_eq_none.mp (checkJoins_eq_ok.mp h join hold) with
      hanchor | ⟨hscope, hparent⟩
    · exact Or.inl hanchor
    · exact Or.inr ⟨hscope, hparent.imp_right (hreachable _)⟩
  · have hparts := hmore join hnew
    exact Or.inr ⟨hparts.1, hparts.2.imp_right (hreachable _)⟩

/-- Declarations of levels that the plan neither needs nor joins leave the plan as it is. -/
theorem plan_of_inert (hjoins : Interspersed query.joins more joins)
    (hmore : ∀ join ∈ more, query.Inert request join.level)
    (hunjoined : ∀ join ∈ more, join.level ∉ plan.levels)
    (h : query.plan request aggregates = .ok plan) :
    (query.withJoins joins).plan request aggregates = .ok plan := by
  rcases plan_eq_ok.mp h with ⟨prepared, anchored, hcheck, hprepared, hanchored, hjoined⟩
  have hneeded : (query.withJoins joins).neededJoins prepared.fields =
      query.neededJoins prepared.fields := by
    apply hjoins.filter_eq
    intro join hjoin
    have hinert := hmore join hjoin
    rw [isNeeded, hinert.unselected prepared hprepared, conditions_withJoins,
      decide_eq_false hinert.unfiltered, Bool.or_self]
  have htypes : ∀ level ∈ (query.emission prepared.fields).map DeclaredJoin.level,
      (query.withJoins joins).joinType? level = query.joinType? level := by
    intro level hlevel
    have hplanned : level ∈ plan.levels := by
      rw [(levels_of_plan hprepared h).2, ← map_level_emission]
      exact List.mem_cons_of_mem _ hlevel
    unfold joinType?
    congr 1
    apply hjoins.find?_eq
    intro join hjoin
    apply decide_eq_false
    intro heq
    exact hunjoined join hjoin (heq ▸ hplanned)
  have hemission : (query.withJoins joins).emission prepared.fields =
      query.emission prepared.fields := emission_congr rfl hneeded htypes
  refine plan_eq_ok.mpr ⟨prepared, anchored, ?_, hprepared, hanchored, ?_⟩
  · refine checkJoins_withJoins hjoins ?_ hcheck
    intro join hjoin
    exact ⟨(hmore join hjoin).inScope, (hmore join hjoin).parent⟩
  · rw [hemission]
    exact hjoined

/-- A query keeps its text when declarations of inert levels are put in at any places. -/
theorem compile_of_inert {metadata : Metadata} {selection : Selection} {text : String}
    (h : (QuerySpec.join query).compile metadata selection = .ok text)
    (hjoins : Interspersed query.joins more joins)
    (hmore : ∀ join ∈ more,
      query.Inert (Request.ofSelection metadata selection) join.level) :
    (QuerySpec.join (query.withJoins joins)).compile metadata selection = .ok text := by
  rcases compile_join_eq_ok h with ⟨plan, hchecked, rfl⟩
  have hunjoined : ∀ join ∈ more, join.level ∉ plan.levels := fun join hjoin =>
    (hmore join hjoin).unjoined plan hchecked
  have hsame : (query.withJoins joins).checkedPlan (Request.ofSelection metadata selection) =
      .ok plan := by
    rcases Outcome.bind_eq_ok.mp hchecked with ⟨anchor, hanchor, hplan⟩
    rcases Outcome.bind_eq_ok.mp hplan with ⟨aggregates, haggregates, hplan⟩
    have hwith := plan_of_inert hjoins hmore hunjoined hplan
    exact Outcome.bind_eq_ok.mpr ⟨anchor, hanchor,
      Outcome.bind_eq_ok.mpr ⟨aggregates, haggregates, hwith⟩⟩
  exact QuerySpec.compile_eq_ok.mpr ⟨_, Outcome.map_eq_ok.mpr ⟨plan, hsame, rfl⟩, rfl⟩

end JoinQuery

namespace Hospital

/-- The departments of surgeons and the wards of hospitals are declared in vain when surgeons
are all that is asked for. -/
theorem compile_surgeons_with_more : ∃ text,
    (QuerySpec.join surgeons).compile catalog.metadata surgeonNames = .ok text ∧ text ≠ "" ∧
      (QuerySpec.join (surgeons.withJoins
          [⟨"surgeon_department", .leftOuter⟩, ⟨"surgeon", .inner⟩, ⟨"ward", .rightOuter⟩])).compile
        catalog.metadata surgeonNames = .ok text := by
  have hcompile : ((QuerySpec.join surgeons).compile catalog.metadata surgeonNames).map
      (fun text => decide (text = "")) = .ok false := by decide +kernel
  have hprepare : (surgeons.prepare (Request.ofSelection catalog.metadata surgeonNames)).map
      (fun prepared => prepared.fields.keys) = .ok [Level.root, "surgeon"] := by decide +kernel
  have hplan : (surgeons.checkedPlan (Request.ofSelection catalog.metadata surgeonNames)).map
      (fun plan => plan.source.aliases) = .ok [Level.root, "surgeon"] := by decide +kernel
  rcases Outcome.map_eq_ok.mp hcompile with ⟨text, htext, hempty⟩
  have hjoins : Interspersed surgeons.joins
      [⟨"surgeon_department", .leftOuter⟩, ⟨"ward", .rightOuter⟩]
      [⟨"surgeon_department", .leftOuter⟩, ⟨"surgeon", .inner⟩, ⟨"ward", .rightOuter⟩] :=
    ⟨by decide, by decide⟩
  refine ⟨text, htext, of_decide_eq_false hempty, JoinQuery.compile_of_inert htext hjoins ?_⟩
  intro join hjoin
  have hfresh : join.level ∉ [Level.root, "surgeon"] := by
    revert join
    decide
  refine ⟨?_, ?_, ?_, ?_, ?_, ?_⟩
  · exact fun hdeclared => hfresh (List.mem_cons_of_mem _ hdeclared)
  · exact Level.isInScope_root _
  · revert join
    decide +kernel
  · intro prepared hprepared
    rcases Outcome.map_eq_ok.mp hprepare with ⟨same, hsame, hkeys⟩
    cases Except.ok.inj (hprepared.symm.trans hsame)
    rw [← hkeys, ← SortedMap.contains_iff_mem_keys, Bool.not_eq_true] at hfresh
    exact hfresh
  · exact List.not_mem_nil
  · intro plan hchecked
    rcases Outcome.map_eq_ok.mp hplan with ⟨same, hsame, haliases⟩
    cases Except.ok.inj (hchecked.symm.trans hsame)
    rw [haliases]
    exact hfresh

end Hospital

end SelectionSql
