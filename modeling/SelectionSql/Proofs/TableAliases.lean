import SelectionSql.Proofs.JoinPlan
import SelectionSql.Proofs.Reach
import SelectionSql.Proofs.Statements

/-!
# Table aliases - Which tagged levels a statement introduces

Clauses and grouping columns are tagged with the levels that they read.  Planning looks
at the tags of `WHERE` clauses and of grouping columns that map to a field, and joins
the declared levels among them.  It looks at no other tag, so a level that only these
others name is introduced when it lies on the way down to a level that is joined anyway.

Main results:

- `JoinQuery.touches_or_taggedUnread`: a tag is read, or it is one of the others.
- `JoinQuery.tagged_introduced_iff`: when every tagged level that is the anchor or
  declared is introduced by the source.
-/

namespace SelectionSql

variable {query : JoinQuery} {request : Request} {level : Level}

/-! ## Tags -/

namespace Conditions

/-- The levels that `HAVING` clauses are tagged with. -/
def havingLevels (conditions : Conditions) : List Level :=
  conditions.havingTokens.filterMap ConditionToken.level?

/-- The levels that grouping columns are tagged with. -/
def groupedLevels (conditions : Conditions) : List Level :=
  conditions.groupBy.filterMap GroupColumn.level

/-- The levels that clauses and grouping columns are tagged with. -/
def taggedLevels (conditions : Conditions) : List Level :=
  conditions.filteredLevels ++ conditions.havingLevels ++ conditions.groupedLevels

end Conditions

namespace JoinQuery

/-- A tag that planning does not look at: that of a `HAVING` clause, or that of a grouping
column which the entity of its level does not map. -/
def TaggedUnread (query : JoinQuery) (request : Request) (level : Level) : Prop :=
  level ∈ query.conditions.havingLevels ∨
    ∃ group ∈ query.conditions.groupBy,
      group.level = some level ∧ ¬ request.Maps level group.column

theorem mem_groupedLevels {conditions : Conditions} :
    level ∈ conditions.groupedLevels ↔ ∃ group ∈ conditions.groupBy, group.level = some level :=
  List.mem_filterMap

/-- A tag that planning does not look at is one of the tags. -/
theorem TaggedUnread.mem_taggedLevels (h : query.TaggedUnread request level) :
    level ∈ query.conditions.taggedLevels := by
  rw [Conditions.taggedLevels, List.mem_append, List.mem_append]
  rcases h with hhaving | ⟨group, hgroup, hlevel, -⟩
  · exact Or.inl (Or.inr hhaving)
  · exact Or.inr (mem_groupedLevels.mpr ⟨group, hgroup, hlevel⟩)

/-- A tagged level is touched, or its tag is one that planning does not look at. -/
theorem touches_or_taggedUnread (h : level ∈ query.conditions.taggedLevels) :
    query.Touches request level ∨ query.TaggedUnread request level := by
  rw [Conditions.taggedLevels, List.mem_append, List.mem_append] at h
  rcases h with (hfiltered | hhaving) | hgrouped
  · exact Or.inl (Or.inr (Or.inl hfiltered))
  · exact Or.inr (Or.inl hhaving)
  · rcases mem_groupedLevels.mp hgrouped with ⟨group, hgroup, hlevel⟩
    by_cases hmaps : request.Maps level group.column
    · refine Or.inl (Or.inr (Or.inr ⟨group, hgroup, ?_, hmaps⟩))
      rw [hlevel]
      rfl
    · exact Or.inr (Or.inr ⟨group, hgroup, hlevel, hmaps⟩)

/-! ## Aliases of a statement -/

/-- The statement of a join query introduces every tagged level that is the anchor or
declared, exactly when the declared levels with tags that planning does not look at are
reached without these tags. -/
theorem tagged_introduced_iff {metadata : Metadata} {selection : Selection} {text : String}
    (h : (QuerySpec.join query).compile metadata selection = .ok text) :
    ∃ plan, query.checkedPlan (Request.ofSelection metadata selection) = .ok plan ∧
      text = statementText (plan.items.map SelectItem.text) plan.source.text
        query.conditions ∧
      ((∀ level ∈ query.conditions.taggedLevels,
          level = query.anchor ∨ level ∈ query.joins.map DeclaredJoin.level →
            level ∈ plan.source.aliases) ↔
        ∀ level ∈ query.joins.map DeclaredJoin.level,
          query.TaggedUnread (Request.ofSelection metadata selection) level →
            query.Reaches (Request.ofSelection metadata selection) level) := by
  rcases compile_join_eq_ok h with ⟨plan, hplan, htext⟩
  refine ⟨plan, hplan, htext, ?_⟩
  rcases Outcome.bind_eq_ok.mp hplan with ⟨anchor, -, hplan⟩
  rcases Outcome.bind_eq_ok.mp hplan with ⟨aggregates, -, hplan⟩
  rcases plan_eq_ok.mp hplan with ⟨prepared, -, hcheck, -, -, -⟩
  constructor
  · intro hintroduced level hdeclared hunread
    have hmem := hintroduced level hunread.mem_taggedLevels (Or.inr hdeclared)
    exact (mem_levels_of_plan hplan).mp hmem
  · intro hreached level htagged hknown
    apply (mem_levels_of_plan hplan).mpr
    rcases hknown with hanchor | hdeclared
    · exact Or.inl hanchor
    · rcases touches_or_taggedUnread htagged with htouched | hunread
      · rcases List.mem_map.mp hdeclared with ⟨join, hjoin, rfl⟩
        exact reaches_of_touches hcheck hjoin htouched
      · exact hreached level hdeclared hunread

end JoinQuery

namespace Hospital

/-- A query for the hospitals that have many surgeons. -/
def crowded : JoinQuery :=
  { anchor := Level.root
    joins := [⟨"surgeon", .inner⟩]
    conditions :=
      { groupBy := [⟨some Level.root, "name"⟩]
        havingTokens := [.clause (some "surgeon") "COUNT(surgeon.surgeon_id) > ?"] } }

/-- The text of the query names the surgeons, and its source introduces the hospitals alone. -/
theorem compile_crowded :
    (QuerySpec.join crowded).compile catalog.metadata hospitalNames =
        .ok ("SELECT rootObject.hospital_id AS hospital_id, rootObject.name AS name" ++
          " FROM hospital_tbl rootObject GROUP BY rootObject.name" ++
          " HAVING COUNT(surgeon.surgeon_id) > ?") ∧
      (crowded.checkedPlan (Request.ofSelection catalog.metadata hospitalNames)).map
        (fun plan => plan.source.aliases) = .ok [Level.root] := by
  decide +kernel

/-- The surgeons are declared and filtered on, and yet not reached. -/
theorem surgeon_not_reached :
    ¬ crowded.Reaches (Request.ofSelection catalog.metadata hospitalNames) "surgeon" := by
  intro hreached
  rcases JoinQuery.tagged_introduced_iff compile_crowded.1 with ⟨plan, hplan, -, hiff⟩
  rcases Outcome.map_eq_ok.mp compile_crowded.2 with ⟨same, hsame, haliases⟩
  cases Except.ok.inj (hplan.symm.trans hsame)
  have hintroduced : "surgeon" ∈ plan.source.aliases := by
    refine hiff.mpr ?_ "surgeon" (by decide) (Or.inr (by decide))
    intro level hlevel _
    cases List.mem_singleton.mp hlevel
    exact hreached
  rw [haliases] at hintroduced
  exact absurd hintroduced (by decide)

/-- Statements over accepted metadata do not always introduce the declared levels that they
name. -/
theorem not_forall_tagged_introduced :
    ¬ ∀ (definitions : List EntityDef) (catalog : Catalog) (selection : Selection)
        (query : JoinQuery) (text : String) (plan : JoinPlan),
      Catalog.ofDefs definitions = .ok catalog →
      (QuerySpec.join query).compile catalog.metadata selection = .ok text → text ≠ "" →
      query.checkedPlan (Request.ofSelection catalog.metadata selection) = .ok plan →
      ∀ level ∈ query.conditions.taggedLevels,
        level = query.anchor ∨ level ∈ query.joins.map DeclaredJoin.level →
          level ∈ plan.source.aliases := by
  intro hclaim
  rcases compile_crowded with ⟨htext, hplan⟩
  rcases Outcome.map_eq_ok.mp hplan with ⟨plan, hplan, haliases⟩
  have hintroduced := hclaim definitions catalog hospitalNames crowded _ plan ofDefs_definitions
    htext (by decide) hplan "surgeon" (by decide) (Or.inr (by decide))
  rw [haliases] at hintroduced
  exact absurd hintroduced (by decide)

end Hospital

end SelectionSql
