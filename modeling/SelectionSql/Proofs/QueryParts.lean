import Mathlib.Data.List.Induction
import SelectionSql.Query.Draft

/-!
# Query parts - What a sequence of calls builds, part by part

Every call of a builder enters one thing into one part of a query.  Filters, order and groups
are lists that grow at their end, of a limit, an aggregate or a join type the last one stays,
and no call touches a part that it enters nothing into.  So each part of the query that is built
is read off the calls for that part alone.

Main results:

- `Conditions.step_eq_enter`: a call does nothing but enter its entry.
- `SimpleDraft.collects_run`, `JoinDraft.collects_run`: conditions hold what was entered into each
  of their parts.
- `JoinDraft.joins_run`: joins stand where their levels were declared first.
- `SimpleDraft.run_eq_of_agree`, `JoinDraft.run_eq_of_agree`: calls for different parts commute.
- `QuerySpec.built_part_by_part`: what builders give, and when.
-/

namespace SelectionSql

attribute [ext] Conditions SimpleDraft JoinDraft

/-! ## Entries -/

/-- The parts of a query in the making. -/
inductive QueryPart
  | key
  | joins
  | filters
  | groupFilters
  | order
  | groups
  | aggregates
  | limit
  | offset
  deriving DecidableEq

/-- What an entry for a part holds. -/
@[reducible] def QueryPart.Content : QueryPart → Type
  | key => Level
  | joins => DeclaredJoin
  | filters => ConditionToken
  | groupFilters => ConditionToken
  | order => OrderToken
  | groups => GroupColumn
  | aggregates => String × Aggregate
  | limit => String
  | offset => Unit

/-- What a call enters into a query. -/
structure QueryEntry where
  part : QueryPart
  content : part.Content

namespace QueryEntry

/-- What an entry holds for a part, if it is an entry for that part. -/
def contentFor? (part : QueryPart) (entry : QueryEntry) : Option part.Content :=
  if h : entry.part = part then some (h ▸ entry.content) else none

/-- What some entries hold for a part, in their order. -/
def contents (part : QueryPart) (entries : List QueryEntry) : List part.Content :=
  entries.filterMap (contentFor? part)

variable {part : QueryPart} {entry : QueryEntry} {entries first second : List QueryEntry}

theorem contentFor?_self (part : QueryPart) (content : part.Content) :
    contentFor? part ⟨part, content⟩ = some content := by
  simp [contentFor?]

theorem contentFor?_of_ne (h : entry.part ≠ part) : entry.contentFor? part = none :=
  dif_neg h

/-- One more entry adds what it holds. -/
theorem contents_concat (part : QueryPart) (entries : List QueryEntry) (entry : QueryEntry) :
    contents part (entries ++ [entry]) =
      contents part entries ++ (entry.contentFor? part).toList := by
  rw [contents, List.filterMap_append]
  cases hentry : entry.contentFor? part <;> simp [contents, hentry]

/-- What was entered last is what the last entry holds, or else what was entered before it. -/
theorem getLast?_contents_concat (part : QueryPart) (entries : List QueryEntry)
    (entry : QueryEntry) :
    (contents part (entries ++ [entry])).getLast? =
      (entry.contentFor? part).or (contents part entries).getLast? := by
  rw [contents_concat, List.getLast?_append]
  cases entry.contentFor? part <;> rfl

/-- Entries for other parts add nothing. -/
theorem contents_filter (part : QueryPart) (entries : List QueryEntry) :
    contents part (entries.filter fun entry => decide (entry.part = part)) =
      contents part entries := by
  rw [contents, List.filterMap_filter]
  congr 1
  funext entry
  by_cases hpart : entry.part = part
  · simp [hpart]
  · simp [hpart, contentFor?_of_ne hpart]

/-- Two sequences of entries agree when they have the same entries for every part, in the same
order. -/
def Agree (first second : List QueryEntry) : Prop :=
  ∀ part, first.filter (fun entry => decide (entry.part = part)) =
    second.filter fun entry => decide (entry.part = part)

/-- Sequences that agree hold the same for every part. -/
theorem Agree.contents_eq (h : Agree first second) (part : QueryPart) :
    contents part first = contents part second := by
  rw [← contents_filter, h part, contents_filter]

end QueryEntry

/-! ## Calls -/

/-- What a call enters into the conditions of a query. -/
def ConditionStep.entry : ConditionStep → QueryEntry
  | filter column comparison =>
      ⟨.filters, .clause column.tag (column.text ++ " " ++ comparison.sql)⟩
  | filterSubquery column comparison subquery =>
      ⟨.filters, .clause column.tag (column.text ++ " " ++ comparison.sql subquery)⟩
  | filterOpen => ⟨.filters, .groupOpen⟩
  | filterClose => ⟨.filters, .groupClose⟩
  | filterOr => ⟨.filters, .either⟩
  | having column comparison =>
      ⟨.groupFilters, .clause column.tag (column.text ++ " " ++ comparison.sql)⟩
  | havingAggregate function column comparison =>
      ⟨.groupFilters, .clause column.tag (function.apply column.text ++ " " ++ comparison.sql)⟩
  | havingSubquery column comparison subquery =>
      ⟨.groupFilters, .clause column.tag (column.text ++ " " ++ comparison.sql subquery)⟩
  | havingOpen => ⟨.groupFilters, .groupOpen⟩
  | havingClose => ⟨.groupFilters, .groupClose⟩
  | havingOr => ⟨.groupFilters, .either⟩
  | orderBy column => ⟨.order, .column column.text⟩
  | orderByAggregate function column => ⟨.order, .column (function.apply column.text)⟩
  | ascending => ⟨.order, .ascending⟩
  | descending => ⟨.order, .descending⟩
  | groupBy column => ⟨.groups, ⟨column.tag, column.column⟩⟩
  | aggregate function column => ⟨.aggregates, (column.text, function)⟩
  | limit count => ⟨.limit, toString count⟩
  | limitParameter => ⟨.limit, "?"⟩
  | offsetWithLimit => ⟨.offset, ()⟩

/-- What a call of a simple builder enters. -/
def SimpleStep.entry : SimpleStep → QueryEntry
  | key level => ⟨.key, level⟩
  | condition step => step.entry

/-- What a call of a join builder enters. -/
def JoinStep.entry : JoinStep → QueryEntry
  | key level => ⟨.key, level⟩
  | join level type => ⟨.joins, ⟨level, type⟩⟩
  | condition step => step.entry

/-! ## Conditions -/

namespace Conditions

open QueryEntry

/-- The conditions with one more entry.  Keys and joins are no part of them. -/
def enter (conditions : Conditions) : QueryEntry → Conditions
  | ⟨.key, _⟩ => conditions
  | ⟨.joins, _⟩ => conditions
  | ⟨.filters, token⟩ => conditions.addWhere token
  | ⟨.groupFilters, token⟩ => conditions.addHaving token
  | ⟨.order, token⟩ => conditions.addOrder token
  | ⟨.groups, column⟩ => { conditions with groupBy := conditions.groupBy ++ [column] }
  | ⟨.aggregates, (column, function)⟩ =>
      { conditions with aggregates := conditions.aggregates.insert column function }
  | ⟨.limit, text⟩ => { conditions with limit := some text }
  | ⟨.offset, _⟩ => { conditions with offsetWithLimit := true }

/-- A call does nothing but enter its entry. -/
theorem step_eq_enter (conditions : Conditions) (call : ConditionStep) :
    conditions.step call = conditions.enter call.entry := by
  cases call <;> rfl

section

-- an entry holds nothing for the parts that it is not meant for, and leaves these as they are
variable (conditions : Conditions) (entry : QueryEntry)

theorem whereTokens_enter : (conditions.enter entry).whereTokens =
    conditions.whereTokens ++ (entry.contentFor? .filters).toList := by
  rcases entry with ⟨_ | _, _⟩ <;> simp [enter, addWhere, addHaving, addOrder, contentFor?]

theorem havingTokens_enter : (conditions.enter entry).havingTokens =
    conditions.havingTokens ++ (entry.contentFor? .groupFilters).toList := by
  rcases entry with ⟨_ | _, _⟩ <;> simp [enter, addWhere, addHaving, addOrder, contentFor?]

theorem orderBy_enter : (conditions.enter entry).orderBy =
    conditions.orderBy ++ (entry.contentFor? .order).toList := by
  rcases entry with ⟨_ | _, _⟩ <;> simp [enter, addWhere, addHaving, addOrder, contentFor?]

theorem groupBy_enter : (conditions.enter entry).groupBy =
    conditions.groupBy ++ (entry.contentFor? .groups).toList := by
  rcases entry with ⟨_ | _, _⟩ <;> simp [enter, addWhere, addHaving, addOrder, contentFor?]

theorem limit_enter : (conditions.enter entry).limit =
    (entry.contentFor? .limit).or conditions.limit := by
  rcases entry with ⟨_ | _, _⟩ <;> rfl

theorem offsetWithLimit_enter : (conditions.enter entry).offsetWithLimit = true ↔
    conditions.offsetWithLimit = true ∨ (entry.contentFor? .offset).isSome = true := by
  rcases entry with ⟨_ | _, _⟩ <;> simp [enter, addWhere, addHaving, addOrder, contentFor?]

theorem get?_aggregates_enter (column : String) : (conditions.enter entry).aggregates.get? column =
    ((entry.contentFor? .aggregates).toList.lookup column).or
      (conditions.aggregates.get? column) := by
  rcases entry with ⟨_ | _, content⟩
  case aggregates =>
    rw [enter, SortedMap.get?_insert, contentFor?_self, Option.toList_some, List.lookup_cons]
    by_cases hcolumn : column = content.1
    · rw [if_pos hcolumn, beq_iff_eq.mpr hcolumn]
      rfl
    · rw [if_neg hcolumn, beq_false_of_ne hcolumn]
      rfl
  all_goals rfl

end

/-- Conditions collect entries when their lists hold the entries for them in order, their limit
and each of their aggregates is the one that was entered last, and they ask for an offset exactly
when some entry does. -/
structure Collects (conditions : Conditions) (entries : List QueryEntry) : Prop where
  whereTokens : conditions.whereTokens = contents .filters entries
  havingTokens : conditions.havingTokens = contents .groupFilters entries
  orderBy : conditions.orderBy = contents .order entries
  groupBy : conditions.groupBy = contents .groups entries
  limit : conditions.limit = (contents .limit entries).getLast?
  offsetWithLimit : conditions.offsetWithLimit = true ↔ contents .offset entries ≠ []
  aggregates : ∀ column, conditions.aggregates.get? column =
    (contents .aggregates entries).reverse.lookup column

variable {conditions others : Conditions} {entries first second : List QueryEntry}

/-- Where nothing was entered there is nothing to collect. -/
theorem collects_nil : ({} : Conditions).Collects [] :=
  ⟨rfl, rfl, rfl, rfl, rfl, by simp [contents], fun _ => rfl⟩

/-- One more entry is collected with those before it. -/
theorem Collects.enter (h : conditions.Collects entries) (entry : QueryEntry) :
    (conditions.enter entry).Collects (entries ++ [entry]) where
  whereTokens := by rw [whereTokens_enter, h.whereTokens, contents_concat]
  havingTokens := by rw [havingTokens_enter, h.havingTokens, contents_concat]
  orderBy := by rw [orderBy_enter, h.orderBy, contents_concat]
  groupBy := by rw [groupBy_enter, h.groupBy, contents_concat]
  limit := by rw [limit_enter, h.limit, getLast?_contents_concat]
  offsetWithLimit := by
    rw [offsetWithLimit_enter, h.offsetWithLimit, contents_concat]
    cases entry.contentFor? .offset <;> simp
  aggregates column := by
    rw [get?_aggregates_enter, h.aggregates, contents_concat, List.reverse_append,
      List.lookup_append]
    cases entry.contentFor? .aggregates <;> rfl

/-- Entries are collected in one way only. -/
theorem Collects.eq (h : conditions.Collects entries) (hothers : others.Collects entries) :
    conditions = others := by
  have hoffset : conditions.offsetWithLimit = others.offsetWithLimit :=
    Bool.eq_iff_iff.mpr (h.offsetWithLimit.trans hothers.offsetWithLimit.symm)
  have haggregates : conditions.aggregates = others.aggregates :=
    SortedMap.ext_get? fun column => (h.aggregates column).trans (hothers.aggregates column).symm
  have hwhere := h.whereTokens.trans hothers.whereTokens.symm
  have hhaving := h.havingTokens.trans hothers.havingTokens.symm
  have horder := h.orderBy.trans hothers.orderBy.symm
  have hgroup := h.groupBy.trans hothers.groupBy.symm
  have hlimit := h.limit.trans hothers.limit.symm
  exact Conditions.ext hwhere hhaving horder hgroup hlimit hoffset haggregates

/-- Sequences that agree are collected alike. -/
theorem Collects.congr (h : conditions.Collects first) (hagree : Agree first second) :
    conditions.Collects second := by
  obtain ⟨hwhere, hhaving, horder, hgroup, hlimit, hoffset, haggregates⟩ := h
  simp only [hagree.contents_eq] at hwhere hhaving horder hgroup hlimit hoffset haggregates
  exact ⟨hwhere, hhaving, horder, hgroup, hlimit, hoffset, haggregates⟩

end Conditions

/-! ## Queries against one level -/

open QueryEntry

/-- A simple query collects entries when it reads the level that was named last, under the
conditions that were entered. -/
structure SimpleQuery.Collects (query : SimpleQuery) (entries : List QueryEntry) : Prop where
  level : (contents .key entries).getLast? = some query.level
  conditions : query.conditions.Collects entries

namespace SimpleDraft

variable {first second : List SimpleStep}

/-- The level of a simple query in the making is the one that was named last. -/
theorem key_run (calls : List SimpleStep) :
    (run {} calls).key = (contents .key (calls.map SimpleStep.entry)).getLast? := by
  induction calls using List.reverseRecOn with
  | nil => rfl
  | append_singleton before call ih =>
      rw [run_append, List.map_append, List.map_singleton, getLast?_contents_concat, ← ih]
      rcases call with level | ⟨_ | _⟩ <;> rfl

/-- A call enters its entry into the conditions. -/
theorem conditions_step (draft : SimpleDraft) (call : SimpleStep) :
    (draft.step call).conditions = draft.conditions.enter call.entry := by
  cases call with
  | key level => rfl
  | condition step => exact Conditions.step_eq_enter _ step

/-- The conditions of a simple query in the making collect what was entered. -/
theorem collects_run (calls : List SimpleStep) :
    (run {} calls).conditions.Collects (calls.map SimpleStep.entry) := by
  induction calls using List.reverseRecOn with
  | nil => exact Conditions.collects_nil
  | append_singleton before call ih =>
      rw [run_append, List.map_append]
      show ((run {} before).step call).conditions.Collects _
      rw [conditions_step]
      exact ih.enter call.entry

/-- What a simple builder gives is what was entered, and it gives nothing else. -/
theorem build_eq_ok_iff_collects {calls : List SimpleStep} {query : SimpleQuery} :
    (run {} calls).build = .ok query ↔
      query.Collects (calls.map SimpleStep.entry) ∧ Text.isBlankText query.level = false := by
  have hcollects := collects_run calls
  rw [build_eq_ok_iff, key_run]
  constructor
  · rintro ⟨hlevel, hblank, hconditions⟩
    exact ⟨⟨hlevel, hconditions ▸ hcollects⟩, hblank⟩
  · rintro ⟨⟨hlevel, hconditions⟩, hblank⟩
    exact ⟨hlevel, hblank, hconditions.eq hcollects⟩

/-- A simple builder gives a query exactly when the level that was named last is not blank. -/
theorem exists_build_eq_ok_iff {calls : List SimpleStep} :
    (∃ query, (run {} calls).build = .ok query) ↔
      ∃ level, (contents .key (calls.map SimpleStep.entry)).getLast? = some level ∧
        Text.isBlankText level = false := by
  rw [← key_run]
  constructor
  · rintro ⟨query, hquery⟩
    obtain ⟨hlevel, hblank, -⟩ := build_eq_ok_iff.mp hquery
    exact ⟨query.level, hlevel, hblank⟩
  · rintro ⟨level, hlevel, hblank⟩
    exact ⟨⟨level, (run {} calls).conditions⟩, build_eq_ok_iff.mpr ⟨hlevel, hblank, rfl⟩⟩

/-- Calls for different parts commute. -/
theorem run_eq_of_agree (h : Agree (first.map SimpleStep.entry) (second.map SimpleStep.entry)) :
    run {} first = run {} second := by
  have hkey : (run {} first).key = (run {} second).key := by
    rw [key_run, key_run, h.contents_eq]
  exact SimpleDraft.ext hkey (((collects_run first).congr h).eq (collects_run second))

end SimpleDraft

/-! ## Queries with declared joins -/

/-- A join query collects entries when it is anchored at the level that was named last, under the
conditions that were entered, and its joins are those of the declared levels, each level where it
was declared first and with the type that it was declared with last. -/
structure JoinQuery.Collects (query : JoinQuery) (entries : List QueryEntry) : Prop where
  anchor : (contents .key entries).getLast? = some query.anchor
  levels : FirstOccurrences (query.joins.map DeclaredJoin.level)
    ((contents .joins entries).map DeclaredJoin.level)
  types : ∀ join ∈ query.joins, (contents .joins entries).reverse.find?
    (fun other => decide (other.level = join.level)) = some join
  conditions : query.conditions.Collects entries

namespace JoinDraft

variable {first second : List JoinStep}

/-- The anchor of a join query in the making is the one that was named last. -/
theorem key_run (calls : List JoinStep) :
    (run {} calls).key = (contents .key (calls.map JoinStep.entry)).getLast? := by
  induction calls using List.reverseRecOn with
  | nil => rfl
  | append_singleton before call ih =>
      rw [run_append, List.map_append, List.map_singleton, getLast?_contents_concat, ← ih]
      rcases call with level | ⟨level, type⟩ | ⟨_ | _⟩ <;> rfl

/-- The joins of a join query in the making are the declared ones. -/
theorem joins_run (calls : List JoinStep) : (run {} calls).joins =
    declareAll DeclaredJoin.level (contents .joins (calls.map JoinStep.entry)) := by
  induction calls using List.reverseRecOn with
  | nil => rfl
  | append_singleton before call ih =>
      rw [run_append, List.map_append, List.map_singleton, contents_concat]
      cases call with
      | join level type =>
          show declareJoin (run {} before).joins ⟨level, type⟩ = _
          rw [ih]
          exact (declareAll_concat DeclaredJoin.level _ _).symm
      | key level =>
          show (run {} before).joins = declareAll _ (_ ++ [])
          rw [ih, List.append_nil]
      | condition step =>
          have hnone : step.entry.contentFor? .joins = none := by cases step <;> rfl
          show (run {} before).joins = declareAll _ (_ ++ (step.entry.contentFor? .joins).toList)
          rw [ih, hnone, Option.toList_none, List.append_nil]

/-- A call enters its entry into the conditions. -/
theorem conditions_step (draft : JoinDraft) (call : JoinStep) :
    (draft.step call).conditions = draft.conditions.enter call.entry := by
  cases call with
  | key level => rfl
  | join level type => rfl
  | condition step => exact Conditions.step_eq_enter _ step

/-- The conditions of a join query in the making collect what was entered. -/
theorem collects_run (calls : List JoinStep) :
    (run {} calls).conditions.Collects (calls.map JoinStep.entry) := by
  induction calls using List.reverseRecOn with
  | nil => exact Conditions.collects_nil
  | append_singleton before call ih =>
      rw [run_append, List.map_append]
      show ((run {} before).step call).conditions.Collects _
      rw [conditions_step]
      exact ih.enter call.entry

/-- What a join builder gives is what was entered, and it gives nothing else. -/
theorem build_eq_ok_iff_collects {calls : List JoinStep} {query : JoinQuery} :
    (run {} calls).build = .ok query ↔
      query.Collects (calls.map JoinStep.entry) ∧ Text.isBlankText query.anchor = false := by
  have hcollects := collects_run calls
  rw [build_eq_ok_iff, key_run, joins_run]
  constructor
  · rintro ⟨hanchor, hblank, hjoins, hconditions⟩
    refine ⟨⟨hanchor, ?_, ?_, hconditions ▸ hcollects⟩, hblank⟩
    · rw [hjoins]
      exact firstOccurrences_declareAll _ _
    · rw [hjoins]
      exact fun join => find?_reverse_of_mem_declareAll
  · rintro ⟨⟨hanchor, hlevels, htypes, hconditions⟩, hblank⟩
    exact ⟨hanchor, hblank, eq_declareAll hlevels htypes, hconditions.eq hcollects⟩

/-- A join builder gives a query exactly when the anchor that was named last is not blank. -/
theorem exists_build_eq_ok_iff {calls : List JoinStep} :
    (∃ query, (run {} calls).build = .ok query) ↔
      ∃ level, (contents .key (calls.map JoinStep.entry)).getLast? = some level ∧
        Text.isBlankText level = false := by
  rw [← key_run]
  constructor
  · rintro ⟨query, hquery⟩
    obtain ⟨hanchor, hblank, -⟩ := build_eq_ok_iff.mp hquery
    exact ⟨query.anchor, hanchor, hblank⟩
  · rintro ⟨level, hlevel, hblank⟩
    exact ⟨⟨level, (run {} calls).joins, (run {} calls).conditions⟩,
      build_eq_ok_iff.mpr ⟨hlevel, hblank, rfl, rfl⟩⟩

/-- Calls for different parts commute. -/
theorem run_eq_of_agree (h : Agree (first.map JoinStep.entry) (second.map JoinStep.entry)) :
    run {} first = run {} second := by
  have hkey : (run {} first).key = (run {} second).key := by
    rw [key_run, key_run, h.contents_eq]
  have hjoins : (run {} first).joins = (run {} second).joins := by
    rw [joins_run, joins_run, h.contents_eq]
  exact JoinDraft.ext hkey hjoins (((collects_run first).congr h).eq (collects_run second))

end JoinDraft

/-! ## Builders -/

/-- Calls that agree part by part enter sequences that agree. -/
theorem QueryEntry.Agree.of_calls {call : Type} {entry : call → QueryEntry}
    {first second : List call}
    (h : ∀ part, first.filter (fun step => decide ((entry step).part = part)) =
      second.filter fun step => decide ((entry step).part = part)) :
    Agree (first.map entry) (second.map entry) := by
  intro part
  rw [List.filter_map, List.filter_map]
  exact congrArg (List.map entry) (h part)

/-- A simple builder and a join builder give exactly the query that collects the entries of their
calls part by part, and they give one exactly when the key that was named last is not blank.
Calls that agree part by part build the same. -/
theorem QuerySpec.built_part_by_part :
    (∀ calls : List SimpleStep,
      (∀ query, (SimpleDraft.run {} calls).build = .ok query ↔
        query.Collects (calls.map SimpleStep.entry) ∧ Text.isBlankText query.level = false) ∧
      ((∃ query, (SimpleDraft.run {} calls).build = .ok query) ↔
        ∃ level, (contents .key (calls.map SimpleStep.entry)).getLast? = some level ∧
          Text.isBlankText level = false)) ∧
    (∀ calls : List JoinStep,
      (∀ query, (JoinDraft.run {} calls).build = .ok query ↔
        query.Collects (calls.map JoinStep.entry) ∧ Text.isBlankText query.anchor = false) ∧
      ((∃ query, (JoinDraft.run {} calls).build = .ok query) ↔
        ∃ level, (contents .key (calls.map JoinStep.entry)).getLast? = some level ∧
          Text.isBlankText level = false)) ∧
    (∀ first second : List SimpleStep,
      (∀ part, first.filter (fun call => decide (call.entry.part = part)) =
        second.filter fun call => decide (call.entry.part = part)) →
      (SimpleDraft.run {} first).build = (SimpleDraft.run {} second).build) ∧
    ∀ first second : List JoinStep,
      (∀ part, first.filter (fun call => decide (call.entry.part = part)) =
        second.filter fun call => decide (call.entry.part = part)) →
      (JoinDraft.run {} first).build = (JoinDraft.run {} second).build := by
  refine ⟨fun calls => ⟨?_, SimpleDraft.exists_build_eq_ok_iff⟩,
    fun calls => ⟨?_, JoinDraft.exists_build_eq_ok_iff⟩, ?_, ?_⟩
  · exact fun query => SimpleDraft.build_eq_ok_iff_collects
  · exact fun query => JoinDraft.build_eq_ok_iff_collects
  · intro first second h
    exact congrArg SimpleDraft.build (SimpleDraft.run_eq_of_agree (Agree.of_calls h))
  · intro first second h
    exact congrArg JoinDraft.build (JoinDraft.run_eq_of_agree (Agree.of_calls h))

namespace Hospital

/-- Calls that come back to the surgeons and to the limit. -/
def callsByTopic : List JoinStep :=
  [.key "surgeon", .join "surgeon" .inner,
    .condition (.filter (.ofLevel "surgeon" "name") .equal), .condition (.limit 5),
    .join "surgeon_department" .inner, .condition .filterOr,
    .condition (.aggregate .count (.ofLevel "surgeon" "surgeon_id")),
    .condition (.filter (.ofLevel "surgeon_department" "dept_name") .like),
    .join "surgeon" .leftOuter, .condition .limitParameter, .key Level.root]

/-- The same calls, those for every part in a row. -/
def callsByPart : List JoinStep :=
  [.condition (.limit 5), .condition .limitParameter,
    .condition (.aggregate .count (.ofLevel "surgeon" "surgeon_id")),
    .condition (.filter (.ofLevel "surgeon" "name") .equal), .condition .filterOr,
    .condition (.filter (.ofLevel "surgeon_department" "dept_name") .like),
    .join "surgeon" .inner, .join "surgeon_department" .inner, .join "surgeon" .leftOuter,
    .key "surgeon", .key Level.root]

/-- In either order the last limit and the last type of the surgeons stay, and the surgeons come
before their departments. -/
theorem surgeons_called_in_any_order :
    (JoinDraft.run {} callsByTopic).build = (JoinDraft.run {} callsByPart).build ∧
    ∃ query, (JoinDraft.run {} callsByTopic).build = .ok query ∧
      query.anchor = Level.root ∧ query.conditions.limit = some "?" ∧
      query.joins.map DeclaredJoin.level = ["surgeon", "surgeon_department"] ∧
      ⟨"surgeon", .leftOuter⟩ ∈ query.joins := by
  obtain ⟨-, hjoin, -, hagree⟩ := QuerySpec.built_part_by_part
  refine ⟨hagree _ _ (by rintro ⟨⟩ <;> rfl), ?_⟩
  obtain ⟨hexact, hgiven⟩ := hjoin callsByTopic
  obtain ⟨query, hquery⟩ := hgiven.mpr ⟨Level.root, rfl, by decide⟩
  obtain ⟨⟨hanchor, hlevels, htypes, hconditions⟩, -⟩ := (hexact query).mp hquery
  have hlevelList : query.joins.map DeclaredJoin.level = ["surgeon", "surgeon_department"] :=
    hlevels.eq_keepFirst
  refine ⟨query, hquery, (Option.some.inj hanchor).symm, hconditions.limit, hlevelList, ?_⟩
  have hmem : "surgeon" ∈ query.joins.map DeclaredJoin.level := by
    rw [hlevelList]
    exact List.mem_cons_self
  obtain ⟨join, hdeclared, hlevel⟩ := List.mem_map.mp hmem
  have htype := htypes join hdeclared
  rw [hlevel] at htype
  have hlast : join = ⟨"surgeon", .leftOuter⟩ := (Option.some.inj htype).symm
  exact hlast ▸ hdeclared

end Hospital

end SelectionSql
