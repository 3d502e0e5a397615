import SelectionSql.Proofs.QueryParts

/-!
# Named levels - The level that a step tags and the one that it writes

A step that names a column of a level uses the level twice over: it tags a token with it, by
which the join plan goes, and it writes it in front of the column, which the database reads.
The tag is the level without surrounding white space, whereas the text has the level as given.

Main results:

- `qualify_inj`: a column that is written tells its level.
- `ColumnRef.ofLevel_eq`: the tag and the text of a column, said of the level.
- `taggedLevel?_eq_writtenLevel?_iff`: when the two levels are the same.
- `ColumnStep.names_iff`: which level each step names.
- `ColumnStep.exists_names_iff`: when a clause names one level.
- `ColumnStep.names_alike_iff`: when all steps that are given a level name the same one.
-/

namespace SelectionSql

/-! ## The two uses of a level -/

/-- The level that stands in front of a column, unless it is blank. -/
def writtenLevel? (level : Level) : Option Level :=
  if Text.isBlankText level then none else some level

/-- The level that tokens are tagged with, unless it is blank. -/
def taggedLevel? (level : Level) : Option Level :=
  (writtenLevel? level).map Text.trim

/-- A level is tidy when it is blank, or has white space neither at its beginning nor at its
end. -/
def TidyLevel (level : Level) : Prop :=
  Text.isBlankText level = true ∨
    ∀ c, level.toList.head? = some c ∨ level.toList.getLast? = some c → Text.isBlank c = false

variable {level : Level} {column : String}

/-- A column that is written tells whether it is qualified, and by which level. -/
theorem qualify_inj {first second : Option Level} :
    qualify first column = qualify second column ↔ first = second := by
  constructor
  · -- a dot and a level make a text longer
    have hlonger : ∀ level : Level, qualify (some level) column ≠ qualify none column := by
      intro level heq
      have hlength := congrArg String.length heq
      simp [qualify] at hlength
    intro h
    cases first with
    | none =>
        cases second with
        | none => rfl
        | some level => exact absurd h.symm (hlonger level)
    | some level =>
        cases second with
        | none => exact absurd h (hlonger level)
        | some other =>
            rw [qualify, qualify, String.append_left_inj, String.append_left_inj] at h
            rw [h]
  · rintro rfl
    rfl

/-- A column of a level is tagged with one use of the level and written with the other. -/
theorem ColumnRef.ofLevel_eq (level : Level) (column : String) :
    ColumnRef.ofLevel level column =
      ⟨taggedLevel? level, column, qualify (writtenLevel? level) column⟩ := by
  unfold ColumnRef.ofLevel taggedLevel? writtenLevel?
  cases Text.isBlankText level <;> rfl

/-- The two uses of a level are the same exactly when it is tidy. -/
theorem taggedLevel?_eq_writtenLevel?_iff :
    taggedLevel? level = writtenLevel? level ↔ TidyLevel level := by
  unfold taggedLevel? writtenLevel? TidyLevel
  rw [← Text.trim_eq_self_iff]
  cases Text.isBlankText level <;> simp

instance (level : Level) : Decidable (TidyLevel level) :=
  decidable_of_iff _ taggedLevel?_eq_writtenLevel?_iff

/-! ## Steps that name a column -/

/-- A step that names a column, apart from the column. -/
inductive ColumnStep
  | filter (comparison : Comparison)
  | filterSubquery (comparison : SubqueryComparison) (subquery : String)
  | having (comparison : Comparison)
  | havingAggregate (aggregate : Aggregate) (comparison : Comparison)
  | havingSubquery (comparison : SubqueryComparison) (subquery : String)
  | orderBy
  | orderByAggregate (aggregate : Aggregate)
  | groupBy
  | aggregate (aggregate : Aggregate)

namespace ColumnStep

/-- The step about a column. -/
def about (column : ColumnRef) : ColumnStep → ConditionStep
  | filter comparison => .filter column comparison
  | filterSubquery comparison subquery => .filterSubquery column comparison subquery
  | having comparison => .having column comparison
  | havingAggregate function comparison => .havingAggregate function column comparison
  | havingSubquery comparison subquery => .havingSubquery column comparison subquery
  | orderBy => .orderBy column
  | orderByAggregate function => .orderByAggregate function column
  | groupBy => .groupBy column
  | aggregate function => .aggregate function column

/-- What a step enters when it names a column of one level, or of none, wherever it names it:
in the tag of a clause or of a grouping column, and in front of the column in a text. -/
def entry (named : Option Level) (column : String) : ColumnStep → QueryEntry
  | filter comparison =>
      ⟨.filters, .clause named (qualify named column ++ " " ++ comparison.sql)⟩
  | filterSubquery comparison subquery =>
      ⟨.filters, .clause named (qualify named column ++ " " ++ comparison.sql subquery)⟩
  | having comparison =>
      ⟨.groupFilters, .clause named (qualify named column ++ " " ++ comparison.sql)⟩
  | havingAggregate function comparison =>
      ⟨.groupFilters,
        .clause named (function.apply (qualify named column) ++ " " ++ comparison.sql)⟩
  | havingSubquery comparison subquery =>
      ⟨.groupFilters, .clause named (qualify named column ++ " " ++ comparison.sql subquery)⟩
  | orderBy => ⟨.order, .column (qualify named column)⟩
  | orderByAggregate function => ⟨.order, .column (function.apply (qualify named column))⟩
  | groupBy => ⟨.groups, ⟨named, column⟩⟩
  | aggregate function => ⟨.aggregates, (qualify named column, function)⟩

/-- A step that is given a level and a column names the column as one of a level, or of none. -/
def Names (step : ColumnStep) (level : Level) (column : String) (named : Option Level) : Prop :=
  ∀ conditions : Conditions,
    conditions.step (step.about (.ofLevel level column)) = conditions.enter (step.entry named column)

/-- Clauses and grouping columns are tagged with their level. -/
def Tags : ColumnStep → Prop
  | orderBy | orderByAggregate _ | aggregate _ => False
  | _ => True

/-- All steps but a grouping write the column with the level in front of it. -/
def Writes : ColumnStep → Prop
  | groupBy => False
  | _ => True

end ColumnStep

/-- What is entered into a part of conditions can be told from them. -/
theorem Conditions.enter_inj {first second : QueryEntry} (hpart : first.part = second.part)
    (hkey : first.part ≠ .key) (hjoins : first.part ≠ .joins)
    (h : ({} : Conditions).enter first = ({} : Conditions).enter second) : first = second := by
  obtain ⟨part, content⟩ := first
  obtain ⟨_, other⟩ := second
  cases hpart
  refine congrArg (QueryEntry.mk part) ?_
  cases part with
  | key => exact absurd rfl hkey
  | joins => exact absurd rfl hjoins
  | filters => exact List.singleton_inj.mp (congrArg Conditions.whereTokens h)
  | groupFilters => exact List.singleton_inj.mp (congrArg Conditions.havingTokens h)
  | order => exact List.singleton_inj.mp (congrArg Conditions.orderBy h)
  | groups => exact List.singleton_inj.mp (congrArg Conditions.groupBy h)
  | aggregates =>
      have hentries := congrArg (fun conditions => conditions.aggregates.entries) h
      exact List.singleton_inj.mp hentries
  | limit => exact Option.some.inj (congrArg Conditions.limit h)
  | offset => rfl

namespace ColumnStep

variable {step : ColumnStep} {tag written named : Option Level}

/-- A step enters the same for a column that is tagged with one level and written with another
as where it names a third one, exactly when this is each of the two that it uses. -/
theorem entry_about_eq_iff :
    (step.about ⟨tag, column, qualify written column⟩).entry = step.entry named column ↔
      (step.Tags → named = tag) ∧ (step.Writes → named = written) := by
  have happly : ∀ (function : Aggregate) (first second : String),
      function.apply first = function.apply second ↔ first = second := by
    intro function first second
    rw [Aggregate.apply, Aggregate.apply, String.append_left_inj, String.append_right_inj]
  cases step <;>
    simp [about, entry, ConditionStep.entry, Tags, Writes, qualify_inj, happly, eq_comm]

/-- A step that tags names the level that tokens are tagged with, and one that writes names the
level that is written. -/
theorem names_iff :
    step.Names level column named ↔
      (step.Tags → named = taggedLevel? level) ∧ (step.Writes → named = writtenLevel? level) := by
  have hentry : (step.about (.ofLevel level column)).entry = step.entry named column ↔
      (step.Tags → named = taggedLevel? level) ∧ (step.Writes → named = writtenLevel? level) := by
    rw [ColumnRef.ofLevel_eq]
    exact entry_about_eq_iff
  rw [← hentry]
  constructor
  · intro h
    have hempty := h {}
    rw [Conditions.step_eq_enter] at hempty
    refine Conditions.enter_inj ?_ ?_ ?_ hempty <;> cases step <;>
      simp [about, entry, ConditionStep.entry]
  · intro h conditions
    rw [Conditions.step_eq_enter, h]

/-- A step that tags and writes names a level exactly when the level that it is given is tidy. -/
theorem exists_names_iff (htags : step.Tags) (hwrites : step.Writes) :
    (∃ named, step.Names level column named) ↔ TidyLevel level := by
  rw [← taggedLevel?_eq_writtenLevel?_iff]
  simp only [names_iff, htags, hwrites, true_implies]
  constructor
  · rintro ⟨named, htagged, hwritten⟩
    exact htagged.symm.trans hwritten
  · intro heq
    exact ⟨_, rfl, heq⟩

/-- Of the steps that are given a level and a column, those that tag name the level that tokens
are tagged with and those that write name the level that is written.  A clause, which does both,
names one level exactly when the level is tidy, and exactly then do all steps name the same. -/
theorem names_alike_iff (level : Level) (column : String) :
    (∀ (step : ColumnStep) (named : Option Level), step.Names level column named ↔
      (step.Tags → named = taggedLevel? level) ∧ (step.Writes → named = writtenLevel? level)) ∧
    (∀ step : ColumnStep, step.Tags → step.Writes →
      ((∃ named, step.Names level column named) ↔ TidyLevel level)) ∧
    ((∃ named, ∀ step : ColumnStep, step.Names level column named) ↔ TidyLevel level) := by
  refine ⟨fun step named => names_iff, fun step htags hwrites => exists_names_iff htags hwrites, ?_⟩
  constructor
  · rintro ⟨named, hnames⟩
    have hfilter : ∃ named, (filter .equal).Names level column named := ⟨named, hnames _⟩
    refine (exists_names_iff ?_ ?_).mp hfilter <;> trivial
  · intro htidy
    have hsame := taggedLevel?_eq_writtenLevel?_iff.mpr htidy
    exact ⟨taggedLevel? level, fun step => names_iff.mpr ⟨fun _ => rfl, fun _ => hsame⟩⟩

end ColumnStep

namespace Hospital

/-- The level of surgeons is tidy, and all steps name it. -/
theorem surgeon_named_alike : TidyLevel "surgeon" ∧
    ∀ step : ColumnStep, step.Names "surgeon" "name" (some "surgeon") := by
  have htidy : TidyLevel "surgeon" := by decide
  obtain ⟨hnames, -, halike⟩ := ColumnStep.names_alike_iff "surgeon" "name"
  obtain ⟨named, hnamed⟩ := halike.mpr htidy
  have hsurgeon : named = some "surgeon" :=
    ((hnames (.filter .equal) named).mp (hnamed _)).1 trivial
  exact ⟨htidy, hsurgeon ▸ hnamed⟩

/-- A filter of the surgeons' names, for which the level is given with white space around it. -/
theorem step_padded : Conditions.step {} (.filter (.ofLevel " surgeon " "name") .equal) =
    { whereTokens := [.clause (some "surgeon") " surgeon .name = ?"] } := by
  decide

/-- Steps that are given a level do not always name the same one: the clause is tagged with
the level of surgeons and written with another one. -/
theorem not_forall_names_alike :
    ¬ ∀ (level : Level) (column : String), ∃ named,
      ∀ step : ColumnStep, step.Names level column named := by
  intro hclaim
  obtain ⟨named, hnamed⟩ := hclaim " surgeon " "name"
  have hclause := (hnamed (.filter .equal) {}).symm.trans step_padded
  have htoken := List.singleton_inj.mp (congrArg Conditions.whereTokens hclause)
  obtain ⟨rfl, htext⟩ := ConditionToken.clause.inj htoken
  exact absurd htext (by decide)

end Hospital

end SelectionSql
