import SelectionSql.Plan.Column

/-!
# Aggregations - Checking which columns aggregates name

An aggregate key names a level and a column, or a column of the anchor alone.
Checked keys are written as the style of the statement names columns.

Main results:

- `splitKey_of_not_mem`: a key without a dot belongs to the anchor.
- `checkedKey_eq_ok`: which keys are accepted, and how they are written.
-/

namespace SelectionSql

/-- The level and column that a key names; without a dot it is a column of the
anchor. -/
def splitKey (anchor : Level) (key : String) : Level × String :=
  match Text.cutFirst '.' key.toList with
  | some (level, column) => (String.ofList level, String.ofList column)
  | none => (anchor, key)

/-- A key without a dot belongs to the anchor. -/
theorem splitKey_of_not_mem {anchor : Level} {key : String} (h : '.' ∉ key.toList) :
    splitKey anchor key = (anchor, key) := by
  unfold splitKey
  rw [Text.cutFirst_eq_none.mpr h]

/-- The key of a column that the entity at its level has, as the style writes
it.  A statement over a single table refuses keys of other levels. -/
def checkedKey (request : Request) (anchor : Level) (style : ColumnStyle) (key : String) :
    Except QueryFault String :=
  let (level, column) := splitKey anchor key
  if style = .bare ∧ level ≠ anchor then
    (request.entityAt anchor).bind fun entity =>
      .error (.aggregateColumnNotFound key entity.name)
  else
    (request.entityAt level).bind fun entity =>
      if entity.hasColumn column then .ok (style.key level column)
      else .error (.aggregateColumnNotFound column entity.name)

/-- A key is accepted exactly when its level has an entity with its column and,
over a single table, is the anchor. -/
theorem checkedKey_eq_ok {request : Request} {anchor : Level} {style : ColumnStyle}
    {key checked : String} :
    checkedKey request anchor style key = .ok checked ↔
      (style = .bare → (splitKey anchor key).1 = anchor) ∧
        (∃ entity, request.entityAt (splitKey anchor key).1 = .ok entity ∧
          entity.hasColumn (splitKey anchor key).2 = true) ∧
        checked = style.key (splitKey anchor key).1 (splitKey anchor key).2 := by
  unfold checkedKey
  generalize splitKey anchor key = split
  obtain ⟨level, column⟩ := split
  simp only
  by_cases hbare : style = .bare ∧ level ≠ anchor
  · rw [if_pos hbare]
    constructor
    · intro h
      cases hentity : request.entityAt anchor with
      | error fault => simp [hentity, Except.bind] at h
      | ok entity => simp [hentity, Except.bind] at h
    · rintro ⟨h, -⟩
      exact absurd (h hbare.1) hbare.2
  · rw [if_neg hbare]
    have hlevel : style = .bare → level = anchor := by
      intro hstyle
      exact Decidable.byContradiction fun hne => hbare ⟨hstyle, hne⟩
    cases hentity : request.entityAt level with
    | error fault => simp [Except.bind]
    | ok entity =>
        simp only [Except.bind, Except.ok.injEq, exists_eq_left']
        split
        next hcolumn =>
          simp only [Except.ok.injEq]
          constructor
          · rintro rfl
            exact ⟨hlevel, hcolumn, rfl⟩
          · rintro ⟨_, _, rfl⟩
            rfl
        next hcolumn => simp [hcolumn]

/-- The aggregates under their checked keys; of two keys that are written alike
the later one wins. -/
def checkedAggregates (request : Request) (anchor : Level) (style : ColumnStyle)
    (aggregates : AggregateMap) : Except QueryFault AggregateMap :=
  (aggregates.entries.mapM fun entry =>
    (checkedKey request anchor style entry.1).map fun key => (key, entry.2)).map
    SortedMap.ofList

end SelectionSql
