import SelectionSql.Plan.Request
import SelectionSql.Sql.Select
import SelectionSql.Text.Casing

/-!
# Columns - Which columns a level contributes to a statement

A requested name is a field of the entity, an accessor of one, or a name of the
API.  A level contributes its join keys, unless aggregates are present, then its
requested fields and then the fields behind its own aggregates.

Main results:

- `Entity.resolve?_of_field`: a declared field resolves to its own column.
- `Entity.exists_columnForField_of_resolve?`: every name that resolves leads to a field.
- `ColumnStyle.columnOfKey?_key`: an aggregate key leads back to its column.
- `get?_fieldsByKey`: which field a key finds.
- `selectItems_of_not_inScope`: a level outside the scope of the anchor is refused.
-/

namespace SelectionSql

/-! ## From names to columns -/

/-- The property behind an accessor name such as `getTotal` or `isActive`. -/
def accessorProperty? (name : String) : Option String :=
  let rest :=
    (Text.after? ['g', 'e', 't'] name.toList).or (Text.after? ['i', 's'] name.toList)
  (rest.filter fun property => !property.isEmpty).map fun property =>
    String.ofList (Text.decapitalize property)

namespace Entity

/-- The column behind a requested name: a field of that name, the field whose
accessor it is, or the field that an API calls so. -/
def resolve? (entity : Entity) (name : String) : Option String :=
  ((entity.columnForField name).or
    ((accessorProperty? name).bind entity.columnForField)).or
    ((entity.apiNames.get? name).bind entity.columnForField)

/-- The column behind a requested name, which must have one. -/
def resolve (entity : Entity) (name : String) : Except QueryFault String :=
  match entity.resolve? name with
  | some column => .ok column
  | none => .error (.fieldNotFound name entity.name)

/-- A declared field resolves to its own column. -/
theorem resolve?_of_field {entity : Entity} {name column : String}
    (h : entity.columnForField name = some column) : entity.resolve? name = some column := by
  simp [resolve?, h]

/-- Whatever a name is, its column is that of some field. -/
theorem exists_columnForField_of_resolve? {entity : Entity} {name column : String}
    (h : entity.resolve? name = some column) :
    ∃ field, entity.columnForField field = some column := by
  rcases Option.or_eq_some_iff.mp h with h | ⟨-, h⟩
  · rcases Option.or_eq_some_iff.mp h with h | ⟨-, h⟩
    · exact ⟨name, h⟩
    · obtain ⟨property, -, h⟩ := Option.bind_eq_some_iff.mp h
      exact ⟨property, h⟩
  · obtain ⟨field, -, h⟩ := Option.bind_eq_some_iff.mp h
    exact ⟨field, h⟩

theorem resolve_eq_ok {entity : Entity} {name column : String} :
    entity.resolve name = .ok column ↔ entity.resolve? name = some column := by
  unfold resolve
  cases entity.resolve? name <;> simp

end Entity

/-! ## Aggregate keys -/

namespace ColumnStyle

/-- The column of a level that a key stands for, if it stands for one. -/
def columnOfKey? (style : ColumnStyle) (level : Level) (key : String) : Option String :=
  match style with
  | bare => some key
  | qualified _ => (Text.after? (level ++ ".").toList key.toList).map String.ofList

/-- A key leads back to its column. -/
@[simp] theorem columnOfKey?_key (style : ColumnStyle) (level : Level) (column : String) :
    style.columnOfKey? level (style.key level column) = some column := by
  cases style with
  | bare => rfl
  | qualified anchor =>
      have h : Text.after? (level ++ ".").toList (level ++ "." ++ column).toList =
          some column.toList := by
        rw [Text.after?_eq_some]
        simp
      show (Text.after? (level ++ ".").toList (level ++ "." ++ column).toList).map
        String.ofList = some column
      rw [h]
      simp

/-- A key stands for exactly the column that it is made of. -/
theorem columnOfKey?_eq_some {style : ColumnStyle} {level : Level} {key column : String} :
    style.columnOfKey? level key = some column ↔ key = style.key level column := by
  constructor
  · cases style with
    | bare => simp [columnOfKey?, ColumnStyle.key]
    | qualified anchor =>
        intro h
        simp only [columnOfKey?, Option.map_eq_some_iff] at h
        obtain ⟨rest, hrest, rfl⟩ := h
        rw [Text.after?_eq_some] at hrest
        rw [← String.toList_inj, hrest]
        simp [ColumnStyle.key]
  · rintro rfl
    exact columnOfKey?_key style level column

end ColumnStyle

/-- The field in front of each column of a level, under the key that the column has. -/
def fieldsByKey (entity : Entity) (style : ColumnStyle) (level : Level) : SortedMap String :=
  SortedMap.ofList (entity.index.fieldOf.entries.map fun entry =>
    (style.key level entry.1, entry.2))

/-- A key finds the field in front of the column that it stands for. -/
theorem get?_fieldsByKey {entity : Entity} {style : ColumnStyle} {level : Level}
    {key field : String} :
    (fieldsByKey entity style level).get? key = some field ↔
      ∃ column, style.columnOfKey? level key = some column ∧
        entity.fieldForColumn column = some field := by
  have hentry : ∀ found, (fieldsByKey entity style level).get? key = some found →
      ∃ column, style.columnOfKey? level key = some column ∧
        entity.fieldForColumn column = some found := by
    intro found hfound
    obtain ⟨⟨column, name⟩, hmem, heq⟩ := List.mem_map.mp (SortedMap.mem_of_get?_ofList hfound)
    obtain ⟨rfl, rfl⟩ := Prod.mk.inj heq
    exact ⟨column, ColumnStyle.columnOfKey?_key style level column,
      (SortedMap.mem_entries_iff _ column name).mp hmem⟩
  refine ⟨hentry field, ?_⟩
  rintro ⟨column, hcolumn, hfield⟩
  have hmem := (SortedMap.mem_entries_iff _ column field).mpr hfield
  have hkey : key ∈ (entity.index.fieldOf.entries.map fun entry =>
      (style.key level entry.1, entry.2)).map Prod.fst := by
    rw [ColumnStyle.columnOfKey?_eq_some.mp hcolumn]
    exact List.mem_map_of_mem (List.mem_map_of_mem hmem)
  -- what is found there belongs to the same column
  obtain ⟨found, hfound⟩ := SortedMap.exists_get?_ofList hkey
  obtain ⟨other, hother, hsame⟩ := hentry found hfound
  cases Option.some.inj (hcolumn.symm.trans hother)
  cases Option.some.inj (hfield.symm.trans hsame)
  exact hfound

/-- The fields behind the aggregates of a level, in the order of their keys. -/
def aggregatedFields (entity : Entity) (style : ColumnStyle) (level : Level)
    (aggregates : AggregateMap) : List String :=
  aggregates.keys.filterMap (fieldsByKey entity style level).get?

/-! ## Selected columns -/

/-- The names that a level contributes, in order: its join keys unless there are
aggregates, and then those of its requested fields and of the fields behind its
aggregates that are not there already. -/
def selectedNames (entity : Entity) (style : ColumnStyle) (level : Level)
    (requested : List String) (aggregates : AggregateMap) : List String :=
  appendNew
    (appendNew (if aggregates.entries.isEmpty then entity.joinKeyFields else []) requested)
    (aggregatedFields entity style level aggregates)

/-- The item of a column, wrapped in the aggregate that its key has. -/
def columnItem (style : ColumnStyle) (level : Level) (aggregates : AggregateMap)
    (column : String) : SelectItem :=
  ⟨style, level, column, aggregates.get? (style.key level column)⟩

/-- The items of the columns behind some names.  Several names may have one column,
so a column that is selected already is passed over. -/
def itemsOfNames (entity : Entity) (style : ColumnStyle) (level : Level)
    (aggregates : AggregateMap) :
    List String → List String → Except QueryFault (List SelectItem)
  | _, [] => .ok []
  | selected, name :: names =>
      (entity.resolve name).bind fun column =>
        if column ∈ selected then
          itemsOfNames entity style level aggregates selected names
        else
          (itemsOfNames entity style level aggregates (column :: selected) names).map fun items =>
            columnItem style level aggregates column :: items

/-- The items of the columns that a level contributes, no column twice. -/
def entityItems (entity : Entity) (style : ColumnStyle) (level : Level)
    (requested : List String) (aggregates : AggregateMap) :
    Except QueryFault (List SelectItem) :=
  itemsOfNames entity style level aggregates []
    (selectedNames entity style level requested aggregates)

/-- Whether a level may be selected in a style. -/
def ColumnStyle.admits (style : ColumnStyle) (level : Level) : Bool :=
  match style with
  | bare => true
  | qualified anchor => Level.isInScope level anchor

/-- The anchor of a style, if it has one. -/
def ColumnStyle.anchorOr (style : ColumnStyle) (level : Level) : Level :=
  match style with
  | bare => level
  | qualified anchor => anchor

/-- The items of a level, which must lie in the scope of the anchor. -/
def selectItems (request : Request) (style : ColumnStyle) (level : Level)
    (aggregates : AggregateMap) : Except QueryFault (List SelectItem) :=
  if style.admits level then
    (request.entityAt level).bind fun entity =>
      entityItems entity style level (request.fieldsAt level) aggregates
  else .error (.outOfScope (style.anchorOr level) level)

/-- A level outside the scope of the anchor is refused. -/
theorem selectItems_of_not_inScope {request : Request} {anchor level : Level}
    {aggregates : AggregateMap} (h : Level.isInScope level anchor = false) :
    selectItems request (.qualified anchor) level aggregates =
      .error (.outOfScope anchor level) := by
  simp [selectItems, ColumnStyle.admits, ColumnStyle.anchorOr, h]

end SelectionSql
