import Mathlib.Data.List.Nodup
import SelectionSql.Plan.Statement
import SelectionSql.Proofs.Outcome

/-!
# Columns of a level - What selecting a level yields

Main results:

- `entityItems_eq`: the columns of a level are those of the names it contributes, each at
  its first place, although repeated names and repeated columns are left out apart.
- `selectItems_eq_ok`: when a level is selected, and what is selected then.
- `mem_of_selectItems`: what is selected are the columns of these names.
- `nodup_positions`: levels that are selected once give every column once.
- `columnItem_mem_selectItems`: the column behind an aggregate is selected.
-/

namespace SelectionSql

universe u v

variable {request : Request} {style : ColumnStyle} {level : Level} {aggregates : AggregateMap}
variable {items : List SelectItem}

/-! ## Repeated names and repeated columns -/

/-- The names that a level contributes, in order and perhaps more than once: its join keys
unless there are aggregates, its requested fields, and the fields behind its aggregates. -/
def contributedNames (entity : Entity) (style : ColumnStyle) (level : Level)
    (requested : List String) (aggregates : AggregateMap) : List String :=
  (if aggregates.entries.isEmpty then entity.joinKeyFields else []) ++ requested ++
    aggregates.keys.filterMap fun key =>
      (style.columnOfKey? level key).bind entity.fieldForColumn

/-- The fields behind the aggregates of a level are those in front of the columns that the
keys stand for. -/
theorem aggregatedFields_eq (entity : Entity) (style : ColumnStyle) (level : Level)
    (aggregates : AggregateMap) :
    aggregatedFields entity style level aggregates = aggregates.keys.filterMap fun key =>
      (style.columnOfKey? level key).bind entity.fieldForColumn := by
  unfold aggregatedFields
  refine List.filterMap_congr fun key _ => ?_
  ext field
  rw [get?_fieldsByKey, Option.bind_eq_some_iff]

/-- A name that occurred before has its column already. -/
theorem mapM_appendNew {ε : Type u} {α β : Type v} [DecidableEq α] [DecidableEq β]
    (step : α → Except ε β) (list more : List α) :
    ((appendNew list more).mapM step).map keepFirst =
      ((list ++ more).mapM step).map keepFirst := by
  induction more generalizing list with
  | nil => rw [appendNew_nil, List.append_nil]
  | cons element more ih =>
      by_cases hmem : element ∈ list
      · rw [appendNew_of_mem hmem, ih, List.mapM_append, List.mapM_append]
        cases hlist : list.mapM step with
        | error fault => rfl
        | ok results =>
            obtain ⟨result, hresult, hstep⟩ := Outcome.exists_of_mem_mapM hlist hmem
            rw [List.mapM_cons, hstep]
            cases more.mapM step with
            | error fault => rfl
            | ok others => exact congrArg Except.ok (keepFirst_append_cons hresult).symm
      · rw [appendNew_of_not_mem hmem, ih, List.append_assoc, List.singleton_append]

/-- The items of some names are those of their columns, each at its first place, without the
columns that are selected already. -/
theorem itemsOfNames_eq (entity : Entity) (selected names : List String) :
    itemsOfNames entity style level aggregates selected names =
      (names.mapM entity.resolve).map fun columns =>
        ((keepFirst columns).filter fun column => decide (column ∉ selected)).map
          (columnItem style level aggregates) := by
  induction names generalizing selected with
  | nil => rfl
  | cons name names ih =>
      rw [itemsOfNames, List.mapM_cons]
      cases entity.resolve name with
      | error fault => rfl
      | ok column =>
          show (if column ∈ selected then _ else _) = _
          rw [ih, ih]
          cases names.mapM entity.resolve with
          | error fault => split <;> rfl
          | ok columns =>
              simp only [Except.map, bind, Except.bind, pure, Except.pure]
              split
              next hmem => rw [filter_keepFirst_cons_of_mem hmem]
              next hnew => rw [filter_keepFirst_cons_of_not_mem hnew, List.map_cons]

/-- The items of an entity are those of the columns behind the names that it contributes, each
column at its first place. -/
theorem entityItems_eq (entity : Entity) (requested : List String) :
    entityItems entity style level requested aggregates =
      ((contributedNames entity style level requested aggregates).mapM entity.resolve).map
        fun columns => (keepFirst columns).map (columnItem style level aggregates) := by
  have hnames : ((selectedNames entity style level requested aggregates).mapM
      entity.resolve).map keepFirst =
        ((contributedNames entity style level requested aggregates).mapM
          entity.resolve).map keepFirst := by
    unfold selectedNames contributedNames
    rw [appendNew_appendNew, mapM_appendNew, List.append_assoc, aggregatedFields_eq]
  have hitems : ∀ outcome : Except QueryFault (List String),
      (outcome.map fun columns => (keepFirst columns).map (columnItem style level aggregates)) =
        (outcome.map keepFirst).map (List.map (columnItem style level aggregates)) := by
    intro outcome
    cases outcome <;> rfl
  unfold entityItems
  rw [itemsOfNames_eq]
  simp only [List.not_mem_nil, not_false_eq_true, decide_true, List.filter_true]
  rw [hitems, hitems, hnames]

/-! ## One level -/

/-- A level is selected when it is in scope, an entity sits there and every name that it
contributes has a column. -/
theorem selectItems_eq_ok :
    selectItems request style level aggregates = .ok items ↔
      style.admits level = true ∧ ∃ entity, request.entityAt level = .ok entity ∧
        ∃ columns, (contributedNames entity style level (request.fieldsAt level)
          aggregates).mapM entity.resolve = .ok columns ∧
          (keepFirst columns).map (columnItem style level aggregates) = items := by
  unfold selectItems
  by_cases hadmits : style.admits level = true
  · rw [if_pos hadmits]
    constructor
    · intro h
      rcases Outcome.bind_eq_ok.mp h with ⟨entity, hentity, h⟩
      rw [entityItems_eq] at h
      rcases Outcome.map_eq_ok.mp h with ⟨columns, hcolumns, h⟩
      exact ⟨hadmits, entity, hentity, columns, hcolumns, h⟩
    · intro hparts
      rcases hparts with ⟨-, entity, hentity, columns, hcolumns, h⟩
      refine Outcome.bind_eq_ok.mpr ⟨entity, hentity, ?_⟩
      rw [entityItems_eq]
      exact Outcome.map_eq_ok.mpr ⟨columns, hcolumns, h⟩
  · rw [if_neg hadmits]
    simp [hadmits]

/-- What is selected at a level are the columns of the names that it contributes. -/
theorem mem_of_selectItems (h : selectItems request style level aggregates = .ok items)
    {item : SelectItem} :
    item ∈ items ↔ ∃ entity, request.entityAt level = .ok entity ∧
      ∃ name ∈ contributedNames entity style level (request.fieldsAt level) aggregates,
        ∃ column, entity.resolve? name = some column ∧
          item = columnItem style level aggregates column := by
  rcases selectItems_eq_ok.mp h with ⟨-, entity, hentity, columns, hcolumns, rfl⟩
  constructor
  · intro hitem
    rcases List.mem_map.mp hitem with ⟨column, hcolumn, rfl⟩
    rcases Outcome.exists_of_mapM hcolumns (mem_keepFirst.mp hcolumn) with ⟨name, hname, hresolve⟩
    exact ⟨entity, hentity, name, hname, column, Entity.resolve_eq_ok.mp hresolve, rfl⟩
  · intro hparts
    rcases hparts with ⟨found, hfound, name, hname, column, hresolve, rfl⟩
    cases Except.ok.inj (hentity.symm.trans hfound)
    rcases Outcome.exists_of_mem_mapM hcolumns hname with ⟨other, hother, hresult⟩
    cases Except.ok.inj ((Entity.resolve_eq_ok.mpr hresolve).symm.trans hresult)
    exact List.mem_map_of_mem (mem_keepFirst.mpr hother)

/-- Everything selected at a level is one of its columns, with the aggregate of its key. -/
theorem eq_columnItem_of_mem (h : selectItems request style level aggregates = .ok items)
    {item : SelectItem} (hitem : item ∈ items) :
    item = columnItem style level aggregates item.column := by
  rcases (mem_of_selectItems h).mp hitem with ⟨entity, -, name, -, column, -, rfl⟩
  rfl

/-- No column of a level is selected twice. -/
theorem nodup_columns (h : selectItems request style level aggregates = .ok items) :
    (items.map SelectItem.column).Nodup := by
  rcases selectItems_eq_ok.mp h with ⟨-, entity, -, columns, -, rfl⟩
  have hcolumns : ((keepFirst columns).map (columnItem style level aggregates)).map
      SelectItem.column = keepFirst columns := by
    rw [List.map_map]
    exact List.map_id _
  rw [hcolumns]
  exact nodup_keepFirst columns

/-- When fields and columns map one to one, the column that an aggregate names is selected
at its level. -/
theorem columnItem_mem_selectItems {entity : Entity} {column : String} {function : Aggregate}
    (hpaired : ∀ column field, entity.fieldForColumn column = some field →
      entity.columnForField field = some column)
    (hentity : request.entityAt level = .ok entity) (hcolumn : entity.hasColumn column = true)
    (hkey : aggregates.get? (style.key level column) = some function)
    (h : selectItems request style level aggregates = .ok items) :
    columnItem style level aggregates column ∈ items := by
  rcases Option.isSome_iff_exists.mp hcolumn with ⟨field, hfield⟩
  have hmem := SortedMap.mem_keys_of_get? hkey
  have hname : field ∈ contributedNames entity style level (request.fieldsAt level)
      aggregates := by
    refine List.mem_append_right _ (List.mem_filterMap.mpr ⟨style.key level column, hmem, ?_⟩)
    rw [ColumnStyle.columnOfKey?_key]
    exact hfield
  have hresolve : entity.resolve? field = some column :=
    Entity.resolve?_of_field (hpaired column field hfield)
  exact (mem_of_selectItems h).mpr ⟨entity, hentity, field, hname, column, hresolve, rfl⟩

/-! ## Several levels -/

/-- Everything selected at some levels is a column of one of them. -/
theorem exists_of_mem_flatten {levels : List Level} {parts : List (List SelectItem)}
    (h : (levels.mapM fun level => selectItems request style level aggregates) = .ok parts)
    {item : SelectItem} (hitem : item ∈ parts.flatten) :
    item.level ∈ levels ∧ item = columnItem style item.level aggregates item.column := by
  rcases List.mem_flatten.mp hitem with ⟨part, hpart, hmem⟩
  rcases Outcome.exists_of_mapM h hpart with ⟨level, hlevel, hitems⟩
  have heq := eq_columnItem_of_mem hitems hmem
  have hitemLevel : item.level = level := by
    rw [heq]
    rfl
  exact ⟨hitemLevel ▸ hlevel, hitemLevel ▸ heq⟩

/-- Distinct levels give every column of every level once. -/
theorem nodup_positions {levels : List Level} {parts : List (List SelectItem)}
    (hlevels : levels.Nodup)
    (h : (levels.mapM fun level => selectItems request style level aggregates) = .ok parts) :
    (parts.flatten.map fun item => (item.level, item.column)).Nodup := by
  induction Outcome.mapM_eq_ok.mp h with
  | nil => exact List.nodup_nil
  | @cons level items levels parts hhead hrest ih =>
      rw [List.nodup_cons] at hlevels
      have hparts := Outcome.mapM_eq_ok.mpr hrest
      rw [List.flatten_cons, List.map_append, List.nodup_append]
      refine ⟨?_, ih hlevels.2 hparts, ?_⟩
      · have hcolumns := nodup_columns hhead
        apply List.Nodup.of_map Prod.snd
        rw [List.map_map]
        exact hcolumns
      · intro position hposition other hother heq
        rcases List.mem_map.mp hposition with ⟨item, hitem, rfl⟩
        rcases List.mem_map.mp hother with ⟨later, hlater, rfl⟩
        have hlevel : item.level = level := by
          rw [eq_columnItem_of_mem hhead hitem]
          rfl
        have hlaterLevel := (exists_of_mem_flatten hparts hlater).1
        rw [← (Prod.mk.inj heq).1, hlevel] at hlaterLevel
        exact hlevels.1 hlaterLevel

end SelectionSql
