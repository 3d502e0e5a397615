import SelectionSql.Proofs.Entities
import SelectionSql.Proofs.Faults

/-!
# Column selection - The columns of a level as one list of names

A level gathers names from three sources and leaves repetitions out twice, once among the
names and once among their columns.  What it selects is described by the names alone: their
columns in order, each at its first place.  Only requested names can lack a column.

Main results:

- `Entity.mapM_resolve_eq_error`: of names in order, the least one without a column is the fault.
- `Entity.WellFormed.contributed_eq_error`: names that are not requested do not fail.
- `exists_selectItems_iff`, `eq_of_selectItems`: when a level is selected, and what is then.
- `text_columnItem`: how a selected column is written.
- `selectItems_exact`: what is selected at a level in scope, and its fault otherwise.
-/

namespace SelectionSql

variable {definition : EntityDef} {entity : Entity} {request : Request} {fault : QueryFault}
variable {style : ColumnStyle} {level : Level} {aggregates : AggregateMap}
variable {names requested columns : List String} {items : List SelectItem}

/-! ## Names and their columns -/

namespace Entity

/-- Names that all have columns stand for these, in order. -/
theorem filterMap_resolve? (h : names.mapM entity.resolve = .ok columns) :
    names.filterMap entity.resolve? = columns := by
  induction Outcome.mapM_eq_ok.mp h with
  | nil => rfl
  | cons hname hnames ih =>
      rw [List.filterMap_cons_some (resolve_eq_ok.mp hname), ih (Outcome.mapM_eq_ok.mpr hnames)]

/-- Of names in order, the least one without a column is the fault. -/
theorem mapM_resolve_eq_error (hincreasing : names.Pairwise (· < ·)) :
    names.mapM entity.resolve = .error fault ↔
      ∃ name ∈ names, entity.resolve? name = none ∧
        (∀ other ∈ names, entity.resolve? other = none → name ≤ other) ∧
        fault = .fieldNotFound name entity.name := by
  rw [Outcome.mapM_eq_error]
  constructor
  · rintro ⟨before, name, after, rfl, hbefore, hfault⟩
    obtain ⟨hresolve, rfl⟩ := resolve_eq_error.mp hfault
    refine ⟨name, by simp, hresolve, ?_, rfl⟩
    intro other hother hunresolved
    rcases List.mem_append.mp hother with hearlier | hrest
    · obtain ⟨column, hcolumn⟩ := hbefore other hearlier
      exact absurd ((resolve_eq_ok.mp hcolumn).symm.trans hunresolved) (by simp)
    · rcases List.mem_cons.mp hrest with rfl | hlater
      · exact String.le_refl _
      · have htail := (List.pairwise_append.mp hincreasing).2.1
        exact String.not_lt.mp (String.lt_asymm ((List.pairwise_cons.mp htail).1 other hlater))
  · rintro ⟨name, hname, hresolve, hleast, rfl⟩
    obtain ⟨before, after, rfl⟩ := List.append_of_mem hname
    refine ⟨before, name, after, rfl, ?_, resolve_eq_error.mpr ⟨hresolve, rfl⟩⟩
    -- a name before the least one without a column has one, since it is smaller
    intro earlier hearlier
    have hless : earlier < name :=
      (List.pairwise_append.mp hincreasing).2.2 earlier hearlier name List.mem_cons_self
    cases hcolumn : entity.resolve? earlier with
    | some column => exact ⟨column, resolve_eq_ok.mpr hcolumn⟩
    | none =>
        have hother := hleast earlier (List.mem_append_left _ hearlier) hcolumn
        exact absurd hless (String.not_lt.mpr hother)

/-- The names that a level contributes without being asked all have columns, so it is for a
requested name that they lack one. -/
theorem WellFormed.contributed_eq_error (h : entity.WellFormed) :
    (contributedNames entity style level requested aggregates).mapM entity.resolve =
      .error fault ↔ requested.mapM entity.resolve = .error fault := by
  have hjoin : ∀ name ∈ (if aggregates.entries.isEmpty then entity.joinKeyFields else []),
      ∃ column, entity.resolve name = .ok column := by
    intro name hname
    split at hname
    next =>
      obtain ⟨column, hcolumn⟩ := h.resolve?_of_joinKey hname
      exact ⟨column, resolve_eq_ok.mpr hcolumn⟩
    next => exact absurd hname List.not_mem_nil
  have hbehind : ∀ name ∈ aggregates.keys.filterMap fun key =>
      (style.columnOfKey? level key).bind entity.fieldForColumn,
      ∃ column, entity.resolve name = .ok column := by
    intro name hname
    obtain ⟨key, -, hfield⟩ := List.mem_filterMap.mp hname
    obtain ⟨column, -, hcolumn⟩ := Option.bind_eq_some_iff.mp hfield
    exact ⟨column, resolve_eq_ok.mpr (h.resolve?_of_column hcolumn)⟩
  obtain ⟨first, hfirst⟩ := Outcome.exists_mapM_eq_ok hjoin
  obtain ⟨last, hlast⟩ := Outcome.exists_mapM_eq_ok hbehind
  unfold contributedNames
  rw [List.mapM_append, List.mapM_append, hfirst, hlast]
  cases requested.mapM entity.resolve <;> simp [bind, Except.bind, pure, Except.pure]

end Entity

/-- The requested fields of a level are in order. -/
theorem Request.increasing_fieldsAt (request : Request) (level : Level) :
    (request.fieldsAt level).Pairwise (· < ·) := by
  unfold fieldsAt
  split
  next fields _ => exact fields.increasing
  next => exact List.Pairwise.nil

/-! ## Texts -/

/-- The text of a column: wrapped in the function that the aggregates have under its key, if
there is one, and named unless it is a bare column by itself. -/
def columnText (style : ColumnStyle) (level : Level) (aggregates : AggregateMap)
    (column : String) : String :=
  match style, aggregates.get? (style.key level column) with
  | .bare, none => column
  | .bare, some function => function.apply column ++ " AS " ++ column
  | .qualified anchor, none =>
      level ++ "." ++ column ++ " AS " ++ (Level.aliasPrefix level anchor ++ column)
  | .qualified anchor, some function =>
      function.apply (level ++ "." ++ column) ++ " AS " ++
        (Level.aliasPrefix level anchor ++ column)

/-- A selected column is written with its aggregate. -/
theorem text_columnItem (style : ColumnStyle) (level : Level) (aggregates : AggregateMap)
    (column : String) :
    (columnItem style level aggregates column).text = columnText style level aggregates column := by
  unfold columnText columnItem SelectItem.text
  cases style <;> cases aggregates.get? _ <;>
    simp [SelectItem.source, SelectItem.outputName, ColumnStyle.key, ColumnStyle.outputPrefix]

/-! ## Levels -/

/-- A level fails for its requested fields, as far as they have no columns. -/
theorem selectItems_eq_error_iff (hwell : entity.WellFormed)
    (hentity : request.entityAt level = .ok entity) (hadmits : style.admits level = true) :
    selectItems request style level aggregates = .error fault ↔
      (request.fieldsAt level).mapM entity.resolve = .error fault := by
  unfold selectItems
  rw [if_pos hadmits, hentity]
  show entityItems entity style level (request.fieldsAt level) aggregates = .error fault ↔ _
  rw [entityItems_eq, Outcome.map_eq_error, hwell.contributed_eq_error]

/-- A level is selected exactly when its requested fields all have columns. -/
theorem exists_selectItems_iff (hwell : entity.WellFormed)
    (hentity : request.entityAt level = .ok entity) (hadmits : style.admits level = true) :
    (∃ items, selectItems request style level aggregates = .ok items) ↔
      ∀ name ∈ request.fieldsAt level, ∃ column, entity.resolve? name = some column := by
  rw [Outcome.exists_ok_iff_of_error_iff fun _ =>
    selectItems_eq_error_iff hwell hentity hadmits]
  constructor
  · rintro ⟨columns, hcolumns⟩ name hname
    obtain ⟨column, -, hcolumn⟩ := Outcome.exists_of_mem_mapM hcolumns hname
    exact ⟨column, Entity.resolve_eq_ok.mp hcolumn⟩
  · intro hresolve
    exact Outcome.exists_mapM_eq_ok fun name hname =>
      (hresolve name hname).imp fun column => Entity.resolve_eq_ok.mpr

/-- What is selected are the columns of the names that a level contributes. -/
theorem eq_of_selectItems (hentity : request.entityAt level = .ok entity)
    (h : selectItems request style level aggregates = .ok items) :
    items = (keepFirst ((contributedNames entity style level (request.fieldsAt level)
      aggregates).filterMap entity.resolve?)).map (columnItem style level aggregates) := by
  obtain ⟨-, found, hfound, columns, hcolumns, rfl⟩ := selectItems_eq_ok.mp h
  cases Except.ok.inj (hentity.symm.trans hfound)
  rw [Entity.filterMap_resolve? hcolumns]

/-- Without aggregates the column of every key and of every other field that is always selected
is among those of a level. -/
theorem column_mem_of_selectItems (hdef : Entity.ofDef definition = .ok entity)
    (hentity : request.entityAt level = .ok entity)
    (h : selectItems request style level SortedMap.empty = .ok items) {field : FieldDef}
    (hfield : field ∈ definition.fields)
    (halways : field.key = true ∨ field.joinEager = true) :
    field.column ∈ items.map SelectItem.column := by
  obtain ⟨index, hindex, rfl⟩ := Entity.ofDef_eq_ok.mp hdef
  have hjoin : field.name ∈ (Entity.ofIndexed definition index).joinKeyFields := by
    refine mem_keepFirst.mpr (List.mem_append.mpr (halways.imp ?_ ?_))
    · intro hkey
      exact List.mem_map_of_mem (List.mem_filter.mpr ⟨hfield, hkey⟩)
    · intro heager
      exact List.mem_map_of_mem (List.mem_filter.mpr ⟨hfield, heager⟩)
  have hresolve : (Entity.ofIndexed definition index).resolve? field.name = some field.column :=
    Entity.resolve?_of_field ((FieldIndex.columnOf_eq_some hindex).mpr ⟨field, hfield, rfl, rfl⟩)
  have hitem : columnItem style level SortedMap.empty field.column ∈ items := by
    refine (mem_of_selectItems h).mpr ⟨_, hentity, field.name, ?_, _, hresolve, rfl⟩
    exact List.mem_append_left _ (List.mem_append_left _ hjoin)
  exact List.mem_map_of_mem hitem

/-- A level in scope is selected exactly when every requested field has a column, and fails
for the least one without a column otherwise.  What is selected are the columns of the names
that it contributes, each at its first place and with the aggregate of its key. -/
theorem selectItems_exact (hdef : Entity.ofDef definition = .ok entity)
    (hentity : request.entityAt level = .ok entity) (hadmits : style.admits level = true)
    (aggregates : AggregateMap) :
    ((∃ items, selectItems request style level aggregates = .ok items) ↔
      ∀ name ∈ request.fieldsAt level, ∃ column, entity.resolve? name = some column) ∧
    (∀ fault, selectItems request style level aggregates = .error fault ↔
      ∃ name ∈ request.fieldsAt level, entity.resolve? name = none ∧
        (∀ other ∈ request.fieldsAt level, entity.resolve? other = none → name ≤ other) ∧
        fault = .fieldNotFound name entity.name) ∧
    (request.fieldsAt level).Pairwise (· < ·) ∧ aggregates.keys.Pairwise (· < ·) ∧
    ∀ items, selectItems request style level aggregates = .ok items →
      items = (keepFirst ((contributedNames entity style level (request.fieldsAt level)
        aggregates).filterMap entity.resolve?)).map (columnItem style level aggregates) ∧
      (items.map SelectItem.column).Nodup ∧
      (aggregates = SortedMap.empty → ∀ field ∈ definition.fields,
        field.key = true ∨ field.joinEager = true →
          field.column ∈ items.map SelectItem.column) ∧
      ∀ item ∈ items, item.aggregate = aggregates.get? (style.key level item.column) ∧
        item.text = columnText style level aggregates item.column := by
  have hwell := Entity.wellFormed_of_ofDef hdef
  have hincreasing := request.increasing_fieldsAt level
  refine ⟨exists_selectItems_iff hwell hentity hadmits, ?_, hincreasing,
    aggregates.increasing, ?_⟩
  · intro fault
    rw [selectItems_eq_error_iff hwell hentity hadmits, Entity.mapM_resolve_eq_error hincreasing]
  · intro items hitems
    refine ⟨eq_of_selectItems hentity hitems, nodup_columns hitems, ?_, ?_⟩
    · rintro rfl field hfield halways
      exact column_mem_of_selectItems hdef hentity hitems hfield halways
    · intro item hitem
      rw [eq_columnItem_of_mem hitems hitem]
      exact ⟨rfl, text_columnItem style level aggregates item.column⟩

namespace Hospital

/-- Wards, which are always selected with their floor, and an API name for their title. -/
def ward : EntityDef where
  name := "Ward"
  table := "ward_tbl"
  fields := [{ name := "wardId", column := "ward_id", key := true },
    { name := "title", column := "title" },
    { name := "floor", column := "floor_no", joinEager := true }]
  apiNames := SortedMap.ofList [("caption", "title")]

/-- The lookup tables of wards. -/
def wardTables : Entity :=
  Entity.ofIndexed ward
    ⟨SortedMap.ofList [("wardId", "ward_id"), ("title", "title"), ("floor", "floor_no")],
      SortedMap.ofList [("ward_id", "wardId"), ("title", "title"), ("floor_no", "floor")]⟩

theorem ofDef_ward : Entity.ofDef ward = .ok wardTables := by decide +kernel

/-- A request for some fields of wards. -/
def wardRequest (names : List String) : Request :=
  Request.ofSelection
    ⟨fun name => if name = "Ward" then some wardTables else none, fun _ => none⟩
    ((Selection.new "Ward").withFields Level.root names)

theorem entityAt_wardRequest (names : List String) :
    (wardRequest names).entityAt Level.root = .ok wardTables :=
  Request.entityAt_eq_ok.mpr ⟨"Ward", rfl, rfl⟩

/-- Three names of the title give one column after those that are always selected, and of
several unknown names the first one is the fault. -/
theorem ward_titles_selected_once :
    (∃ items, selectItems (wardRequest ["title", "caption", "getTitle", "isFloor"])
        (.qualified Level.root) Level.root SortedMap.empty = .ok items ∧
      items.map SelectItem.text = ["rootObject.ward_id AS ward_id",
        "rootObject.floor_no AS floor_no", "rootObject.title AS title"]) ∧
      selectItems (wardRequest ["zone", "title", "nickname"]) (.qualified Level.root) Level.root
        SortedMap.empty = .error (.fieldNotFound "nickname" "Ward") := by
  have hadmits : (ColumnStyle.qualified Level.root).admits Level.root = true := rfl
  obtain ⟨hok, -, -, -, hitems⟩ := selectItems_exact ofDef_ward
    (entityAt_wardRequest ["title", "caption", "getTitle", "isFloor"]) hadmits SortedMap.empty
  obtain ⟨-, hfault, -, -, -⟩ := selectItems_exact ofDef_ward
    (entityAt_wardRequest ["zone", "title", "nickname"]) hadmits SortedMap.empty
  refine ⟨?_, (hfault _).mpr ⟨"nickname", by decide +kernel⟩⟩
  have hresolve : ∀ name ∈
      (wardRequest ["title", "caption", "getTitle", "isFloor"]).fieldsAt Level.root,
      (wardTables.resolve? name).isSome = true := by
    decide +kernel
  obtain ⟨items, hselected⟩ := hok.mpr fun name hname =>
    Option.isSome_iff_exists.mp (hresolve name hname)
  refine ⟨items, hselected, ?_⟩
  rw [(hitems items hselected).1]
  decide +kernel

end Hospital

end SelectionSql
