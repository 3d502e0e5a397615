import Mathlib.Data.List.Induction
import SelectionSql.Plan.Column
import SelectionSql.Proofs.Outcome
import SelectionSql.Schema.Catalog

/-!
# Entities - Fields and columns map one to one

Main results:

- `FieldIndex.Paired.add`, `FieldIndex.paired_ofFields`: the two tables of an index are
  inverse to each other.
- `FieldIndex.columnOf_eq_some`, `FieldIndex.fieldOf_eq_some`: they hold what the fields
  declare.
- `FieldIndex.exists_ofFields_eq_ok`, `FieldIndex.ofFields_eq_error`: fields are accepted
  exactly when each two of them agree, and the earliest clash is the fault.
- `Entity.wellFormed_of_ofDef`: the fields that are always selected have columns.
- `Catalog.get?_entityTables`: the tables under a name are derived from the one definition that
  has it.
- `Catalog.wellFormed_of_ofDefs`, `Catalog.paired_of_ofDefs`: so it is in every entity of a
  catalog.
- `Catalog.throughout_ofSelection`, `Catalog.sound_ofSelection`: and so it is at every level of
  a request over it.
-/

namespace SelectionSql

/-- Two fields agree when they have both name and column in common, or neither. -/
def FieldDef.Agrees (first second : FieldDef) : Prop :=
  first.name = second.name ↔ first.column = second.column

/-- The fault of a field that clashes with one of those before it.  A field mapped to two
columns comes before a column mapped from two fields. -/
inductive FieldDef.Clash (entity : String) (before : List FieldDef) (field : FieldDef) :
    MetadataFault → Prop
  | field {earlier : FieldDef} (hearlier : earlier ∈ before) (hname : earlier.name = field.name)
      (hcolumn : earlier.column ≠ field.column) :
      Clash entity before field
        (.conflictingField entity field.name earlier.column field.column)
  | column {earlier : FieldDef}
      (hfield : ∀ other ∈ before, other.name = field.name → other.column = field.column)
      (hearlier : earlier ∈ before) (hcolumn : earlier.column = field.column)
      (hname : earlier.name ≠ field.name) :
      Clash entity before field
        (.conflictingColumn entity field.column earlier.name field.name)

namespace FieldIndex

variable {index result : FieldIndex} {entity name column : String}
variable {fields before : List FieldDef} {fault : MetadataFault}

/-! ## Inverse tables -/

/-- The field of a column has that column, and the column of a field has that field. -/
def Paired (index : FieldIndex) : Prop :=
  ∀ column field,
    index.fieldOf.get? column = some field ↔ index.columnOf.get? field = some column

/-- A field that clashes with nothing keeps the tables paired. -/
theorem Paired.add {field : FieldDef} (hpaired : index.Paired)
    (h : add entity index field = .ok result) : result.Paired := by
  rcases add_eq_ok.mp h with ⟨hconflict, rfl⟩
  rcases conflict?_eq_none.mp hconflict with ⟨hcolumns, hnames⟩
  intro column name
  rw [SortedMap.get?_insert, SortedMap.get?_insert]
  by_cases hcolumn : column = field.column
  · by_cases hname : name = field.name
    · rw [if_pos hcolumn, if_pos hname, hcolumn, hname]
      simp
    · rw [if_pos hcolumn, if_neg hname, hcolumn, ← hpaired]
      constructor
      · intro heq
        exact absurd (Option.some.inj heq).symm hname
      · intro hold
        exact absurd (hnames name hold) hname
  · by_cases hname : name = field.name
    · rw [if_neg hcolumn, if_pos hname, hname, hpaired]
      constructor
      · intro hold
        exact absurd (hcolumns column hold) hcolumn
      · intro heq
        exact absurd (Option.some.inj heq).symm hcolumn
    · rw [if_neg hcolumn, if_neg hname]
      exact hpaired column name

/-- The tables of an accepted list of fields are paired. -/
theorem paired_ofFields {fields : List FieldDef} (h : ofFields entity fields = .ok index) :
    index.Paired := by
  refine Outcome.foldlM_invariant Paired ?_ ?_ h
  · intro state field next _ hpaired hnext
    exact hpaired.add hnext
  · intro column field
    simp

/-! ## What the tables hold -/

/-- The column of a field in the tables is the one that it is declared with. -/
theorem columnOf_eq_some (h : ofFields entity fields = .ok index) :
    index.columnOf.get? name = some column ↔
      ∃ field ∈ fields, field.name = name ∧ field.column = column := by
  induction fields using List.reverseRecOn generalizing index with
  | nil =>
      cases Except.ok.inj h
      simp
  | append_singleton before field ih =>
      obtain ⟨state, hbefore, hfield⟩ := Outcome.foldlM_concat_eq_ok.mp h
      obtain ⟨hconflict, rfl⟩ := add_eq_ok.mp hfield
      have hcolumns := (conflict?_eq_none.mp hconflict).1
      simp only [List.mem_append, List.mem_singleton, or_and_right, exists_or, exists_eq_left]
      rw [SortedMap.get?_insert, ← ih hbefore]
      -- the last field may only repeat the column that its name had before
      by_cases hname : name = field.name
      · rw [if_pos hname]
        constructor
        · intro heq
          exact Or.inr ⟨hname.symm, Option.some.inj heq⟩
        · rintro (hold | ⟨-, hcolumn⟩)
          · rw [hname] at hold
            rw [hcolumns column hold]
          · rw [hcolumn]
      · rw [if_neg hname]
        constructor
        · exact Or.inl
        · rintro (hold | ⟨hsame, -⟩)
          · exact hold
          · exact absurd hsame.symm hname

/-- The field of a column in the tables is the one that is declared with it. -/
theorem fieldOf_eq_some (h : ofFields entity fields = .ok index) :
    index.fieldOf.get? column = some name ↔
      ∃ field ∈ fields, field.name = name ∧ field.column = column :=
  (paired_ofFields h column name).trans (columnOf_eq_some h)

/-! ## Clashes -/

/-- A field clashes with nothing exactly when it agrees with every field before it. -/
theorem conflict?_eq_none_iff_agrees {field : FieldDef} (h : ofFields entity before = .ok index) :
    index.conflict? entity field = none ↔ ∀ earlier ∈ before, earlier.Agrees field := by
  rw [conflict?_eq_none]
  simp only [columnOf_eq_some h, fieldOf_eq_some h]
  constructor
  · rintro ⟨hcolumns, hnames⟩ earlier hearlier
    constructor
    · intro hname
      exact hcolumns _ ⟨earlier, hearlier, hname, rfl⟩
    · intro hcolumn
      exact hnames _ ⟨earlier, hearlier, rfl, hcolumn⟩
  · intro hagrees
    constructor
    · rintro column ⟨earlier, hearlier, hname, rfl⟩
      exact (hagrees earlier hearlier).mp hname
    · rintro name ⟨earlier, hearlier, rfl, hcolumn⟩
      exact (hagrees earlier hearlier).mpr hcolumn

/-- What a field clashes with is one of the fields before it. -/
theorem conflict?_eq_some_iff_clash {field : FieldDef} (h : ofFields entity before = .ok index) :
    index.conflict? entity field = some fault ↔ field.Clash entity before fault := by
  rw [conflict?_eq_some]
  simp only [columnOf_eq_some h, fieldOf_eq_some h]
  constructor
  · rintro (⟨column, ⟨earlier, hearlier, hname, rfl⟩, hcolumn, rfl⟩ |
      ⟨hfield, name, ⟨earlier, hearlier, rfl, hcolumn⟩, hname, rfl⟩)
    · exact FieldDef.Clash.field hearlier hname hcolumn
    · refine FieldDef.Clash.column ?_ hearlier hcolumn hname
      intro other hother hsame
      exact hfield _ ⟨other, hother, hsame, rfl⟩
  · intro hclash
    cases hclash with
    | field hearlier hname hcolumn =>
        exact Or.inl ⟨_, ⟨_, hearlier, hname, rfl⟩, hcolumn, rfl⟩
    | column hfield hearlier hcolumn hname =>
        refine Or.inr ⟨?_, _, ⟨_, hearlier, rfl, hcolumn⟩, hname, rfl⟩
        rintro column ⟨other, hother, hsame, rfl⟩
        exact hfield other hother hsame

/-- Fields are accepted exactly when each two of them agree. -/
theorem exists_ofFields_eq_ok :
    (∃ index, ofFields entity fields = .ok index) ↔ fields.Pairwise FieldDef.Agrees := by
  induction fields using List.reverseRecOn with
  | nil => simp [ofFields, pure, Except.pure]
  | append_singleton before field ih =>
      rw [List.pairwise_append, ← ih]
      simp only [List.pairwise_singleton, true_and, List.mem_singleton, forall_eq]
      constructor
      · rintro ⟨result, hresult⟩
        obtain ⟨index, hindex, hfield⟩ := Outcome.foldlM_concat_eq_ok.mp hresult
        have hconflict := (add_eq_ok.mp hfield).1
        exact ⟨⟨index, hindex⟩, (conflict?_eq_none_iff_agrees hindex).mp hconflict⟩
      · rintro ⟨⟨index, hindex⟩, hagrees⟩
        have hconflict := (conflict?_eq_none_iff_agrees hindex).mpr hagrees
        exact ⟨_, Outcome.foldlM_concat_eq_ok.mpr ⟨index, hindex, add_eq_ok.mpr ⟨hconflict, rfl⟩⟩⟩

/-- Fields are refused exactly for the earliest one that clashes with those before it. -/
theorem ofFields_eq_error :
    ofFields entity fields = .error fault ↔
      ∃ before field after, fields = before ++ field :: after ∧
        before.Pairwise FieldDef.Agrees ∧ field.Clash entity before fault := by
  unfold ofFields
  rw [Outcome.foldlM_eq_error]
  constructor
  · rintro ⟨before, field, after, index, hsplit, hbefore, hfault⟩
    have hagree := exists_ofFields_eq_ok.mp ⟨index, hbefore⟩
    have hconflict := add_eq_error.mp hfault
    exact ⟨before, field, after, hsplit, hagree, (conflict?_eq_some_iff_clash hbefore).mp hconflict⟩
  · rintro ⟨before, field, after, hsplit, hagree, hclash⟩
    obtain ⟨index, hbefore⟩ := exists_ofFields_eq_ok.mpr hagree
    have hconflict := (conflict?_eq_some_iff_clash hbefore).mpr hclash
    exact ⟨before, field, after, index, hsplit, hbefore, add_eq_error.mpr hconflict⟩

end FieldIndex

namespace Entity

/-! ## Fields that are always selected -/

/-- An entity is well formed when its tables are paired, its key fields are among the fields
that are always selected, and each of these has a column. -/
structure WellFormed (entity : Entity) : Prop where
  paired : entity.index.Paired
  keyFields_subset : ∀ field ∈ entity.keyFields, field ∈ entity.joinKeyFields
  joinKeyFields_mapped : ∀ field ∈ entity.joinKeyFields,
    ∃ column, entity.columnForField field = some column

/-- What is derived from a definition is well formed. -/
theorem wellFormed_of_ofDef {definition : EntityDef} {entity : Entity}
    (h : ofDef definition = .ok entity) : entity.WellFormed := by
  rcases ofDef_eq_ok.mp h with ⟨index, hindex, rfl⟩
  refine ⟨FieldIndex.paired_ofFields hindex, ?_, ?_⟩
  · intro field hfield
    have hkey := mem_keepFirst.mp hfield
    exact mem_keepFirst.mpr (List.mem_append_left _ hkey)
  · intro field hfield
    have hdeclared : ∃ declared ∈ definition.fields, declared.name = field := by
      rcases List.mem_append.mp (mem_keepFirst.mp hfield) with hkey | heager
      · rcases List.mem_map.mp hkey with ⟨declared, hdeclared, hname⟩
        exact ⟨declared, (List.mem_filter.mp hdeclared).1, hname⟩
      · rcases List.mem_map.mp heager with ⟨declared, hdeclared, hname⟩
        exact ⟨declared, (List.mem_filter.mp hdeclared).1, hname⟩
    rcases hdeclared with ⟨declared, hdeclared, hname⟩
    exact ⟨declared.column,
      (FieldIndex.columnOf_eq_some hindex).mpr ⟨declared, hdeclared, hname, rfl⟩⟩

variable {entity : Entity} {field column : String}

/-- A field in front of a column resolves to that column. -/
theorem WellFormed.resolve?_of_column (h : entity.WellFormed)
    (hfield : entity.fieldForColumn column = some field) :
    entity.resolve? field = some column :=
  resolve?_of_field ((h.paired column field).mp hfield)

/-- Whatever a name resolves to is a column of the entity. -/
theorem WellFormed.hasColumn_of_resolve? {name : String} (h : entity.WellFormed)
    (hresolve : entity.resolve? name = some column) : entity.hasColumn column = true := by
  obtain ⟨field, hfield⟩ := exists_columnForField_of_resolve? hresolve
  exact Option.isSome_iff_exists.mpr ⟨field, (h.paired column field).mpr hfield⟩

/-- A field that is always selected resolves to a column. -/
theorem WellFormed.resolve?_of_joinKey (h : entity.WellFormed)
    (hfield : field ∈ entity.joinKeyFields) : ∃ column, entity.resolve? field = some column := by
  rcases h.joinKeyFields_mapped field hfield with ⟨column, hcolumn⟩
  exact ⟨column, resolve?_of_field hcolumn⟩

end Entity

/-! ## Entities of a request -/

namespace Request

/-- A property holds throughout a request when every entity of its metadata has it. -/
def Throughout (request : Request) (property : Entity → Prop) : Prop :=
  ∀ name entity, request.metadata.entity? name = some entity → property entity

/-- What holds throughout a request holds of the entity at a level. -/
theorem Throughout.entityAt {request : Request} {property : Entity → Prop} {level : Level}
    {entity : Entity} (h : request.Throughout property)
    (hentity : request.entityAt level = .ok entity) : property entity := by
  rcases entityAt_eq_ok.mp hentity with ⟨name, -, hknown⟩
  exact h name entity hknown

/-- A request is sound when its entities are well formed. -/
def Sound (request : Request) : Prop :=
  request.Throughout Entity.WellFormed

end Request

namespace Catalog

variable {definitions before : List EntityDef} {definition : EntityDef}
variable {entities result : SortedMap Entity} {catalog : Catalog} {name : String} {entity : Entity}

/-- A definition is added exactly when its name is new and its fields are accepted. -/
theorem addEntity_eq_ok :
    addEntity entities definition = .ok result ↔
      entities.contains definition.name = false ∧
        ∃ entity, Entity.ofDef definition = .ok entity ∧
          entities.insert definition.name entity = result := by
  unfold addEntity
  by_cases hname : entities.contains definition.name = true
  · simp [hname]
  · rw [if_neg hname, Outcome.map_eq_ok]
    simp [Bool.eq_false_iff.mpr hname]

/-- The tables of some definitions are those of the names that they define. -/
theorem contains_entityTables (h : entityTables definitions = .ok entities) :
    entities.contains name = true ↔ name ∈ definitions.map EntityDef.name := by
  induction definitions using List.reverseRecOn generalizing entities with
  | nil =>
      cases Except.ok.inj h
      simp [SortedMap.contains]
  | append_singleton before definition ih =>
      obtain ⟨state, hbefore, hdefinition⟩ := Outcome.foldlM_concat_eq_ok.mp h
      obtain ⟨-, entity, -, rfl⟩ := addEntity_eq_ok.mp hdefinition
      rw [SortedMap.contains_iff_mem_keys, SortedMap.mem_keys_insert,
        ← SortedMap.contains_iff_mem_keys, ih hbefore, List.map_append, List.mem_append]
      simp [or_comm]

/-- The name of a definition is new exactly when none before it is the same. -/
theorem contains_entityTables_eq_false (h : entityTables before = .ok entities) :
    entities.contains name = false ↔ name ∉ before.map EntityDef.name := by
  rw [← contains_entityTables h, Bool.not_eq_true]

/-- The tables under a name are those of the definition with that name. -/
theorem get?_entityTables (h : entityTables definitions = .ok entities) :
    entities.get? name = some entity ↔
      ∃ definition ∈ definitions, definition.name = name ∧
        Entity.ofDef definition = .ok entity := by
  induction definitions using List.reverseRecOn generalizing entities with
  | nil =>
      cases Except.ok.inj h
      simp
  | append_singleton before last ih =>
      obtain ⟨state, hbefore, hlast⟩ := Outcome.foldlM_concat_eq_ok.mp h
      obtain ⟨hnew, added, hadded, rfl⟩ := addEntity_eq_ok.mp hlast
      rw [SortedMap.get?_insert]
      by_cases hname : name = last.name
      · subst hname
        rw [if_pos rfl, Option.some.injEq]
        constructor
        · rintro rfl
          exact ⟨last, by simp, rfl, hadded⟩
        · rintro ⟨definition, hdefinition, hname, hentity⟩
          -- the name is new, so it is that of the last definition alone
          have hlast : definition = last := by
            rcases List.mem_append.mp hdefinition with hearlier | hlast
            · have hnone := (contains_entityTables_eq_false hbefore).mp hnew
              rw [← hname] at hnone
              exact absurd (List.mem_map_of_mem hearlier) hnone
            · exact List.mem_singleton.mp hlast
          rw [hlast, hadded] at hentity
          exact Except.ok.inj hentity
      · rw [if_neg hname, ih hbefore]
        simp only [List.mem_append, List.mem_singleton, or_and_right, exists_or, exists_eq_left]
        have hother : ¬ (last.name = name ∧ Entity.ofDef last = .ok entity) :=
          fun hlast => hname hlast.1.symm
        rw [or_iff_left hother]

/-- Every entity of a catalog is derived from a definition of its name. -/
theorem exists_ofDef_of_entity? (h : ofDefs definitions = .ok catalog)
    (hentity : catalog.metadata.entity? name = some entity) :
    ∃ definition ∈ definitions, definition.name = name ∧ Entity.ofDef definition = .ok entity := by
  obtain ⟨entities, graph, hentities, -, -, rfl⟩ := ofDefs_eq_ok.mp h
  exact (get?_entityTables hentities).mp hentity

/-- Every entity of a catalog is well formed. -/
theorem wellFormed_of_ofDefs (h : ofDefs definitions = .ok catalog)
    (hentity : catalog.metadata.entity? name = some entity) : entity.WellFormed := by
  rcases exists_ofDef_of_entity? h hentity with ⟨definition, -, -, hderived⟩
  exact Entity.wellFormed_of_ofDef hderived

/-- What holds of everything derived from the definitions of a catalog holds throughout the
requests over it. -/
theorem throughout_ofSelection {property : Entity → Prop} (h : ofDefs definitions = .ok catalog)
    (hproperty : ∀ definition ∈ definitions, ∀ entity,
      Entity.ofDef definition = .ok entity → property entity) (selection : Selection) :
    (Request.ofSelection catalog.metadata selection).Throughout property := by
  intro name entity hentity
  rcases exists_ofDef_of_entity? h hentity with ⟨definition, hdefinition, -, hderived⟩
  exact hproperty definition hdefinition entity hderived

/-- Every request over a catalog is sound. -/
theorem sound_ofSelection (h : ofDefs definitions = .ok catalog) (selection : Selection) :
    (Request.ofSelection catalog.metadata selection).Sound :=
  throughout_ofSelection h (fun _ _ _ hderived => Entity.wellFormed_of_ofDef hderived) selection

/-- Every entity of a catalog has the name under which it is found. -/
theorem name_of_entity? (h : ofDefs definitions = .ok catalog)
    (hentity : catalog.metadata.entity? name = some entity) : entity.name = name := by
  rcases exists_ofDef_of_entity? h hentity with ⟨definition, -, hname, hderived⟩
  rcases Entity.ofDef_eq_ok.mp hderived with ⟨index, -, rfl⟩
  exact hname

/-- The tables of every entity of a catalog are paired. -/
theorem paired_of_ofDefs (h : ofDefs definitions = .ok catalog)
    (hentity : catalog.metadata.entity? name = some entity) : entity.index.Paired :=
  (wellFormed_of_ofDefs h hentity).paired

end Catalog

end SelectionSql
