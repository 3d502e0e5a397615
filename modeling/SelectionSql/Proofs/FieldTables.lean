import Mathlib.Data.List.Pairwise
import Mathlib.Data.Set.Function
import SelectionSql.Proofs.Entities

/-!
# Field tables - What the tables of an entity hold

The tables of an entity are built field by field.  What they hold is said here of the declared
pairs of a field and a column as a set, and of the declared names by the places where they come
up first.

Main results:

- `EntityDef.oneToOne_iff_pairwise`: pairs map one to one when each two fields agree.
- `Entity.joinKeyFields_eq`: the fields that are always selected are the key fields and others
  after them.
- `Entity.ofDef_exact`: which definitions have tables, and what these hold.
-/

namespace SelectionSql

/-! ## Declared pairs -/

namespace FieldDef

instance : Std.Refl Agrees :=
  ⟨fun _ => ⟨fun _ => rfl, fun _ => rfl⟩⟩

instance : Std.Symm Agrees :=
  ⟨fun _ _ h => eq_comm.trans (h.trans eq_comm)⟩

instance : DecidableRel Agrees := fun first second =>
  inferInstanceAs (Decidable (first.name = second.name ↔ first.column = second.column))

end FieldDef

/-- Pairs map one to one when none shares one of its sides with another. -/
def OneToOne (pairs : Set (String × String)) : Prop :=
  pairs.InjOn Prod.fst ∧ pairs.InjOn Prod.snd

/-- The pairs of a field and its column that a definition declares. -/
def EntityDef.pairs (definition : EntityDef) : Set (String × String) :=
  {pair | ∃ field ∈ definition.fields, (field.name, field.column) = pair}

variable {definition : EntityDef} {entity : Entity} {field column name : String}

/-- A pair is declared by a field of its name and its column. -/
theorem EntityDef.mem_pairs : (name, column) ∈ definition.pairs ↔
    ∃ field ∈ definition.fields, field.name = name ∧ field.column = column := by
  simp [pairs]

/-- The pairs of a definition map one to one exactly when each two of its fields agree. -/
theorem EntityDef.oneToOne_iff_pairwise :
    OneToOne definition.pairs ↔ definition.fields.Pairwise FieldDef.Agrees := by
  constructor
  · rintro ⟨hnames, hcolumns⟩
    refine List.pairwise_of_reflexive_of_forall_ne fun first hfirst second hsecond _ => ?_
    have hfirst : (first.name, first.column) ∈ definition.pairs := ⟨first, hfirst, rfl⟩
    have hsecond : (second.name, second.column) ∈ definition.pairs := ⟨second, hsecond, rfl⟩
    constructor
    · intro hname
      exact congrArg Prod.snd (hnames hfirst hsecond hname)
    · intro hcolumn
      exact congrArg Prod.fst (hcolumns hfirst hsecond hcolumn)
  · intro hagree
    have hall := hagree.forall_of_forall fun field _ => Std.Refl.refl field
    constructor
    · rintro _ ⟨first, hfirst, rfl⟩ _ ⟨second, hsecond, rfl⟩ hname
      exact Prod.ext hname ((hall hfirst hsecond).mp hname)
    · rintro _ ⟨first, hfirst, rfl⟩ _ ⟨second, hsecond, rfl⟩ hcolumn
      exact Prod.ext ((hall hfirst hsecond).mpr hcolumn) hcolumn

namespace Entity

/-! ## Tables -/

/-- A definition has tables exactly when its pairs map one to one. -/
theorem exists_ofDef_eq_ok : (∃ entity, ofDef definition = .ok entity) ↔
    OneToOne definition.pairs := by
  rw [EntityDef.oneToOne_iff_pairwise, ← @FieldIndex.exists_ofFields_eq_ok definition.name]
  constructor
  · rintro ⟨entity, hentity⟩
    obtain ⟨index, hindex, -⟩ := ofDef_eq_ok.mp hentity
    exact ⟨index, hindex⟩
  · rintro ⟨index, hindex⟩
    exact ⟨_, ofDef_eq_ok.mpr ⟨index, hindex, rfl⟩⟩

/-- A field has exactly the columns that it is declared with. -/
theorem columnForField_eq_some (h : ofDef definition = .ok entity) :
    entity.columnForField field = some column ↔ (field, column) ∈ definition.pairs := by
  obtain ⟨index, hindex, rfl⟩ := ofDef_eq_ok.mp h
  exact (FieldIndex.columnOf_eq_some hindex).trans EntityDef.mem_pairs.symm

/-- A column has exactly the fields that are declared with it. -/
theorem fieldForColumn_eq_some (h : ofDef definition = .ok entity) :
    entity.fieldForColumn column = some field ↔ (field, column) ∈ definition.pairs := by
  obtain ⟨index, hindex, rfl⟩ := ofDef_eq_ok.mp h
  exact (FieldIndex.fieldOf_eq_some hindex).trans EntityDef.mem_pairs.symm

/-! ## Fields that are keys, and those that are always selected -/

/-- The key fields are the first occurrences of the names that are declared as keys. -/
theorem firstOccurrences_keyFields (h : ofDef definition = .ok entity) :
    FirstOccurrences entity.keyFields definition.keyNames := by
  obtain ⟨index, -, rfl⟩ := ofDef_eq_ok.mp h
  exact firstOccurrences_keepFirst _

/-- The fields that are always selected are the key fields, and after them the first occurrences
of the other names that are declared so. -/
theorem joinKeyFields_eq (h : ofDef definition = .ok entity) :
    entity.joinKeyFields = entity.keyFields ++
      keepFirst (definition.eagerNames.filter fun name => decide (name ∉ entity.keyFields)) := by
  obtain ⟨index, -, rfl⟩ := ofDef_eq_ok.mp h
  show keepFirst (definition.keyNames ++ definition.eagerNames) = keepFirst definition.keyNames ++ _
  rw [keepFirst_filter, keepFirst, keepFirstBy_append, List.map_id]
  refine congrArg _ (List.filter_congr fun name _ => ?_)
  exact decide_eq_decide.mpr (not_congr mem_keepFirst.symm)

end Entity

/-- A definition has tables exactly when its pairs of a field and a column map one to one.  Then
either table holds these pairs and no others, the key fields are the names declared as keys and
the fields that are always selected are these and the other names declared so, each name once and
in the order of the declarations, and all of them have columns. -/
theorem Entity.ofDef_exact (definition : EntityDef) :
    ((∃ entity, ofDef definition = .ok entity) ↔ OneToOne definition.pairs) ∧
    ∀ entity, ofDef definition = .ok entity →
      (∀ field column,
        (entity.columnForField field = some column ↔ (field, column) ∈ definition.pairs) ∧
        (entity.fieldForColumn column = some field ↔ (field, column) ∈ definition.pairs)) ∧
      FirstOccurrences entity.keyFields definition.keyNames ∧
      (∃ others, entity.joinKeyFields = entity.keyFields ++ others ∧
        FirstOccurrences others
          (definition.eagerNames.filter fun name => decide (name ∉ entity.keyFields))) ∧
      ∀ name, name ∈ entity.keyFields ∨ name ∈ entity.joinKeyFields →
        ∃ column, entity.columnForField name = some column := by
  refine ⟨exists_ofDef_eq_ok, fun entity h => ⟨?_, firstOccurrences_keyFields h,
    ⟨_, joinKeyFields_eq h, firstOccurrences_keepFirst _⟩, ?_⟩⟩
  · intro field column
    exact ⟨columnForField_eq_some h, fieldForColumn_eq_some h⟩
  · have hwell := wellFormed_of_ofDef h
    rintro name (hkey | hjoin)
    · exact hwell.joinKeyFields_mapped name (hwell.keyFields_subset name hkey)
    · exact hwell.joinKeyFields_mapped name hjoin

namespace Hospital

/-- Departments whose hospital is declared twice, as a key and as always selected. -/
def headedDepartment : EntityDef where
  name := "Department"
  table := "dept_tbl"
  fields := [{ name := "deptHeadId", column := "dept_head_id", joinEager := true },
    { name := "deptId", column := "dept_id", key := true },
    { name := "hospitalId", column := "hospital_id", joinEager := true },
    { name := "deptName", column := "dept_name" },
    { name := "hospitalId", column := "hospital_id", key := true }]

/-- The hospital of a department is one of its key fields and not selected twice. -/
theorem hospital_of_department_once : ∃ entity, Entity.ofDef headedDepartment = .ok entity ∧
    entity.columnForField "hospitalId" = some "hospital_id" ∧
    entity.fieldForColumn "hospital_id" = some "hospitalId" ∧
    entity.keyFields = ["deptId", "hospitalId"] ∧
    entity.joinKeyFields = ["deptId", "hospitalId", "deptHeadId"] := by
  obtain ⟨haccepted, hexact⟩ := Entity.ofDef_exact headedDepartment
  obtain ⟨entity, hentity⟩ := haccepted.mpr (EntityDef.oneToOne_iff_pairwise.mpr (by decide))
  obtain ⟨htables, hkeys, ⟨others, hjoins, hothers⟩, -⟩ := hexact entity hentity
  have hpair : ("hospitalId", "hospital_id") ∈ headedDepartment.pairs :=
    EntityDef.mem_pairs.mpr (by decide)
  have hkeyFields : entity.keyFields = ["deptId", "hospitalId"] := hkeys.eq_keepFirst
  refine ⟨entity, hentity, (htables _ _).1.mpr hpair, (htables _ _).2.mpr hpair, hkeyFields, ?_⟩
  rw [hjoins, hothers.eq_keepFirst, hkeyFields]
  decide

end Hospital

end SelectionSql
