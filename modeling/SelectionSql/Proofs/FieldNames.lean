import SelectionSql.Proofs.Faults
import SelectionSql.Proofs.FieldTables

/-!
# Field names - Which declared field a name stands for

A name is read in three ways: as a declared field, as an accessor of one, and as the name that
an API gives to one.  An earlier reading hides the later ones, so that no accessor and no name
of an API stands in the way of a declared field.  Accessor names are made by putting a lead in
front of a property, whose first letter becomes upper case.  They lead back to the property
unless its second character is upper case too.

Main results:

- `Text.decapitalize_capitalize`: what a capitalized text is read back as.
- `accessorProperty?_eq_some`: which property a name is an accessor of.
- `accessorOf_accessorName_iff`: when an accessor name leads back to its property.
- `Entity.resolve_eq_ok_iff`, `Entity.resolve_eq_error_iff`: the column or the fault of a name.
- `Entity.resolve_exact`: what names resolve to, and which accessor names reach their property.
-/

namespace SelectionSql

/-! ## First letters -/

namespace Text

variable {c : Char} {rest : List Char}

/-- Upper-case letters of ASCII belong to ASCII. -/
theorem isAscii_of_isUpper (h : c.isUpper = true) : isAscii c = true := by
  have hlast : c.val ≤ 'Z'.val := (of_decide_eq_true h).2
  exact decide_eq_true (Nat.lt_of_le_of_lt hlast (by decide))

/-- Lower-case letters of ASCII belong to ASCII. -/
theorem isAscii_of_isLower (h : c.isLower = true) : isAscii c = true := by
  have hlast : c.val ≤ 'z'.val := of_decide_eq_true (Bool.and_eq_true_iff.mp h).2
  exact decide_eq_true (Nat.lt_of_le_of_lt hlast (by decide))

/-- What holds of all of ASCII is checked character by character. -/
theorem forall_of_isAscii {P : Char → Prop} (hall : ∀ n < 128, P (Char.ofNat n))
    (h : isAscii c = true) : P c := by
  have hc := hall c.toNat (of_decide_eq_true h)
  rwa [Char.ofNat_toNat] at hc

/-- A lower-case letter of ASCII becomes an upper-case one, another one, from which it is reached
again. -/
theorem toUpper_of_isLower (h : c.isLower = true) :
    c.toUpper.isUpper = true ∧ c.toUpper.toLower = c ∧ c.toUpper ≠ c :=
  forall_of_isAscii
    (P := fun c => c.isLower = true →
      c.toUpper.isUpper = true ∧ c.toUpper.toLower = c ∧ c.toUpper ≠ c)
    (by decide +kernel) (isAscii_of_isLower h) h

/-- A text that starts with a lower-case letter of ASCII starts with an upper-case one when it is
capitalized. -/
theorem capitalize_of_isLower (h : c.isLower = true) :
    capitalize (c :: rest) = c.toUpper :: rest := by
  rw [capitalize, toUpper_of_ascii (isAscii_of_isLower h), List.singleton_append]

/-- A capitalized text is read back as it was, unless an upper-case character comes second. -/
theorem decapitalize_capitalize (h : c.isLower = true) :
    decapitalize (capitalize (c :: rest)) =
      if rest.head?.any isUpper then c.toUpper :: rest else c :: rest := by
  obtain ⟨hupper, hback, -⟩ := toUpper_of_isLower h
  have hascii := isAscii_of_isUpper hupper
  have hlower : toLower c.toUpper = [c] := by
    rw [toLower_of_ascii hascii, hback]
  rw [capitalize_of_isLower h]
  cases rest with
  | nil => simp [decapitalize, hlower]
  | cons d rest =>
      rw [decapitalize, isUpper_of_ascii hascii, hupper, hlower]
      cases hd : isUpper d <;> simp [hd]

end Text

/-! ## Accessor names -/

/-- What accessor names start with. -/
def accessorLeads : List String := ["get", "is"]

/-- The accessor name of a property: a lead, and the property capitalized. -/
def accessorName (lead property : String) : String :=
  lead ++ String.ofList (Text.capitalize property.toList)

/-- A name is an accessor of the property that follows a lead, once its first character is in
lower case. -/
def AccessorOf (property name : String) : Prop :=
  ∃ lead ∈ accessorLeads, ∃ rest : List Char, rest ≠ [] ∧ name.toList = lead.toList ++ rest ∧
    property = String.ofList (Text.decapitalize rest)

/-- A property starts in lower case when its first character is a lower-case letter of ASCII. -/
def StartsLower (property : String) : Prop :=
  ∃ c, property.toList.head? = some c ∧ c.isLower = true

/-- An upper-case character comes second in a property. -/
def SecondUpper (property : String) : Prop :=
  ∃ c, property.toList[1]? = some c ∧ Text.isUpper c = true

instance (property : String) : Decidable (StartsLower property) :=
  decidable_of_iff _ (Option.any_eq_true Char.isLower property.toList.head?)

instance (property : String) : Decidable (SecondUpper property) :=
  decidable_of_iff _ (Option.any_eq_true Text.isUpper property.toList[1]?)

variable {lead name property other column field : String} {rest : List Char}

/-- No text starts with both leads. -/
theorem after?_get_of_is (rest : List Char) :
    Text.after? ['g', 'e', 't'] ("is".toList ++ rest) = none := rfl

/-- The property behind a name is the one that the name is an accessor of. -/
theorem accessorProperty?_eq_some : accessorProperty? name = some property ↔
    AccessorOf property name := by
  simp only [accessorProperty?, Option.map_eq_some_iff, Option.filter_eq_some_iff,
    Option.or_eq_some_iff, Text.after?_eq_some]
  constructor
  · rintro ⟨rest, ⟨hget | ⟨-, his⟩, hrest⟩, rfl⟩
    · exact ⟨"get", by decide, rest, by simpa using hrest, hget, rfl⟩
    · exact ⟨"is", by decide, rest, by simpa using hrest, his, rfl⟩
  · rintro ⟨lead, hlead, rest, hrest, hname, rfl⟩
    refine ⟨rest, ⟨?_, by simpa using hrest⟩, rfl⟩
    rcases List.mem_pair.mp hlead with rfl | rfl
    · exact Or.inl hname
    · exact Or.inr ⟨hname ▸ after?_get_of_is rest, hname⟩

/-- A name is an accessor of one property only. -/
theorem AccessorOf.unique (h : AccessorOf property name) (hother : AccessorOf other name) :
    property = other :=
  Option.some.inj ((accessorProperty?_eq_some.mpr h).symm.trans
    (accessorProperty?_eq_some.mpr hother))

/-- The accessor name of a property that starts in lower case leads back to it exactly when no
upper-case character comes second. -/
theorem accessorOf_accessorName_iff (hlead : lead ∈ accessorLeads) (h : StartsLower property) :
    AccessorOf property (accessorName lead property) ↔ ¬ SecondUpper property := by
  obtain ⟨c, hc, hlower⟩ := h
  obtain ⟨rest, hproperty⟩ := List.head?_eq_some_iff.mp hc
  -- the one property behind the name is what the capitalized text is read back as
  have hread : AccessorOf (String.ofList (Text.decapitalize (Text.capitalize property.toList)))
      (accessorName lead property) := by
    refine ⟨lead, hlead, Text.capitalize property.toList, ?_, by simp [accessorName], rfl⟩
    rw [hproperty, Text.capitalize_of_isLower hlower]
    exact List.cons_ne_nil _ _
  have hsecond : SecondUpper property ↔ rest.head?.any Text.isUpper = true := by
    simp [SecondUpper, hproperty, Option.any_eq_true, List.head?_eq_getElem?]
  rw [hproperty, Text.decapitalize_capitalize hlower] at hread
  rw [hsecond]
  split at hread
  next hupper =>
    refine iff_of_false (fun haccessor => ?_) (not_not_intro hupper)
    -- the property would start with an upper-case letter
    have hsame := congrArg String.toList (haccessor.unique hread)
    rw [hproperty, String.toList_ofList] at hsame
    exact (Text.toUpper_of_isLower hlower).2.2 (List.cons.inj hsame).1.symm
  next hplain =>
    rw [← hproperty, String.ofList_toList] at hread
    exact iff_of_true hread hplain

/-! ## Names and fields -/

namespace EntityDef

variable {definition : EntityDef}

/-- A definition declares a field of a name. -/
def HasField (definition : EntityDef) (name : String) : Prop :=
  ∃ column, (name, column) ∈ definition.pairs

/-- A name is a declared field exactly when one of the declarations has it. -/
theorem hasField_iff :
    definition.HasField name ↔ ∃ field ∈ definition.fields, field.name = name := by
  simp only [HasField, mem_pairs]
  constructor
  · rintro ⟨column, field, hfield, hname, -⟩
    exact ⟨field, hfield, hname⟩
  · rintro ⟨field, hfield, hname⟩
    exact ⟨field.column, field, hfield, hname, rfl⟩

instance (definition : EntityDef) (name : String) : Decidable (definition.HasField name) :=
  decidable_of_iff _ hasField_iff.symm

/-- The declared field that a name stands for: the field of that name, or else the property that
it is an accessor of, or else the field that an API calls so. -/
inductive StandsFor (definition : EntityDef) (name : String) : String → Prop
  | field (hname : definition.HasField name) : StandsFor definition name name
  | accessor {property : String} (hname : ¬ definition.HasField name)
      (haccessor : AccessorOf property name) (hproperty : definition.HasField property) :
      StandsFor definition name property
  | apiName {field : String} (hname : ¬ definition.HasField name)
      (haccessor : ∀ property, AccessorOf property name → ¬ definition.HasField property)
      (hfield : definition.apiNames.get? name = some field)
      (hdeclared : definition.HasField field) : StandsFor definition name field

end EntityDef

namespace Entity

variable {definition : EntityDef} {entity : Entity} {fault : QueryFault}

/-- A name has no column of its own exactly when it is no declared field. -/
theorem columnForField_eq_none (h : ofDef definition = .ok entity) :
    entity.columnForField name = none ↔ ¬ definition.HasField name := by
  simp only [EntityDef.HasField, ← columnForField_eq_some h, ← Option.isSome_iff_exists,
    Option.not_isSome_iff_eq_none]

/-- An API gives an entity the names that are declared. -/
theorem apiNames_of_ofDef (h : ofDef definition = .ok entity) :
    entity.apiNames = definition.apiNames := by
  obtain ⟨index, -, rfl⟩ := ofDef_eq_ok.mp h
  rfl

/-- A name resolves to a column exactly when this is the column of the field that it stands
for. -/
theorem resolve_eq_ok_iff (h : ofDef definition = .ok entity) :
    entity.resolve name = .ok column ↔
      ∃ field, definition.StandsFor name field ∧ (field, column) ∈ definition.pairs := by
  rw [resolve_eq_ok]
  constructor
  · intro hresolve
    rcases Option.or_eq_some_iff.mp hresolve with hresolve | ⟨hnone, hapi⟩
    · rcases Option.or_eq_some_iff.mp hresolve with hown | ⟨hnone, haccessor⟩
      · have hpair := (columnForField_eq_some h).mp hown
        exact ⟨name, .field ⟨column, hpair⟩, hpair⟩
      · obtain ⟨property, hproperty, hcolumn⟩ := Option.bind_eq_some_iff.mp haccessor
        have hpair := (columnForField_eq_some h).mp hcolumn
        exact ⟨property, .accessor ((columnForField_eq_none h).mp hnone)
          (accessorProperty?_eq_some.mp hproperty) ⟨column, hpair⟩, hpair⟩
    · obtain ⟨hown, haccessor⟩ := Option.or_eq_none_iff.mp hnone
      obtain ⟨field, hfield, hcolumn⟩ := Option.bind_eq_some_iff.mp hapi
      have hpair := (columnForField_eq_some h).mp hcolumn
      refine ⟨field, .apiName ((columnForField_eq_none h).mp hown) (fun property hproperty => ?_)
        (apiNames_of_ofDef h ▸ hfield) ⟨column, hpair⟩, hpair⟩
      have hread := accessorProperty?_eq_some.mpr hproperty
      exact (columnForField_eq_none h).mp (Option.bind_eq_none_iff.mp haccessor property hread)
  · rintro ⟨field, hstands, hpair⟩
    have hcolumn := (columnForField_eq_some h).mpr hpair
    cases hstands with
    | field => exact resolve?_of_field hcolumn
    | accessor hname haccessor =>
        simp [resolve?, (columnForField_eq_none h).mpr hname,
          accessorProperty?_eq_some.mpr haccessor, hcolumn]
    | apiName hname haccessor hfield =>
        have hread : (accessorProperty? name).bind entity.columnForField = none := by
          refine Option.bind_eq_none_iff.mpr fun property hproperty => ?_
          have hundeclared := haccessor property (accessorProperty?_eq_some.mp hproperty)
          exact (columnForField_eq_none h).mpr hundeclared
        simp [resolve?, (columnForField_eq_none h).mpr hname, hread, apiNames_of_ofDef h, hfield,
          hcolumn]

/-- A name is refused exactly when it stands for no declared field. -/
theorem resolve_eq_error_iff (h : ofDef definition = .ok entity) :
    entity.resolve name = .error fault ↔
      (¬ ∃ field, definition.StandsFor name field) ∧
        fault = .fieldNotFound name definition.name := by
  have hname : entity.name = definition.name := by
    obtain ⟨index, -, rfl⟩ := ofDef_eq_ok.mp h
    rfl
  rw [resolve_eq_error, hname, and_congr_left_iff]
  intro
  rw [← Option.not_isSome_iff_eq_none, Option.isSome_iff_exists]
  simp only [← resolve_eq_ok, resolve_eq_ok_iff h]
  refine not_congr ⟨?_, ?_⟩
  · rintro ⟨column, field, hstands, -⟩
    exact ⟨field, hstands⟩
  · rintro ⟨field, hstands⟩
    -- whatever the reading, the field is declared
    have hdeclared : definition.HasField field := by cases hstands <;> assumption
    obtain ⟨column, hpair⟩ := hdeclared
    exact ⟨column, field, hstands, hpair⟩

end Entity

/-- A name resolves to the column of the declared field that it stands for, which is a column of
the entity, and is refused when it stands for none.  A declared field resolves to its own column.
The accessor name of a property that starts in lower case and goes on without an upper-case
character resolves to the column of the property, unless the name is a declared field itself.
With an upper-case character in second place it is no accessor of the property. -/
theorem Entity.resolve_exact {definition : EntityDef} {entity : Entity}
    (h : ofDef definition = .ok entity) (name : String) :
    (∀ column, entity.resolve name = .ok column ↔
      ∃ field, definition.StandsFor name field ∧ (field, column) ∈ definition.pairs) ∧
    (∀ fault, entity.resolve name = .error fault ↔
      (¬ ∃ field, definition.StandsFor name field) ∧
        fault = .fieldNotFound name definition.name) ∧
    (∀ column, entity.resolve name = .ok column → entity.hasColumn column = true) ∧
    (∀ column, (name, column) ∈ definition.pairs → entity.resolve name = .ok column) ∧
    ∀ lead ∈ accessorLeads, ∀ property, StartsLower property →
      (AccessorOf property (accessorName lead property) ↔ ¬ SecondUpper property) ∧
      ∀ column, (property, column) ∈ definition.pairs → ¬ SecondUpper property →
        ¬ definition.HasField (accessorName lead property) →
        entity.resolve (accessorName lead property) = .ok column := by
  refine ⟨fun column => resolve_eq_ok_iff h, fun fault => resolve_eq_error_iff h, ?_, ?_, ?_⟩
  · intro column hresolve
    exact (wellFormed_of_ofDef h).hasColumn_of_resolve? (resolve_eq_ok.mp hresolve)
  · intro column hpair
    exact (resolve_eq_ok_iff h).mpr ⟨name, .field ⟨column, hpair⟩, hpair⟩
  · intro lead hlead property hstart
    have haccessor := accessorOf_accessorName_iff hlead hstart
    refine ⟨haccessor, fun column hpair hsecond hname => ?_⟩
    exact (resolve_eq_ok_iff h).mpr
      ⟨property, .accessor hname (haccessor.mpr hsecond) ⟨column, hpair⟩, hpair⟩

namespace Hospital

/-- Surgeons with a field that is named like the accessor of another one, and with names of an
API that are accessors or fields by themselves. -/
def listedSurgeon : EntityDef where
  name := "Surgeon"
  table := "surgeon_tbl"
  fields := [{ name := "surgeonId", column := "surgeon_id", key := true },
    { name := "fullName", column := "full_name" },
    { name := "active", column := "active_flag" },
    { name := "isActive", column := "is_active" },
    { name := "xRay", column := "x_ray" }]
  apiNames := SortedMap.ofList
    [("getFullName", "surgeonId"), ("active", "surgeonId"), ("getXRay", "fullName")]

/-- The accessor of the full name hides a name of the API, the field that is named like an
accessor hides the accessor, and the accessor name of `xRay` is left to the API. -/
theorem surgeon_accessors_read : ∃ entity, Entity.ofDef listedSurgeon = .ok entity ∧
    entity.resolve (accessorName "get" "fullName") = .ok "full_name" ∧
    entity.resolve (accessorName "get" "active") = .ok "active_flag" ∧
    entity.resolve (accessorName "is" "active") = .ok "is_active" ∧
    entity.resolve "active" = .ok "active_flag" ∧
    entity.resolve (accessorName "get" "xRay") = .ok "full_name" := by
  obtain ⟨entity, hentity⟩ := Entity.exists_ofDef_eq_ok.mpr
    (EntityDef.oneToOne_iff_pairwise.mpr (by decide : listedSurgeon.fields.Pairwise _))
  have hfields : ("fullName", "full_name") ∈ listedSurgeon.pairs ∧
      ("active", "active_flag") ∈ listedSurgeon.pairs ∧
      ("isActive", "is_active") ∈ listedSurgeon.pairs := by
    simp only [EntityDef.mem_pairs]
    decide
  obtain ⟨hname, hactive, hdeclared⟩ := hfields
  obtain ⟨-, -, -, hown, haccessors⟩ := Entity.resolve_exact hentity "active"
  have hget := haccessors "get" (by decide)
  refine ⟨entity, hentity, (hget "fullName" (by decide)).2 _ hname (by decide) (by decide),
    (hget "active" (by decide)).2 _ hactive (by decide) (by decide), ?_, hown _ hactive, ?_⟩
  · exact (Entity.resolve_exact hentity (accessorName "is" "active")).2.2.2.1 _ hdeclared
  · refine ((Entity.resolve_exact hentity _).1 _).mpr ⟨"fullName", ?_, hname⟩
    refine .apiName (by decide) (fun property hproperty => ?_) (by decide) ⟨_, hname⟩
    -- the name is an accessor of the capitalized text, which is no field
    have hread : AccessorOf "XRay" (accessorName "get" "xRay") :=
      accessorProperty?_eq_some.mp (by decide)
    exact hread.unique hproperty ▸ by decide

end Hospital

end SelectionSql
