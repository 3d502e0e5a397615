import SelectionSql.Proofs.Cycles
import SelectionSql.Proofs.Entities

/-!
# Acceptance - Which definitions make a catalog

Definitions are checked in three passes: names and fields, then references, then cycles.
What passes is stated here without the tables and the graph that the passes build, and so is
the fault that the first pass to fail ends with.

Main results:

- `Catalog.exists_entityTables_eq_ok`, `Catalog.entityTables_eq_error`: the first pass
  accepts definitions whose names are distinct and whose fields agree.
- `referenceFault?_eq_some`: the second pass ends at the first reference that is not well
  formed.
- `Catalog.acceptance_exact`: a catalog is made exactly of acceptable definitions, and
  others are refused for their first fault.
-/

namespace SelectionSql

variable {definitions before : List EntityDef} {definition : EntityDef}
variable {entities : SortedMap Entity} {entity : String} {reference : ReferenceDef}
variable {fault : MetadataFault}

/-! ## What is accepted -/

/-- Definitions have tables when each name is defined once and each two fields of a
definition agree. -/
structure Tabular (definitions : List EntityDef) : Prop where
  names_nodup : (definitions.map EntityDef.name).Nodup
  fields_agree : ∀ definition ∈ definitions, definition.fields.Pairwise FieldDef.Agrees

/-- Definitions are acceptable when they have tables, every reference has a name without
separator and a defined target, and no entity leads back to itself. -/
structure Acceptable (definitions : List EntityDef) : Prop extends Tabular definitions where
  names_plain : ∀ entity reference, Declares definitions entity reference →
    Level.separator ∉ reference.name.toList
  targets_defined : ∀ entity reference, Declares definitions entity reference →
    reference.target ∈ definitions.map EntityDef.name
  acyclic : ∀ name, ¬ LeadsTo definitions name name

/-- All references with the names of the entities that declare them, in declaration order. -/
def declarations (definitions : List EntityDef) : List (String × ReferenceDef) :=
  definitions.flatMap fun definition =>
    definition.references.map fun reference => (definition.name, reference)

/-- The first fault of some definitions: of the definitions in order, a name that is defined
before and then a field that clashes with those before it; of the references in order, a
name with a separator and then a target that is not defined; and a cycle. -/
inductive FirstFault (definitions : List EntityDef) : MetadataFault → Prop
  | duplicate {before : List EntityDef} {definition : EntityDef} {after : List EntityDef}
      (hsplit : definitions = before ++ definition :: after) (hbefore : Tabular before)
      (hname : definition.name ∈ before.map EntityDef.name) :
      FirstFault definitions (.duplicateEntity definition.name)
  | clash {before : List EntityDef} {definition : EntityDef} {after : List EntityDef}
      {earlier : List FieldDef} {field : FieldDef} {later : List FieldDef}
      {fault : MetadataFault}
      (hsplit : definitions = before ++ definition :: after) (hbefore : Tabular before)
      (hname : definition.name ∉ before.map EntityDef.name)
      (hfields : definition.fields = earlier ++ field :: later)
      (hearlier : earlier.Pairwise FieldDef.Agrees)
      (hclash : field.Clash definition.name earlier fault) :
      FirstFault definitions fault
  | referenceName {before : List (String × ReferenceDef)} {entity : String}
      {reference : ReferenceDef} {after : List (String × ReferenceDef)}
      (htables : Tabular definitions)
      (hsplit : declarations definitions = before ++ (entity, reference) :: after)
      (hbefore : ∀ earlier ∈ before, earlier.2.WellFormed definitions)
      (hname : Level.separator ∈ reference.name.toList) :
      FirstFault definitions (.invalidReferenceName entity reference.name)
  | target {before : List (String × ReferenceDef)} {entity : String}
      {reference : ReferenceDef} {after : List (String × ReferenceDef)}
      (htables : Tabular definitions)
      (hsplit : declarations definitions = before ++ (entity, reference) :: after)
      (hbefore : ∀ earlier ∈ before, earlier.2.WellFormed definitions)
      (hname : Level.separator ∉ reference.name.toList)
      (htarget : reference.target ∉ definitions.map EntityDef.name) :
      FirstFault definitions (.unknownReference entity reference.name reference.target)
  | cycle {cycle : List String} (htables : Tabular definitions)
      (hreferences : ∀ declared ∈ declarations definitions, declared.2.WellFormed definitions)
      (hnonempty : cycle ≠ []) (hknotted : Knotted definitions {name | name ∈ cycle}) :
      FirstFault definitions (.cyclicReference cycle)

/-! ## Names and fields -/

/-- Definitions followed by another one have tables when those before do, its name is new and
its fields agree. -/
theorem tabular_concat :
    Tabular (before ++ [definition]) ↔
      Tabular before ∧ definition.name ∉ before.map EntityDef.name ∧
        definition.fields.Pairwise FieldDef.Agrees := by
  constructor
  · rintro ⟨hnames, hfields⟩
    rw [List.map_append, List.map_singleton, List.nodup_append] at hnames
    refine ⟨⟨hnames.1, ?_⟩, ?_, ?_⟩
    · intro earlier hearlier
      exact hfields earlier (List.mem_append_left _ hearlier)
    · intro hmem
      exact hnames.2.2 _ hmem _ (List.mem_singleton_self _) rfl
    · exact hfields definition (List.mem_append_right _ (List.mem_singleton_self _))
  · rintro ⟨⟨hnames, hfields⟩, hname, hdefinition⟩
    constructor
    · rw [List.map_append, List.map_singleton, List.nodup_append]
      refine ⟨hnames, List.nodup_singleton _, ?_⟩
      rintro earlier hearlier other hother rfl
      rw [List.mem_singleton.mp hother] at hearlier
      exact hname hearlier
    · intro other hother
      rcases List.mem_append.mp hother with hearlier | hlast
      · exact hfields other hearlier
      · rw [List.mem_singleton.mp hlast]
        exact hdefinition

namespace Catalog

/-- A definition is refused for its name first and for its fields after that. -/
theorem addEntity_eq_error :
    addEntity entities definition = .error fault ↔
      (entities.contains definition.name = true ∧ fault = .duplicateEntity definition.name) ∨
        (entities.contains definition.name = false ∧
          FieldIndex.ofFields definition.name definition.fields = .error fault) := by
  unfold addEntity Entity.ofDef
  by_cases hname : entities.contains definition.name = true
  · simp [hname, eq_comm]
  · rw [if_neg hname]
    cases FieldIndex.ofFields definition.name definition.fields <;> simp [hname, Except.map]

/-- The tables of definitions can be derived exactly when each name is defined once and the
fields of each definition agree. -/
theorem exists_entityTables_eq_ok :
    (∃ entities, entityTables definitions = .ok entities) ↔ Tabular definitions := by
  induction definitions using List.reverseRecOn with
  | nil =>
      constructor
      · intro _
        exact ⟨List.nodup_nil, by simp⟩
      · intro _
        exact ⟨_, rfl⟩
  | append_singleton before definition ih =>
      -- the tables before the last definition say whether its name is new
      rw [tabular_concat, ← ih, ← @FieldIndex.exists_ofFields_eq_ok definition.name]
      constructor
      · rintro ⟨result, hresult⟩
        obtain ⟨entities, hentities, hdefinition⟩ := Outcome.foldlM_concat_eq_ok.mp hresult
        obtain ⟨hnew, entity, hentity, -⟩ := addEntity_eq_ok.mp hdefinition
        obtain ⟨index, hindex, -⟩ := Entity.ofDef_eq_ok.mp hentity
        exact ⟨⟨entities, hentities⟩, (contains_entityTables_eq_false hentities).mp hnew,
          ⟨index, hindex⟩⟩
      · rintro ⟨⟨entities, hentities⟩, hname, ⟨index, hindex⟩⟩
        have hnew := (contains_entityTables_eq_false hentities).mpr hname
        have hentity := Entity.ofDef_eq_ok.mpr ⟨index, hindex, rfl⟩
        have hdefinition := addEntity_eq_ok.mpr ⟨hnew, _, hentity, rfl⟩
        exact ⟨_, Outcome.foldlM_concat_eq_ok.mpr ⟨entities, hentities, hdefinition⟩⟩

/-- The tables of definitions cannot be derived for the first definition whose name is not
new or whose fields clash. -/
theorem entityTables_eq_error :
    entityTables definitions = .error fault ↔
      ∃ before definition after, definitions = before ++ definition :: after ∧ Tabular before ∧
        ((definition.name ∈ before.map EntityDef.name ∧
            fault = .duplicateEntity definition.name) ∨
          (definition.name ∉ before.map EntityDef.name ∧
            ∃ earlier field later, definition.fields = earlier ++ field :: later ∧
              earlier.Pairwise FieldDef.Agrees ∧ field.Clash definition.name earlier fault)) := by
  unfold entityTables
  rw [Outcome.foldlM_eq_error]
  constructor
  · rintro ⟨before, definition, after, entities, hsplit, hbefore, hfault⟩
    have htables := exists_entityTables_eq_ok.mp ⟨entities, hbefore⟩
    refine ⟨before, definition, after, hsplit, htables, ?_⟩
    rw [addEntity_eq_error, contains_entityTables hbefore,
      contains_entityTables_eq_false hbefore, FieldIndex.ofFields_eq_error] at hfault
    exact hfault
  · rintro ⟨before, definition, after, hsplit, htables, hfault⟩
    obtain ⟨entities, hbefore⟩ := exists_entityTables_eq_ok.mpr htables
    refine ⟨before, definition, after, entities, hsplit, hbefore, ?_⟩
    rw [addEntity_eq_error, contains_entityTables hbefore,
      contains_entityTables_eq_false hbefore, FieldIndex.ofFields_eq_error]
    exact hfault

end Catalog

/-! ## References -/

/-- The references of the first definition come before those of the others. -/
theorem declarations_cons :
    declarations (definition :: definitions) =
      (definition.references.map fun reference => (definition.name, reference)) ++
        declarations definitions := by
  rw [declarations, List.flatMap_cons]
  rfl

theorem mem_declarations :
    (entity, reference) ∈ declarations definitions ↔ Declares definitions entity reference := by
  unfold declarations Declares
  simp only [List.mem_flatMap, List.mem_map, Prod.mk.injEq]
  constructor
  · rintro ⟨definition, hdefinition, other, hother, hname, rfl⟩
    exact ⟨definition, hdefinition, hname, hother⟩
  · rintro ⟨definition, hdefinition, hname, hreference⟩
    exact ⟨definition, hdefinition, reference, hreference, hname, rfl⟩

/-- A search of the references of one definition after another is one of them all. -/
theorem findSome?_declarations (search : String → ReferenceDef → Option MetadataFault) :
    (definitions.findSome? fun definition =>
      definition.references.findSome? (search definition.name)) =
      (declarations definitions).findSome? fun declared => search declared.1 declared.2 := by
  induction definitions with
  | nil => rfl
  | cons definition rest ih =>
      rw [declarations_cons, List.findSome?_append, List.findSome?_cons, List.findSome?_map, ih]
      simp only [Function.comp_def]
      cases definition.references.findSome? (search definition.name) <;> rfl

/-- There is no fault exactly when every reference has a name without separator and a defined
target. -/
theorem referenceFault?_eq_none_iff_declarations :
    referenceFault? definitions = none ↔
      ∀ declared ∈ declarations definitions, declared.2.WellFormed definitions := by
  unfold referenceFault?
  rw [findSome?_declarations, List.findSome?_eq_none_iff]
  simp only [ReferenceDef.fault?_eq_none]

/-- The first fault is that of the first reference that is not well formed. -/
theorem referenceFault?_eq_some :
    referenceFault? definitions = some fault ↔
      ∃ before entity reference after,
        declarations definitions = before ++ (entity, reference) :: after ∧
        (∀ earlier ∈ before, earlier.2.WellFormed definitions) ∧
        ReferenceDef.fault? definitions entity reference = some fault := by
  unfold referenceFault?
  rw [findSome?_declarations, List.findSome?_eq_some_iff]
  simp only [ReferenceDef.fault?_eq_none]
  constructor
  · rintro ⟨before, ⟨entity, reference⟩, after, hsplit, hfault, hbefore⟩
    exact ⟨before, entity, reference, after, hsplit, hbefore, hfault⟩
  · rintro ⟨before, entity, reference, after, hsplit, hbefore, hfault⟩
    exact ⟨before, (entity, reference), after, hsplit, hfault, hbefore⟩

namespace Catalog

/-! ## The three passes -/

/-- Definitions are refused by the first pass that fails. -/
theorem ofDefs_eq_error :
    ofDefs definitions = .error fault ↔
      entityTables definitions = .error fault ∨
        (Tabular definitions ∧
          (referenceFault? definitions = some fault ∨
            ∃ graph, ReferenceGraph.ofDefs definitions = .ok graph ∧
              graph.requireAcyclic = .error fault)) := by
  rw [← exists_entityTables_eq_ok, ← ReferenceGraph.ofDefs_eq_error]
  unfold ofDefs
  rw [Outcome.bind_eq_error]
  -- nothing fails after the three passes
  simp only [Outcome.bind_eq_error, exists_and_right, pure, Except.pure, reduceCtorEq, and_false,
    exists_false, or_false]

/-- What is accepted is acceptable, and what is acceptable is accepted. -/
theorem exists_ofDefs_eq_ok :
    (∃ catalog, ofDefs definitions = .ok catalog) ↔ Acceptable definitions := by
  constructor
  · rintro ⟨catalog, hcatalog⟩
    obtain ⟨entities, graph, hentities, hgraph, hcycle, -⟩ := ofDefs_eq_ok.mp hcatalog
    have htables := exists_entityTables_eq_ok.mp ⟨entities, hentities⟩
    cases ReferenceGraph.definitions_of_ofDefs hgraph
    have hwellFormed := referenceFault?_eq_none_iff_declarations.mp graph.wellFormed
    exact
      { htables with
        names_plain := fun _ _ h => (hwellFormed _ (mem_declarations.mpr h)).1
        targets_defined := fun _ _ h => (hwellFormed _ (mem_declarations.mpr h)).2
        acyclic := ReferenceGraph.cycle?_eq_none.mp hcycle }
  · intro h
    obtain ⟨entities, hentities⟩ := exists_entityTables_eq_ok.mpr h.toTabular
    have hwellFormed : ∀ declared ∈ declarations definitions,
        declared.2.WellFormed definitions := by
      rintro ⟨entity, reference⟩ hdeclared
      have hdeclares := mem_declarations.mp hdeclared
      exact ⟨h.names_plain entity reference hdeclares, h.targets_defined entity reference hdeclares⟩
    obtain ⟨graph, hgraph⟩ := ReferenceGraph.exists_ofDefs_eq_ok.mpr
      (referenceFault?_eq_none_iff_declarations.mpr hwellFormed)
    cases ReferenceGraph.definitions_of_ofDefs hgraph
    have hcycle := ReferenceGraph.cycle?_eq_none.mpr h.acyclic
    exact ⟨_, ofDefs_eq_ok.mpr ⟨entities, graph, hentities, hgraph, hcycle, rfl⟩⟩

/-- What definitions are refused for is their first fault. -/
theorem firstFault_of_ofDefs (h : ofDefs definitions = .error fault) :
    FirstFault definitions fault := by
  rcases ofDefs_eq_error.mp h with htables | ⟨htabular, hreferences | ⟨graph, hgraph, hcycle⟩⟩
  · obtain ⟨before, definition, after, hsplit, hbefore, ⟨hname, rfl⟩ |
      ⟨hname, earlier, field, later, hfields, hearlier, hclash⟩⟩ := entityTables_eq_error.mp htables
    · exact FirstFault.duplicate hsplit hbefore hname
    · exact FirstFault.clash hsplit hbefore hname hfields hearlier hclash
  · obtain ⟨before, entity, reference, after, hsplit, hbefore, hfault⟩ :=
      referenceFault?_eq_some.mp hreferences
    rcases ReferenceDef.fault?_eq_some.mp hfault with ⟨hname, rfl⟩ | ⟨hname, htarget, rfl⟩
    · exact FirstFault.referenceName htabular hsplit hbefore hname
    · exact FirstFault.target htabular hsplit hbefore hname htarget
  · obtain ⟨cycle, hfound, rfl⟩ := ReferenceGraph.requireAcyclic_eq_error.mp hcycle
    obtain ⟨hnonempty, hknotted⟩ := ReferenceGraph.knotted_of_cycle? hfound
    cases ReferenceGraph.definitions_of_ofDefs hgraph
    have hwellFormed := referenceFault?_eq_none_iff_declarations.mp graph.wellFormed
    exact FirstFault.cycle htabular hwellFormed hnonempty hknotted

/-- Definitions are refused for their first fault, or for another cycle where that is one. -/
theorem ofDefs_of_firstFault (h : FirstFault definitions fault) :
    ofDefs definitions = .error fault ∨
      ∃ cycle reported, fault = .cyclicReference cycle ∧
        ofDefs definitions = .error (.cyclicReference reported) := by
  rw [ofDefs_eq_error]
  cases h with
  | duplicate hsplit hbefore hname =>
      left; left
      exact entityTables_eq_error.mpr ⟨_, _, _, hsplit, hbefore, Or.inl ⟨hname, rfl⟩⟩
  | clash hsplit hbefore hname hfields hearlier hclash =>
      left; left
      exact entityTables_eq_error.mpr
        ⟨_, _, _, hsplit, hbefore, Or.inr ⟨hname, _, _, _, hfields, hearlier, hclash⟩⟩
  | @referenceName before entity reference after htables hsplit hbefore hname =>
      have hfault : ReferenceDef.fault? definitions entity reference =
          some (.invalidReferenceName entity reference.name) :=
        ReferenceDef.fault?_eq_some.mpr (Or.inl ⟨hname, rfl⟩)
      left; right
      refine ⟨htables, Or.inl ?_⟩
      exact referenceFault?_eq_some.mpr ⟨before, entity, reference, after, hsplit, hbefore, hfault⟩
  | @target before entity reference after htables hsplit hbefore hname htarget =>
      have hfault : ReferenceDef.fault? definitions entity reference =
          some (.unknownReference entity reference.name reference.target) :=
        ReferenceDef.fault?_eq_some.mpr (Or.inr ⟨hname, htarget, rfl⟩)
      left; right
      refine ⟨htables, Or.inl ?_⟩
      exact referenceFault?_eq_some.mpr ⟨before, entity, reference, after, hsplit, hbefore, hfault⟩
  | @cycle cycle htables hreferences hnonempty hknotted =>
      obtain ⟨graph, hgraph⟩ := ReferenceGraph.exists_ofDefs_eq_ok.mpr
        (referenceFault?_eq_none_iff_declarations.mpr hreferences)
      cases ReferenceGraph.definitions_of_ofDefs hgraph
      obtain ⟨member, hmember⟩ := List.exists_mem_of_ne_nil cycle hnonempty
      have hleads := hknotted member hmember member hmember
      -- the search may meet another cycle first
      obtain ⟨reported, hreported⟩ :=
        ReferenceGraph.exists_requireAcyclic_eq_error.mpr ⟨member, hleads⟩
      right
      refine ⟨cycle, reported, rfl, ofDefs_eq_error.mpr (Or.inr ⟨htables, Or.inr ?_⟩)⟩
      exact ⟨graph, hgraph, hreported⟩

/-- A catalog is made exactly of acceptable definitions.  Others are refused for their first
fault; only which cycle is reported is left open. -/
theorem acceptance_exact (definitions : List EntityDef) :
    ((∃ catalog, ofDefs definitions = .ok catalog) ↔ Acceptable definitions) ∧
    (∀ fault, ofDefs definitions = .error fault → FirstFault definitions fault) ∧
    ∀ fault, FirstFault definitions fault →
      ofDefs definitions = .error fault ∨
        ∃ cycle reported, fault = .cyclicReference cycle ∧
          ofDefs definitions = .error (.cyclicReference reported) :=
  ⟨exists_ofDefs_eq_ok, fun _ => firstFault_of_ofDefs, fun _ => ofDefs_of_firstFault⟩

end Catalog

namespace Hospital

/-- Surgeons whose column of names is mapped from titles too, between hospitals that refer to
them by a name with a separator and hospitals that are defined again. -/
def mislabelled : List EntityDef :=
  [{ name := "Hospital", table := "hospital_tbl"
     references := [{ name := "chief_surgeon", target := "Surgeon" }] },
   { name := "Surgeon", table := "surgeon_tbl"
     fields := [{ name := "name", column := "label" }, { name := "title", column := "label" },
       { name := "name", column := "title" }] },
   { name := "Hospital", table := "hospital_tbl" }]

/-- The earliest clash of fields is reported, though the names of the definitions and of the
references are at fault too. -/
theorem clash_reported :
    FirstFault mislabelled (.conflictingColumn "Surgeon" "label" "name" "title") ∧
      Catalog.ofDefs mislabelled =
        .error (.conflictingColumn "Surgeon" "label" "name" "title") := by
  have hfirst : FirstFault mislabelled (.conflictingColumn "Surgeon" "label" "name" "title") := by
    refine @FirstFault.clash _ [_] _ [_] [_] _ [_] _ rfl ⟨?_, ?_⟩ ?_ rfl ?_ ?_
    · exact List.nodup_singleton _
    · intro definition hdefinition
      rw [List.mem_singleton.mp hdefinition]
      exact List.Pairwise.nil
    · decide
    · exact List.pairwise_singleton _ _
    · refine FieldDef.Clash.column ?_ (List.mem_singleton_self _) rfl (by decide)
      intro other hother hname
      rw [List.mem_singleton.mp hother] at hname
      exact absurd hname (by decide)
  rcases (Catalog.acceptance_exact mislabelled).2.2 _ hfirst with hreported | ⟨cycle, _, hcycle, -⟩
  · exact ⟨hfirst, hreported⟩
  · exact absurd hcycle (by simp)

end Hospital

end SelectionSql
