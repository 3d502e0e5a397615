import SelectionSql.Proofs.CatalogLevels
import SelectionSql.Proofs.Faults
import SelectionSql.Proofs.OutputNames

/-!
# Blame - A fault about a name lies with the request

Compilation adds fields of its own to those that are requested: keys, fields that are always
selected, and the fields in front of grouping and aggregate columns.  Over accepted metadata
all of these have columns, and the level maps name defined entities.  So a name without column
was requested, and an entity without metadata was registered by the request.

Main results:

- `Request.Grows`: the fields that are added on the way have columns.
- `Request.AtFault.of_grows`: a fault of the grown request is one of the request.
- `QuerySpec.atFault_of_statement`: the faults of statements of every form.
- `QuerySpec.blames_request`: a fault about a name leads back to the selection.
-/

namespace SelectionSql

section

variable {request next last : Request} {level : Level} {fault : QueryFault}
variable {style : ColumnStyle} {aggregates : AggregateMap}

/-! ## What a request is to blame for -/

/-- A field that compilation may add by itself: one that is always selected, or one in front
of a column. -/
def Entity.Adds (entity : Entity) (field : String) : Prop :=
  field ∈ entity.keyFields ∨ field ∈ entity.joinKeyFields ∨
    ∃ column, entity.fieldForColumn column = some field

/-- What compilation adds has a column. -/
theorem Entity.WellFormed.resolve?_of_adds {entity : Entity} (h : entity.WellFormed)
    {field : String} (hadds : entity.Adds field) : entity.resolve? field ≠ none := by
  have hresolves : ∃ column, entity.resolve? field = some column := by
    rcases hadds with hkey | hjoin | ⟨column, hcolumn⟩
    · exact h.resolve?_of_joinKey (h.keyFields_subset field hkey)
    · exact h.resolve?_of_joinKey hjoin
    · exact ⟨column, h.resolve?_of_column hcolumn⟩
  rcases hresolves with ⟨column, hcolumn⟩
  rw [hcolumn]
  simp

namespace Request

/-- A request is at fault for a name without column that it requests, and for an entity
without metadata at one of its levels.  Of other faults nothing is said. -/
def AtFault (request : Request) : QueryFault → Prop
  | .fieldNotFound field name => ∃ level entity, request.entityAt level = .ok entity ∧
      entity.name = name ∧ field ∈ request.fieldsAt level ∧ entity.resolve? field = none
  | .unknownEntity name => ∃ level, request.entityName? level = some name ∧
      request.metadata.entity? name = none
  | _ => True

/-- A request is at fault when a level has no entity. -/
theorem AtFault.of_entityAt (h : request.entityAt level = .error fault) :
    request.AtFault fault := by
  rcases entityAt_eq_error.mp h with ⟨-, rfl⟩ | ⟨name, hname, hentity, rfl⟩
  · trivial
  · exact ⟨level, hname, hentity⟩

/-! ## Requests that grow -/

/-- A request grows by fields that have columns. -/
structure Grows (request next : Request) : Prop where
  eq_withFields : ∃ fields, next = request.withFields fields
  fieldsAt : ∀ level entity field, request.entityAt level = .ok entity →
    field ∈ next.fieldsAt level → field ∈ request.fieldsAt level ∨ entity.resolve? field ≠ none

theorem Grows.refl (request : Request) : request.Grows request where
  eq_withFields := ⟨request.fields, rfl⟩
  fieldsAt _ _ _ _ hfield := Or.inl hfield

theorem Grows.trans (hnext : request.Grows next) (hlast : next.Grows last) :
    request.Grows last := by
  rcases hnext.eq_withFields with ⟨fields, rfl⟩
  rcases hlast.eq_withFields with ⟨more, rfl⟩
  refine ⟨⟨more, rfl⟩, ?_⟩
  intro level entity field hentity hfield
  rcases hlast.fieldsAt level entity field hentity hfield with hmiddle | hresolves
  · exact hnext.fieldsAt level entity field hentity hmiddle
  · exact Or.inr hresolves

/-- Growing keeps the metadata. -/
theorem Grows.sound (h : request.Grows next) (hsound : request.Sound) : next.Sound := by
  rcases h.eq_withFields with ⟨fields, rfl⟩
  exact hsound

/-- A fault of the grown request is one of the request. -/
theorem AtFault.of_grows (h : request.Grows next) (hfault : next.AtFault fault) :
    request.AtFault fault := by
  rcases h.eq_withFields with ⟨fields, rfl⟩
  cases fault with
  | fieldNotFound field name =>
      rcases hfault with ⟨level, entity, hentity, hname, hfield, hresolve⟩
      rcases h.fieldsAt level entity field hentity hfield with hrequested | hresolves
      · exact ⟨level, entity, hentity, hname, hrequested, hresolve⟩
      · exact absurd hresolve hresolves
  | unknownEntity name => exact hfault
  | _ => trivial

/-- More fields at one level are the old ones and the new ones there. -/
theorem mem_fieldsAt_insert {fields : SortedSet} {other : Level} {field : String}
    (h : field ∈ (request.withFields (request.fields.insert level fields)).fieldsAt other) :
    (other = level ∧ field ∈ fields) ∨ field ∈ request.fieldsAt other := by
  unfold fieldsAt at h
  rw [fields_withFields, SortedMap.get?_insert] at h
  by_cases hother : other = level
  · rw [if_pos hother] at h
    exact Or.inl ⟨hother, h⟩
  · rw [if_neg hother] at h
    exact Or.inr h

/-- Adding fields that have columns to the fields of a level makes a request grow. -/
theorem grows_insert {fields : SortedSet} {entity : Entity}
    (hentity : request.entityAt level = .ok entity)
    (hfields : ∀ field ∈ fields, field ∈ request.fieldsAt level ∨ entity.resolve? field ≠ none) :
    request.Grows (request.withFields (request.fields.insert level fields)) where
  eq_withFields := ⟨_, rfl⟩
  fieldsAt := by
    intro other found field hfound hfield
    rcases mem_fieldsAt_insert hfield with ⟨rfl, hnew⟩ | hold
    · cases Except.ok.inj (hentity.symm.trans hfound)
      exact hfields field hnew
    · exact Or.inl hold

/-- Requesting the field in front of a column makes a request grow. -/
theorem Sound.grows_requestColumn (hsound : request.Sound) {column : String}
    (h : request.requestColumn level column = .ok next) : request.Grows next := by
  rcases Outcome.map_eq_ok.mp h with ⟨entity, hentity, hnext⟩
  cases hcolumn : entity.fieldForColumn column with
  | none =>
      rw [hcolumn] at hnext
      exact hnext ▸ Grows.refl request
  | some field =>
      rw [hcolumn] at hnext
      subst hnext
      refine grows_insert hentity ?_
      intro other hother
      rcases SortedSet.mem_insertAll.mp hother with hnew | hold
      · cases List.mem_singleton.mp hnew
        exact Or.inr ((hsound.entityAt hentity).resolve?_of_adds
          (Or.inr (Or.inr ⟨column, hcolumn⟩)))
      · left
        unfold fieldsAt
        cases hget : request.fields.get? level with
        | none => simp [hget] at hold
        | some fields =>
            rw [hget] at hold
            exact hold

/-- Requesting the fields in front of some columns makes a request grow. -/
theorem Sound.grows_requestColumns (hsound : request.Sound) {levelOf : GroupColumn → Level}
    {groups : List GroupColumn}
    (h : groups.foldlM (fun state group => state.requestColumn (levelOf group) group.column)
      request = .ok next) : request.Grows next := by
  refine Outcome.foldlM_invariant (fun state => request.Grows state) ?_ (Grows.refl request) h
  intro state group next _ hstate hnext
  exact hstate.trans ((hstate.sound hsound).grows_requestColumn hnext)

/-- Where the fields in front of some columns cannot be requested, the request is at fault. -/
theorem Sound.atFault_of_requestColumns (hsound : request.Sound)
    {levelOf : GroupColumn → Level} {groups : List GroupColumn}
    (h : groups.foldlM (fun state group => state.requestColumn (levelOf group) group.column)
      request = .error fault) : request.AtFault fault := by
  rcases Outcome.foldlM_eq_error.mp h with ⟨before, group, after, state, -, hbefore, hgroup⟩
  have hgrows := hsound.grows_requestColumns hbefore
  exact AtFault.of_grows hgrows (AtFault.of_entityAt (Outcome.map_eq_error.mp hgroup))

/-- Requiring key fields makes a request grow. -/
theorem Sound.grows_requireKeyFields (hsound : request.Sound)
    (h : request.requireKeyFields level = .ok next) : request.Grows next := by
  unfold requireKeyFields at h
  split at h
  next => exact Except.ok.inj h ▸ Grows.refl request
  next =>
    rcases Outcome.map_eq_ok.mp h with ⟨entity, hentity, rfl⟩
    refine grows_insert hentity ?_
    intro field hfield
    have hkey := SortedSet.mem_ofList.mp hfield
    exact Or.inr ((hsound.entityAt hentity).resolve?_of_adds (Or.inl hkey))

/-- Preparing a request for a join query makes it grow. -/
theorem Sound.grows_prepare (hsound : request.Sound) {query : JoinQuery}
    (h : query.prepare request = .ok next) : request.Grows next := by
  rcases Outcome.bind_eq_ok.mp h with ⟨grouped, hgrouped, hkeys⟩
  have hgrows := hsound.grows_requestColumns hgrouped
  exact hgrows.trans ((hgrows.sound hsound).grows_requireKeyFields hkeys)

/-! ## Faults of statements -/

/-- Where aggregates are refused, the request is at fault. -/
theorem atFault_of_checkedAggregates {anchor : Level}
    (h : checkedAggregates request anchor style aggregates = .error fault) :
    request.AtFault fault := by
  rcases checkedAggregates_eq_error h with ⟨level, hentity⟩ | ⟨column, entity, rfl⟩
  · exact AtFault.of_entityAt hentity
  · trivial

/-- Where a level cannot be selected, the request is at fault: the names that a level
contributes apart from the requested ones all have columns. -/
theorem Sound.atFault_of_selectItems (hsound : request.Sound)
    (h : selectItems request style level aggregates = .error fault) :
    request.AtFault fault := by
  rcases selectItems_eq_error h with ⟨-, rfl⟩ | hentity |
    ⟨entity, hentity, name, hname, hresolve, rfl⟩
  · trivial
  · exact AtFault.of_entityAt hentity
  · have hadds : ¬ entity.Adds name := fun hadds =>
      (hsound.entityAt hentity).resolve?_of_adds hadds hresolve
    unfold contributedNames at hname
    rw [List.mem_append, List.mem_append] at hname
    rcases hname with (hjoin | hrequested) | haggregated
    · split at hjoin
      · exact absurd (Or.inr (Or.inl hjoin)) hadds
      · exact absurd hjoin List.not_mem_nil
    · exact ⟨level, entity, hentity, rfl, hrequested, hresolve⟩
    · rcases List.mem_filterMap.mp haggregated with ⟨key, -, hfield⟩
      rcases Option.bind_eq_some_iff.mp hfield with ⟨column, -, hcolumn⟩
      exact absurd (Or.inr (Or.inr ⟨column, hcolumn⟩)) hadds

/-- Where a level cannot be joined, the request is at fault. -/
theorem atFault_of_joinClause {join : DeclaredJoin}
    (h : joinClause request join = .error fault) : request.AtFault fault := by
  rcases joinClause_eq_error h with hparent | hchild | ⟨parent, child, rfl⟩
  · exact AtFault.of_entityAt hparent
  · exact AtFault.of_entityAt hchild
  · trivial

/-- A refused join is about a level. -/
theorem atFault_of_joinFault? {query : JoinQuery} {requested : List Level} {join : DeclaredJoin}
    (h : query.joinFault? requested join = some fault) : request.AtFault fault := by
  unfold JoinQuery.joinFault? at h
  split at h
  · exact absurd h (by simp)
  split at h
  · cases Option.some.inj h
    trivial
  split at h
  · exact absurd h (by simp)
  · cases Option.some.inj h
    trivial

/-- Where a join query cannot be planned, the request is at fault. -/
theorem Sound.atFault_of_plan (hsound : request.Sound) {query : JoinQuery}
    (h : query.plan request aggregates = .error fault) : request.AtFault fault := by
  rcases JoinQuery.plan_eq_error h with ⟨join, -, hjoin⟩ | hprepare | ⟨prepared, hprepared, hcase⟩
  · exact atFault_of_joinFault? hjoin
  · rcases JoinQuery.prepare_eq_error hprepare with ⟨level, hentity⟩
    exact AtFault.of_entityAt hentity
  · have hgrows := hsound.grows_prepare hprepared
    have hprepared := hgrows.sound hsound
    refine AtFault.of_grows hgrows ?_
    rcases hcase with hentity | hitems | ⟨join, -, hitems | hclause⟩
    · exact AtFault.of_entityAt hentity
    · exact hprepared.atFault_of_selectItems hitems
    · exact hprepared.atFault_of_selectItems hitems
    · exact atFault_of_joinClause hclause

end Request

/-- A refused key is about no name. -/
theorem Request.atFault_of_requireKey {shape : QueryShape} {key : Option Level}
    (h : requireKey shape key = .error fault) : request.AtFault fault := by
  rw [requireKey_eq_error h]
  trivial

/-- A refused template is about no name. -/
theorem Request.atFault_of_requireTemplate {template : Option String}
    (h : requireTemplate template = .error fault) : request.AtFault fault := by
  rw [requireTemplate_eq_error h]
  trivial

/-- Where a query against one level has no statement, the request is at fault. -/
theorem SimpleQuery.atFault_of_statement {query : SimpleQuery} (hsound : request.Sound)
    (h : query.statement request = .error fault) : request.AtFault fault := by
  rcases Outcome.bind_eq_error.mp h with hkey | ⟨level, -, h⟩
  · exact Request.atFault_of_requireKey hkey
  rcases Outcome.bind_eq_error.mp h with hgroups | ⟨grouped, hgrouped, h⟩
  · exact hsound.atFault_of_requestColumns hgroups
  have hgrows := hsound.grows_requestColumns hgrouped
  have hgroupedSound := hgrows.sound hsound
  refine Request.AtFault.of_grows hgrows ?_
  rcases Outcome.bind_eq_error.mp h with haggregates | ⟨aggregates, -, h⟩
  · exact Request.atFault_of_checkedAggregates haggregates
  rcases Outcome.bind_eq_error.mp h with hitems | ⟨items, -, h⟩
  · exact hgroupedSound.atFault_of_selectItems hitems
  rcases Outcome.bind_eq_error.mp h with hentity | ⟨entity, -, h⟩
  · exact Request.AtFault.of_entityAt hentity
  · exact absurd h (by simp [pure, Except.pure])

/-- Where a query with declared joins has no statement, the request is at fault. -/
theorem JoinQuery.atFault_of_statement {query : JoinQuery} (hsound : request.Sound)
    (h : query.statement request = .error fault) : request.AtFault fault := by
  rcases Outcome.bind_eq_error.mp (Outcome.map_eq_error.mp h) with hkey | ⟨anchor, -, h⟩
  · exact Request.atFault_of_requireKey hkey
  rcases Outcome.bind_eq_error.mp h with haggregates | ⟨aggregates, -, h⟩
  · exact Request.atFault_of_checkedAggregates haggregates
  · exact hsound.atFault_of_plan h

/-- Where a query over a template has no statement, the request is at fault. -/
theorem NativeQuery.atFault_of_statement {query : NativeQuery} (hsound : request.Sound)
    (h : query.statement request = .error fault) : request.AtFault fault := by
  cases query with
  | simple level template aggregates =>
      rcases Outcome.bind_eq_error.mp h with hkey | ⟨level, -, h⟩
      · exact Request.atFault_of_requireKey hkey
      rcases Outcome.bind_eq_error.mp h with htemplate | ⟨template, -, h⟩
      · exact Request.atFault_of_requireTemplate htemplate
      rcases Outcome.bind_eq_error.mp h with haggregates | ⟨aggregates, -, h⟩
      · exact Request.atFault_of_checkedAggregates haggregates
      rcases Outcome.bind_eq_error.mp h with hitems | ⟨items, -, h⟩
      · exact hsound.atFault_of_selectItems hitems
      · exact absurd h (by simp [pure, Except.pure])
  | join anchor template aliases aggregates =>
      rcases Outcome.bind_eq_error.mp h with hkey | ⟨anchor, -, h⟩
      · exact Request.atFault_of_requireKey hkey
      rcases Outcome.bind_eq_error.mp h with htemplate | ⟨template, -, h⟩
      · exact Request.atFault_of_requireTemplate htemplate
      rcases Outcome.bind_eq_error.mp h with haggregates | ⟨aggregates, -, h⟩
      · exact Request.atFault_of_checkedAggregates haggregates
      rcases Outcome.bind_eq_error.mp h with hitems | ⟨items, -, h⟩
      · rcases Outcome.exists_of_mapM_eq_error hitems with ⟨level, -, hlevel⟩
        exact hsound.atFault_of_selectItems hlevel
      · exact absurd h (by simp [pure, Except.pure])

end

namespace QuerySpec

variable {definitions : List EntityDef} {catalog : Catalog} {selection : Selection}
variable {spec : QuerySpec} {fault : QueryFault}

/-- Over accepted metadata the request is at fault for every statement that fails. -/
theorem atFault_of_statement (hcatalog : Catalog.ofDefs definitions = .ok catalog)
    (h : spec.statement catalog.metadata selection = .error fault) :
    (Request.ofSelection catalog.metadata selection).AtFault fault := by
  have hsound := Catalog.sound_ofSelection hcatalog selection
  cases spec with
  | simple query => exact query.atFault_of_statement hsound h
  | join query => exact query.atFault_of_statement hsound h
  | native query => exact query.atFault_of_statement hsound h

/-- Over accepted metadata a query of any form fails for a name without column only where the
selection requests this name at a level with that entity, and the name is none that compilation
adds by itself; and for an entity without metadata only where the selection registers it. -/
theorem blames_request (hcatalog : Catalog.ofDefs definitions = .ok catalog) :
    (∀ field name,
      spec.compile catalog.metadata selection = .error (.fieldNotFound field name) →
        ∃ level fields entity, selection.fieldsAt level = some fields ∧ field ∈ fields ∧
          (Request.ofSelection catalog.metadata selection).entityName? level = some name ∧
          catalog.metadata.entity? name = some entity ∧
          entity.resolve? field = none ∧ ¬ entity.Adds field) ∧
    ∀ name, spec.compile catalog.metadata selection = .error (.unknownEntity name) →
      ∃ level, selection.entityAt level = some name ∧ catalog.metadata.entity? name = none := by
  constructor
  · intro field name h
    rcases atFault_of_statement hcatalog (Outcome.map_eq_error.mp h) with
      ⟨level, entity, hentity, hname, hfield, hresolve⟩
    rcases Request.entityAt_eq_ok.mp hentity with ⟨found, hfound, hknown⟩
    have hsame : found = name := (Catalog.name_of_entity? hcatalog hknown).symm.trans hname
    rw [hsame] at hfound hknown
    have hadds : ¬ entity.Adds field := fun hadds =>
      (Catalog.wellFormed_of_ofDefs hcatalog hknown).resolve?_of_adds hadds hresolve
    have hrequested : ∃ fields, selection.fieldsAt level = some fields ∧ field ∈ fields := by
      unfold Request.fieldsAt at hfield
      split at hfield
      next fields hfields => exact ⟨fields, hfields, hfield⟩
      next => exact absurd hfield List.not_mem_nil
    rcases hrequested with ⟨fields, hfields, hmem⟩
    exact ⟨level, fields, entity, hfields, hmem, hfound, hknown, hresolve, hadds⟩
  · intro name h
    rcases atFault_of_statement hcatalog (Outcome.map_eq_error.mp h) with ⟨level, hname, hunknown⟩
    refine ⟨level, ?_, hunknown⟩
    rcases Option.or_eq_some_iff.mp hname with hregistered | ⟨-, hmapped⟩
    · exact hregistered
    · -- a level map names no entity that is not defined
      rcases Option.bind_eq_some_iff.mp hmapped with ⟨map, hmap, hlevel⟩
      rcases Catalog.exists_entity?_of_level hcatalog hmap hlevel with ⟨entity, hentity⟩
      exact absurd (hentity.symm.trans hunknown) (by simp)

end QuerySpec

namespace Hospital

/-- A request for the nicknames of surgeons, which nothing stores. -/
def nicknames : Selection :=
  hospitalNames.withFields "surgeon" ["nickname"]

/-- A request that takes the surgeons of hospitals for nurses, whom nothing describes. -/
def nurses : Selection :=
  (hospitalNames.withLevel "surgeon" "Nurse").withFields "surgeon" ["name"]

/-- The nickname is refused, and it is the request that asks for it; and so for the nurses. -/
theorem nicknames_and_nurses_blamed :
    (∃ level fields entity, nicknames.fieldsAt level = some fields ∧ "nickname" ∈ fields ∧
      (Request.ofSelection catalog.metadata nicknames).entityName? level = some "Surgeon" ∧
      catalog.metadata.entity? "Surgeon" = some entity ∧
      entity.resolve? "nickname" = none ∧ ¬ entity.Adds "nickname") ∧
    ∃ level, nurses.entityAt level = some "Nurse" ∧ catalog.metadata.entity? "Nurse" = none := by
  have hnickname : (QuerySpec.join surgeons).compile catalog.metadata nicknames =
      .error (.fieldNotFound "nickname" "Surgeon") := by decide +kernel
  have hnurse : (QuerySpec.join surgeons).compile catalog.metadata nurses =
      .error (.unknownEntity "Nurse") := by decide +kernel
  exact ⟨(QuerySpec.blames_request ofDefs_definitions).1 _ _ hnickname,
    (QuerySpec.blames_request ofDefs_definitions).2 _ hnurse⟩

end Hospital

end SelectionSql
