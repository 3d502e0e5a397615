import SelectionSql.Proofs.NativeJoins
import SelectionSql.Proofs.OutputNames
import SelectionSql.Proofs.PreparedFields

/-!
# Wider selections - Asking for more loses nothing

A selection is wider than another one when it asks for at least the same fields at at least the
same levels.  A join query reaches more levels for it and requests more fields there.  The one
thing that it may stop to request are the key fields of the anchor, which are only added when
nothing is asked for there.  They are selected anyway, in entities that always select their key
fields, as all entities of a catalog do.  Other metadata may lose them.

Main results:

- `Selection.Widens.reaches`: what is reached stays reached.
- `Selection.Widens.requests`: what is requested stays requested, apart from the key fields of
  the anchor.
- `JoinQuery.mem_items_of_widens`: what is selected stays selected, apart from columns of key
  fields of the anchor that are lost.
- `JoinQuery.not_losesKey`: no key is lost where entities always select their key fields.
- `JoinQuery.compile_of_widens`: the statement for the wider selection has every level and every
  column of the other one but these.
-/

namespace SelectionSql

section

variable {metadata : Metadata} {narrower wider : Selection} {query : JoinQuery}
variable {level : Level} {column field : String} {plan widened : JoinPlan} {item : SelectItem}

/-! ## Levels and fields -/

/-- A join query requests a field at a level for the selection, for grouping, or as a key field
of its anchor. -/
def JoinQuery.Requests (query : JoinQuery) (request : Request) (level : Level)
    (field : String) : Prop :=
  field ∈ request.fieldsAt level ∨ query.RequestsForGroup request level field ∨
    (level = query.anchor ∧ query.RequestsKey request field)

/-- A selection is wider than another one of the same entities when it has all its levels, with
all fields that are requested there. -/
structure Selection.Widens (wider narrower : Selection) : Prop where
  rootEntity : wider.rootEntity = narrower.rootEntity
  entities : wider.entities = narrower.entities
  fields : ∀ level names, narrower.fields.get? level = some names →
    ∃ others, wider.fields.get? level = some others ∧ ∀ field ∈ names, field ∈ others

namespace Selection.Widens

variable (h : wider.Widens narrower)
include h

/-- The same entity sits at every level. -/
theorem entityAt : (Request.ofSelection metadata wider).entityAt level =
    (Request.ofSelection metadata narrower).entityAt level := by
  have hname : (Request.ofSelection metadata wider).entityName? level =
      (Request.ofSelection metadata narrower).entityName? level := by
    simp only [Request.entityName?, Request.ofSelection, Selection.entityAt, h.rootEntity,
      h.entities]
  unfold Request.entityAt
  rw [hname]
  rfl

/-- The levels of the selection are among those of the wider one. -/
theorem contains (hlevel : narrower.fields.contains level = true) :
    wider.fields.contains level = true := by
  rcases Option.isSome_iff_exists.mp hlevel with ⟨names, hnames⟩
  rcases h.fields level names hnames with ⟨others, hothers, -⟩
  exact Option.isSome_iff_exists.mpr ⟨others, hothers⟩

/-- The fields at a level are among those of the wider selection. -/
theorem mem_fieldsAt (hfield : field ∈ (Request.ofSelection metadata narrower).fieldsAt level) :
    field ∈ (Request.ofSelection metadata wider).fieldsAt level := by
  rcases Request.mem_fieldsAt.mp hfield with ⟨names, hnames, hmem⟩
  rcases h.fields level names hnames with ⟨others, hothers, hsubset⟩
  exact Request.mem_fieldsAt.mpr ⟨others, hothers, hsubset field hmem⟩

/-- The same columns are mapped. -/
theorem maps_iff : (Request.ofSelection metadata wider).Maps level column ↔
    (Request.ofSelection metadata narrower).Maps level column := by
  unfold Request.Maps
  rw [h.entityAt]

/-- The same fields stand in front of columns. -/
theorem fronts_iff : (Request.ofSelection metadata wider).Fronts level column field ↔
    (Request.ofSelection metadata narrower).Fronts level column field := by
  unfold Request.Fronts
  rw [h.entityAt]

/-- What is touched stays touched. -/
theorem touches (htouched : query.Touches (Request.ofSelection metadata narrower) level) :
    query.Touches (Request.ofSelection metadata wider) level := by
  rcases htouched with hfields | hfiltered | ⟨group, hgroup, hlevel, hmaps⟩
  · exact Or.inl (h.contains hfields)
  · exact Or.inr (Or.inl hfiltered)
  · exact Or.inr (Or.inr ⟨group, hgroup, hlevel, h.maps_iff.mpr hmaps⟩)

/-- What is reached stays reached. -/
theorem reaches (hreached : query.Reaches (Request.ofSelection metadata narrower) level) :
    query.Reaches (Request.ofSelection metadata wider) level := by
  rcases hreached with hanchor | ⟨join, hjoin, htouched, hbelow⟩
  · exact Or.inl hanchor
  · exact Or.inr ⟨join, hjoin, h.touches htouched, hbelow⟩

/-- What a join query requests it still requests for the wider selection, apart from the key
fields of its anchor. -/
theorem requests (hfield : query.Requests (Request.ofSelection metadata narrower) level field) :
    query.Requests (Request.ofSelection metadata wider) level field ∨
      (level = query.anchor ∧
        query.RequestsKey (Request.ofSelection metadata narrower) field) := by
  rcases hfield with hrequested | ⟨group, hgroup, hlevel, hfronts⟩ | hkey
  · exact Or.inl (Or.inl (h.mem_fieldsAt hrequested))
  · exact Or.inl (Or.inr (Or.inl ⟨group, hgroup, hlevel, h.fronts_iff.mpr hfronts⟩))
  · exact Or.inr hkey

end Selection.Widens

/-! ## Columns -/

/-- An entity that always selects its key fields. -/
def Entity.SelectsKey (entity : Entity) : Prop :=
  ∀ field ∈ entity.keyFields, field ∈ entity.joinKeyFields

/-- Well-formed entities always select their key fields. -/
theorem Request.Sound.selectsKey {request : Request} (h : request.Sound) :
    request.Throughout Entity.SelectsKey :=
  fun name entity hentity => (h name entity hentity).keyFields_subset

namespace JoinQuery

/-- A column of the anchor is lost when it belongs to a key field that is added for want of
other fields there, while no field that the entity always selects and no field that the wider
request asks for has this column. -/
def LosesKey (query : JoinQuery) (request wider : Request) (item : SelectItem) : Prop :=
  item.level = query.anchor ∧ ∃ entity, request.entityAt query.anchor = .ok entity ∧
    (∃ field, query.RequestsKey request field ∧ entity.resolve? field = some item.column) ∧
    ∀ field, entity.resolve? field = some item.column →
      field ∉ entity.joinKeyFields ∧ ¬ query.Requests wider query.anchor field

/-- Entities that always select their key fields lose no key. -/
theorem not_losesKey {request wider : Request} (h : request.Throughout Entity.SelectsKey) :
    ¬ query.LosesKey request wider item := by
  rintro ⟨-, entity, hentity, ⟨field, ⟨-, other, hother, hfield⟩, hresolve⟩, hlost⟩
  cases Except.ok.inj (hentity.symm.trans hother)
  exact (hlost field hresolve).1 (h.entityAt hentity field hfield)

/-- A query without aggregates is planned without any. -/
theorem plan_of_checkedPlan {request : Request}
    (haggregates : query.conditions.aggregates = SortedMap.empty)
    (h : query.checkedPlan request = .ok plan) :
    query.plan request SortedMap.empty = .ok plan := by
  rw [← checkedPlan_of_no_aggregates (checkedPlan_eq_ok.mp h).1 haggregates]
  exact h

/-- Without aggregates a plan selects, at each of its levels, the columns that always are and
those that are requested. -/
theorem mem_items_of_plan_of_no_aggregates {request : Request}
    (hplan : query.plan request SortedMap.empty = .ok plan) :
    item ∈ plan.items ↔ item.level ∈ plan.levels ∧
      ∃ entity, request.entityAt item.level = .ok entity ∧
        (∃ field, (field ∈ entity.joinKeyFields ∨ query.Requests request item.level field) ∧
          entity.resolve? field = some item.column) ∧
        item = columnItem (.qualified query.anchor) item.level SortedMap.empty item.column := by
  rcases plan_eq_ok.mp hplan with ⟨prepared, -, -, hprepared, -, -⟩
  have hrequests : ∀ field, field ∈ prepared.fieldsAt item.level ↔
      query.Requests request item.level field := fun field => mem_fieldsAt_of_prepare hprepared
  rw [mem_items_of_plan hprepared hplan]
  simp only [contributedNames_of_no_aggregates, List.mem_append, hrequests, ← exists_and_right,
    and_assoc]

/-- What a plan selects is still selected for a wider selection, apart from keys that are
lost. -/
theorem mem_items_of_widens (h : wider.Widens narrower)
    (hplan : query.plan (Request.ofSelection metadata narrower) SortedMap.empty = .ok plan)
    (hwidened : query.plan (Request.ofSelection metadata wider) SortedMap.empty = .ok widened)
    (hitem : item ∈ plan.items) :
    item ∈ widened.items ↔ ¬ query.LosesKey (Request.ofSelection metadata narrower)
      (Request.ofSelection metadata wider) item := by
  rcases (mem_items_of_plan_of_no_aggregates hplan).mp hitem with
    ⟨hlevel, entity, hentity, ⟨name, hname, hresolve⟩, heq⟩
  have hreached : item.level ∈ widened.levels := by
    rw [mem_levels_of_plan hplan] at hlevel
    exact (mem_levels_of_plan hwidened).mpr (h.reaches hlevel)
  -- the item is selected for any name with its column
  have hstill : item ∈ widened.items ↔
      ∃ field, (field ∈ entity.joinKeyFields ∨
        query.Requests (Request.ofSelection metadata wider) item.level field) ∧
          entity.resolve? field = some item.column := by
    rw [mem_items_of_plan_of_no_aggregates hwidened, h.entityAt, hentity]
    simp only [hreached, true_and, Except.ok.injEq, exists_eq_left', and_iff_left_iff_imp]
    exact fun _ => heq
  rw [hstill]
  constructor
  · rintro ⟨field, hfield, hcolumn⟩ ⟨hanchor, found, hfound, -, hlost⟩
    rw [← hanchor, hentity] at hfound
    cases Except.ok.inj hfound
    rw [← hanchor] at hlost
    rcases hfield with hselected | hrequested
    · exact (hlost field hcolumn).1 hselected
    · exact (hlost field hcolumn).2 hrequested
  · intro hkept
    by_contra hnone
    rw [not_exists] at hnone
    have hfield : query.Requests (Request.ofSelection metadata narrower) item.level name :=
      hname.resolve_left fun hselected => hnone name ⟨Or.inl hselected, hresolve⟩
    rcases h.requests hfield with hrequested | ⟨hanchor, hkey⟩
    · exact hnone name ⟨Or.inr hrequested, hresolve⟩
    · rw [hanchor] at hentity hnone
      refine hkept ⟨hanchor, entity, hentity, ⟨name, hkey, hresolve⟩, fun field hcolumn => ?_⟩
      exact not_or.mp fun hfield => hnone field ⟨hfield, hcolumn⟩

/-- Without aggregates, the statement for a wider selection introduces every level that the
statement for the other one introduces, and selects every column that it selects, apart from
keys of the anchor that are lost.  No key is lost when all entities always select their key
fields. -/
theorem compile_of_widens {text longer : String} (h : wider.Widens narrower)
    (haggregates : query.conditions.aggregates = SortedMap.empty)
    (htext : (QuerySpec.join query).compile metadata narrower = .ok text)
    (hlonger : (QuerySpec.join query).compile metadata wider = .ok longer) :
    ∃ plan widened,
      query.checkedPlan (Request.ofSelection metadata narrower) = .ok plan ∧
      query.checkedPlan (Request.ofSelection metadata wider) = .ok widened ∧
      text = statementText (plan.items.map SelectItem.text) plan.source.text
        query.conditions ∧
      longer = statementText (widened.items.map SelectItem.text) widened.source.text
        query.conditions ∧
      (∀ level ∈ plan.source.aliases, level ∈ widened.source.aliases) ∧
      (∀ item ∈ plan.items, item ∈ widened.items ↔
        ¬ query.LosesKey (Request.ofSelection metadata narrower)
          (Request.ofSelection metadata wider) item) ∧
      ((Request.ofSelection metadata narrower).Throughout Entity.SelectsKey →
        ∀ item ∈ plan.items, item ∈ widened.items) := by
  rcases compile_join_eq_ok htext with ⟨plan, hchecked, htext⟩
  rcases compile_join_eq_ok hlonger with ⟨widened, hwidened, hlonger⟩
  have hplan := plan_of_checkedPlan haggregates hchecked
  have hwider := plan_of_checkedPlan haggregates hwidened
  refine ⟨plan, widened, hchecked, hwidened, htext, hlonger, ?_, ?_, ?_⟩
  · intro level hlevel
    have hreached := (mem_levels_of_plan hplan).mp hlevel
    exact (mem_levels_of_plan hwider).mpr (h.reaches hreached)
  · intro item hitem
    exact mem_items_of_widens h hplan hwider hitem
  · intro hkeys item hitem
    exact (mem_items_of_widens h hplan hwider hitem).mpr (not_losesKey hkeys)

end JoinQuery

end

namespace Hospital

/-- A request for the names of surgeons and for nothing of their hospitals. -/
def surgeonsAlone : Selection :=
  (Selection.new "Hospital").withFields "surgeon" ["name"]

/-- The same request and the names of the hospitals. -/
def surgeonsOfHospitals : Selection :=
  surgeonsAlone.withFields Level.root ["name"]

theorem surgeonsOfHospitals_widens : surgeonsOfHospitals.Widens surgeonsAlone where
  rootEntity := rfl
  entities := rfl
  fields := by
    intro level names hnames
    have hlevel : level = "surgeon" := by
      have hkey := SortedMap.mem_keys_of_get? hnames
      have hkeys : surgeonsAlone.fields.keys = ["surgeon"] := by decide +kernel
      rw [hkeys] at hkey
      exact List.mem_singleton.mp hkey
    have hsame : surgeonsOfHospitals.fields.get? level = surgeonsAlone.fields.get? level := by
      rw [hlevel]
      decide +kernel
    exact ⟨names, hsame.trans hnames, fun field hfield => hfield⟩

/-- The key of the hospitals is still selected when their names are asked for too. -/
theorem compile_surgeonsOfHospitals : ∃ plan widened,
    surgeons.checkedPlan (Request.ofSelection catalog.metadata surgeonsAlone) = .ok plan ∧
      surgeons.checkedPlan (Request.ofSelection catalog.metadata surgeonsOfHospitals) =
        .ok widened ∧
      plan.items.map SelectItem.text = ["rootObject.hospital_id AS hospital_id",
        "surgeon.surgeon_id AS surgeon_surgeon_id", "surgeon.name AS surgeon_name"] ∧
      (∀ level ∈ plan.source.aliases, level ∈ widened.source.aliases) ∧
      ∀ item ∈ plan.items, item ∈ widened.items := by
  have hnarrow : ((QuerySpec.join surgeons).compile catalog.metadata surgeonsAlone).map
      (fun text => decide (text = "")) = .ok false := by decide +kernel
  have hwide : ((QuerySpec.join surgeons).compile catalog.metadata surgeonsOfHospitals).map
      (fun text => decide (text = "")) = .ok false := by decide +kernel
  have hplan : (surgeons.checkedPlan (Request.ofSelection catalog.metadata surgeonsAlone)).map
      (fun plan => plan.items.map SelectItem.text) =
        .ok ["rootObject.hospital_id AS hospital_id",
          "surgeon.surgeon_id AS surgeon_surgeon_id", "surgeon.name AS surgeon_name"] := by
    decide +kernel
  rcases Outcome.map_eq_ok.mp hnarrow with ⟨text, htext, -⟩
  rcases Outcome.map_eq_ok.mp hwide with ⟨longer, hlonger, -⟩
  rcases JoinQuery.compile_of_widens surgeonsOfHospitals_widens rfl htext hlonger with
    ⟨plan, widened, hchecked, hwidened, -, -, hlevels, -, hitems⟩
  rcases Outcome.map_eq_ok.mp hplan with ⟨same, hsame, htexts⟩
  cases Except.ok.inj (hchecked.symm.trans hsame)
  have hsound := Catalog.sound_ofSelection ofDefs_definitions surgeonsAlone
  exact ⟨plan, widened, hchecked, hwidened, htexts, hlevels, hitems hsound.selectsKey⟩

/-- The metadata of hospitals, in which no field is always selected. -/
def sparseMetadata : Metadata :=
  { catalog.metadata with
    entity? := fun name => (catalog.metadata.entity? name).map fun entity =>
      { entity with joinKeyFields := [] } }

/-- With metadata where key fields are not always selected, the key of the hospitals is lost when
their names are asked for too. -/
theorem not_forall_columns_kept :
    ¬ ∀ (metadata : Metadata) (narrower wider : Selection) (query : JoinQuery)
      (text longer : String) (plan widened : JoinPlan), wider.Widens narrower →
      query.conditions.aggregates = SortedMap.empty →
      (QuerySpec.join query).compile metadata narrower = .ok text →
      (QuerySpec.join query).compile metadata wider = .ok longer →
      query.checkedPlan (Request.ofSelection metadata narrower) = .ok plan →
      query.checkedPlan (Request.ofSelection metadata wider) = .ok widened →
      (∀ level ∈ plan.source.aliases, level ∈ widened.source.aliases) ∧
        ∀ fragment ∈ plan.items.map SelectItem.text,
          fragment ∈ widened.items.map SelectItem.text := by
  intro hclaim
  have hnarrow : (surgeons.checkedPlan (Request.ofSelection sparseMetadata surgeonsAlone)).map
      (fun plan => plan.items.map SelectItem.text) =
        .ok ["rootObject.hospital_id AS hospital_id", "surgeon.name AS surgeon_name"] := by
    decide +kernel
  have hwide : (surgeons.checkedPlan
      (Request.ofSelection sparseMetadata surgeonsOfHospitals)).map
        (fun plan => plan.items.map SelectItem.text) =
          .ok ["rootObject.name AS name", "surgeon.name AS surgeon_name"] := by
    decide +kernel
  rcases Outcome.map_eq_ok.mp hnarrow with ⟨plan, hplan, hitems⟩
  rcases Outcome.map_eq_ok.mp hwide with ⟨widened, hwidened, hothers⟩
  have htext : (QuerySpec.join surgeons).compile sparseMetadata surgeonsAlone = .ok _ :=
    QuerySpec.compile_eq_ok.mpr ⟨_, Outcome.map_eq_ok.mpr ⟨plan, hplan, rfl⟩, rfl⟩
  have hlonger : (QuerySpec.join surgeons).compile sparseMetadata surgeonsOfHospitals = .ok _ :=
    QuerySpec.compile_eq_ok.mpr ⟨_, Outcome.map_eq_ok.mpr ⟨widened, hwidened, rfl⟩, rfl⟩
  have hkept := (hclaim sparseMetadata surgeonsAlone surgeonsOfHospitals surgeons _ _ plan widened
    surgeonsOfHospitals_widens rfl htext hlonger hplan hwidened).2
  rw [hitems, hothers] at hkept
  exact absurd (hkept _ List.mem_cons_self) (by decide)

end Hospital

end SelectionSql
