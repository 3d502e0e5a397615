import Mathlib.Data.List.Basic
import Mathlib.Data.List.Induction
import SelectionSql.Selection

/-!
# Assembled selections - Selections made step by step, and from maps

A selection is made step by step from a new one, which knows its root alone, or at once from a
map of entities and a map of fields.  The first way has the root before all other levels and
replaces it when a step says so, the second one adds it after them if it is missing.  Both ways
lead to the same selection: of the entities registered at a level the last one stays, the fields
requested at a level are united, and steps of different kinds do not touch each other.

Main results:

- `Selection.entityAt_ofParts`: in an assembled selection the given map decides, then the root.
- `SelectionStep.lastRegistered_concat`: which entity was registered last, step by step.
- `Gathers.register`, `Gathers.request`: what one more step adds to the maps of some steps.
- `Selection.exists_gathers_run`: a selection made step by step is assembled from such maps.
- `Selection.assembled_step_by_step`: from which ones, and which steps commute.
-/

namespace SelectionSql

/-! ## Steps -/

/-- A step towards a selection. -/
inductive SelectionStep
  /-- Register the entity at a level. -/
  | register (level : Level) (entity : String)
  /-- Request fields at a level. -/
  | request (level : Level) (names : List String)
  deriving DecidableEq

namespace Selection

/-- The selection after a step. -/
def step (selection : Selection) : SelectionStep → Selection
  | .register level entity => selection.withLevel level entity
  | .request level names => selection.withFields level names

/-- The selection after some steps, one after another. -/
def run (selection : Selection) (steps : List SelectionStep) : Selection :=
  steps.foldl step selection

/-- One more step follows the others. -/
theorem run_concat (selection : Selection) (steps : List SelectionStep) (next : SelectionStep) :
    selection.run (steps ++ [next]) = (selection.run steps).step next := by
  simp [run]

end Selection

namespace SelectionStep

variable {steps : List SelectionStep} {next : SelectionStep} {level : Level} {entity : String}

/-- Whether a step registers an entity. -/
def registers : SelectionStep → Bool
  | register _ _ => true
  | request _ _ => false

/-- An entity is registered last at a level when no later step registers one there. -/
def LastRegistered (steps : List SelectionStep) (level : Level) (entity : String) : Prop :=
  ∃ before after, steps = before ++ register level entity :: after ∧
    ∀ other, register level other ∉ after

/-- Without steps nothing is registered. -/
theorem not_lastRegistered_nil : ¬ LastRegistered [] level entity := by
  rintro ⟨before, after, hsteps, -⟩
  simp at hsteps

/-- What one more step registers comes last, and otherwise what came last before it. -/
theorem lastRegistered_concat :
    LastRegistered (steps ++ [next]) level entity ↔
      next = register level entity ∨
        (∀ other, next ≠ register level other) ∧ LastRegistered steps level entity := by
  constructor
  · rintro ⟨before, after, hsteps, hafter⟩
    rcases List.eq_nil_or_concat' after with rfl | ⟨after, last, rfl⟩
    · obtain ⟨-, hnext⟩ := List.append_inj' hsteps rfl
      exact Or.inl (List.singleton_inj.mp hnext)
    · rw [← List.cons_append, ← List.append_assoc] at hsteps
      obtain ⟨rfl, hlast⟩ := List.append_inj' hsteps rfl
      cases List.singleton_inj.mp hlast
      refine Or.inr ⟨fun other heq => hafter other ?_, before, after, rfl, fun other hmem => ?_⟩
      · exact heq ▸ List.mem_append_right after List.mem_cons_self
      · exact hafter other (List.mem_append_left _ hmem)
  · rintro (rfl | ⟨hnext, before, after, rfl, hafter⟩)
    · exact ⟨steps, [], rfl, fun _ => List.not_mem_nil⟩
    · refine ⟨before, after ++ [next], by simp, fun other hmem => ?_⟩
      rcases List.mem_append.mp hmem with hmem | hlast
      · exact hafter other hmem
      · exact hnext other (List.mem_singleton.mp hlast).symm

/-- Requests do not change what was registered last. -/
theorem lastRegistered_filter (steps : List SelectionStep) :
    LastRegistered (steps.filter registers) level entity ↔ LastRegistered steps level entity := by
  induction steps using List.reverseRecOn with
  | nil => rfl
  | append_singleton before next ih =>
      cases next with
      | register other name =>
          rw [List.filter_append, List.filter_cons_of_pos rfl, List.filter_nil,
            lastRegistered_concat, lastRegistered_concat, ih]
      | request other names =>
          rw [List.filter_append, List.filter_cons_of_neg Bool.false_ne_true, List.filter_nil,
            List.append_nil, lastRegistered_concat, ih]
          simp

/-- Where some step registers an entity, one of them is registered last. -/
theorem exists_lastRegistered (h : register level entity ∈ steps) :
    ∃ last, LastRegistered steps level last := by
  induction steps using List.reverseRecOn with
  | nil => exact absurd h List.not_mem_nil
  | append_singleton before next ih =>
      by_cases hnext : ∃ other, next = register level other
      · obtain ⟨other, hother⟩ := hnext
        exact ⟨other, lastRegistered_concat.mpr (Or.inl hother)⟩
      · rw [not_exists] at hnext
        have hbefore : register level entity ∈ before :=
          (List.mem_append.mp h).resolve_right fun hlast =>
            hnext entity (List.mem_singleton.mp hlast).symm
        obtain ⟨last, hlast⟩ := ih hbefore
        exact ⟨last, lastRegistered_concat.mpr (Or.inr ⟨hnext, hlast⟩)⟩

end SelectionStep

open SelectionStep

/-! ## The maps of some steps -/

/-- Maps gather steps when every level has the entity that was registered last at it, and all
fields that were requested at it.  A level with a request is present even without fields. -/
structure Gathers (steps : List SelectionStep) (entities : SortedMap String) (fields : FieldMap) :
    Prop where
  entity : ∀ level entity, entities.get? level = some entity ↔ LastRegistered steps level entity
  level : ∀ level, level ∈ fields.keys ↔ ∃ names, request level names ∈ steps
  field : ∀ level name, (∃ found, fields.get? level = some found ∧ name ∈ found) ↔
    ∃ names, request level names ∈ steps ∧ name ∈ names

namespace Gathers

variable {steps others : List SelectionStep} {entities otherEntities : SortedMap String}
variable {fields otherFields : FieldMap}

/-- Without steps there is nothing to gather. -/
theorem nil : Gathers [] SortedMap.empty SortedMap.empty where
  entity := by simp [not_lastRegistered_nil]
  level := by simp [SortedMap.keys, SortedMap.empty]
  field := by simp

/-- An entity that is registered replaces the one at its level. -/
theorem register (h : Gathers steps entities fields) (level : Level) (entity : String) :
    Gathers (steps ++ [.register level entity]) (entities.insert level entity) fields where
  entity other found := by
    rw [SortedMap.get?_insert, lastRegistered_concat, ← h.entity]
    by_cases hother : other = level
    · simp [hother]
    · simp [hother, Ne.symm hother]
  level other := by simp [h.level]
  field other name := by simp [h.field]

/-- Fields that are requested are added to those at their level. -/
theorem request (h : Gathers steps entities fields) (level : Level) (names : List String) :
    Gathers (steps ++ [.request level names]) entities (fields.request level names) where
  entity other found := by simp [lastRegistered_concat, h.entity]
  level other := by
    show other ∈ (SortedMap.insert fields level _).keys ↔ _
    rw [SortedMap.mem_keys_insert, h.level]
    simp only [List.mem_append, List.mem_singleton, SelectionStep.request.injEq, exists_or]
    simp [or_comm]
  field other name := by
    have hold := h.field other name
    rw [FieldMap.request, SortedMap.get?_update]
    by_cases hother : other = level
    · subst hother
      simp only [if_true, Option.some.injEq, exists_eq_left', SortedSet.mem_insertAll,
        List.mem_append, List.mem_singleton, SelectionStep.request.injEq, true_and, or_and_right,
        exists_or, exists_eq_left, ← hold]
      cases fields.get? other <;> simp [or_comm]
    · simp [hother, hold]

/-- Steps are gathered in one way only. -/
theorem eq (h : Gathers steps entities fields) (hother : Gathers steps otherEntities otherFields) :
    entities = otherEntities ∧ fields = otherFields := by
  constructor
  · refine SortedMap.ext_get? fun level => Option.ext fun entity => ?_
    exact (h.entity level entity).trans (hother.entity level entity).symm
  · apply FieldMap.ext_mem
    · intro level
      exact (h.level level).trans (hother.level level).symm
    · intro level name
      exact (h.field level name).trans (hother.field level name).symm

/-- Steps are gathered alike when they register the same entities in the same order and request
the same fields in any order. -/
theorem congr (h : Gathers steps entities fields)
    (hregisters : others.filter registers = steps.filter registers)
    (hrequests : ∀ level names,
      SelectionStep.request level names ∈ others ↔ SelectionStep.request level names ∈ steps) :
    Gathers others entities fields where
  entity level entity := by
    rw [h.entity, ← lastRegistered_filter steps, ← hregisters, lastRegistered_filter]
  level level := by simp only [hrequests, h.level]
  field level name := by simp only [hrequests, h.field]

end Gathers

/-! ## Assembling -/

namespace Selection

variable {rootEntity entity : String} {entities : SortedMap String} {fields : FieldMap}
variable {level : Level} {steps : List SelectionStep}

/-- In an assembled selection the map of entities decides, and else the root has its entity. -/
theorem entityAt_ofParts (rootEntity : String) (entities : SortedMap String) (fields : FieldMap)
    (level : Level) :
    (ofParts rootEntity entities fields).entityAt level =
      (entities.get? level).or (if level = Level.root then some rootEntity else none) := by
  unfold ofParts entityAt
  by_cases hlevel : level = Level.root
  · subst hlevel
    cases hroot : entities.get? Level.root <;> simp [SortedMap.contains, hroot]
  · cases hroot : entities.get? Level.root <;>
      simp [SortedMap.contains, hroot, SortedMap.get?_insert, hlevel]

/-- A new selection is assembled from nothing. -/
theorem new_eq_ofParts (rootEntity : String) :
    new rootEntity = ofParts rootEntity SortedMap.empty SortedMap.empty := rfl

/-- Registering an entity in an assembled selection, the root's included, comes to the same as
registering it in the map. -/
theorem withLevel_ofParts (rootEntity : String) (entities : SortedMap String) (fields : FieldMap)
    (level : Level) (entity : String) :
    (ofParts rootEntity entities fields).withLevel level entity =
      ofParts rootEntity (entities.insert level entity) fields := by
  have hentities : ((ofParts rootEntity entities fields).withLevel level entity).entities =
      (ofParts rootEntity (entities.insert level entity) fields).entities := by
    refine SortedMap.ext_get? fun other => ?_
    show entityAt (withLevel _ level entity) other = entityAt (ofParts _ _ _) other
    rw [entityAt_withLevel, entityAt_ofParts, entityAt_ofParts, SortedMap.get?_insert]
    split <;> rfl
  exact congrArg (fun entities => (⟨rootEntity, Level.root, entities, fields⟩ : Selection))
    hentities

/-- Requesting fields in an assembled selection comes to the same as requesting them in the
map. -/
theorem withFields_ofParts (rootEntity : String) (entities : SortedMap String) (fields : FieldMap)
    (level : Level) (names : List String) :
    (ofParts rootEntity entities fields).withFields level names =
      ofParts rootEntity entities (fields.request level names) := rfl

/-- A selection made step by step is assembled from maps that gather the steps. -/
theorem exists_gathers_run (rootEntity : String) (steps : List SelectionStep) :
    ∃ entities fields, Gathers steps entities fields ∧
      (new rootEntity).run steps = ofParts rootEntity entities fields := by
  induction steps using List.reverseRecOn with
  | nil => exact ⟨_, _, Gathers.nil, new_eq_ofParts rootEntity⟩
  | append_singleton before next ih =>
      obtain ⟨entities, fields, hgathers, hrun⟩ := ih
      rw [run_concat, hrun]
      cases next with
      | register level entity =>
          exact ⟨_, _, hgathers.register level entity,
            withLevel_ofParts rootEntity entities fields level entity⟩
      | request level names =>
          exact ⟨_, _, hgathers.request level names,
            withFields_ofParts rootEntity entities fields level names⟩

/-- The maps that gather some steps are those that their selection is assembled from. -/
theorem run_eq_ofParts (h : Gathers steps entities fields) :
    (new rootEntity).run steps = ofParts rootEntity entities fields := by
  obtain ⟨gathered, requested, hgathers, hrun⟩ := exists_gathers_run rootEntity steps
  obtain ⟨rfl, rfl⟩ := h.eq hgathers
  exact hrun

/-- The root always has an entity: the one that was registered last at it, or else the one that
the selection was made for. -/
theorem exists_entityAt_root (rootEntity : String) (steps : List SelectionStep) :
    ∃ entity, ((new rootEntity).run steps).entityAt Level.root = some entity ∧
      (LastRegistered steps Level.root entity ∨
        entity = rootEntity ∧ ∀ other, .register Level.root other ∉ steps) := by
  obtain ⟨entities, fields, hgathers, hrun⟩ := exists_gathers_run rootEntity steps
  rw [hrun, entityAt_ofParts]
  cases hroot : entities.get? Level.root with
  | some entity => exact ⟨entity, by simp, Or.inl ((hgathers.entity _ _).mp hroot)⟩
  | none =>
      refine ⟨rootEntity, by simp, Or.inr ⟨rfl, fun other hother => ?_⟩⟩
      obtain ⟨last, hlast⟩ := exists_lastRegistered hother
      exact absurd (hroot.symm.trans ((hgathers.entity _ _).mpr hlast)) (by simp)

end Selection

/-- Steps from a new selection make the one that is assembled from the maps that gather them.
There are such maps, in which every level has the entity that was registered last at it and all
fields that were requested at it.  Steps that register the same entities in the same order and
request the same fields make the same selection, whatever comes first, and the root always has
an entity. -/
theorem Selection.assembled_step_by_step (rootEntity : String) (steps : List SelectionStep) :
    (∃ entities fields, Gathers steps entities fields) ∧
    (∀ entities fields, Gathers steps entities fields →
      (new rootEntity).run steps = ofParts rootEntity entities fields) ∧
    (∀ others : List SelectionStep, others.filter registers = steps.filter registers →
      (∀ level names, .request level names ∈ others ↔ .request level names ∈ steps) →
      (new rootEntity).run others = (new rootEntity).run steps) ∧
    ∃ entity, ((new rootEntity).run steps).entityAt Level.root = some entity ∧
      (LastRegistered steps Level.root entity ∨
        entity = rootEntity ∧ ∀ other, .register Level.root other ∉ steps) := by
  obtain ⟨entities, fields, hgathers, hrun⟩ := exists_gathers_run rootEntity steps
  refine ⟨⟨entities, fields, hgathers⟩, fun _ _ => run_eq_ofParts, ?_,
    exists_entityAt_root rootEntity steps⟩
  intro others hregisters hrequests
  rw [hrun, run_eq_ofParts (hgathers.congr hregisters hrequests)]

namespace Hospital

/-- Steps that name the root, and give surgeons an entity and fields more than once. -/
def surgeonsRenamed : List SelectionStep :=
  [.request "surgeon" ["surgeonName"], .register Level.root "Clinic",
    .register "surgeon" "Doctor", .request "ward" [], .register "surgeon" "Surgeon",
    .request "surgeon" ["nickname", "surgeonName"], .register Level.root "Hospital"]

/-- The same steps with all entities before all fields. -/
def surgeonsSorted : List SelectionStep :=
  [.register Level.root "Clinic", .register "surgeon" "Doctor", .register "surgeon" "Surgeon",
    .register Level.root "Hospital", .request "surgeon" ["nickname", "surgeonName"],
    .request "ward" [], .request "surgeon" ["surgeonName"]]

/-- The last entities stay and the fields are united, also when the steps are sorted. -/
theorem surgeons_renamed_last : ∃ entities fields, Gathers surgeonsRenamed entities fields ∧
    entities.entries = [("rootObject", "Hospital"), ("surgeon", "Surgeon")] ∧
    (fields.mapValues SortedSet.toList).entries =
      [("surgeon", ["nickname", "surgeonName"]), ("ward", [])] ∧
    (Selection.new "Practice").run surgeonsRenamed =
      Selection.ofParts "Practice" entities fields ∧
    (Selection.new "Practice").run surgeonsSorted =
      (Selection.new "Practice").run surgeonsRenamed := by
  have hgathers := ((((((Gathers.nil.request "surgeon" ["surgeonName"]).register
    Level.root "Clinic").register "surgeon" "Doctor").request "ward" []).register
    "surgeon" "Surgeon").request "surgeon" ["nickname", "surgeonName"]).register
    Level.root "Hospital"
  obtain ⟨-, hassembled, hcommute, -⟩ :=
    Selection.assembled_step_by_step "Practice" surgeonsRenamed
  refine ⟨_, _, hgathers, by decide, by decide, hassembled _ _ hgathers, hcommute _ rfl ?_⟩
  intro level names
  simp [surgeonsSorted, surgeonsRenamed]
  tauto

end Hospital

end SelectionSql
