import Mathlib.Data.List.Infix
import SelectionSql.Proofs.CatalogLevels
import SelectionSql.Selection.Path

/-!
# Path unions - What paths add to a selection

Each path adds to a selection by itself: the levels that it passes, and the level or the field
that its last segment names.  A selection of paths is the union of what they add, so neither
their order nor their repetition plays a role, and it fails for the first level that is missing.

Main results:

- `Selection.descend_eq_ok`, `Selection.descend_eq_error`: the way down a path.
- `Contribution.Extends.eq`: a selection is determined by what it starts from and what is added.
- `Selection.extends_addPath`, `Selection.extends_ofPaths`: paths add their contributions.
- `Selection.ofPaths_exact`: which paths have a selection, the first fault of the others, and
  what the selection holds.
-/

namespace SelectionSql

/-! ## Levels of segments -/

namespace Level

variable {above : List String} {segment : String}

/-- The level that some references name, one below the other. -/
def joined (segments : List String) : Level :=
  String.intercalate (String.singleton separator) segments

@[simp] theorem joined_nil : joined [] = "" := String.intercalate_nil

@[simp] theorem joined_singleton (segment : String) : joined [segment] = segment :=
  String.intercalate_singleton

/-- One more segment follows a separator. -/
theorem joined_concat (h : above ≠ []) :
    joined (above ++ [segment]) = joined above ++ String.singleton separator ++ segment := by
  unfold joined
  rw [String.intercalate_append_of_ne_nil h (List.cons_ne_nil _ _), String.intercalate_singleton]

/-- Segments that are not empty name a level that is not empty. -/
theorem joined_ne_empty (hsegments : ∀ segment ∈ above, segment ≠ "") (h : above ≠ []) :
    joined above ≠ "" := by
  obtain ⟨before, last, rfl⟩ := (List.eq_nil_or_concat' above).resolve_left h
  by_cases hbefore : before = []
  · subst hbefore
    simpa using hsegments last (by simp)
  · rw [joined_concat hbefore]
    intro hempty
    have hchars := congrArg String.toList hempty
    simp at hchars

/-- The child of a level of segments is the level of one more segment. -/
theorem child_joined (hsegments : ∀ segment ∈ above, segment ≠ "") :
    child (joined above) segment = joined (above ++ [segment]) := by
  by_cases habove : above = []
  · subst habove
    simp [child]
  · rw [joined_concat habove, child, if_neg (joined_ne_empty hsegments habove)]

end Level

/-- The segments of a path are the texts between its slashes, trimmed, without the blank ones. -/
theorem exists_pathSegments (path : String) :
    ∃ texts : List String, String.intercalate "/" texts = path ∧
      (∀ text ∈ texts, '/' ∉ text.toList) ∧
      pathSegments path = (texts.map Text.trim).filter fun segment => decide (segment ≠ "") := by
  refine ⟨(Text.pieces '/' path.toList).map String.ofList, ?_, ?_, ?_⟩
  · rw [← String.toList_inj, String.toList_intercalate, List.map_map]
    simp [Function.comp_def, Text.intercalate_pieces]
  · intro text htext
    obtain ⟨piece, hpiece, rfl⟩ := List.mem_map.mp htext
    rw [String.toList_ofList]
    exact Text.sep_notMem_of_mem_pieces hpiece
  · rw [List.map_map]
    rfl

/-- No segment of a path is empty, and so none of its leading segments is. -/
theorem ne_empty_of_pathSegments {path : String} {above rest : List String}
    (h : pathSegments path = above ++ rest) : ∀ segment ∈ above, segment ≠ "" := by
  intro segment hsegment
  have hmem : segment ∈ pathSegments path := h ▸ List.mem_append_left rest hsegment
  simpa using (List.mem_filter.mp hmem).2

/-! ## Levels that a path passes -/

/-- The levels on the way down along some segments, from the top. -/
def levelsBelow (above segments : List String) : List Level :=
  segments.inits.tail.map fun way => Level.joined (above ++ way)

/-- The levels that a path passes, from the top: those of its segments up to each one before
the last. -/
def passedLevels (path : String) : List Level :=
  levelsBelow [] (pathSegments path).dropLast

/-- The first level that a path passes and a level map lacks. -/
def firstMissing? (map : LevelMap) (path : String) : Option Level :=
  (passedLevels path).find? fun level => !map.contains level

/-- No path misses a level exactly when the map has all levels that are passed. -/
theorem findSome?_firstMissing?_eq_none {map : LevelMap} {paths : List String} :
    paths.findSome? (firstMissing? map) = none ↔
      ∀ path ∈ paths, ∀ level ∈ passedLevels path, level ∈ map.keys := by
  simp [firstMissing?, List.findSome?_eq_none_iff, SortedMap.contains_iff_mem_keys]

@[simp] theorem levelsBelow_nil (above : List String) : levelsBelow above [] = [] := rfl

/-- The way down starts with the level of the first segment. -/
theorem levelsBelow_cons (above : List String) (segment : String) (rest : List String) :
    levelsBelow above (segment :: rest) =
      Level.joined (above ++ [segment]) :: levelsBelow (above ++ [segment]) rest := by
  unfold levelsBelow
  rw [List.inits_cons]
  cases rest <;> simp

/-- The levels on the way down are those of the segments up to each of them. -/
theorem mem_levelsBelow {above segments : List String} {level : Level} :
    level ∈ levelsBelow above segments ↔ ∃ way segment rest,
      segments = way ++ segment :: rest ∧ level = Level.joined (above ++ way ++ [segment]) := by
  induction segments generalizing above with
  | nil => simp
  | cons first segments ih =>
      rw [levelsBelow_cons, List.mem_cons, ih]
      constructor
      · rintro (rfl | ⟨way, segment, rest, rfl, rfl⟩)
        · exact ⟨[], first, segments, rfl, by simp⟩
        · exact ⟨first :: way, segment, rest, rfl, by simp⟩
      · rintro ⟨way, segment, rest, hsplit, rfl⟩
        cases way with
        | nil =>
            cases hsplit
            exact Or.inl (by simp)
        | cons head way =>
            cases hsplit
            exact Or.inr ⟨way, segment, rest, rfl, by simp⟩

/-- The levels that a path passes are those of its segments up to each one before the last. -/
theorem mem_passedLevels {path : String} {level : Level} :
    level ∈ passedLevels path ↔ ∃ above segment below,
      pathSegments path = above ++ segment :: below ∧ below ≠ [] ∧
        level = Level.joined (above ++ [segment]) := by
  unfold passedLevels
  rw [mem_levelsBelow]
  constructor
  · rintro ⟨above, segment, rest, hsplit, rfl⟩
    have hne : pathSegments path ≠ [] := by
      rintro hnil
      simp [hnil] at hsplit
    obtain ⟨before, last, hpath⟩ := (List.eq_nil_or_concat' (pathSegments path)).resolve_left hne
    rw [hpath, List.dropLast_concat] at hsplit
    exact ⟨above, segment, rest ++ [last], by simp [hpath, hsplit], by simp, by simp⟩
  · rintro ⟨above, segment, below, hpath, hbelow, rfl⟩
    refine ⟨above, segment, below.dropLast, ?_, by simp⟩
    rw [hpath, List.dropLast_append_of_ne_nil (List.cons_ne_nil _ _),
      List.dropLast_cons_of_ne_nil hbelow]

/-! ## Contributions -/

/-- What a selection is extended by: levels that get the entity of a level map, levels that
get an at least empty set of fields, and fields. -/
@[ext] structure Contribution where
  registers : Level → Prop
  opens : Level → Prop
  requests : Level → String → Prop

/-- A path registers the levels that it passes, and the level of all its segments if there is
one in the level map. -/
inductive Registers (map : LevelMap) (path : String) : Level → Prop
  | passed {level : Level} (h : level ∈ passedLevels path) : Registers map path level
  | named (hpath : pathSegments path ≠ [])
      (hlevel : Level.joined (pathSegments path) ∈ map.keys) :
      Registers map path (Level.joined (pathSegments path))

/-- Unless all its segments name a level of the map, a path requests its last segment as a field
of the level before it, which is the root for a single segment. -/
inductive Requests (map : LevelMap) (path : String) : Level → String → Prop
  | field {above : List String} {name : String} (hpath : pathSegments path = above ++ [name])
      (hlevel : Level.joined (above ++ [name]) ∉ map.keys) :
      Requests map path (if above = [] then Level.root else Level.joined above) name

/-- A path registers what it passes, and what it names if that is a level of the map. -/
theorem registers_iff {map : LevelMap} {path : String} {level : Level} :
    Registers map path level ↔ level ∈ passedLevels path ∨
      (pathSegments path ≠ [] ∧ Level.joined (pathSegments path) ∈ map.keys ∧
        level = Level.joined (pathSegments path)) := by
  constructor
  · rintro (hpassed | ⟨hpath, hlevel⟩)
    · exact Or.inl hpassed
    · exact Or.inr ⟨hpath, hlevel, rfl⟩
  · rintro (hpassed | ⟨hpath, hlevel, rfl⟩)
    · exact Registers.passed hpassed
    · exact Registers.named hpath hlevel

/-- A path with a last segment requests this one or nothing. -/
theorem requests_iff {map : LevelMap} {path name field : String} {above : List String}
    {level : Level} (hpath : pathSegments path = above ++ [name]) :
    Requests map path level field ↔ Level.joined (above ++ [name]) ∉ map.keys ∧
      level = (if above = [] then Level.root else Level.joined above) ∧ field = name := by
  constructor
  · rintro ⟨hother, hlevel⟩
    obtain ⟨rfl, hname⟩ := List.append_inj' (hpath.symm.trans hother) rfl
    cases hname
    exact ⟨hlevel, rfl, rfl⟩
  · rintro ⟨hlevel, rfl, rfl⟩
    exact Requests.field hpath hlevel

namespace Contribution

/-- What a single path adds. -/
def ofPath (map : LevelMap) (path : String) : Contribution where
  registers := Registers map path
  opens level := level ∈ passedLevels path ∨ ∃ name, Requests map path level name
  requests := Requests map path

/-- What the last segment of a path adds. -/
def ofLeaf (map : LevelMap) (path : String) : Contribution where
  registers level := pathSegments path ≠ [] ∧ Level.joined (pathSegments path) ∈ map.keys ∧
    level = Level.joined (pathSegments path)
  opens level := ∃ name, Requests map path level name
  requests := Requests map path

/-- What two contributions add together. -/
def union (first second : Contribution) : Contribution where
  registers level := first.registers level ∨ second.registers level
  opens level := first.opens level ∨ second.opens level
  requests level name := first.requests level name ∨ second.requests level name

/-- The union of what some paths add. -/
def ofPaths (map : LevelMap) (paths : List String) : Contribution where
  registers level := ∃ path ∈ paths, (ofPath map path).registers level
  opens level := ∃ path ∈ paths, (ofPath map path).opens level
  requests level name := ∃ path ∈ paths, (ofPath map path).requests level name

/-- Levels that are registered, at least without fields. -/
def ofLevels (levels : List Level) : Contribution :=
  ⟨(· ∈ levels), (· ∈ levels), fun _ _ => False⟩

/-- A path adds the levels that it passes, and what its last segment adds. -/
theorem ofPath_eq (map : LevelMap) (path : String) :
    ofPath map path = (ofLevels (passedLevels path)).union (ofLeaf map path) := by
  ext <;> simp [ofPath, ofLeaf, ofLevels, union, registers_iff]

/-- The first level is added to the others. -/
theorem ofLevels_cons (level : Level) (levels : List Level) :
    ofLevels (level :: levels) = (ofLevels [level]).union (ofLevels levels) := by
  ext <;> simp [ofLevels, union]

/-- A selection extended by a contribution: what is registered has the entity of the level map,
and nothing else changes apart from the levels and fields that are added. -/
structure Extends (contribution : Contribution) (map : LevelMap) (selection next : Selection) :
    Prop where
  rootEntity_eq : next.rootEntity = selection.rootEntity
  rootKey_eq : next.rootKey = selection.rootKey
  entities : ∀ level entity, next.entityAt level = some entity ↔
    (contribution.registers level ∧ map.get? level = some entity) ∨
      (¬ contribution.registers level ∧ selection.entityAt level = some entity)
  levels : ∀ level, level ∈ next.levels ↔ contribution.opens level ∨ level ∈ selection.levels
  fields : ∀ level name, (∃ names, next.fieldsAt level = some names ∧ name ∈ names) ↔
    contribution.requests level name ∨
      ∃ names, selection.fieldsAt level = some names ∧ name ∈ names

variable {map : LevelMap} {first second contribution : Contribution}
variable {selection middle next other : Selection} {level : Level} {entity name : String}
variable {paths others : List String}

/-- Nothing is added by no levels. -/
theorem extends_nil (map : LevelMap) (selection : Selection) :
    (ofLevels []).Extends map selection selection where
  rootEntity_eq := rfl
  rootKey_eq := rfl
  entities := by simp [ofLevels]
  levels := by simp [ofLevels]
  fields := by simp [ofLevels]

/-- Contributions that are added one after another are added together. -/
theorem Extends.trans (hfirst : first.Extends map selection middle)
    (hsecond : second.Extends map middle next) :
    (first.union second).Extends map selection next where
  rootEntity_eq := hsecond.rootEntity_eq.trans hfirst.rootEntity_eq
  rootKey_eq := hsecond.rootKey_eq.trans hfirst.rootKey_eq
  entities := by
    intro level entity
    rw [hsecond.entities, hfirst.entities]
    show _ ↔ ((first.registers level ∨ second.registers level) ∧ _) ∨
      (¬ (first.registers level ∨ second.registers level) ∧ _)
    tauto
  levels := by
    intro level
    rw [hsecond.levels, hfirst.levels, ← or_assoc, or_comm (a := second.opens level)]
    rfl
  fields := by
    intro level name
    rw [hsecond.fields, hfirst.fields, ← or_assoc, or_comm (a := second.requests level name)]
    rfl

/-- A level of the map is registered with its entity. -/
theorem extends_withLevel (hentity : map.get? level = some entity) :
    Extends ⟨(· = level), fun _ => False, fun _ _ => False⟩ map selection
      (selection.withLevel level entity) where
  rootEntity_eq := rfl
  rootKey_eq := rfl
  entities := by
    intro other found
    rw [Selection.entityAt_withLevel]
    by_cases hother : other = level
    · simp [hother, hentity]
    · simp [hother]
  levels := by simp [Selection.withLevel, Selection.levels]
  fields := by simp [Selection.withLevel, Selection.fieldsAt]

/-- Fields are requested at a level. -/
theorem extends_withFields (names : List String) :
    Extends ⟨fun _ => False, (· = level), fun other name => other = level ∧ name ∈ names⟩ map
      selection (selection.withFields level names) where
  rootEntity_eq := rfl
  rootKey_eq := rfl
  entities := by simp [Selection.withFields, Selection.entityAt]
  levels := fun _ => SortedMap.mem_keys_insert
  fields := by
    intro other name
    rw [Selection.fieldsAt_withFields]
    by_cases hother : other = level
    · subst hother
      cases hfields : selection.fieldsAt other <;> simp [SortedSet.mem_insertAll]
    · simp [hother]

/-- A selection that is extended is determined by what is added. -/
theorem Extends.eq (h : contribution.Extends map selection next)
    (hother : contribution.Extends map selection other) : next = other := by
  have hentities : next.entities = other.entities := by
    refine SortedMap.ext_get? fun level => Option.ext fun entity => ?_
    exact (h.entities level entity).trans (hother.entities level entity).symm
  have hfields : next.fields = other.fields := by
    apply FieldMap.ext_mem
    · intro level
      exact (h.levels level).trans (hother.levels level).symm
    · intro level name
      exact (h.fields level name).trans (hother.fields level name).symm
  have hroot := h.rootEntity_eq.trans hother.rootEntity_eq.symm
  have hkey := h.rootKey_eq.trans hother.rootKey_eq.symm
  cases next
  cases other
  simp_all

/-- What paths add depends on which paths there are, and not on their order. -/
theorem ofPaths_congr (h : ∀ path, path ∈ paths ↔ path ∈ others) :
    ofPaths map paths = ofPaths map others := by
  ext <;> simp [ofPaths, h]

/-- The first path adds to what the others add. -/
theorem ofPaths_cons (path : String) (paths : List String) :
    ofPaths map (path :: paths) = (ofPath map path).union (ofPaths map paths) := by
  ext <;> simp [ofPaths, union]

end Contribution

namespace Selection

variable {map : LevelMap} {rootEntity name : String} {level reached : Level}
variable {selection next : Selection} {above segments : List String} {fault : QueryFault}

/-! ## The way down -/

/-- Register a level of a map, at least without fields. -/
def register (map : LevelMap) (selection : Selection) (level : Level) : Selection :=
  match map.get? level with
  | some entity => (selection.withLevel level entity).withFields level []
  | none => selection

/-- Going down along segments succeeds exactly when the map has all levels on the way.  It then
registers them one after another. -/
theorem descend_eq_ok (hsegments : ∀ segment ∈ above ++ segments, segment ≠ "") :
    descend map selection (Level.joined above) segments = .ok (next, reached) ↔
      (∀ level ∈ levelsBelow above segments, level ∈ map.keys) ∧
        next = (levelsBelow above segments).foldl (register map) selection ∧
        reached = Level.joined (above ++ segments) := by
  induction segments generalizing above selection with
  | nil => simp [descend, eq_comm]
  | cons segment rest ih =>
      have habove : ∀ other ∈ above, other ≠ "" := fun other hother =>
        hsegments other (List.mem_append_left _ hother)
      have hrest : ∀ other ∈ above ++ [segment] ++ rest, other ≠ "" := by
        simpa using hsegments
      unfold descend
      simp only [Level.child_joined habove, levelsBelow_cons, List.forall_mem_cons,
        List.foldl_cons]
      cases hget : map.get? (Level.joined (above ++ [segment])) with
      | none =>
          have hmissing := SortedMap.not_mem_keys_of_get? hget
          simp [hmissing]
      | some entity =>
          have hkey := SortedMap.mem_keys_of_get? hget
          rw [ih hrest, register, hget]
          simp [hkey]

/-- Going down along segments fails exactly for the first level on the way that is missing. -/
theorem descend_eq_error (hsegments : ∀ segment ∈ above ++ segments, segment ≠ "") :
    descend map selection (Level.joined above) segments = .error fault ↔
      ∃ level, ((levelsBelow above segments).find? fun level => !map.contains level) =
        some level ∧ fault = .unknownLevel level := by
  induction segments generalizing above selection with
  | nil => simp [descend]
  | cons segment rest ih =>
      have habove : ∀ other ∈ above, other ≠ "" := fun other hother =>
        hsegments other (List.mem_append_left _ hother)
      have hrest : ∀ other ∈ above ++ [segment] ++ rest, other ≠ "" := by
        simpa using hsegments
      unfold descend
      simp only [Level.child_joined habove, levelsBelow_cons, List.find?_cons,
        SortedMap.contains]
      cases hget : map.get? (Level.joined (above ++ [segment])) with
      | none => simp [eq_comm]
      | some entity =>
          simp only [Option.isSome_some, Bool.not_true]
          exact ih hrest

/-! ## Paths -/

/-- Registering a level of the map adds it. -/
theorem extends_register (hlevel : level ∈ map.keys) :
    (Contribution.ofLevels [level]).Extends map selection (register map selection level) := by
  obtain ⟨entity, hentity⟩ := SortedMap.exists_get?_of_mem_keys hlevel
  have hparts : Contribution.ofLevels [level] =
      Contribution.union ⟨(· = level), fun _ => False, fun _ _ => False⟩
        ⟨fun _ => False, (· = level), fun other name => other = level ∧ name ∈ []⟩ := by
    ext <;> simp [Contribution.ofLevels, Contribution.union]
  rw [register, hentity, hparts]
  exact (Contribution.extends_withLevel hentity).trans (Contribution.extends_withFields [])

/-- Registering levels of the map one after another adds them all. -/
theorem extends_foldl_register {levels : List Level}
    (hlevels : ∀ level ∈ levels, level ∈ map.keys) :
    (Contribution.ofLevels levels).Extends map selection
      (levels.foldl (register map) selection) := by
  induction levels generalizing selection with
  | nil => exact Contribution.extends_nil map _
  | cons level rest ih =>
      rw [List.forall_mem_cons] at hlevels
      rw [Contribution.ofLevels_cons, List.foldl_cons]
      exact (extends_register hlevels.1).trans (ih hlevels.2)

/-- A path is added exactly when the map has all levels that it passes. -/
theorem addPath_eq_error {path : String} :
    addPath map selection path = .error fault ↔
      ∃ level, firstMissing? map path = some level ∧ fault = .unknownLevel level := by
  unfold addPath addSegments
  split
  next hnone =>
    have hnil : pathSegments path = [] := List.getLast?_eq_none_iff.mp hnone
    simp [firstMissing?, passedLevels, hnil]
  next leaf hleaf =>
    have hsegments : ∀ segment ∈ [] ++ (pathSegments path).dropLast, segment ≠ "" :=
      ne_empty_of_pathSegments (List.dropLast_append_getLast? leaf hleaf).symm
    rw [Outcome.map_eq_error, ← Level.joined_nil, descend_eq_error hsegments]
    rfl

/-- The last segment of a path names a level of the map, or a field at the level before it. -/
theorem extends_selectLeaf {path : String} (hpath : pathSegments path = above ++ [name]) :
    (Contribution.ofLeaf map path).Extends map selection
      (selectLeaf map selection (Level.joined above) name) := by
  have hsegments := ne_empty_of_pathSegments hpath
  have hroot : Level.joined above = "" ↔ above = [] := by
    constructor
    · exact fun hempty => by_contra fun hne => Level.joined_ne_empty hsegments hne hempty
    · rintro rfl
      exact Level.joined_nil
  unfold selectLeaf
  simp only [Level.child_joined hsegments, hroot]
  cases hget : map.get? (Level.joined (above ++ [name])) with
  | some entity =>
      have hkey := SortedMap.mem_keys_of_get? hget
      convert Contribution.extends_withLevel hget using 1
      ext <;> simp [Contribution.ofLeaf, hpath, requests_iff hpath, hkey]
  | none =>
      have hmissing := SortedMap.not_mem_keys_of_get? hget
      convert Contribution.extends_withFields [name] using 1
      ext <;> simp [Contribution.ofLeaf, hpath, requests_iff hpath, hmissing]

/-- A path that is added adds its contribution. -/
theorem extends_addPath {path : String} (h : addPath map selection path = .ok next) :
    (Contribution.ofPath map path).Extends map selection next := by
  rw [Contribution.ofPath_eq]
  unfold addPath addSegments at h
  split at h
  next hnone =>
    -- a path without segments passes nothing and names nothing
    cases Except.ok.inj h
    have hnil : pathSegments path = [] := List.getLast?_eq_none_iff.mp hnone
    have hrequests : ∀ level name, ¬ Requests map path level name := by
      rintro level name ⟨hpath, -⟩
      simp [hnil] at hpath
    have hleaf : Contribution.ofLeaf map path = Contribution.ofLevels [] := by
      ext <;> simp [Contribution.ofLeaf, Contribution.ofLevels, hnil, hrequests]
    have hpassed : passedLevels path = [] := by simp [passedLevels, hnil]
    rw [hleaf, hpassed]
    exact (Contribution.extends_nil map _).trans (Contribution.extends_nil map _)
  next leaf hleaf =>
    have hpath : pathSegments path = (pathSegments path).dropLast ++ [leaf] :=
      (List.dropLast_append_getLast? leaf hleaf).symm
    have hsegments : ∀ segment ∈ [] ++ (pathSegments path).dropLast, segment ≠ "" :=
      ne_empty_of_pathSegments hpath
    obtain ⟨⟨middle, reached⟩, hdescend, rfl⟩ := Outcome.map_eq_ok.mp h
    rw [← Level.joined_nil, descend_eq_ok hsegments] at hdescend
    obtain ⟨hlevels, rfl, rfl⟩ := hdescend
    exact (extends_foldl_register hlevels).trans (extends_selectLeaf hpath)

/-- Paths that are added one after another add the union of their contributions. -/
theorem extends_foldlM {paths : List String}
    (h : paths.foldlM (addPath map) selection = .ok next) :
    (Contribution.ofPaths map paths).Extends map selection next := by
  induction paths generalizing selection with
  | nil =>
      cases Except.ok.inj h
      have hnothing : Contribution.ofPaths map [] = Contribution.ofLevels [] := by
        ext <;> simp [Contribution.ofPaths, Contribution.ofLevels]
      rw [hnothing]
      exact Contribution.extends_nil map _
  | cons path paths ih =>
      rw [List.foldlM_cons] at h
      obtain ⟨middle, hpath, hpaths⟩ := Outcome.bind_eq_ok.mp h
      rw [Contribution.ofPaths_cons]
      exact (extends_addPath hpath).trans (ih hpaths)

/-- Paths fail exactly for the first level that the first of them passes in vain. -/
theorem foldlM_addPath_eq_error {paths : List String} :
    paths.foldlM (addPath map) selection = .error fault ↔
      ∃ level, paths.findSome? (firstMissing? map) = some level ∧
        fault = .unknownLevel level := by
  apply Outcome.foldlM_eq_error_iff_findSome?
  intro state path result
  exact addPath_eq_error

section

variable {metadata : Metadata} {paths : List String}

/-- The paths of a selection are added to the root one after another. -/
theorem ofPaths_eq_foldlM (hmap : metadata.levelMap? rootEntity = some map)
    (paths : List String) :
    ofPaths metadata rootEntity paths = paths.foldlM (addPath map) (new rootEntity) := by
  unfold ofPaths
  rw [hmap]

/-- Paths have no selection exactly when one passes a level in vain, and fail for the first. -/
theorem ofPaths_eq_error (hmap : metadata.levelMap? rootEntity = some map) :
    ofPaths metadata rootEntity paths = .error fault ↔
      ∃ level, paths.findSome? (firstMissing? map) = some level ∧
        fault = .unknownLevel level := by
  rw [ofPaths_eq_foldlM hmap]
  exact foldlM_addPath_eq_error

/-- Paths have a selection exactly when the map has all levels that they pass. -/
theorem exists_ofPaths_iff (hmap : metadata.levelMap? rootEntity = some map) :
    (∃ selection, ofPaths metadata rootEntity paths = .ok selection) ↔
      ∀ path ∈ paths, ∀ level ∈ passedLevels path, level ∈ map.keys := by
  rw [← findSome?_firstMissing?_eq_none]
  cases h : ofPaths metadata rootEntity paths with
  | error fault =>
      obtain ⟨level, hlevel, -⟩ := (ofPaths_eq_error hmap).mp h
      simp [hlevel]
  | ok selection =>
      have hnone : ∀ level, paths.findSome? (firstMissing? map) ≠ some level := by
        intro level hlevel
        rw [(ofPaths_eq_error hmap).mpr ⟨level, hlevel, rfl⟩] at h
        cases h
      simpa using Option.eq_none_iff_forall_ne_some.mpr hnone

/-- The selection of some paths is the root extended by what they add. -/
theorem extends_ofPaths (hmap : metadata.levelMap? rootEntity = some map)
    (h : ofPaths metadata rootEntity paths = .ok selection) :
    (Contribution.ofPaths map paths).Extends map (new rootEntity) selection := by
  rw [ofPaths_eq_foldlM hmap] at h
  exact extends_foldlM h

/-- Paths that all occur in another list and the other way around have the same selection. -/
theorem ofPaths_eq_ok_of_mem_iff (hmap : metadata.levelMap? rootEntity = some map)
    {others : List String} (hmem : ∀ path, path ∈ paths ↔ path ∈ others)
    (h : ofPaths metadata rootEntity paths = .ok selection) :
    ofPaths metadata rootEntity others = .ok selection := by
  have hlevels := (exists_ofPaths_iff hmap).mp ⟨selection, h⟩
  obtain ⟨other, hother⟩ := (exists_ofPaths_iff hmap).mpr fun path hpath =>
    hlevels path ((hmem path).mpr hpath)
  -- both selections extend the root by the same contribution
  have hextends := extends_ofPaths hmap h
  rw [Contribution.ofPaths_congr hmem] at hextends
  rw [hother, hextends.eq (extends_ofPaths hmap hother)]

/-- A list of paths below a root entity has a selection exactly when the level map has every
level that they pass, and fails for the first missing level of the first path that passes one
otherwise.  The selection is that of the root extended by the union of what the paths add, and
lists of the same paths have the same selection. -/
theorem ofPaths_exact (hmap : metadata.levelMap? rootEntity = some map) (paths : List String) :
    (∀ path : String, ∃ texts : List String, String.intercalate "/" texts = path ∧
      (∀ text ∈ texts, '/' ∉ text.toList) ∧
      pathSegments path = (texts.map Text.trim).filter fun segment => decide (segment ≠ "")) ∧
    ((∃ selection, ofPaths metadata rootEntity paths = .ok selection) ↔
      ∀ path ∈ paths, ∀ level ∈ passedLevels path, level ∈ map.keys) ∧
    (∀ fault, ofPaths metadata rootEntity paths = .error fault ↔
      ∃ level, paths.findSome? (firstMissing? map) = some level ∧
        fault = .unknownLevel level) ∧
    (∀ selection, ofPaths metadata rootEntity paths = .ok selection →
      (Contribution.ofPaths map paths).Extends map (new rootEntity) selection) ∧
    ∀ others : List String, (∀ path, path ∈ paths ↔ path ∈ others) →
      ∀ selection, ofPaths metadata rootEntity paths = .ok selection ↔
        ofPaths metadata rootEntity others = .ok selection := by
  refine ⟨exists_pathSegments, exists_ofPaths_iff hmap, fun _ => ofPaths_eq_error hmap,
    fun _ => extends_ofPaths hmap, ?_⟩
  intro others hmem selection
  exact ⟨ofPaths_eq_ok_of_mem_iff hmap hmem,
    ofPaths_eq_ok_of_mem_iff hmap fun path => (hmem path).symm⟩

end

end Selection

namespace Hospital

/-- The names of hospitals and departments have one selection, in whatever order and however
often they are asked for.  Nothing is selected below a ward, which surgeons do not have. -/
theorem departments_in_any_order :
    (∃ selection,
      Selection.ofPaths catalog.metadata "Hospital" ["name", "surgeon/department/deptName"] =
        .ok selection ∧
      Selection.ofPaths catalog.metadata "Hospital"
        ["surgeon/department/deptName", "name", "surgeon/department/deptName"] =
        .ok selection) ∧
      Selection.ofPaths catalog.metadata "Hospital" ["name", "surgeon/ward/bed/number"] =
        .error (.unknownLevel "surgeon_ward") := by
  have hmap : catalog.metadata.levelMap? "Hospital" = some levels := levelMap_hospital
  obtain ⟨-, hok, -, -, horder⟩ :=
    Selection.ofPaths_exact hmap ["name", "surgeon/department/deptName"]
  obtain ⟨-, -, hfault, -, -⟩ :=
    Selection.ofPaths_exact hmap ["name", "surgeon/ward/bed/number"]
  refine ⟨?_, (hfault _).mpr ⟨"surgeon_ward", by decide +kernel, rfl⟩⟩
  obtain ⟨selection, hselection⟩ := hok.mpr (by decide +kernel)
  refine ⟨selection, hselection, (horder _ ?_ selection).mp hselection⟩
  intro path
  simp [or_comm, or_left_comm]

end Hospital

end SelectionSql
