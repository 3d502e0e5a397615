import SelectionSql.Proofs.ColumnSelection
import SelectionSql.Proofs.RedeclaredJoins
import SelectionSql.Proofs.RoundTrips
import SelectionSql.Proofs.Serving
import SelectionSql.Proofs.Templates

/-!
# Loaded queries - A query that is read and the one that a builder makes of its lists

A query that is read from a document keeps its joins or aliases as they are listed, whereas a
builder that is given them one after another keeps one for every level or name.  Looking up a
repeated one finds the first of the list, and the last one that the builder was given.

Main results:

- `NativeQuery.replayedJoin_bind_compile`: what a builder makes of aliases.
- `NativeQuery.compile_eq_of_agree`: with aliases that agree every template compiles alike.
- `aliasLevel?_eq_of_compile_eq`, `keepFirst_levels_eq_of_compile_eq`: and with no others.
- `QuerySpec.loaded_eq_replayed_iff`: when a loaded query means the same as the one replayed.
-/

namespace SelectionSql

/-! ## Names and levels of aliases -/

/-- Whether a name may stand between the braces of a placeholder. -/
def IsPlaceholder (name : String) : Prop :=
  name.toList ≠ [] ∧ ∀ c ∈ name.toList, Text.isWord c = true

/-- The level that a name is mapped to last. -/
def lastAliasLevel? (aliases : List TableAlias) (name : String) : Option Level :=
  (aliases.reverse.find? fun entry => entry.name = name).map TableAlias.level

/-- Aliases agree with themselves declared again when every placeholder stands for the same
level, and the same levels come up in the same order. -/
structure AliasesAgree (aliases : List TableAlias) : Prop where
  placeholders : ∀ name, IsPlaceholder name →
    aliasLevel? aliases name = lastAliasLevel? aliases name
  levels : keepFirst (aliases.map TableAlias.level) =
    keepFirst ((declareAll TableAlias.name aliases).map TableAlias.level)

variable {aliases others : List TableAlias} {name : String}

/-- A builder keeps the last level of every name. -/
theorem aliasLevel?_declareAll (aliases : List TableAlias) (name : String) :
    aliasLevel? (declareAll TableAlias.name aliases) name = lastAliasLevel? aliases name := by
  rw [aliasLevel?, find?_declareAll]
  rfl

/-- A name that is mapped first is mapped last. -/
theorem isSome_lastAliasLevel? (aliases : List TableAlias) (name : String) :
    (lastAliasLevel? aliases name).isSome = (aliasLevel? aliases name).isSome := by
  rw [lastAliasLevel?, aliasLevel?, Option.isSome_map, Option.isSome_map, Bool.eq_iff_iff,
    List.find?_isSome, List.find?_isSome]
  simp

/-! ## Replacing placeholders -/

/-- What a scan finds was recognised somewhere. -/
theorem Text.exists_of_found_mem {α : Type*} {find : List Char → Option (α × Nat)} {value : α}
    {covered : Nat} {chars : List Char} (h : Piece.found value ∈ scan find covered chars) :
    ∃ rest length, find rest = some (value, length) := by
  fun_induction scan find covered chars with
  | case1 => exact absurd h List.not_mem_nil
  | case2 covered c rest ih => exact ih h
  | case3 c rest found length hfound ih =>
      rcases List.mem_cons.mp h with heq | hrest
      · cases heq
        exact ⟨_, _, hfound⟩
      · exact ih hrest
  | case4 c rest hnone ih =>
      rcases List.mem_cons.mp h with heq | hrest
      · exact absurd heq (by simp)
      · exact ih hrest

/-- A text depends on the levels of the placeholders alone. -/
theorem substituteAliases_congr
    (h : ∀ name, IsPlaceholder name → aliasLevel? aliases name = aliasLevel? others name)
    (text : String) : substituteAliases aliases text = substituteAliases others text := by
  unfold substituteAliases
  congr 1
  refine List.flatMap_congr fun piece hpiece => ?_
  cases piece with
  | kept c => rfl
  | found found =>
      obtain ⟨rest, length, hfound⟩ := Text.exists_of_found_mem hpiece
      obtain ⟨hname, -, -⟩ := Text.bracedName?_eq_some_iff.mp hfound
      have hsame := h (String.ofList found) (by simpa [IsPlaceholder, Text.IsName] using hname)
      rw [replacePiece, replacePiece, hsame]

/-- A placeholder that is mapped is replaced by its level. -/
theorem substituteAliases_braced (hname : IsPlaceholder name) {level : Level}
    (h : aliasLevel? aliases name = some level) :
    substituteAliases aliases (String.ofList (Text.braced name.toList)) = level := by
  have hfound : Text.bracedName? (Text.braced name.toList ++ []) =
      some (name.toList, (Text.braced name.toList).length) :=
    Text.bracedName?_eq_some_iff.mpr ⟨hname, rfl, List.prefix_append _ _⟩
  have hscan : Text.scan Text.bracedName? 0 (Text.braced name.toList) = [.found name.toList] := by
    have hwhole := Text.scan_append (by simp [Text.braced]) hfound
    rwa [List.append_nil] at hwhole
  rw [substituteAliases, String.toList_ofList, hscan, List.flatMap_singleton, replacePiece,
    String.ofList_toList, h]
  exact String.ofList_toList

/-- A placeholder has no white space around it. -/
theorem trim_braced (name : String) :
    Text.trim (String.ofList (Text.braced name.toList)) =
      String.ofList (Text.braced name.toList) := by
  have hend : ['\x7d'].all Text.isBlank = false := by decide
  have hshape : Text.braced name.toList = ('$' :: '\x7b' :: name.toList) ++ ['\x7d'] := rfl
  have hstart : (Text.braced name.toList).dropWhile Text.isBlank = Text.braced name.toList := by
    rw [Text.braced, List.cons_append, List.dropWhile_cons]
    rfl
  rw [Text.trim, String.toList_ofList, hstart, hshape, Text.dropTrailingBlanks_append hend]
  rfl

theorem isBlankText_braced (name : String) :
    Text.isBlankText (String.ofList (Text.braced name.toList)) = false := by
  rw [Text.isBlankText, String.toList_ofList, Text.braced, List.cons_append, List.all_cons]
  rfl

/-! ## Anchors out of reach -/

/-- An anchor that is longer than each of some levels. -/
def Level.beyond (levels : List Level) : Level :=
  root ++ "_" ++ String.join levels

/-- No level lies in the scope of an anchor that is longer. -/
theorem Level.isInScope_beyond {levels : List Level} {level : Level} (h : level ∈ levels) :
    isInScope level (beyond levels) = false := by
  have hlength : level.toList.length ≤ (String.join levels).toList.length := by
    rw [String.toList_join]
    exact (List.sublist_flatten_of_mem (List.mem_map_of_mem h)).length_le
  have hlonger : level.toList.length < (beyond levels).toList.length ∧
      root.toList.length < (beyond levels).toList.length := by
    have hseparator : "_".toList.length = 1 := by decide
    have hroot : root.toList.length = 10 := by decide
    simp only [beyond, String.toList_append, List.length_append]
    omega
  have hne : beyond levels ≠ root := by
    intro hsame
    rw [hsame] at hlonger
    exact lt_irrefl _ hlonger.2
  rw [Bool.eq_false_iff]
  intro hscope
  exact absurd (length_le_of_isInScope hscope hne) (not_le.mpr hlonger.1)

theorem Level.isBlankText_beyond (levels : List Level) :
    Text.isBlankText (beyond levels) = false := by
  have hroot : root.toList.all Text.isBlank = false := by decide
  rw [Text.isBlankText, beyond, String.toList_append, String.toList_append, List.all_append,
    List.all_append, hroot]
  rfl

namespace NativeQuery

variable {anchor : Level} {template : String} {aggregates : AggregateMap}
variable {metadata : Metadata} {selection : Selection}

/-! ## Declaring aliases again -/

/-- The levels that come up depend on the first occurrences of levels alone. -/
theorem aliasedLevels_eq (aliases : List TableAlias) (selection : Selection) :
    aliasedLevels aliases selection =
      (keepFirst (aliases.map TableAlias.level)).filter fun level =>
        (selection.entityAt level).isSome :=
  keepFirst_filter _ _

/-- The query that is built when the aliases of another one are declared one after another. -/
def replayedJoin (anchor : Level) (template : String) (aliases : List TableAlias)
    (aggregates : AggregateMap) : Except QueryFault NativeQuery :=
  (NativeDraft.run { key := some anchor, template := some template, aggregates := aggregates }
    (aliases.map fun entry => .tableAlias entry.name entry.level)).buildJoin

/-- What is replayed are the aliases that a builder keeps, under the condition that neither the
anchor nor the template is blank. -/
theorem replayedJoin_eq (anchor : Level) (template : String) (aliases : List TableAlias)
    (aggregates : AggregateMap) :
    replayedJoin anchor template aliases aggregates =
      (requireKey .nativeJoin (some anchor)).bind fun anchor =>
        (requireTemplate (some template)).map fun template =>
          .join anchor template (declareAll TableAlias.name aliases) aggregates := by
  have hrun : ∀ (aliases : List TableAlias) (draft : NativeDraft),
      draft.run (aliases.map fun entry => .tableAlias entry.name entry.level) =
        ⟨draft.key, draft.template,
          aliases.foldl (fun declared entry => declareBy TableAlias.name entry declared)
            draft.aliases, draft.aggregates⟩ := by
    intro aliases
    induction aliases with
    | nil => exact fun draft => rfl
    | cons entry rest ih => exact fun draft => ih (draft.step (.tableAlias entry.name entry.level))
  rw [replayedJoin, hrun]
  rfl

/-- Compiling what is replayed is compiling the aliases that a builder keeps, and a blank anchor
or template is refused either way. -/
theorem replayedJoin_bind_compile (anchor : Level) (template : String)
    (aliases : List TableAlias) (aggregates : AggregateMap) (metadata : Metadata)
    (selection : Selection) :
    ((replayedJoin anchor template aliases aggregates).bind fun built =>
        (QuerySpec.native built).compile metadata selection) =
      (QuerySpec.native (.join anchor template (declareAll TableAlias.name aliases)
        aggregates)).compile metadata selection := by
  rw [replayedJoin_eq]
  cases hkey : requireKey .nativeJoin (some anchor) with
  | error fault =>
      show _ = Except.map _ (joinStatement anchor template _ aggregates _)
      rw [joinStatement, hkey]
      rfl
  | ok key =>
      cases (requireKey_some_eq_ok.mp hkey).2
      cases hgiven : requireTemplate (some template) with
      | error fault =>
          show _ = Except.map _ (joinStatement anchor template _ aggregates _)
          rw [joinStatement, hkey, hgiven]
          rfl
      | ok given =>
          cases (requireTemplate_some_eq_ok.mp hgiven).2
          rfl

/-- Aliases that agree with themselves declared again compile alike with every template. -/
theorem compile_eq_of_agree (h : AliasesAgree aliases) (anchor : Level) (template : String)
    (aggregates : AggregateMap) (metadata : Metadata) (selection : Selection) :
    (QuerySpec.native (.join anchor template aliases aggregates)).compile metadata selection =
      (QuerySpec.native (.join anchor template (declareAll TableAlias.name aliases)
        aggregates)).compile metadata selection := by
  have htext : ∀ text, substituteAliases aliases text =
      substituteAliases (declareAll TableAlias.name aliases) text := by
    refine substituteAliases_congr fun name hname => ?_
    rw [h.placeholders name hname, aliasLevel?_declareAll]
  have hlevels : ∀ selection, aliasedLevels aliases selection =
      aliasedLevels (declareAll TableAlias.name aliases) selection := by
    intro selection
    rw [aliasedLevels_eq, aliasedLevels_eq, h.levels]
  show (joinStatement anchor template aliases aggregates _).map _ =
    (joinStatement anchor template (declareAll TableAlias.name aliases) aggregates _).map _
  simp only [joinStatement, substituteKeys, htext, hlevels]

/-! ## Telling aliases apart -/

/-- Without aggregates a native query selects the columns of the levels that come up. -/
theorem compile_eq_mapM (hanchor : Text.isBlankText anchor = false)
    (htemplate : Text.isBlankText template = false) (aliases : List TableAlias)
    (metadata : Metadata) (selection : Selection) :
    (QuerySpec.native (.join anchor template aliases SortedMap.empty)).compile metadata selection =
      ((aliasedLevels aliases selection).mapM fun level =>
        selectItems (Request.ofSelection metadata selection) (.qualified anchor) level
          SortedMap.empty).map fun items => selectText (items.flatten.map SelectItem.text)
            (" " ++ substituteAliases aliases (Text.trim template)) := by
  have hkey : requireKey .nativeJoin (some anchor) = .ok anchor :=
    requireKey_some_eq_ok.mpr ⟨hanchor, rfl⟩
  have hgiven : requireTemplate (some template) = .ok template :=
    requireTemplate_some_eq_ok.mpr ⟨htemplate, rfl⟩
  have hchecked : checkedAggregates (Request.ofSelection metadata selection) anchor
      (.qualified anchor) (substituteKeys aliases SortedMap.empty) = .ok SortedMap.empty := rfl
  show (joinStatement anchor template aliases SortedMap.empty
    (Request.ofSelection metadata selection)).map Statement.text = _
  have hselection : (Request.ofSelection metadata selection).selection = selection := rfl
  simp only [joinStatement, hkey, hgiven, hchecked, hselection, bind, Except.bind]
  cases (aliasedLevels aliases selection).mapM fun level =>
    selectItems (Request.ofSelection metadata selection) (.qualified anchor) level
      SortedMap.empty with
  | error fault => rfl
  | ok items => rfl

/-- Levels that are all out of scope make a native query fail for the first of them. -/
theorem compile_of_outOfScope (hanchor : Text.isBlankText anchor = false)
    (htemplate : Text.isBlankText template = false) (aliases : List TableAlias)
    (metadata : Metadata)
    (h : ∀ level ∈ aliasedLevels aliases selection, Level.isInScope level anchor = false) :
    (QuerySpec.native (.join anchor template aliases SortedMap.empty)).compile metadata selection =
      match (aliasedLevels aliases selection).head? with
      | none => .ok ""
      | some level => .error (.outOfScope anchor level) := by
  rw [compile_eq_mapM hanchor htemplate]
  cases hlevels : aliasedLevels aliases selection with
  | nil => rfl
  | cons level rest =>
      rw [List.mapM_cons, selectItems_of_not_inScope (h level (hlevels ▸ List.mem_cons_self))]
      rfl

end NativeQuery

namespace Hospital

/-- A selection that registers hospitals at some levels. -/
def registeredAt (levels : List Level) : Selection where
  rootEntity := "Hospital"
  entities := SortedMap.ofList (levels.map fun level => (level, "Hospital"))

theorem entityAt_registeredAt {levels : List Level} {level : Level} {entity : String} :
    (registeredAt levels).entityAt level = some entity ↔ level ∈ levels ∧ entity = "Hospital" := by
  constructor
  · intro h
    obtain ⟨other, hother, heq⟩ := List.mem_map.mp (SortedMap.mem_of_get?_ofList h)
    obtain ⟨rfl, rfl⟩ := Prod.mk.inj heq
    exact ⟨hother, rfl⟩
  · rintro ⟨hlevel, rfl⟩
    have hkey : level ∈ (levels.map fun level => (level, "Hospital")).map Prod.fst := by
      simpa using hlevel
    obtain ⟨found, hfound⟩ := SortedMap.exists_get?_ofList hkey
    obtain ⟨other, -, heq⟩ := List.mem_map.mp (SortedMap.mem_of_get?_ofList hfound)
    obtain ⟨rfl, rfl⟩ := Prod.mk.inj heq
    exact hfound

theorem aliasedLevels_registeredAt (aliases : List TableAlias) (levels : List Level) :
    NativeQuery.aliasedLevels aliases (registeredAt levels) =
      (keepFirst (aliases.map TableAlias.level)).filter fun level => decide (level ∈ levels) := by
  rw [NativeQuery.aliasedLevels_eq]
  refine List.filter_congr fun level _ => ?_
  rw [Bool.eq_iff_iff, decide_eq_true_eq, Option.isSome_iff_exists]
  constructor
  · rintro ⟨entity, hentity⟩
    exact (entityAt_registeredAt.mp hentity).1
  · intro hlevel
    exact ⟨"Hospital", entityAt_registeredAt.mpr ⟨hlevel, rfl⟩⟩

/-- Hospitals are selected with their key at every level of the root. -/
theorem exists_selectItems_registeredAt {levels : List Level} {level : Level}
    (h : level ∈ levels) :
    ∃ items, selectItems (Request.ofSelection catalog.metadata (registeredAt levels))
      (.qualified Level.root) level SortedMap.empty = .ok items ∧ items ≠ [] := by
  have hknown : (catalog.metadata.entity? "Hospital").map Entity.joinKeyFields =
      some ["hospitalId"] := by decide +kernel
  obtain ⟨entity, hentity, hkeys⟩ := Option.map_eq_some_iff.mp hknown
  have hwell : entity.WellFormed := Catalog.wellFormed_of_ofDefs ofDefs_definitions hentity
  have hat : (Request.ofSelection catalog.metadata (registeredAt levels)).entityAt level =
      .ok entity := by
    refine Request.entityAt_eq_ok.mpr ⟨"Hospital", ?_, hentity⟩
    rw [Request.entityName?]
    show ((registeredAt levels).entityAt level).or _ = _
    rw [entityAt_registeredAt.mpr ⟨h, rfl⟩]
    rfl
  have hscope : (ColumnStyle.qualified Level.root).admits level = true := Level.isInScope_root level
  have hselected : ∃ items, selectItems (Request.ofSelection catalog.metadata
      (registeredAt levels)) (.qualified Level.root) level SortedMap.empty = .ok items :=
    (exists_selectItems_iff hwell hat hscope).mpr fun name hname => absurd hname List.not_mem_nil
  obtain ⟨items, hitems⟩ := hselected
  obtain ⟨column, hcolumn⟩ := hwell.resolve?_of_joinKey (hkeys ▸ List.mem_singleton.mpr rfl)
  have hname : "hospitalId" ∈ contributedNames entity (.qualified Level.root) level
      ((Request.ofSelection catalog.metadata (registeredAt levels)).fieldsAt level)
        SortedMap.empty := by
    refine List.mem_append_left _ (List.mem_append_left _ ?_)
    show "hospitalId" ∈ entity.joinKeyFields
    rw [hkeys]
    exact List.mem_singleton.mpr rfl
  have hmem := (mem_of_selectItems hitems).mpr ⟨entity, hat, _, hname, column, hcolumn, rfl⟩
  exact ⟨items, hitems, List.ne_nil_of_mem hmem⟩

/-- Where aliases bring up registered levels, there are columns. -/
theorem exists_columns_registeredAt (aliases : List TableAlias) {levels : List Level}
    (h : NativeQuery.aliasedLevels aliases (registeredAt levels) ≠ []) :
    ∃ parts, ((NativeQuery.aliasedLevels aliases (registeredAt levels)).mapM fun level =>
        selectItems (Request.ofSelection catalog.metadata (registeredAt levels))
          (.qualified Level.root) level SortedMap.empty) = .ok parts ∧
      parts.flatten.map SelectItem.text ≠ [] := by
  have hselected : ∀ level ∈ NativeQuery.aliasedLevels aliases (registeredAt levels),
      ∃ items, selectItems (Request.ofSelection catalog.metadata (registeredAt levels))
        (.qualified Level.root) level SortedMap.empty = .ok items ∧ items ≠ [] := by
    intro level hlevel
    rw [aliasedLevels_registeredAt] at hlevel
    exact exists_selectItems_registeredAt (of_decide_eq_true (List.mem_filter.mp hlevel).2)
  obtain ⟨parts, hparts⟩ := Outcome.exists_mapM_eq_ok fun level hlevel =>
    (hselected level hlevel).imp fun items hitems => hitems.1
  obtain ⟨first, hmem⟩ := List.exists_mem_of_ne_nil _ h
  obtain ⟨part, hpart, hmade⟩ := Outcome.exists_of_mem_mapM hparts hmem
  obtain ⟨items, hitems, hne⟩ := hselected first hmem
  cases Except.ok.inj (hmade.symm.trans hitems)
  obtain ⟨item, hitem⟩ := List.exists_mem_of_ne_nil part hne
  refine ⟨parts, hparts, ?_⟩
  exact List.ne_nil_of_mem (List.mem_map_of_mem (List.mem_flatten.mpr ⟨part, hpart, hitem⟩))

end Hospital

/-! ## Aliases that compile alike -/

section

variable (h : ∀ selection anchor template,
  (QuerySpec.native (.join anchor template aliases SortedMap.empty)).compile
      Hospital.catalog.metadata selection =
    (QuerySpec.native (.join anchor template (declareAll TableAlias.name aliases)
      SortedMap.empty)).compile Hospital.catalog.metadata selection)

include h

/-- Where every template compiles alike, the same levels come up in the same order. -/
theorem keepFirst_levels_eq_of_compile_eq :
    keepFirst (aliases.map TableAlias.level) =
      keepFirst ((declareAll TableAlias.name aliases).map TableAlias.level) := by
  by_contra hne
  obtain ⟨kept, hkept⟩ := exists_head?_filter_ne (nodup_keepFirst _) (nodup_keepFirst _) hne
  have hfails : ∀ list : List TableAlias,
      ∀ level ∈ NativeQuery.aliasedLevels list (Hospital.registeredAt kept),
        Level.isInScope level (Level.beyond kept) = false := by
    intro list level hlevel
    rw [Hospital.aliasedLevels_registeredAt] at hlevel
    exact Level.isInScope_beyond (of_decide_eq_true (List.mem_filter.mp hlevel).2)
  have hsame := h (Hospital.registeredAt kept) (Level.beyond kept) "FROM t"
  have hblank := Level.isBlankText_beyond kept
  rw [NativeQuery.compile_of_outOfScope hblank (by decide) _ _ (hfails _),
    NativeQuery.compile_of_outOfScope hblank (by decide) _ _ (hfails _),
    Hospital.aliasedLevels_registeredAt, Hospital.aliasedLevels_registeredAt] at hsame
  apply hkept
  split at hsame <;> split at hsame <;> simp_all

/-- Where every template compiles alike, every placeholder stands for the same level. -/
theorem aliasLevel?_eq_of_compile_eq (hname : IsPlaceholder name) :
    aliasLevel? aliases name = lastAliasLevel? aliases name := by
  have hsome := isSome_lastAliasLevel? aliases name
  cases hfirst : aliasLevel? aliases name with
  | none =>
      rw [hfirst] at hsome
      exact (Option.isNone_iff_eq_none.mp (by simpa using hsome)).symm
  | some first =>
      rw [hfirst] at hsome
      obtain ⟨last, hlast⟩ := Option.isSome_iff_exists.mp hsome
      have hlevels : NativeQuery.aliasedLevels aliases (Hospital.registeredAt [first]) =
          NativeQuery.aliasedLevels (declareAll TableAlias.name aliases)
            (Hospital.registeredAt [first]) := by
        rw [NativeQuery.aliasedLevels_eq, NativeQuery.aliasedLevels_eq,
          keepFirst_levels_eq_of_compile_eq h]
      have hmem : first ∈ NativeQuery.aliasedLevels aliases (Hospital.registeredAt [first]) := by
        obtain ⟨entry, hentry, rfl⟩ := Option.map_eq_some_iff.mp hfirst
        rw [Hospital.aliasedLevels_registeredAt]
        refine List.mem_filter.mpr ⟨mem_keepFirst.mpr ?_, by simp⟩
        exact List.mem_map_of_mem (List.mem_of_find?_eq_some hentry)
      obtain ⟨parts, hparts, hcolumns⟩ :=
        Hospital.exists_columns_registeredAt aliases (List.ne_nil_of_mem hmem)
      have hsame := h (Hospital.registeredAt [first]) Level.root
        (String.ofList (Text.braced name.toList))
      have hkept : aliasLevel? (declareAll TableAlias.name aliases) name = some last :=
        (aliasLevel?_declareAll aliases name).trans hlast
      rw [NativeQuery.compile_eq_mapM (by decide) (isBlankText_braced name),
        NativeQuery.compile_eq_mapM (by decide) (isBlankText_braced name), ← hlevels, hparts,
        trim_braced, substituteAliases_braced hname hfirst,
        substituteAliases_braced hname hkept] at hsame
      have htext := (selectText_inj hcolumns).mp (Except.ok.inj hsame)
      rw [hlast, Option.some.injEq]
      simpa [← String.toList_inj] using htext

end

/-- A join query that is read from a document means the same as the one that a builder makes of
its joins exactly when nothing is selected, or the first and the last declaration agree for every
level that is joined.  A native query that is read means the same as the one that a builder makes
of its aliases, over all accepted metadata and with all templates and aggregates, exactly when
its aliases agree with themselves declared again. -/
theorem QuerySpec.loaded_eq_replayed_iff (query : JoinQuery) (aliases : List TableAlias) :
    (∀ document, (QuerySpec.join query).WrittenAs document →
      ∀ (metadata : Metadata) (selection : Selection),
        ((QuerySpec.ofDocument? document).map fun spec => spec.compile metadata selection) =
            some (query.replayed.bind fun built =>
              (QuerySpec.join built).compile metadata selection) ↔
          ∀ plan, query.checkedPlan (Request.ofSelection metadata selection) = .ok plan →
            plan.items ≠ [] → ∀ clause ∈ plan.source.joins,
              query.joinType? clause.level = query.lastJoinType? clause.level) ∧
    ((∀ (definitions : List EntityDef) (catalog : Catalog) (selection : Selection)
        (anchor : Level) (template : String) (aggregates : AggregateMap) (document : Document),
      Catalog.ofDefs definitions = .ok catalog →
      (QuerySpec.native (.join anchor template aliases aggregates)).WrittenAs document →
      ((QuerySpec.ofDocument? document).map fun spec =>
          spec.compile catalog.metadata selection) =
        some ((NativeQuery.replayedJoin anchor template aliases aggregates).bind fun built =>
          (QuerySpec.native built).compile catalog.metadata selection)) ↔
      AliasesAgree aliases) := by
  constructor
  · intro document hdocument metadata selection
    rw [QuerySpec.ofDocument?_of_writtenAs hdocument, Option.map_some, Option.some.injEq,
      JoinQuery.replayed_bind_compile]
    exact JoinQuery.compile_redeclared_eq_iff query metadata selection
  constructor
  · intro h
    have hcompile : ∀ selection anchor template,
        (QuerySpec.native (.join anchor template aliases SortedMap.empty)).compile
            Hospital.catalog.metadata selection =
          (QuerySpec.native (.join anchor template (declareAll TableAlias.name aliases)
            SortedMap.empty)).compile Hospital.catalog.metadata selection := by
      intro selection anchor template
      have hwritten := QuerySpec.writtenAs_toDocument
        (.native (.join anchor template aliases SortedMap.empty))
      have hsame := h Hospital.definitions Hospital.catalog selection anchor template
        SortedMap.empty _ Hospital.ofDefs_definitions hwritten
      rw [QuerySpec.ofDocument?_of_writtenAs hwritten, Option.map_some, Option.some.injEq,
        NativeQuery.replayedJoin_bind_compile] at hsame
      exact hsame
    exact ⟨fun name hname => aliasLevel?_eq_of_compile_eq hcompile hname,
      keepFirst_levels_eq_of_compile_eq hcompile⟩
  · intro hagree definitions catalog selection anchor template aggregates document _ hdocument
    rw [QuerySpec.ofDocument?_of_writtenAs hdocument, Option.map_some, Option.some.injEq,
      NativeQuery.replayedJoin_bind_compile]
    exact NativeQuery.compile_eq_of_agree hagree anchor template aggregates _ selection

namespace Hospital

/-- A query that declares the surgeons twice, the second time with another type. -/
def surgeonsTwice : JoinQuery :=
  ⟨Level.root, [⟨"surgeon", .inner⟩, ⟨"surgeon", .leftOuter⟩], {}⟩

/-- Aliases that map a name twice to the same level. -/
def aliasesRepeated : List TableAlias :=
  [⟨"s", "surgeon"⟩, ⟨"h", Level.root⟩, ⟨"s", "surgeon"⟩]

/-- Aliases that map a name to the surgeons and then to their departments. -/
def aliasesRemapped : List TableAlias :=
  [⟨"s", "surgeon"⟩, ⟨"s", "surgeon_department"⟩]

/-- Mapping a name to the same level again changes nothing. -/
theorem aliasesAgree_repeated : AliasesAgree aliasesRepeated where
  placeholders := by
    intro name _
    by_cases hsurgeons : name = "s"
    · subst hsurgeons
      decide +kernel
    · by_cases hhospitals : name = "h"
      · subst hhospitals
        decide +kernel
      · simp [aliasLevel?, lastAliasLevel?, aliasesRepeated, Ne.symm hsurgeons, Ne.symm hhospitals]
  levels := by decide +kernel

/-- Surgeons that are declared with two types are joined by the first one when the query is read,
and a name that is mapped twice to the same level does no harm. -/
theorem repeated_declarations_loaded :
    ((QuerySpec.ofDocument? (QuerySpec.join surgeonsTwice).toDocument).map fun spec =>
        spec.compile catalog.metadata surgeonNames) ≠
      some (surgeonsTwice.replayed.bind fun built =>
        (QuerySpec.join built).compile catalog.metadata surgeonNames) ∧
    ∀ selection anchor template aggregates,
      ((QuerySpec.ofDocument? (QuerySpec.native
          (.join anchor template aliasesRepeated aggregates)).toDocument).map fun spec =>
        spec.compile catalog.metadata selection) =
      some ((NativeQuery.replayedJoin anchor template aliasesRepeated aggregates).bind
        fun built => (QuerySpec.native built).compile catalog.metadata selection) := by
  obtain ⟨hjoins, haliases⟩ := QuerySpec.loaded_eq_replayed_iff surgeonsTwice aliasesRepeated
  constructor
  · intro hsame
    have hagree := (hjoins _ (QuerySpec.writtenAs_toDocument _) catalog.metadata
      surgeonNames).mp hsame
    have hplan : (surgeonsTwice.checkedPlan (Request.ofSelection catalog.metadata
        surgeonNames)).map (fun plan => (plan.items.length, plan.source.joins.map
          JoinClause.level)) = .ok (4, ["surgeon"]) := by decide +kernel
    obtain ⟨plan, hplan, hfacts⟩ := Outcome.map_eq_ok.mp hplan
    obtain ⟨hlength, hlevels⟩ := Prod.mk.inj hfacts
    have hitems : plan.items ≠ [] := by
      intro hempty
      rw [hempty] at hlength
      exact absurd hlength (by decide)
    have hjoined : "surgeon" ∈ plan.source.joins.map JoinClause.level :=
      hlevels ▸ List.mem_singleton.mpr rfl
    obtain ⟨clause, hclause, hlevel⟩ := List.mem_map.mp hjoined
    have htypes := hagree plan hplan hitems clause hclause
    rw [hlevel] at htypes
    exact absurd htypes (by decide +kernel)
  · intro selection anchor template aggregates
    exact haliases.mpr aliasesAgree_repeated definitions catalog selection anchor template
      aggregates _ ofDefs_definitions (QuerySpec.writtenAs_toDocument _)

/-- Neither do lists of joins always mean the same when they are read and when they are declared
one after another, nor do lists of aliases. -/
theorem not_forall_loaded_eq_replayed :
    (¬ ∀ (definitions : List EntityDef) (catalog : Catalog) (selection : Selection)
      (query : JoinQuery) (document : Document), Catalog.ofDefs definitions = .ok catalog →
      (QuerySpec.join query).WrittenAs document →
      ((QuerySpec.ofDocument? document).map fun spec => spec.compile catalog.metadata selection) =
        some (query.replayed.bind fun built =>
          (QuerySpec.join built).compile catalog.metadata selection)) ∧
    ¬ ∀ (definitions : List EntityDef) (catalog : Catalog) (selection : Selection)
      (anchor : Level) (template : String) (aliases : List TableAlias)
      (aggregates : AggregateMap) (document : Document),
      Catalog.ofDefs definitions = .ok catalog →
      (QuerySpec.native (.join anchor template aliases aggregates)).WrittenAs document →
      ((QuerySpec.ofDocument? document).map fun spec => spec.compile catalog.metadata selection) =
        some ((NativeQuery.replayedJoin anchor template aliases aggregates).bind fun built =>
          (QuerySpec.native built).compile catalog.metadata selection) := by
  constructor
  · intro hclaim
    have hwritten := QuerySpec.writtenAs_toDocument (.join surgeonsTwice)
    have hsame := hclaim definitions catalog surgeonNames surgeonsTwice _ ofDefs_definitions
      hwritten
    rw [QuerySpec.ofDocument?_of_writtenAs hwritten, Option.map_some, Option.some.injEq] at hsame
    exact absurd hsame (by decide +kernel)
  · intro hclaim
    have hwritten := QuerySpec.writtenAs_toDocument
      (.native (.join Level.root "FROM surgeon_tbl $\x7bs\x7d" aliasesRemapped SortedMap.empty))
    have hsame := hclaim definitions catalog departmentsByPath Level.root _ aliasesRemapped _ _
      ofDefs_definitions hwritten
    rw [QuerySpec.ofDocument?_of_writtenAs hwritten, Option.map_some, Option.some.injEq] at hsame
    exact absurd hsame (by decide +kernel)

end Hospital

end SelectionSql
