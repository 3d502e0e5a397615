import Mathlib.Algebra.BigOperators.Group.List.Basic
import Mathlib.Algebra.GroupWithZero.Nat
import SelectionSql.Proofs.Columns
import SelectionSql.Proofs.JoinPlan
import SelectionSql.Proofs.Entities
import SelectionSql.Proofs.Reach

/-!
# Marks - Where the question marks of a statement can come from

A parameter is written as a question mark.  Where the tables, columns and levels that a
statement names have none, neither have its columns and its source, and every mark of the
statement belongs to its conditions.

Main results:

- `Comparison.marks_sql`: a comparison has a mark for each of its parameters.
- `SelectItem.marks_text`, `JoinClause.marks_text`: items and joins have the marks of the
  names in them.
- `Catalog.unmarked_ofSelection`: entities of unmarked definitions are unmarked.
- `JoinQuery.unmarked_of_plan`: so are the columns and the source of a plan.
-/

namespace SelectionSql

/-! ## Counting marks -/

namespace Text

/-- The number of question marks in a text. -/
def marks (text : String) : Nat :=
  text.toList.count '?'

@[simp] theorem marks_append (first second : String) :
    marks (first ++ second) = marks first + marks second := by
  rw [marks, String.toList_append, List.count_append]
  rfl

/-- What a separator without marks separates keeps its marks. -/
theorem marks_intercalate {separator : String} (h : marks separator = 0) (parts : List String) :
    marks (String.intercalate separator parts) = (parts.map marks).sum := by
  induction parts with
  | nil => rfl
  | cons head rest ih =>
      cases rest with
      | nil => simp
      | cons next rest =>
          rw [String.intercalate_cons_cons, marks_append, marks_append, ih, h]
          simp

/-- Texts in a row have the marks of all of them. -/
theorem marks_join (parts : List String) :
    marks (String.join parts) = (parts.map marks).sum := by
  rw [marks, String.toList_join, List.flatMap_def, List.count_flatten, List.map_map]
  rfl

/-- Texts without marks have none together. -/
theorem sum_marks_eq_zero {parts : List String} (h : ∀ part ∈ parts, marks part = 0) :
    (parts.map marks).sum = 0 := by
  apply List.sum_eq_zero
  intro count hcount
  rcases List.mem_map.mp hcount with ⟨part, hpart, rfl⟩
  exact h part hpart

/-- A part of a text without marks has none. -/
theorem marks_eq_zero_of_append {text : String} {before part after : List Char}
    (h : marks text = 0) (htext : text.toList = before ++ part ++ after) :
    marks (String.ofList part) = 0 := by
  rw [marks, htext, List.count_append, List.count_append] at h
  rw [marks, String.toList_ofList]
  omega

end Text

namespace Comparison

/-- The number of parameters that the caller binds for a comparison. -/
def parameterCount : Comparison → Nat
  | between => 2
  | isNull => 0
  | isNotNull => 0
  | oneOf count => max count 1
  | _ => 1

/-- A comparison has a mark for each of its parameters. -/
theorem marks_sql (comparison : Comparison) :
    Text.marks comparison.sql = comparison.parameterCount := by
  cases comparison with
  | oneOf count =>
      have hlead : Text.marks "IN (" = 0 := by decide
      have hclose : Text.marks ")" = 0 := by decide
      have hmark : Text.marks "?" = 1 := by decide
      rw [sql, Text.marks_append, Text.marks_append, Text.marks_intercalate (by decide), hlead,
        hclose, placeholders, List.map_replicate, hmark]
      simp [parameterCount]
  | _ => decide

end Comparison

/-- An aggregate has the marks of what it is applied to. -/
theorem Aggregate.marks_apply (aggregate : Aggregate) (expression : String) :
    Text.marks (aggregate.apply expression) = Text.marks expression := by
  have hname : Text.marks aggregate.name = 0 := by cases aggregate <;> decide
  have hopen : Text.marks "(" = 0 := by decide
  have hclose : Text.marks ")" = 0 := by decide
  rw [Aggregate.apply, Text.marks_append, Text.marks_append, Text.marks_append, hname, hopen,
    hclose]
  omega

/-! ## Levels -/

namespace Level

variable {anchor level other : Level}

theorem marks_root : Text.marks root = 0 := by decide

/-- The parent of a level without marks has none. -/
theorem marks_parent (h : Text.marks level = 0) : Text.marks (parent level) = 0 := by
  unfold parent
  split
  next before after hcut =>
    have hsplit : level.toList = [] ++ before ++ separator :: after :=
      (Text.eq_of_cutLast hcut).1
    exact Text.marks_eq_zero_of_append h hsplit
  next => exact marks_root

/-- The levels on the way down to a level without marks have none. -/
theorem marks_of_mem_below (hscope : isInScope level anchor = true)
    (h : Text.marks level = 0) (hother : other ∈ below anchor level) :
    Text.marks other = 0 := by
  induction level, hscope using scope_induction with
  | hanchor => simp at hother
  | hstep level hscope hlevel ih =>
      rw [below_eq_append hscope hlevel, List.mem_append, List.mem_singleton] at hother
      rcases hother with hother | rfl
      · exact ih (marks_parent h) hother
      · exact h

/-- The alias prefix of a level without marks has none. -/
theorem marks_aliasPrefix (h : Text.marks level = 0) :
    Text.marks (aliasPrefix level anchor) = 0 := by
  have hseparator : Text.marks (String.singleton separator) = 0 := by decide
  unfold aliasPrefix
  split
  · decide
  simp only
  rw [Text.marks_append, hseparator, Nat.add_zero]
  split
  · exact h
  cases hpath : relative? level anchor with
  | none => exact h
  | some path =>
      have hsplit : level.toList = (anchor.toList ++ [separator]) ++ path.toList ++ [] := by
        rw [relative?_eq_some.mp hpath]
        simp
      have hmarks := Text.marks_eq_zero_of_append h hsplit
      rwa [String.ofList_toList] at hmarks

end Level

/-! ## Items and joins -/

/-- An item has no marks where its level and its column have none. -/
theorem SelectItem.marks_text {item : SelectItem} (hlevel : Text.marks item.level = 0)
    (hcolumn : Text.marks item.column = 0) : Text.marks item.text = 0 := by
  have hdot : Text.marks "." = 0 := by decide
  have has : Text.marks " AS " = 0 := by decide
  have hsource : Text.marks item.source = 0 := by
    unfold source ColumnStyle.key
    split
    · exact hcolumn
    · rw [Text.marks_append, Text.marks_append, hlevel, hdot, hcolumn]
  have hname : Text.marks item.outputName = 0 := by
    unfold outputName ColumnStyle.outputPrefix
    rw [Text.marks_append, hcolumn, Nat.add_zero]
    split
    · decide
    · exact Level.marks_aliasPrefix hlevel
  unfold text
  split
  · exact hcolumn
  · rw [Text.marks_append, Text.marks_append, hsource, has, hname]
  · rw [Text.marks_append, Text.marks_append, Aggregate.marks_apply, hsource, has, hname]

/-- A join has no marks where the names in it have none. -/
theorem JoinClause.marks_text {clause : JoinClause} (htable : Text.marks clause.table = 0)
    (hlevel : Text.marks clause.level = 0) (hparent : Text.marks clause.parent = 0)
    (hparentColumn : Text.marks clause.parentColumn = 0)
    (hchildColumn : Text.marks clause.childColumn = 0) : Text.marks clause.text = 0 := by
  have hkeyword : Text.marks clause.type.keyword = 0 := by cases clause.type <;> decide
  have hblank : Text.marks " " = 0 := by decide
  have hdot : Text.marks "." = 0 := by decide
  have hon : Text.marks " ON " = 0 := by decide
  have hequal : Text.marks " = " = 0 := by decide
  unfold text
  simp only [Text.marks_append, htable, hlevel, hparent, hparentColumn, hchildColumn, hkeyword,
    hblank, hdot, hon, hequal]

/-- A source has no marks where its table, its anchor and its joins have none. -/
theorem FromClause.marks_text {source : FromClause} (htable : Text.marks source.table = 0)
    (hanchor : Text.marks source.anchor = 0)
    (hjoins : ∀ clause ∈ source.joins, Text.marks clause.text = 0) :
    Text.marks source.text = 0 := by
  have hblank : Text.marks " " = 0 := by decide
  have hrest :
      Text.marks (String.join (source.joins.map fun clause => " " ++ clause.text)) = 0 := by
    rw [Text.marks_join]
    apply Text.sum_marks_eq_zero
    intro part hpart
    rcases List.mem_map.mp hpart with ⟨clause, hclause, rfl⟩
    rw [Text.marks_append, hblank, hjoins clause hclause]
  unfold text
  rw [Text.marks_append, Text.marks_append, Text.marks_append, htable, hblank, hanchor, hrest]

/-! ## Names of a catalog -/

/-- A definition is unmarked when its table and its columns have no marks. -/
structure EntityDef.Unmarked (definition : EntityDef) : Prop where
  table : Text.marks definition.table = 0
  columns : ∀ field ∈ definition.fields, Text.marks field.column = 0
  joinColumns : ∀ reference ∈ definition.references, ∀ columns ∈ reference.joinColumns,
    Text.marks columns.parent = 0 ∧ Text.marks columns.child = 0

instance (definition : EntityDef) : Decidable definition.Unmarked :=
  decidable_of_iff (Text.marks definition.table = 0 ∧
      (∀ field ∈ definition.fields, Text.marks field.column = 0) ∧
      ∀ reference ∈ definition.references, ∀ columns ∈ reference.joinColumns,
        Text.marks columns.parent = 0 ∧ Text.marks columns.child = 0)
    ⟨fun h => ⟨h.1, h.2.1, h.2.2⟩, fun h => ⟨h.table, h.columns, h.joinColumns⟩⟩

/-- An entity is unmarked when its table and the columns that it answers with have no marks. -/
structure Entity.Unmarked (entity : Entity) : Prop where
  table : Text.marks entity.table = 0
  columns : ∀ name column, entity.resolve? name = some column → Text.marks column = 0
  joinColumns : ∀ reference columns, entity.firstJoinColumns? reference = some columns →
    Text.marks columns.parent = 0 ∧ Text.marks columns.child = 0

/-- What is derived from an unmarked definition is unmarked. -/
theorem Entity.unmarked_of_ofDef {definition : EntityDef} {entity : Entity}
    (hunmarked : definition.Unmarked) (h : ofDef definition = .ok entity) : entity.Unmarked := by
  rcases ofDef_eq_ok.mp h with ⟨index, hindex, rfl⟩
  have hfield : ∀ name column, (ofIndexed definition index).columnForField name = some column →
      Text.marks column = 0 := by
    intro name column hcolumn
    rcases (FieldIndex.columnOf_eq_some hindex).mp hcolumn with ⟨field, hmem, -, rfl⟩
    exact hunmarked.columns field hmem
  refine ⟨hunmarked.table, ?_, ?_⟩
  · intro name column hresolve
    rcases exists_columnForField_of_resolve? hresolve with ⟨field, hcolumn⟩
    exact hfield field column hcolumn
  · intro reference columns hcolumns
    rcases Option.bind_eq_some_iff.mp hcolumns with ⟨pairs, hpairs, hhead⟩
    have hentry := SortedMap.mem_of_get?_ofList hpairs
    rcases List.mem_map.mp hentry with ⟨declared, hdeclared, heq⟩
    cases (Prod.mk.inj heq).2
    have hmem := (List.mem_filter.mp hdeclared).1
    exact hunmarked.joinColumns declared hmem columns (List.mem_of_head? hhead)

/-- A request is unmarked when its entities are. -/
def Request.Unmarked (request : Request) : Prop :=
  request.Throughout Entity.Unmarked

/-- Every request over a catalog of unmarked definitions is unmarked. -/
theorem Catalog.unmarked_ofSelection {definitions : List EntityDef} {catalog : Catalog}
    (h : ofDefs definitions = .ok catalog)
    (hunmarked : ∀ definition ∈ definitions, definition.Unmarked) (selection : Selection) :
    (Request.ofSelection catalog.metadata selection).Unmarked :=
  throughout_ofSelection h (fun definition hdefinition _ hderived =>
    Entity.unmarked_of_ofDef (hunmarked definition hdefinition) hderived) selection

/-! ## Columns and sources -/

section

variable {request : Request} {style : ColumnStyle} {level : Level} {aggregates : AggregateMap}

/-- The items of a level without marks have none. -/
theorem Request.Unmarked.marks_of_selectItems {items : List SelectItem}
    (hrequest : request.Unmarked) (hlevel : Text.marks level = 0)
    (h : selectItems request style level aggregates = .ok items) :
    ∀ item ∈ items, Text.marks item.text = 0 := by
  intro item hitem
  rcases selectItems_eq_ok.mp h with ⟨-, entity, hentity, columns, hcolumns, rfl⟩
  rcases List.mem_map.mp hitem with ⟨column, hcolumn, rfl⟩
  rcases Outcome.exists_of_mapM hcolumns (mem_keepFirst.mp hcolumn) with ⟨name, -, hresolve⟩
  have hunmarked := (hrequest.entityAt hentity).columns name column
    (Entity.resolve_eq_ok.mp hresolve)
  exact SelectItem.marks_text hlevel hunmarked

/-- The join of a level without marks has none. -/
theorem Request.Unmarked.marks_of_joinClause {join : DeclaredJoin} {clause : JoinClause}
    (hrequest : request.Unmarked) (hlevel : Text.marks join.level = 0)
    (h : joinClause request join = .ok clause) : Text.marks clause.text = 0 := by
  rcases Outcome.bind_eq_ok.mp h with ⟨parent, hparent, h⟩
  rcases Outcome.bind_eq_ok.mp h with ⟨child, hchild, h⟩
  split at h
  next columns hcolumns =>
    cases Except.ok.inj h
    rcases (hrequest.entityAt hparent).joinColumns _ _ hcolumns with ⟨hfirst, hsecond⟩
    exact JoinClause.marks_text (hrequest.entityAt hchild).table hlevel
      (Level.marks_parent hlevel) hfirst hsecond
  next => exact absurd h (by simp)

namespace JoinQuery

variable {query : JoinQuery} {plan : JoinPlan}

/-- A join query is unmarked when the levels that it names have no marks. -/
structure Unmarked (query : JoinQuery) : Prop where
  anchor : Text.marks query.anchor = 0
  joins : ∀ join ∈ query.joins, Text.marks join.level = 0

/-- The levels that an unmarked query joins have no marks. -/
theorem Unmarked.mem_levels_of_plan (hquery : query.Unmarked)
    (h : query.plan request aggregates = .ok plan) (hlevel : level ∈ plan.levels) :
    Text.marks level = 0 := by
  rcases plan_eq_ok.mp h with ⟨prepared, -, hcheck, -, -, -⟩
  rcases (JoinQuery.mem_levels_of_plan h).mp hlevel with rfl | ⟨join, hjoin, -, hbelow⟩
  · exact hquery.anchor
  · exact Level.marks_of_mem_below (isInScope_of_checkJoins hcheck hjoin)
      (hquery.joins join hjoin) hbelow

/-- The columns and the source of an unmarked query over an unmarked request have no marks. -/
theorem unmarked_of_plan (hquery : query.Unmarked) (hrequest : request.Unmarked)
    (h : query.plan request aggregates = .ok plan) :
    (∀ item ∈ plan.items, Text.marks item.text = 0) ∧ Text.marks plan.source.text = 0 := by
  have hlevels : ∀ level ∈ plan.levels, Text.marks level = 0 :=
    fun level hlevel => hquery.mem_levels_of_plan h hlevel
  rcases plan_eq_ok.mp h with ⟨prepared, anchored, -, hprepared, hanchored, hjoins⟩
  have hsame : prepared.Unmarked := by
    rcases contains_of_prepare hprepared with ⟨fields, rfl, -⟩
    exact hrequest
  constructor
  · intro item hitem
    rcases items_of_plan hprepared h with ⟨parts, hparts, hitems⟩
    rw [hitems] at hitem
    rcases List.mem_flatten.mp hitem with ⟨part, hpart, hmem⟩
    rcases Outcome.exists_of_mapM hparts hpart with ⟨level, hlevel, hselected⟩
    exact hsame.marks_of_selectItems (hlevels level hlevel) hselected item hmem
  · rcases Outcome.bind_eq_ok.mp hanchored with ⟨entity, hentity, hanchored⟩
    rcases Outcome.bind_eq_ok.mp hanchored with ⟨items, -, hanchored⟩
    cases Except.ok.inj hanchored
    rcases Outcome.bind_eq_ok.mp hjoins with ⟨joined, hjoined, hjoins⟩
    cases Except.ok.inj hjoins
    refine FromClause.marks_text (hsame.entityAt hentity).table hquery.anchor ?_
    intro clause hclause
    rcases List.mem_map.mp hclause with ⟨entry, hentry, rfl⟩
    rcases Outcome.exists_of_mapM hjoined hentry with ⟨join, -, hjoin⟩
    have hlevel : Text.marks join.level = 0 := by
      rw [← JoinPlan.level_of_joinLevel hjoin]
      apply hlevels
      rw [JoinPlan.levels_extend]
      exact List.mem_append_right _ (List.mem_map_of_mem hentry)
    rcases Outcome.bind_eq_ok.mp hjoin with ⟨columns, -, hjoin⟩
    rcases Outcome.bind_eq_ok.mp hjoin with ⟨made, hmade, hjoin⟩
    cases Except.ok.inj hjoin
    exact hsame.marks_of_joinClause hlevel hmade

end JoinQuery

end

end SelectionSql
