import SelectionSql.Proofs.AliasPrefixes
import SelectionSql.Proofs.Columns
import SelectionSql.Proofs.JoinPlan
import SelectionSql.Proofs.Statements

/-!
# Output names - When two columns of a statement share a name

An output name is the alias prefix of a level and a column of it.  Prefixes nest as
levels do, so names can only collide along one way down from the anchor: a column of
an upper level has to spell out the rest of the way to a lower one and a column there.

Main results:

- `SelectItem.outputName_eq_iff`: when two columns share a name.
- `JoinQuery.nodup_outputNames_iff`: when the output names of a statement are distinct.
-/

namespace SelectionSql

/-! ## Two columns of one name -/

/-- Two texts of two parts each are equal exactly when the first part of one goes on in the
other by what is left of its second part. -/
theorem append_eq_append_iff_exists {first second third fourth : String} :
    first ++ second = third ++ fourth ↔
      (∃ rest, third = first ++ rest ∧ second = rest ++ fourth) ∨
        ∃ rest, first = third ++ rest ∧ fourth = rest ++ second := by
  simp only [← String.toList_inj, String.toList_append]
  rw [List.append_eq_append_iff]
  constructor
  · intro hcase
    rcases hcase with ⟨rest, hthird, hsecond⟩ | ⟨rest, hfirst, hfourth⟩
    · exact Or.inl ⟨String.ofList rest, by simpa using ⟨hthird, hsecond⟩⟩
    · exact Or.inr ⟨String.ofList rest, by simpa using ⟨hfirst, hfourth⟩⟩
  · intro hcase
    rcases hcase with ⟨rest, hthird, hsecond⟩ | ⟨rest, hfirst, hfourth⟩
    · exact Or.inl ⟨rest.toList, hthird, hsecond⟩
    · exact Or.inr ⟨rest.toList, hfirst, hfourth⟩

namespace SelectItem

variable {upper lower : SelectItem} {anchor : Level}

/-- The column of an item spells out the way down to the level of another one and the column
selected there. -/
def SpellsOut (upper lower : SelectItem) : Prop :=
  lower.level ≠ upper.level ∧ Level.isInScope lower.level upper.level = true ∧
    upper.column = Level.aliasPrefix lower.level upper.level ++ lower.column

/-- A name that goes on after an upper level belongs to the same column, or spells one out. -/
theorem eq_or_spellsOut {rest : String} (hupper : Level.isInScope upper.level anchor = true)
    (hlower : Level.isInScope lower.level anchor = true)
    (hlevel : Level.aliasPrefix lower.level anchor =
      Level.aliasPrefix upper.level anchor ++ rest)
    (hcolumn : upper.column = rest ++ lower.column) :
    (upper.level, upper.column) = (lower.level, lower.column) ∨ upper.SpellsOut lower := by
  rcases (Level.aliasPrefix_eq_append_iff hupper hlower).mp hlevel with ⟨hscope, rfl⟩
  by_cases heq : lower.level = upper.level
  · rw [heq, Level.aliasPrefix_self, String.empty_append] at hcolumn
    exact Or.inl (Prod.ext heq.symm hcolumn)
  · exact Or.inr ⟨heq, hscope, hcolumn⟩

/-- A column that spells out another one has its name. -/
theorem SpellsOut.outputName_eq (h : upper.SpellsOut lower)
    (hupper : Level.isInScope upper.level anchor = true)
    (hupperStyle : upper.style = .qualified anchor)
    (hlowerStyle : lower.style = .qualified anchor) : upper.outputName = lower.outputName := by
  rcases h with ⟨-, hscope, hcolumn⟩
  rw [outputName, outputName, hupperStyle, hlowerStyle, hcolumn]
  show Level.aliasPrefix upper.level anchor ++ _ = Level.aliasPrefix lower.level anchor ++ _
  rw [← Level.aliasPrefix_append hupper hscope, String.append_assoc]

/-- Two columns have one name exactly when they are the same column or one of them spells
out the other. -/
theorem outputName_eq_iff (hupper : Level.isInScope upper.level anchor = true)
    (hlower : Level.isInScope lower.level anchor = true)
    (hupperStyle : upper.style = .qualified anchor)
    (hlowerStyle : lower.style = .qualified anchor) :
    upper.outputName = lower.outputName ↔
      (upper.level, upper.column) = (lower.level, lower.column) ∨
        upper.SpellsOut lower ∨ lower.SpellsOut upper := by
  constructor
  · intro h
    rw [outputName, outputName, hupperStyle, hlowerStyle] at h
    rcases append_eq_append_iff_exists.mp h with ⟨rest, hlevel, hcolumn⟩ | ⟨rest, hlevel, hcolumn⟩
    · rcases eq_or_spellsOut hupper hlower hlevel hcolumn with heq | hspells
      · exact Or.inl heq
      · exact Or.inr (Or.inl hspells)
    · rcases eq_or_spellsOut hlower hupper hlevel hcolumn with heq | hspells
      · exact Or.inl heq.symm
      · exact Or.inr (Or.inr hspells)
  · intro hcase
    rcases hcase with heq | hspells | hspells
    · rcases Prod.mk.inj heq with ⟨hlevel, hcolumn⟩
      rw [outputName, outputName, hupperStyle, hlowerStyle, hlevel, hcolumn]
    · exact hspells.outputName_eq hupper hupperStyle hlowerStyle
    · exact (hspells.outputName_eq hlower hlowerStyle hupperStyle).symm

/-- A qualified item is renamed to its output name. -/
theorem text_of_qualified (hstyle : upper.style = .qualified anchor) :
    ∃ source, upper.text = source ++ " AS " ++ upper.outputName := by
  unfold text
  rw [hstyle]
  cases upper.aggregate with
  | none => exact ⟨_, rfl⟩
  | some aggregate => exact ⟨_, rfl⟩

end SelectItem

/-! ## The names of a statement -/

namespace JoinQuery

variable {query : JoinQuery} {request : Request} {statement : Statement}

/-- The items of a join query are columns in the scope of its anchor, none of them twice. -/
theorem items_of_statement (h : query.statement request = .ok statement) :
    (∀ item ∈ statement.items, item.style = .qualified query.anchor ∧
        Level.isInScope item.level query.anchor = true) ∧
      (statement.items.map fun item => (item.level, item.column)).Nodup := by
  rcases Outcome.map_eq_ok.mp h with ⟨plan, hplan, rfl⟩
  rcases checkedPlan_eq_ok.mp hplan with ⟨-, checked, -, hplan⟩
  rcases plan_eq_ok.mp hplan with ⟨prepared, -, -, hprepared, -, -⟩
  rcases nodup_levels_of_plan hplan with ⟨hnodup, hscope⟩
  rcases items_of_plan hprepared hplan with ⟨parts, hparts, hitems⟩
  show (∀ item ∈ plan.items, _) ∧ (plan.items.map _).Nodup
  rw [hitems]
  refine ⟨?_, nodup_positions hnodup hparts⟩
  intro item hitem
  rcases exists_of_mem_flatten hparts hitem with ⟨hlevel, heq⟩
  refine ⟨?_, hscope item.level hlevel⟩
  rw [heq]
  rfl

/-- Every item of a join query is renamed to the alias prefix of its level and its column,
and these names are distinct exactly when no selected column spells out the way down to
another level and a column selected there. -/
theorem nodup_outputNames_iff {metadata : Metadata} {selection : Selection}
    (h : (QuerySpec.join query).statement metadata selection = .ok statement) :
    (∀ item ∈ statement.items,
      item.outputName = Level.aliasPrefix item.level query.anchor ++ item.column ∧
        ∃ source, item.text = source ++ " AS " ++ item.outputName) ∧
    ((statement.items.map SelectItem.outputName).Nodup ↔
      ¬ ∃ upper ∈ statement.items, ∃ lower ∈ statement.items, upper.SpellsOut lower) := by
  rcases items_of_statement h with ⟨hitems, hpositions⟩
  refine ⟨?_, ?_⟩
  · intro item hitem
    have hstyle := (hitems item hitem).1
    refine ⟨?_, SelectItem.text_of_qualified hstyle⟩
    rw [SelectItem.outputName, hstyle]
    rfl
  rw [List.nodup_map_iff_inj_on (List.Nodup.of_map _ hpositions)]
  constructor
  · rintro hdistinct ⟨upper, hupper, lower, hlower, hspells⟩
    have hname := hspells.outputName_eq (hitems upper hupper).2 (hitems upper hupper).1
      (hitems lower hlower).1
    have heq := hdistinct upper hupper lower hlower hname
    exact hspells.1 (congrArg SelectItem.level heq.symm)
  · intro hnone upper hupper lower hlower hname
    rcases (SelectItem.outputName_eq_iff (hitems upper hupper).2 (hitems lower hlower).2
      (hitems upper hupper).1 (hitems lower hlower).1).mp hname with heq | hspells | hspells
    · exact List.inj_on_of_nodup_map hpositions hupper hlower heq
    · exact absurd ⟨upper, hupper, lower, hlower, hspells⟩ hnone
    · exact absurd ⟨lower, hlower, upper, hupper, hspells⟩ hnone

end JoinQuery

namespace Hospital

/-- A request for the surgeon's name that hospitals store and for that of their surgeons. -/
def surgeonNames : Selection :=
  ((Selection.new "Hospital").withFields Level.root ["surgeonName"]).withFields "surgeon" ["name"]

/-- A query that joins the surgeons of hospitals. -/
def surgeons : JoinQuery :=
  ⟨Level.root, [⟨"surgeon", .inner⟩], {}⟩

/-- The two names of surgeons collide: one is spelled out by the other. -/
theorem surgeonName_spelled_out : ∃ statement,
    (QuerySpec.join surgeons).statement catalog.metadata surgeonNames = .ok statement ∧
      ∃ upper ∈ statement.items, ∃ lower ∈ statement.items, upper.SpellsOut lower := by
  have h : ((QuerySpec.join surgeons).statement catalog.metadata surgeonNames).map
      (fun statement => decide (statement.items.map SelectItem.outputName).Nodup) =
        .ok false := by decide +kernel
  rcases Outcome.map_eq_ok.mp h with ⟨statement, hstatement, hnames⟩
  refine ⟨statement, hstatement, ?_⟩
  by_contra hnone
  exact of_decide_eq_false hnames ((JoinQuery.nodup_outputNames_iff hstatement).2.mpr hnone)

/-- Output names of accepted metadata are not always distinct. -/
theorem not_forall_nodup_outputNames :
    ¬ ∀ (definitions : List EntityDef) (catalog : Catalog) (selection : Selection)
        (query : JoinQuery) (statement : Statement),
      Catalog.ofDefs definitions = .ok catalog →
      (QuerySpec.join query).statement catalog.metadata selection = .ok statement →
      statement.text ≠ "" → (statement.items.map SelectItem.outputName).Nodup := by
  intro hclaim
  have h : ((QuerySpec.join surgeons).statement catalog.metadata surgeonNames).map
      (fun statement => (statement.text,
        decide (statement.items.map SelectItem.outputName).Nodup)) =
      .ok ("SELECT rootObject.hospital_id AS hospital_id, " ++
        "rootObject.surgeon_name AS surgeon_name, " ++
        "surgeon.surgeon_id AS surgeon_surgeon_id, surgeon.name AS surgeon_name" ++
        " FROM hospital_tbl rootObject INNER JOIN surgeon_tbl surgeon" ++
        " ON rootObject.hospital_id = surgeon.hospital_id", false) := by decide +kernel
  rcases Outcome.map_eq_ok.mp h with ⟨statement, hstatement, hnames⟩
  rcases Prod.mk.inj hnames with ⟨htext, hcollide⟩
  have hdistinct := hclaim definitions catalog surgeonNames surgeons statement ofDefs_definitions
    hstatement (by rw [htext]; decide)
  exact of_decide_eq_false hcollide hdistinct

end Hospital

end SelectionSql
