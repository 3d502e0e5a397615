import SelectionSql.Sql.Clause

/-!
# Formulas - Conditions as trees and as tokens

A condition is a tree: operands with `AND` or `OR` between them, and an operand is a clause
or a condition in parentheses.  Its tokens are flat and leave `AND` out, yet its text can be
told from any two neighbouring tokens, since an operand begins with a clause or an opening
parenthesis and ends with a clause or a closing one.

Main results:

- `Framed.conditionText_append`: the text of two operands in a row.
- `Formula.conditionText_tokens`: the tokens of a formula have the text of the formula.
- `OrderTerm.orderText_tokens`: every direction stands after its own column.
- `statementText_sections`: a statement is its columns, its source and the sections it has parts for.
-/

namespace SelectionSql

universe u

/-! ## Conditions as trees -/

/-- What stands between two operands. -/
inductive Connective
  | conjunction
  | disjunction
  deriving DecidableEq

namespace Connective

/-- The word between the texts of two operands. -/
def text : Connective → String
  | conjunction => " AND "
  | disjunction => " OR "

/-- The tokens between those of two operands.  A conjunction has none. -/
def tokens : Connective → List ConditionToken
  | conjunction => []
  | disjunction => [.either]

end Connective

mutual

/-- One or more operands with a connective between each two of them. -/
inductive Formula
  | single (operand : Operand)
  | chain (operand : Operand) (connective : Connective) (rest : Formula)

/-- A clause, which is not empty, or a formula in parentheses. -/
inductive Operand
  | clause (level : Option Level) (sql : String) (nonempty : sql ≠ "")
  | group (formula : Formula)

end

mutual

/-- The text of a formula. -/
def Formula.text : Formula → String
  | .single operand => operand.text
  | .chain operand connective rest => operand.text ++ connective.text ++ rest.text

/-- The text of an operand.  Parentheses hug what they hold. -/
def Operand.text : Operand → String
  | .clause _ sql _ => sql
  | .group formula => "(" ++ formula.text ++ ")"

end

mutual

/-- The tokens that a formula is appended as. -/
def Formula.tokens : Formula → List ConditionToken
  | .single operand => operand.tokens
  | .chain operand connective rest => operand.tokens ++ connective.tokens ++ rest.tokens

/-- The tokens that an operand is appended as. -/
def Operand.tokens : Operand → List ConditionToken
  | .clause level sql _ => [.clause level sql]
  | .group formula => .groupOpen :: formula.tokens ++ [.groupClose]

end

/-! ## Framed tokens -/

namespace ConditionToken

/-- Whether an operand may begin with a token. -/
def Opens : ConditionToken → Prop
  | clause _ _ => True
  | groupOpen => True
  | _ => False

/-- Whether an operand may end with a token. -/
def Closes : ConditionToken → Prop
  | clause _ _ => True
  | groupClose => True
  | _ => False

variable {last first : ConditionToken}

/-- Between the end of one operand and the beginning of the next one stands `AND`. -/
theorem separatorBetween_operands (hlast : last.Closes) (hfirst : first.Opens) :
    separatorBetween last first = " AND " := by
  cases last with
  | clause => cases first <;> first | rfl | exact hfirst.elim
  | groupClose => cases first <;> first | rfl | exact hfirst.elim
  | groupOpen => exact hlast.elim
  | either => exact hlast.elim

/-- `OR` stands between spaces after an operand and before the next one. -/
theorem separatorBetween_either (hlast : last.Closes) (hfirst : first.Opens) :
    separatorBetween last .either = " " ∧ separatorBetween .either first = " " := by
  constructor
  · cases last <;> first | rfl | exact hlast.elim
  · cases first <;> first | rfl | exact hfirst.elim

/-- A closing parenthesis follows without a space. -/
theorem separatorBetween_groupClose : separatorBetween last .groupClose = "" := by
  cases last <;> rfl

end ConditionToken

/-- Tokens are framed when an operand may begin with the first and end with the last one. -/
structure Framed (tokens : List ConditionToken) : Prop where
  opens : ∃ first rest, tokens = first :: rest ∧ first.Opens
  closes : ∃ before last, tokens = before ++ [last] ∧ last.Closes

/-- A text is cut between two tokens at the separator that stands there. -/
theorem conditionText_append_cons (before after : List ConditionToken)
    (last first : ConditionToken) :
    conditionText (before ++ last :: first :: after) =
      conditionText (before ++ [last]) ++ separatorBetween last first ++
        conditionText (first :: after) := by
  induction before with
  | nil => rfl
  | cons token before ih =>
      cases before with
      | nil => simp [conditionText, String.append_assoc]
      | cons next before =>
          have hstep : ∀ rest, conditionText (token :: next :: before ++ rest) =
              token.text ++ separatorBetween token next ++
                conditionText (next :: before ++ rest) :=
            fun _ => rfl
          rw [hstep, hstep, ih]
          simp only [String.append_assoc]

namespace Framed

variable {tokens more : List ConditionToken}

/-- Framed tokens in a row are framed, whatever stands between them. -/
theorem append (htokens : Framed tokens) (hmore : Framed more) (between : List ConditionToken) :
    Framed (tokens ++ between ++ more) := by
  rcases htokens.opens with ⟨first, rest, rfl, hfirst⟩
  rcases hmore.closes with ⟨before, last, rfl, hlast⟩
  refine ⟨⟨first, _, rfl, hfirst⟩, ⟨_, last, (List.append_assoc _ _ _).symm, hlast⟩⟩

/-- Tokens in parentheses are framed. -/
theorem group (tokens : List ConditionToken) :
    Framed (.groupOpen :: tokens ++ [.groupClose]) :=
  ⟨⟨.groupOpen, _, rfl, trivial⟩, ⟨.groupOpen :: tokens, .groupClose, rfl, trivial⟩⟩

/-- Between framed tokens stands the word of the connective whose tokens stand there. -/
theorem conditionText_append (htokens : Framed tokens) (hmore : Framed more)
    (connective : Connective) :
    conditionText (tokens ++ connective.tokens ++ more) =
      conditionText tokens ++ connective.text ++ conditionText more := by
  rcases htokens.closes with ⟨before, last, rfl, hlast⟩
  rcases hmore.opens with ⟨first, rest, rfl, hfirst⟩
  cases connective with
  | conjunction =>
      have hsplit : before ++ [last] ++ Connective.tokens .conjunction ++ first :: rest =
          before ++ last :: first :: rest := by
        simp [Connective.tokens]
      rw [hsplit, conditionText_append_cons, ConditionToken.separatorBetween_operands hlast hfirst]
      rfl
  | disjunction =>
      have hsplit : before ++ [last] ++ Connective.tokens .disjunction ++ first :: rest =
          before ++ last :: .either :: first :: rest := by
        simp [Connective.tokens]
      have heither := ConditionToken.separatorBetween_either hlast hfirst
      have hor : conditionText (.either :: first :: rest) =
          "OR" ++ " " ++ conditionText (first :: rest) := by
        rw [← heither.2]
        rfl
      have hword : Connective.text .disjunction = " " ++ ("OR" ++ " ") := rfl
      rw [hsplit, conditionText_append_cons, heither.1, hor, hword]
      simp only [String.append_assoc]

/-- Parentheses hug the text of what they hold. -/
theorem conditionText_group (htokens : Framed tokens) :
    conditionText (.groupOpen :: tokens ++ [.groupClose]) = "(" ++ conditionText tokens ++ ")" := by
  have hopen : ∀ rest, conditionText (.groupOpen :: (tokens ++ rest)) =
      "(" ++ conditionText (tokens ++ rest) := by
    intro rest
    rcases htokens.opens with ⟨first, others, rfl, -⟩
    show "(" ++ "" ++ conditionText (first :: others ++ rest) = _
    rw [String.append_empty]
  have hclose : conditionText (tokens ++ [.groupClose]) = conditionText tokens ++ ")" := by
    rcases htokens.closes with ⟨before, last, rfl, -⟩
    rw [List.append_assoc]
    show conditionText (before ++ last :: .groupClose :: []) = _
    rw [conditionText_append_cons, ConditionToken.separatorBetween_groupClose,
      String.append_empty]
    rfl
  rw [List.cons_append, hopen, hclose, String.append_assoc]

end Framed

/-! ## The text of a formula -/

mutual

/-- The tokens of a formula are framed. -/
theorem Formula.framed_tokens : ∀ formula : Formula, Framed formula.tokens
  | .single operand => operand.framed_tokens
  | .chain operand connective rest =>
      operand.framed_tokens.append rest.framed_tokens connective.tokens

/-- The tokens of an operand are framed. -/
theorem Operand.framed_tokens : ∀ operand : Operand, Framed operand.tokens
  | .clause level sql _ => ⟨⟨_, _, rfl, trivial⟩, ⟨[], .clause level sql, rfl, trivial⟩⟩
  | .group formula => Framed.group formula.tokens

end

mutual

/-- The tokens of a formula have the text of the formula. -/
theorem Formula.conditionText_tokens :
    ∀ formula : Formula, conditionText formula.tokens = formula.text
  | .single operand => operand.conditionText_tokens
  | .chain operand connective rest => by
      rw [Formula.tokens, operand.framed_tokens.conditionText_append rest.framed_tokens,
        operand.conditionText_tokens, rest.conditionText_tokens, Formula.text]

/-- The tokens of an operand have the text of the operand. -/
theorem Operand.conditionText_tokens :
    ∀ operand : Operand, conditionText operand.tokens = operand.text
  | .clause _ _ _ => rfl
  | .group formula => by
      rw [Operand.tokens, formula.framed_tokens.conditionText_group,
        formula.conditionText_tokens, Operand.text]

end

/-- An operand has a text. -/
theorem Operand.text_ne_empty (operand : Operand) : operand.text ≠ "" := by
  cases operand with
  | clause level sql nonempty => exact nonempty
  | group formula => simp [Operand.text]

/-- A formula has a text. -/
theorem Formula.text_ne_empty (formula : Formula) : formula.text ≠ "" := by
  cases formula with
  | single operand => exact operand.text_ne_empty
  | chain operand connective rest => simp [Formula.text, operand.text_ne_empty]

/-! ## Terms of an order -/

/-- Texts with a separator between each two of them are the first text and every other one
after the separator. -/
theorem intercalate_cons_eq (separator text : String) (texts : List String) :
    String.intercalate separator (text :: texts) =
      text ++ String.join (texts.map fun other => separator ++ other) := by
  induction texts generalizing text with
  | nil => simp
  | cons next texts ih =>
      rw [String.intercalate_cons_cons, ih, List.map_cons, String.join_cons]
      simp only [String.append_assoc]

/-- The direction of an order. -/
inductive Direction
  | ascending
  | descending
  deriving DecidableEq

namespace Direction

/-- The word of a direction, with the space in front of it. -/
def text : Direction → String
  | ascending => " ASC"
  | descending => " DESC"

/-- The token of a direction. -/
def token : Direction → OrderToken
  | ascending => .ascending
  | descending => .descending

end Direction

/-- A column, which starts with no white space, and its direction, if it has one. -/
structure OrderTerm where
  column : String
  direction : Option Direction
  starts : ∃ first rest, column.toList = first :: rest ∧ Text.isBlank first = false

namespace OrderTerm

/-- The text of a term. -/
def text (term : OrderTerm) : String :=
  term.column ++ (term.direction.map Direction.text).getD ""

/-- The tokens that a term is appended as. -/
def tokens (term : OrderTerm) : List OrderToken :=
  .column term.column :: (term.direction.map Direction.token).toList

/-- The text of a term starts with no white space. -/
theorem exists_starts (term : OrderTerm) :
    ∃ first rest, term.text.toList = first :: rest ∧ Text.isBlank first = false := by
  rcases term.starts with ⟨first, rest, hcolumn, hblank⟩
  exact ⟨first, _, by rw [text, String.toList_append, hcolumn, List.cons_append], hblank⟩

theorem column_ne_empty (term : OrderTerm) : term.column ≠ "" := by
  rcases term.starts with ⟨first, rest, hcolumn, -⟩
  intro hempty
  rw [hempty] at hcolumn
  exact absurd hcolumn (by simp)

/-- The tokens of a term add its text, after a comma if something is written before it. -/
theorem orderTextFrom_tokens (term : OrderTerm) (written : String) (more : List OrderToken) :
    orderTextFrom written (term.tokens ++ more) =
      orderTextFrom ((if written = "" then written else written ++ ", ") ++ term.text) more := by
  obtain ⟨column, direction, -⟩ := term
  cases direction with
  | none => simp [tokens, text, orderTextFrom]
  | some direction =>
      cases direction <;>
        simp [tokens, text, orderTextFrom, Direction.token, Direction.text, String.append_assoc]

/-- Terms after something that is written follow with a comma each. -/
theorem orderTextFrom_terms {written : String} (h : written ≠ "") (terms : List OrderTerm) :
    orderTextFrom written (terms.flatMap tokens) =
      written ++ String.join (terms.map fun term => ", " ++ term.text) := by
  induction terms generalizing written with
  | nil => simp [orderTextFrom]
  | cons term terms ih =>
      have hwritten : written ++ ", " ++ term.text ≠ "" := by simp [h]
      rw [List.flatMap_cons, orderTextFrom_tokens, if_neg h, ih hwritten, List.map_cons]
      simp only [String.join_cons, String.append_assoc]

/-- The tokens of some terms have the texts of the terms with commas between them. -/
theorem orderText_tokens (terms : List OrderTerm) :
    orderText (terms.flatMap tokens) = String.intercalate ", " (terms.map text) := by
  cases terms with
  | nil => rfl
  | cons term terms =>
      have hterm : term.text ≠ "" := by simp [text, term.column_ne_empty]
      have hwritten : orderTextFrom "" ((term :: terms).flatMap tokens) =
          term.text ++ String.join ((terms.map text).map fun other => ", " ++ other) := by
        rw [List.flatMap_cons, orderTextFrom_tokens, if_pos rfl, String.empty_append,
          orderTextFrom_terms hterm, List.map_map]
        rfl
      rcases term.exists_starts with ⟨first, rest, hfirst, hblank⟩
      have hstarts : (term.text ++ String.join ((terms.map text).map fun other =>
          ", " ++ other)).toList = first :: (rest ++ (String.join ((terms.map text).map
            fun other => ", " ++ other)).toList) := by
        rw [String.toList_append, hfirst, List.cons_append]
      rw [orderText, hwritten, Text.trimStart_of_not_isBlank hstarts hblank, List.map_cons,
        intercalate_cons_eq]

end OrderTerm

/-! ## The sections of a statement -/

/-- What a statement is to have after its source. -/
structure Sections where
  filter : Option Formula := none
  groupBy : List GroupColumn := []
  having : Option Formula := none
  orderBy : List OrderTerm := []
  limit : Option String := none
  offsetWithLimit : Bool := false
  aggregates : AggregateMap := SortedMap.empty

/-- Some texts with commas between them, if there are any. -/
def listed (texts : List String) : Option String :=
  if texts = [] then none else some (String.intercalate ", " texts)

/-- Something is listed exactly when there is something. -/
theorem isSome_listed_map {α : Type u} (write : α → String) (values : List α) :
    (listed (values.map write)).isSome = true ↔ values ≠ [] := by
  cases values <;> simp [listed]

/-- The lead of a section and its part, or nothing without a part. -/
def partText (lead : String) (part : Option String) : String :=
  (part.map fun text => lead ++ text).getD ""

/-- A section with a lead is there exactly when it has a part. -/
theorem partText_ne_empty_iff {lead : String} (hlead : lead ≠ "") (part : Option String) :
    partText lead part ≠ "" ↔ part.isSome = true := by
  cases part with
  | none => simp [partText]
  | some text => simp [partText, hlead]

namespace Sections

/-- The conditions that hold the parts as tokens. -/
def conditions (sections : Sections) : Conditions where
  whereTokens := (sections.filter.map Formula.tokens).getD []
  havingTokens := (sections.having.map Formula.tokens).getD []
  orderBy := sections.orderBy.flatMap OrderTerm.tokens
  groupBy := sections.groupBy
  limit := sections.limit
  offsetWithLimit := sections.offsetWithLimit
  aggregates := sections.aggregates

/-- The lead of each section and its part, in the order of a statement.  The offset form
wins over a plain limit. -/
def parts (sections : Sections) : List (String × Option String) :=
  [(" WHERE ", sections.filter.map Formula.text),
    (" GROUP BY ", listed (sections.groupBy.map GroupColumn.text)),
    (" HAVING ", sections.having.map Formula.text),
    (" ORDER BY ", listed (sections.orderBy.map OrderTerm.text)),
    (" LIMIT ", if sections.offsetWithLimit then some "?, ?" else sections.limit)]

/-- The text of the sections that have a part. -/
def text (sections : Sections) : String :=
  String.join (sections.parts.map fun part => partText part.1 part.2)

end Sections

/-- The section of a formula that may be missing. -/
theorem sectionText_formula (lead : String) (formula : Option Formula) :
    sectionText lead (conditionText ((formula.map Formula.tokens).getD [])) =
      partText lead (formula.map Formula.text) := by
  cases formula with
  | none => rfl
  | some formula =>
      show sectionText lead (conditionText formula.tokens) = lead ++ formula.text
      rw [formula.conditionText_tokens, sectionText, if_neg formula.text_ne_empty]

/-- The section of grouping columns. -/
theorem groupSection_eq (groups : List GroupColumn) :
    groupSection groups = partText " GROUP BY " (listed (groups.map GroupColumn.text)) := by
  cases groups <;> rfl

/-- The section of ordering terms. -/
theorem sectionText_order (lead : String) (terms : List OrderTerm) :
    sectionText lead (orderText (terms.flatMap OrderTerm.tokens)) =
      partText lead (listed (terms.map OrderTerm.text)) := by
  rw [OrderTerm.orderText_tokens]
  cases terms with
  | nil => rfl
  | cons term terms =>
      have htext : String.intercalate ", " ((term :: terms).map OrderTerm.text) ≠ "" := by
        rw [List.map_cons, intercalate_cons_eq]
        simp [OrderTerm.text, term.column_ne_empty]
      rw [sectionText, if_neg htext]
      rfl

/-- The section of a limit. -/
theorem limitSection_eq (limit : Option String) :
    limitSection limit = partText " LIMIT " limit := by
  cases limit <;> rfl

/-- A statement that selects something is its columns, its source and the sections that it
has parts for: both conditions as they are printed, the grouping columns, the ordering terms
and the limit.  A section is there exactly when its part is. -/
theorem statementText_sections {columns : List String} (hcolumns : columns ≠ []) (source : String)
    (sections : Sections) :
    statementText columns source sections.conditions =
        "SELECT " ++ String.intercalate ", " columns ++ " FROM " ++ source ++ sections.text ∧
      (sectionText " WHERE " (conditionText sections.conditions.whereTokens) ≠ "" ↔
        sections.filter ≠ none) ∧
      (groupSection sections.conditions.groupBy ≠ "" ↔ sections.groupBy ≠ []) ∧
      (sectionText " HAVING " (conditionText sections.conditions.havingTokens) ≠ "" ↔
        sections.having ≠ none) ∧
      (sectionText " ORDER BY " (orderText sections.conditions.orderBy) ≠ "" ↔
        sections.orderBy ≠ []) ∧
      (limitSection sections.conditions.limitText ≠ "" ↔
        sections.offsetWithLimit = true ∨ sections.limit ≠ none) := by
  have hfilter : sectionText " WHERE " (conditionText sections.conditions.whereTokens) =
      partText " WHERE " (sections.filter.map Formula.text) := sectionText_formula _ _
  have hgroups : groupSection sections.conditions.groupBy =
      partText " GROUP BY " (listed (sections.groupBy.map GroupColumn.text)) := groupSection_eq _
  have hhaving : sectionText " HAVING " (conditionText sections.conditions.havingTokens) =
      partText " HAVING " (sections.having.map Formula.text) := sectionText_formula _ _
  have horder : sectionText " ORDER BY " (orderText sections.conditions.orderBy) =
      partText " ORDER BY " (listed (sections.orderBy.map OrderTerm.text)) := sectionText_order _ _
  have hlimit : limitSection sections.conditions.limitText =
      partText " LIMIT " (if sections.offsetWithLimit then some "?, ?" else sections.limit) :=
    limitSection_eq _
  refine ⟨?_, ?_, ?_, ?_, ?_, ?_⟩
  · have hsections : conditionSections sections.conditions = sections.text := by
      rw [conditionSections, hfilter, hgroups, hhaving, horder, hlimit]
      simp only [Sections.text, Sections.parts, List.map_cons, List.map_nil, String.join_cons,
        String.join_nil, String.append_empty, String.append_assoc]
    rw [statementText, selectText, if_neg hcolumns, sourceTail, hsections]
    simp only [String.append_assoc]
  · rw [hfilter, partText_ne_empty_iff (by decide), Option.isSome_map, Option.isSome_iff_ne_none]
  · rw [hgroups, partText_ne_empty_iff (by decide), isSome_listed_map]
  · rw [hhaving, partText_ne_empty_iff (by decide), Option.isSome_map, Option.isSome_iff_ne_none]
  · rw [horder, partText_ne_empty_iff (by decide), isSome_listed_map]
  · rw [hlimit, partText_ne_empty_iff (by decide)]
    cases sections.offsetWithLimit <;> simp [Option.isSome_iff_ne_none]

namespace Hospital

/-- Wards named like a pattern in one of two wings, or closed ones, with the large ones first. -/
def crowdedWards : Sections where
  filter := some (.chain (.clause (some "ward") "ward.name LIKE ?" (by decide)) .conjunction
    (.chain (.group (.chain (.clause none "wing = ?" (by decide)) .disjunction
        (.single (.group (.chain (.clause none "wing IS NULL" (by decide)) .conjunction
          (.single (.clause none "floor > ?" (by decide)))))))) .conjunction
      (.chain (.group (.single (.clause none "beds > ?" (by decide)))) .disjunction
        (.single (.clause none "closed = ?" (by decide))))))
  groupBy := [⟨some "ward", "name"⟩, ⟨none, "wing"⟩]
  having := some (.single (.clause none "COUNT(bed) > ?" (by decide)))
  orderBy := [⟨"beds", some .descending, ⟨'b', _, rfl, by decide⟩⟩,
    ⟨"name", none, ⟨'n', _, rfl, by decide⟩⟩, ⟨"wing", some .ascending, ⟨'w', _, rfl, by decide⟩⟩]
  limit := some "10"
  offsetWithLimit := true

/-- The statement for crowded wards as it is printed. -/
theorem statementText_crowdedWards :
    ["name", "wing"] ≠ [] ∧
    statementText ["name", "wing"] "ward_tbl ward" crowdedWards.conditions =
      "SELECT name, wing FROM ward_tbl ward WHERE ward.name LIKE ? AND " ++
        "(wing = ? OR (wing IS NULL AND floor > ?)) AND (beds > ?) OR closed = ? " ++
        "GROUP BY ward.name, wing HAVING COUNT(bed) > ? " ++
        "ORDER BY beds DESC, name, wing ASC LIMIT ?, ?" := by
  have hcolumns : ["name", "wing"] ≠ [] := by decide
  refine ⟨hcolumns, ?_⟩
  rw [(statementText_sections hcolumns "ward_tbl ward" crowdedWards).1]
  decide +kernel

end Hospital

end SelectionSql
