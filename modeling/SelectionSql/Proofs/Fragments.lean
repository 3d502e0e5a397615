import Mathlib.Data.List.Range
import SelectionSql.Proofs.Marks
import SelectionSql.Query.Draft
import SelectionSql.Sql.Clause

/-!
# Fragments - The calls behind the pieces of a statement

A builder appends comparisons to two lists, and a statement writes the `WHERE` list before
the `HAVING` list.  Cutting a statement into fragments, each of which comes from one call or
from none, tells for every question mark the call that it belongs to.

Main results:

- `Fragment.length_markCalls`: every mark of a text is told.
- `joined_statementFragments`: the fragments of a statement make up its text.
- `call_of_mem_statementFragments`: those that come from a call are what it appends.
- `markCalls_statementFragments`: the marks are those of the `WHERE` calls, and after them
  those of the `HAVING` calls.
- `pairwise_bindingOrder_iff`: when these follow one another in the order of the calls.
-/

namespace SelectionSql

/-! ## Fragments -/

/-- A piece of a statement and the call that it comes from, if any. -/
structure Fragment where
  call : Option Nat
  text : String

namespace Fragment

/-- The text that fragments make up. -/
def joined (fragments : List Fragment) : String :=
  String.join (fragments.map text)

/-- The calls that the question marks of fragments come from, from left to right. -/
def markCalls (fragments : List Fragment) : List (Option Nat) :=
  fragments.flatMap fun fragment => List.replicate (Text.marks fragment.text) fragment.call

@[simp] theorem joined_cons (fragment : Fragment) (rest : List Fragment) :
    joined (fragment :: rest) = fragment.text ++ joined rest := by
  rw [← String.toList_inj]
  simp [joined, String.toList_join]

@[simp] theorem joined_append (first second : List Fragment) :
    joined (first ++ second) = joined first ++ joined second := by
  rw [← String.toList_inj]
  simp [joined, String.toList_join]

/-- Every mark of the text is told. -/
theorem length_markCalls (fragments : List Fragment) :
    (markCalls fragments).length = Text.marks (joined fragments) := by
  induction fragments with
  | nil => rfl
  | cons fragment rest ih =>
      rw [joined_cons, Text.marks_append, ← ih]
      simp [markCalls]

/-- A fragment without marks tells nothing. -/
theorem markCalls_cons_of_unmarked {fragment : Fragment} (h : Text.marks fragment.text = 0)
    (rest : List Fragment) : markCalls (fragment :: rest) = markCalls rest := by
  rw [markCalls, List.flatMap_cons, h]
  rfl

end Fragment

/-! ## Calls that append comparisons -/

namespace ConditionStep

/-- The token that a call appends to the `WHERE` list for a comparison. -/
def whereToken? : ConditionStep → Option ConditionToken
  | filter column comparison =>
      some (.clause column.tag (column.text ++ " " ++ comparison.sql))
  | _ => none

/-- The token that a call appends to the `HAVING` list for a comparison. -/
def havingToken? : ConditionStep → Option ConditionToken
  | having column comparison =>
      some (.clause column.tag (column.text ++ " " ++ comparison.sql))
  | havingAggregate function column comparison =>
      some (.clause column.tag (function.apply column.text ++ " " ++ comparison.sql))
  | _ => none

/-- A call that appends a comparison of a column whose text has no marks. -/
def Compares : ConditionStep → Prop
  | filter column _ => Text.marks column.text = 0
  | having column _ => Text.marks column.text = 0
  | havingAggregate _ column _ => Text.marks column.text = 0
  | _ => False

/-- The number of parameters that a call leaves to be bound. -/
def parameterCount : ConditionStep → Nat
  | filter _ comparison => comparison.parameterCount
  | having _ comparison => comparison.parameterCount
  | havingAggregate _ _ comparison => comparison.parameterCount
  | _ => 0

/-- A call that appends a token with parameters to one of the lists. -/
def Binds (token? : ConditionStep → Option ConditionToken) (call : ConditionStep) : Prop :=
  (token? call).isSome = true ∧ call.parameterCount ≠ 0

/-- The token of a comparison has a mark for each of its parameters. -/
theorem marks_token {call : ConditionStep} {token : ConditionToken} (h : call.Compares)
    (htoken : call.whereToken? = some token ∨ call.havingToken? = some token) :
    Text.marks token.text = call.parameterCount := by
  have hclause : ∀ column (comparison : Comparison), Text.marks column = 0 →
      Text.marks (column ++ " " ++ comparison.sql) = comparison.parameterCount := by
    intro column comparison hcolumn
    have hblank : Text.marks " " = 0 := by decide
    rw [Text.marks_append, Text.marks_append, hcolumn, hblank, Comparison.marks_sql]
    omega
  cases call with
  | filter column comparison =>
      cases Option.some.inj (htoken.resolve_right (by simp [havingToken?]))
      exact hclause _ comparison h
  | having column comparison =>
      cases Option.some.inj (htoken.resolve_left (by simp [whereToken?]))
      exact hclause _ comparison h
  | havingAggregate function column comparison =>
      cases Option.some.inj (htoken.resolve_left (by simp [whereToken?]))
      exact hclause _ comparison ((function.marks_apply column.text).trans h)
  | _ => exact absurd h id

end ConditionStep

/-- Calls that append comparisons extend the two lists of tokens and nothing else. -/
theorem Conditions.run_of_compares {calls : List ConditionStep}
    (h : ∀ call ∈ calls, call.Compares) (conditions : Conditions) :
    conditions.run calls = { conditions with
      whereTokens := conditions.whereTokens ++ calls.filterMap ConditionStep.whereToken?
      havingTokens := conditions.havingTokens ++ calls.filterMap ConditionStep.havingToken? } := by
  induction calls generalizing conditions with
  | nil => simp [run]
  | cons call rest ih =>
      have hcall := h call List.mem_cons_self
      have hrun : conditions.run (call :: rest) = (conditions.step call).run rest := rfl
      rw [hrun, ih fun other hother => h other (List.mem_cons_of_mem _ hother)]
      cases call with
      | filter column comparison =>
          rw [List.filterMap_cons_some (f := ConditionStep.whereToken?) rfl,
            List.filterMap_cons_none (f := ConditionStep.havingToken?) rfl]
          simp [step, addWhere]
      | having column comparison =>
          rw [List.filterMap_cons_none (f := ConditionStep.whereToken?) rfl,
            List.filterMap_cons_some (f := ConditionStep.havingToken?) rfl]
          simp [step, addHaving]
      | havingAggregate function column comparison =>
          rw [List.filterMap_cons_none (f := ConditionStep.whereToken?) rfl,
            List.filterMap_cons_some (f := ConditionStep.havingToken?) rfl]
          simp [step, addHaving]
      | _ => exact absurd hcall (by simp [ConditionStep.Compares])

/-! ## Tokens with their calls -/

section

variable {token? : ConditionStep → Option ConditionToken} {calls : List ConditionStep}

/-- The tokens of some calls, each with the place of its call. -/
def traced (token? : ConditionStep → Option ConditionToken) (calls : List ConditionStep) :
    List (Nat × ConditionToken) :=
  calls.zipIdx.filterMap fun entry => (token? entry.1).map fun token => (entry.2, token)

/-- Without their places these are the tokens of the calls. -/
theorem map_snd_traced : (traced token? calls).map Prod.snd = calls.filterMap token? := by
  have hcalls : calls.zipIdx.map Prod.fst = calls := List.zipIdx_map_fst 0 calls
  have hmap : calls.filterMap token? =
      calls.zipIdx.filterMap fun entry => token? entry.1 := by
    conv_lhs => rw [← hcalls]
    rw [List.filterMap_map]
    rfl
  rw [hmap, traced, List.map_filterMap]
  congr 1
  funext entry
  simp [Option.map_map, Function.comp_def]

/-- A token is traced to the call that appends it. -/
theorem mem_traced {place : Nat} {token : ConditionToken} :
    (place, token) ∈ traced token? calls ↔
      ∃ call, calls[place]? = some call ∧ token? call = some token := by
  rw [traced, List.mem_filterMap]
  constructor
  · intro hparts
    rcases hparts with ⟨⟨call, other⟩, hentry, htoken⟩
    rcases Option.map_eq_some_iff.mp htoken with ⟨found, hfound, heq⟩
    rcases Prod.mk.inj heq with ⟨rfl, rfl⟩
    exact ⟨call, List.mem_zipIdx_iff_getElem?.mp hentry, hfound⟩
  · intro hparts
    rcases hparts with ⟨call, hcall, htoken⟩
    exact ⟨(call, place), List.mem_zipIdx_iff_getElem?.mpr hcall, by rw [htoken]; rfl⟩

/-- Tokens are traced in the order of the calls. -/
theorem pairwise_traced :
    (traced token? calls).Pairwise fun first second => first.1 < second.1 := by
  have hplaces : (calls.zipIdx.map Prod.snd).Pairwise (· < ·) := by
    rw [List.zipIdx_map_snd]
    exact List.pairwise_lt_range' 1
  rw [traced, List.pairwise_filterMap]
  refine List.Pairwise.imp ?_ (List.pairwise_map.mp hplaces)
  intro first second hlt entry hentry other hother
  rcases Option.map_eq_some_iff.mp hentry with ⟨token, -, rfl⟩
  rcases Option.map_eq_some_iff.mp hother with ⟨later, -, rfl⟩
  exact hlt

end

/-! ## Fragments of a statement -/

section

variable {entries : List (Nat × ConditionToken)} {lead head : String}
variable {calls : List ConditionStep}

/-- The fragments of a list of tokens: what stands between two tokens comes from no call. -/
def conditionFragments : List (Nat × ConditionToken) → List Fragment
  | [] => []
  | [entry] => [⟨some entry.1, entry.2.text⟩]
  | entry :: next :: rest =>
      ⟨some entry.1, entry.2.text⟩ :: ⟨none, separatorBetween entry.2 next.2⟩ ::
        conditionFragments (next :: rest)

/-- The fragments of a section: its lead comes from no call. -/
def sectionFragments (lead : String) (entries : List (Nat × ConditionToken)) : List Fragment :=
  if conditionText (entries.map Prod.snd) = "" then []
  else ⟨none, lead⟩ :: conditionFragments entries

/-- The fragments of a statement whose conditions are appended by some calls.  Its columns and
its source come from no call. -/
def statementFragments (head : String) (calls : List ConditionStep) : List Fragment :=
  ⟨none, head⟩ :: (sectionFragments " WHERE " (traced ConditionStep.whereToken? calls) ++
    sectionFragments " HAVING " (traced ConditionStep.havingToken? calls))

theorem joined_conditionFragments :
    Fragment.joined (conditionFragments entries) = conditionText (entries.map Prod.snd) := by
  induction entries using conditionFragments.induct with
  | case1 => rfl
  | case2 entry => simp [conditionFragments, conditionText, Fragment.joined]
  | case3 entry next rest ih =>
      rw [conditionFragments, Fragment.joined_cons, Fragment.joined_cons, ih]
      simp only [List.map_cons, conditionText, String.append_assoc]

theorem joined_sectionFragments :
    Fragment.joined (sectionFragments lead entries) =
      sectionText lead (conditionText (entries.map Prod.snd)) := by
  unfold sectionFragments sectionText
  split
  · rfl
  · rw [Fragment.joined_cons, joined_conditionFragments]

/-- The fragments of a statement make up its text. -/
theorem joined_statementFragments (h : ∀ call ∈ calls, call.Compares) :
    Fragment.joined (statementFragments head calls) =
      head ++ conditionSections (Conditions.run {} calls) := by
  rw [statementFragments, Fragment.joined_cons, Fragment.joined_append, joined_sectionFragments,
    joined_sectionFragments, map_snd_traced, map_snd_traced, Conditions.run_of_compares h]
  simp [conditionSections, groupSection, sectionText, orderText, orderTextFrom, limitSection,
    Conditions.limitText, Text.trimStart]

/-- A fragment that comes from a call is the token that the call appends. -/
theorem call_of_mem_conditionFragments {fragment : Fragment} {place : Nat}
    (h : fragment ∈ conditionFragments entries) (hcall : fragment.call = some place) :
    ∃ token, (place, token) ∈ entries ∧ fragment.text = token.text := by
  induction entries using conditionFragments.induct with
  | case1 => exact absurd h List.not_mem_nil
  | case2 entry =>
      cases List.mem_singleton.mp h
      cases Option.some.inj hcall
      exact ⟨entry.2, List.mem_cons_self, rfl⟩
  | case3 entry next rest ih =>
      rw [conditionFragments, List.mem_cons, List.mem_cons] at h
      rcases h with rfl | rfl | hrest
      · cases Option.some.inj hcall
        exact ⟨entry.2, List.mem_cons_self, rfl⟩
      · exact absurd hcall (by simp)
      · rcases ih hrest with ⟨token, htoken, htext⟩
        exact ⟨token, List.mem_cons_of_mem _ htoken, htext⟩

/-- A fragment of a statement that comes from a call is the token that the call appends. -/
theorem call_of_mem_statementFragments {fragment : Fragment} {place : Nat}
    (h : fragment ∈ statementFragments head calls) (hcall : fragment.call = some place) :
    ∃ call token, calls[place]? = some call ∧
      (call.whereToken? = some token ∨ call.havingToken? = some token) ∧
      fragment.text = token.text := by
  have hsection : ∀ {token? : ConditionStep → Option ConditionToken} {lead : String},
      fragment ∈ sectionFragments lead (traced token? calls) →
      ∃ call token, calls[place]? = some call ∧ token? call = some token ∧
        fragment.text = token.text := by
    intro token? lead hmem
    unfold sectionFragments at hmem
    split at hmem
    next => exact absurd hmem List.not_mem_nil
    next =>
      rcases List.mem_cons.mp hmem with rfl | hmem
      · exact absurd hcall (by simp)
      · rcases call_of_mem_conditionFragments hmem hcall with ⟨token, htoken, htext⟩
        rcases mem_traced.mp htoken with ⟨call, hplace, hfound⟩
        exact ⟨call, token, hplace, hfound, htext⟩
  rw [statementFragments, List.mem_cons, List.mem_append] at h
  rcases h with rfl | hwhere | hhaving
  · exact absurd hcall (by simp)
  · rcases hsection hwhere with ⟨call, token, hplace, hfound, htext⟩
    exact ⟨call, token, hplace, Or.inl hfound, htext⟩
  · rcases hsection hhaving with ⟨call, token, hplace, hfound, htext⟩
    exact ⟨call, token, hplace, Or.inr hfound, htext⟩

/-! ## The order of parameters -/

/-- The places of tokens, each as often as its token has marks. -/
def markPlaces (entries : List (Nat × ConditionToken)) : List Nat :=
  entries.flatMap fun entry => List.replicate (Text.marks entry.2.text) entry.1

/-- The calls behind the parameters of a statement, in the order in which these are bound. -/
def bindingOrder (calls : List ConditionStep) : List Nat :=
  markPlaces (traced ConditionStep.whereToken? calls) ++
    markPlaces (traced ConditionStep.havingToken? calls)

theorem markCalls_conditionFragments :
    Fragment.markCalls (conditionFragments entries) = (markPlaces entries).map some := by
  induction entries using conditionFragments.induct with
  | case1 => rfl
  | case2 entry => simp [conditionFragments, Fragment.markCalls, markPlaces]
  | case3 entry next rest ih =>
      have hseparator : Text.marks (separatorBetween entry.2 next.2) = 0 := by
        unfold separatorBetween
        split <;> decide
      have htoken : Fragment.markCalls (conditionFragments (entry :: next :: rest)) =
          List.replicate (Text.marks entry.2.text) (some entry.1) ++
            Fragment.markCalls (conditionFragments (next :: rest)) := by
        rw [conditionFragments, Fragment.markCalls, List.flatMap_cons]
        exact congrArg _ (Fragment.markCalls_cons_of_unmarked hseparator _)
      have hplaces : markPlaces (entry :: next :: rest) =
          List.replicate (Text.marks entry.2.text) entry.1 ++ markPlaces (next :: rest) :=
        List.flatMap_cons
      rw [htoken, ih, hplaces, List.map_append, List.map_replicate]

theorem markCalls_sectionFragments (hlead : Text.marks lead = 0) :
    Fragment.markCalls (sectionFragments lead entries) = (markPlaces entries).map some := by
  rw [← markCalls_conditionFragments]
  unfold sectionFragments
  split
  next hempty =>
    -- a section without text has no marks to tell
    symm
    apply List.eq_nil_of_length_eq_zero
    rw [Fragment.length_markCalls, joined_conditionFragments, hempty]
    rfl
  next => exact Fragment.markCalls_cons_of_unmarked hlead _

/-- The marks of a statement without other marks are those of the `WHERE` calls, and after them
those of the `HAVING` calls. -/
theorem markCalls_statementFragments (hhead : Text.marks head = 0) :
    Fragment.markCalls (statementFragments head calls) = (bindingOrder calls).map some := by
  rw [statementFragments, Fragment.markCalls_cons_of_unmarked hhead, Fragment.markCalls,
    List.flatMap_append, bindingOrder, List.map_append]
  exact congrArg₂ _ (markCalls_sectionFragments (by decide))
    (markCalls_sectionFragments (by decide))

theorem mem_markPlaces {place : Nat} :
    place ∈ markPlaces entries ↔
      ∃ token, (place, token) ∈ entries ∧ Text.marks token.text ≠ 0 := by
  rw [markPlaces, List.mem_flatMap]
  constructor
  · intro hparts
    rcases hparts with ⟨⟨other, token⟩, hentry, hplace⟩
    rcases List.mem_replicate.mp hplace with ⟨hmarks, rfl⟩
    exact ⟨token, hentry, hmarks⟩
  · intro hparts
    rcases hparts with ⟨token, hentry, hmarks⟩
    exact ⟨(place, token), hentry, List.mem_replicate.mpr ⟨hmarks, rfl⟩⟩

/-- The marks of one list of tokens stand in the order of the calls. -/
theorem pairwise_markPlaces {token? : ConditionStep → Option ConditionToken} :
    (markPlaces (traced token? calls)).Pairwise (· ≤ ·) := by
  rw [markPlaces, List.pairwise_flatMap]
  constructor
  · intro entry _
    exact List.pairwise_replicate.mpr (Or.inr (Nat.le_refl _))
  · refine List.Pairwise.imp ?_ pairwise_traced
    intro first second hlt place hplace other hother
    rw [List.eq_of_mem_replicate hplace, List.eq_of_mem_replicate hother]
    exact Nat.le_of_lt hlt

/-- The places of the marks of one list of tokens are those of the calls that append
parameters to it. -/
theorem mem_markPlaces_traced {token? : ConditionStep → Option ConditionToken} {place : Nat}
    (htoken? : ∀ call ∈ calls, ∀ token, token? call = some token →
      Text.marks token.text = call.parameterCount) :
    place ∈ markPlaces (traced token? calls) ↔
      ∃ call, calls[place]? = some call ∧ call.Binds token? := by
  rw [mem_markPlaces]
  constructor
  · intro hparts
    rcases hparts with ⟨token, htraced, hmarks⟩
    rcases mem_traced.mp htraced with ⟨call, hcall, htoken⟩
    rw [htoken? call (List.mem_of_getElem? hcall) token htoken] at hmarks
    exact ⟨call, hcall, Option.isSome_iff_exists.mpr ⟨token, htoken⟩, hmarks⟩
  · intro hparts
    rcases hparts with ⟨call, hcall, hsome, hcount⟩
    rcases Option.isSome_iff_exists.mp hsome with ⟨token, htoken⟩
    rw [← htoken? call (List.mem_of_getElem? hcall) token htoken] at hcount
    exact ⟨token, mem_traced.mpr ⟨call, hcall, htoken⟩, hcount⟩

/-- Parameters are bound in the order of the calls exactly when no call for `HAVING` parameters
comes before one for `WHERE` parameters. -/
theorem pairwise_bindingOrder_iff (h : ∀ call ∈ calls, call.Compares) :
    (bindingOrder calls).Pairwise (· ≤ ·) ↔
      ∀ (early late : Nat) (earlier later : ConditionStep), early < late →
        calls[early]? = some earlier → calls[late]? = some later →
          ¬ (earlier.Binds ConditionStep.havingToken? ∧
            later.Binds ConditionStep.whereToken?) := by
  have hwhere : ∀ place, place ∈ markPlaces (traced ConditionStep.whereToken? calls) ↔ _ :=
    fun place => mem_markPlaces_traced fun call hcall token htoken =>
      ConditionStep.marks_token (h call hcall) (Or.inl htoken)
  have hhaving : ∀ place, place ∈ markPlaces (traced ConditionStep.havingToken? calls) ↔ _ :=
    fun place => mem_markPlaces_traced fun call hcall token htoken =>
      ConditionStep.marks_token (h call hcall) (Or.inr htoken)
  rw [bindingOrder, List.pairwise_append]
  simp only [pairwise_markPlaces, true_and, hwhere, hhaving]
  constructor
  · intro hordered early late earlier later hlt hearlier hlater hbinds
    have hle := hordered late ⟨later, hlater, hbinds.2⟩ early ⟨earlier, hearlier, hbinds.1⟩
    exact absurd hlt (Nat.not_lt.mpr hle)
  · intro hnone late hlate early hearly
    rcases hlate with ⟨later, hlater, hlaterBinds⟩
    rcases hearly with ⟨earlier, hearlier, hearlierBinds⟩
    by_contra hle
    exact hnone early late earlier later (Nat.not_le.mp hle) hearlier hlater
      ⟨hearlierBinds, hlaterBinds⟩

end

end SelectionSql
