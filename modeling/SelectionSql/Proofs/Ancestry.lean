import Mathlib.Data.List.Nodup
import Mathlib.Logic.Function.Iterate
import SelectionSql.Level

/-!
# Ancestry - Climbing from a level to an anchor

A level in the scope of an anchor reaches it by taking parents, and every level on
the way lies in that scope too.  The climb is therefore a well-founded recursion,
and `Level.below` lists its steps from the anchor down.

Main results:

- `Level.isInScope_iff`: a level in scope is the anchor or extends it.
- `Level.isInScope_trans`, `Level.isInScope_antisymm`: scopes nest.
- `Level.isInScope_iff_exists_iterate`: a level lies in the scope of what it reaches by climbing.
- `Level.scope_induction`: induction along the climb to an anchor.
- `Level.below_eq_iterate`: the levels below an anchor are the iterated parents.
- `Level.nodup_below`, `Level.mem_below_of_mem`: the climb repeats no level, and from
  every level on it the rest of the climb is the same.
- `Level.mem_below_iff`: what lies on the way down to a level.
- `Level.iterate_parent_of_height_le`: the climb ends at the root.
- `Level.climb_exact`: a scope holds the levels that climb to its anchor, and all climb to the
  root.
-/

namespace SelectionSql

namespace Level

variable {anchor level other upper lower : Level}

/-! ## Scope along the climb -/

/-- A level lies in scope when it is the anchor, the anchor is the root, or the level
goes on after the anchor and a separator. -/
theorem isInScope_iff :
    isInScope level anchor = true ↔
      level = anchor ∨ anchor = root ∨
        ∃ path : String, level.toList = anchor.toList ++ separator :: path.toList := by
  unfold isInScope
  rw [Bool.or_eq_true, Bool.or_eq_true, beq_iff_eq, beq_iff_eq, or_assoc,
    Option.isSome_iff_exists]
  simp only [relative?_eq_some]

/-- A level in the scope of another anchor than itself or the root has a separator. -/
theorem separator_mem_of_isInScope (h : isInScope level anchor = true)
    (hlevel : level ≠ anchor) (hanchor : anchor ≠ root) : separator ∈ level.toList := by
  rcases isInScope_iff.mp h with heq | heq | ⟨path, hpath⟩
  · exact absurd heq hlevel
  · exact absurd heq hanchor
  · rw [hpath]
    exact List.mem_append_right _ List.mem_cons_self

/-- A level in the scope of another anchor than the root is at least as long. -/
theorem length_le_of_isInScope (h : isInScope level anchor = true) (hanchor : anchor ≠ root) :
    anchor.toList.length ≤ level.toList.length := by
  rcases isInScope_iff.mp h with rfl | hroot | ⟨path, hpath⟩
  · exact Nat.le_refl _
  · exact absurd hroot hanchor
  · rw [hpath, List.length_append]
    exact Nat.le_add_right _ _

/-- In a scope only the anchor can be the root. -/
theorem ne_root_of_isInScope (h : isInScope level anchor = true) (hlevel : level ≠ anchor) :
    level ≠ root := by
  rintro rfl
  exact hlevel (anchor_eq_root_of_isInScope_root h).symm

/-- What lies in the scope of a level lies in the scopes that the level lies in. -/
theorem isInScope_trans (hlower : isInScope lower upper = true)
    (hupper : isInScope upper anchor = true) : isInScope lower anchor = true := by
  rcases isInScope_iff.mp hlower with rfl | rfl | ⟨path, hpath⟩
  · exact hupper
  · rw [anchor_eq_root_of_isInScope_root hupper]
    exact isInScope_root lower
  · rcases isInScope_iff.mp hupper with rfl | rfl | ⟨above, habove⟩
    · exact hlower
    · exact isInScope_root lower
    · have happend : lower.toList =
          anchor.toList ++ separator :: (above ++ String.singleton separator ++ path).toList := by
        rw [hpath, habove]
        simp
      exact isInScope_iff.mpr (Or.inr (Or.inr ⟨_, happend⟩))

/-- Levels that lie in the scope of each other are the same. -/
theorem isInScope_antisymm (hlower : isInScope lower upper = true)
    (hupper : isInScope upper lower = true) : lower = upper := by
  rcases isInScope_iff.mp hlower with heq | rfl | ⟨path, hpath⟩
  · exact heq
  · exact anchor_eq_root_of_isInScope_root hupper
  · rcases isInScope_iff.mp hupper with heq | rfl | ⟨above, habove⟩
    · exact heq.symm
    · exact (anchor_eq_root_of_isInScope_root hlower).symm
    · have hlower := congrArg List.length hpath
      have hupper := congrArg List.length habove
      simp only [List.length_append, List.length_cons] at hlower hupper
      omega

/-- The parent of a nested level is the text before its last separator. -/
theorem toList_parent {before after : List Char} (hafter : separator ∉ after)
    (hlevel : level.toList = before ++ separator :: after) :
    parent level = String.ofList before := by
  unfold parent
  rw [hlevel, Text.cutLast_append_cons _ hafter]

/-- Climbing from below the anchor stays in its scope. -/
theorem isInScope_parent (h : isInScope level anchor = true) (hlevel : level ≠ anchor) :
    isInScope (parent level) anchor = true := by
  rcases isInScope_iff.mp h with heq | heq | ⟨path, hpath⟩
  · exact absurd heq hlevel
  · subst heq
    exact isInScope_root _
  · cases hcut : Text.cutLast separator path.toList with
    | none =>
        -- the anchor itself is the parent
        have hparent := toList_parent (Text.cutLast_eq_none.mp hcut) hpath
        rw [hparent, String.ofList_toList]
        exact isInScope_self anchor
    | some cut =>
        rcases cut with ⟨before, after⟩
        rcases Text.eq_of_cutLast hcut with ⟨hsplit, hafter⟩
        have hparent : parent level = String.ofList (anchor.toList ++ separator :: before) := by
          apply toList_parent hafter
          rw [hpath, hsplit]
          simp
        rw [hparent]
        refine isInScope_iff.mpr (Or.inr (Or.inr ⟨String.ofList before, ?_⟩))
        simp

/-- Every level lies in the scope of its parent. -/
theorem isInScope_parent_self (level : Level) : isInScope level (parent level) = true := by
  cases hcut : Text.cutLast separator level.toList with
  | none =>
      rw [parent_of_not_mem (Text.cutLast_eq_none.mp hcut)]
      exact isInScope_root level
  | some cut =>
      rcases cut with ⟨before, after⟩
      rcases Text.eq_of_cutLast hcut with ⟨hsplit, hafter⟩
      rw [toList_parent hafter hsplit]
      refine isInScope_iff.mpr (Or.inr (Or.inr ⟨String.ofList after, ?_⟩))
      simpa using hsplit

/-- Every level lies in the scope of what it reaches by taking parents. -/
theorem isInScope_iterate_parent (steps : Nat) (level : Level) :
    isInScope level (parent^[steps] level) = true := by
  induction steps generalizing level with
  | zero => exact isInScope_self level
  | succ steps ih => exact isInScope_trans (isInScope_parent_self level) (ih (parent level))

/-- Induction along the climb: what holds of the anchor, and of every level in scope
whose parent it holds of, holds of every level in scope. -/
theorem scope_induction {motive : (level : Level) → isInScope level anchor = true → Prop}
    (hanchor : motive anchor (isInScope_self anchor))
    (hstep : ∀ level (hscope : isInScope level anchor = true) (hlevel : level ≠ anchor),
      motive (parent level) (isInScope_parent hscope hlevel) → motive level hscope)
    (level : Level) (h : isInScope level anchor = true) : motive level h := by
  by_cases heq : level = anchor
  · subst heq
    exact hanchor
  · have hdecrease : height (parent level) < height level :=
      height_parent_lt (ne_root_of_isInScope h heq)
    exact hstep level h heq
      (scope_induction hanchor hstep (parent level) (isInScope_parent h heq))
termination_by height level

/-! ## The levels on the climb -/

/-- The last level on the way down to a level is the level itself, and the others
lead to its parent. -/
theorem below_eq_append (h : isInScope level anchor = true) (hlevel : level ≠ anchor) :
    below anchor level = below anchor (parent level) ++ [level] := by
  by_cases hsep : separator ∈ level.toList
  · simp [below, ancestors_eq_cons_parent hsep, hlevel]
  · have hanchor : anchor = root := by
      by_contra hne
      exact hsep (separator_mem_of_isInScope h hlevel hne)
    subst hanchor
    rw [parent_of_not_mem hsep, below_self]
    simp [below, ancestors_of_not_mem hsep, hlevel]

/-- A level below the anchor is the last on the way down to itself. -/
theorem mem_below_self (h : isInScope level anchor = true) (hlevel : level ≠ anchor) :
    level ∈ below anchor level := by
  rw [below_eq_append h hlevel]
  exact List.mem_append_right _ List.mem_cons_self

/-- Every level on the way down lies in scope, strictly below the anchor. -/
theorem isInScope_of_mem_below (h : isInScope level anchor = true)
    (hother : other ∈ below anchor level) :
    isInScope other anchor = true ∧ other ≠ anchor := by
  induction level, h using scope_induction with
  | hanchor => simp at hother
  | hstep level hscope hlevel ih =>
      rw [below_eq_append hscope hlevel, List.mem_append, List.mem_singleton] at hother
      rcases hother with hother | rfl
      · exact ih hother
      · exact ⟨hscope, hlevel⟩

/-- From every level on the way down, the way up is the same. -/
theorem mem_below_of_mem (h : isInScope level anchor = true)
    (hother : other ∈ below anchor level) {above : Level} (habove : above ∈ below anchor other) :
    above ∈ below anchor level := by
  induction level, h using scope_induction with
  | hanchor => simp at hother
  | hstep level hscope hlevel ih =>
      rw [below_eq_append hscope hlevel, List.mem_append, List.mem_singleton] at hother ⊢
      rcases hother with hother | rfl
      · exact Or.inl (ih hother)
      · rw [below_eq_append hscope hlevel, List.mem_append, List.mem_singleton] at habove
        exact habove

/-- The parent of a level on the way down is on it as well, or the anchor. -/
theorem parent_mem_below (h : isInScope level anchor = true)
    (hother : other ∈ below anchor level) (hparent : parent other ≠ anchor) :
    parent other ∈ below anchor level := by
  rcases isInScope_of_mem_below h hother with ⟨hscope, hne⟩
  apply mem_below_of_mem h hother
  rw [below_eq_append hscope hne]
  exact List.mem_append_left _ (mem_below_self (isInScope_parent hscope hne) hparent)

/-- The height bound falls on the way up, so no level comes back. -/
theorem height_le_of_mem_below (h : isInScope level anchor = true)
    (hother : other ∈ below anchor level) : height other ≤ height level := by
  induction level, h using scope_induction with
  | hanchor => simp at hother
  | hstep level hscope hlevel ih =>
      rw [below_eq_append hscope hlevel, List.mem_append, List.mem_singleton] at hother
      rcases hother with hother | rfl
      · have hlt := height_parent_lt (ne_root_of_isInScope hscope hlevel)
        exact Nat.le_trans (ih hother) (Nat.le_of_lt hlt)
      · exact Nat.le_refl _

/-- The way down meets no level twice. -/
theorem nodup_below (h : isInScope level anchor = true) : (below anchor level).Nodup := by
  induction level, h using scope_induction with
  | hanchor => simp
  | hstep level hscope hlevel ih =>
      rw [below_eq_append hscope hlevel, List.nodup_append]
      refine ⟨ih, List.nodup_singleton _, ?_⟩
      intro other hother last hlast heq
      rw [List.mem_singleton] at hlast
      subst heq
      subst hlast
      have hle := height_le_of_mem_below (isInScope_parent hscope hlevel) hother
      exact absurd (height_parent_lt (ne_root_of_isInScope hscope hlevel)) (Nat.not_lt.mpr hle)

/-- The levels below an anchor are the parents met by climbing, in reverse: the climb
ends at the anchor and not before. -/
theorem below_eq_iterate (h : isInScope level anchor = true) :
    ∃ steps, parent^[steps] level = anchor ∧ (∀ i < steps, parent^[i] level ≠ anchor) ∧
      below anchor level = ((List.range steps).map fun i => parent^[i] level).reverse := by
  induction level, h using scope_induction with
  | hanchor => exact ⟨0, rfl, by simp, by simp⟩
  | hstep level hscope hlevel ih =>
      rcases ih with ⟨steps, hend, hbefore, hbelow⟩
      refine ⟨steps + 1, hend, ?_, ?_⟩
      · intro i hi
        cases i with
        | zero => exact hlevel
        | succ i => exact hbefore i (Nat.lt_of_succ_lt_succ hi)
      · rw [below_eq_append hscope hlevel, hbelow, List.range_succ_eq_map]
        simp [Function.comp_def]

/-- A level lies in the scope of what it reaches by taking parents, and of nothing else. -/
theorem isInScope_iff_exists_iterate :
    isInScope lower upper = true ↔ ∃ steps, parent^[steps] lower = upper := by
  constructor
  · intro h
    rcases below_eq_iterate h with ⟨steps, hend, -, -⟩
    exact ⟨steps, hend⟩
  · rintro ⟨steps, rfl⟩
    exact isInScope_iterate_parent steps lower

/-- On the way down to a level lie those below the anchor in whose scope it is. -/
theorem mem_below_iff (h : isInScope level anchor = true) :
    other ∈ below anchor level ↔
      isInScope level other = true ∧ isInScope other anchor = true ∧ other ≠ anchor := by
  induction level, h using scope_induction with
  | hanchor =>
      rw [below_self]
      constructor
      · exact fun hmem => absurd hmem List.not_mem_nil
      · rintro ⟨hupper, hlower, hne⟩
        exact absurd (isInScope_antisymm hlower hupper) hne
  | hstep level hscope hlevel ih =>
      rw [below_eq_append hscope hlevel, List.mem_append, List.mem_singleton, ih]
      constructor
      · rintro (⟨hparent, hother, hne⟩ | rfl)
        · exact ⟨isInScope_trans (isInScope_parent_self level) hparent, hother, hne⟩
        · exact ⟨isInScope_self other, hscope, hlevel⟩
      · rintro ⟨hlower, hother, hne⟩
        by_cases heq : other = level
        · exact Or.inr heq
        · exact Or.inl ⟨isInScope_parent hlower (Ne.symm heq), hother, hne⟩

/-! ## The end of the climb -/

/-- Above the root there is only the root. -/
@[simp] theorem parent_root : parent root = root :=
  parent_of_not_mem (by decide)

@[simp] theorem height_root : height root = 0 :=
  if_pos rfl

/-- A level is no higher above the root than it has separators, and one step more. -/
theorem height_le (level : Level) : height level ≤ level.toList.count separator + 1 := by
  unfold height
  split
  · exact Nat.zero_le _
  · exact Nat.le_refl _

/-- After as many steps as the height of a level, and after all further ones, the climb is at
the root. -/
theorem iterate_parent_of_height_le {steps : Nat} (h : height level ≤ steps) :
    parent^[steps] level = root := by
  induction steps generalizing level with
  | zero =>
      rw [Function.iterate_zero_apply]
      by_contra hne
      have hlt := height_parent_lt hne
      omega
  | succ steps ih =>
      rw [Function.iterate_succ_apply]
      apply ih
      by_cases hroot : level = root
      · rw [hroot, parent_root, height_root]
        exact Nat.zero_le _
      · have hlt := height_parent_lt hroot
        omega

/-- A level lies in the scope of the levels that it reaches by taking parents and of no others.
After one step more than it has separators it is at the root, and there it stays. -/
theorem climb_exact (level : Level) :
    (∀ anchor, isInScope level anchor = true ↔ ∃ steps, parent^[steps] level = anchor) ∧
      ∀ further, parent^[level.toList.count separator + 1 + further] level = root := by
  constructor
  · intro anchor
    exact isInScope_iff_exists_iterate
  · intro further
    apply iterate_parent_of_height_le
    exact Nat.le_trans (height_le level) (Nat.le_add_right _ _)

/-- A level that ends with separators climbs through the empty level, in whose scope it lies. -/
example : isInScope "__" "" = true ∧ parent^[2] "__" = "" ∧ parent^[3] "__" = root := by
  decide

end Level

end SelectionSql
