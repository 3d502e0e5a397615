import SelectionSql.Text.Cut

/-!
# Graph levels - Positions in a nested selection

A graph level names a position of a nested selection by the reference names on
the way to it, joined by `_`.  The root of the selection has a reserved name,
and a level without a separator hangs directly below the root.

Main results:

- `Level.ancestors_eq_cons_parent`: climbing from a level passes its parent next.
- `Level.parent_child`, `Level.reference_child`: a child's parent and reference.
- `Level.height_parent_lt`: climbing comes to an end.
- `Level.aliasPrefix_self`: the anchor itself needs no alias prefix.
-/

namespace SelectionSql

/-- A position in a nested selection; levels double as table aliases. -/
abbrev Level := String

namespace Level

/-- The reserved level of the root entity. -/
def root : Level := "rootObject"

/-- The character between the segments of a nested level. -/
def separator : Char := '_'

/-! ## Parents and references -/

/-- The level above: all but the last segment, or the root. -/
def parent (level : Level) : Level :=
  match Text.cutLast separator level.toList with
  | some (above, _) => String.ofList above
  | none => root

/-- The name of the reference that leads from the parent to the level. -/
def reference (level : Level) : String :=
  match Text.cutLast separator level.toList with
  | some (_, name) => String.ofList name
  | none => level

/-- The level reached from another one through a reference; below the empty
level a name stands alone. -/
def child (above : Level) (name : String) : Level :=
  if above = "" then name else above ++ String.singleton separator ++ name

/-- The characters of a child below a non-empty level. -/
theorem toList_child {above : Level} {name : String} (h : above ≠ "") :
    (child above name).toList = above.toList ++ separator :: name.toList := by
  simp [child, h]

/-- A child's parent is the level it hangs below. -/
theorem parent_child {above : Level} {name : String} (habove : above ≠ "")
    (hname : separator ∉ name.toList) : parent (child above name) = above := by
  unfold parent
  rw [toList_child habove, Text.cutLast_append_cons _ hname]
  exact String.ofList_toList

/-- A child's reference is the name it was reached through. -/
theorem reference_child {above : Level} {name : String} (habove : above ≠ "")
    (hname : separator ∉ name.toList) : reference (child above name) = name := by
  unfold reference
  rw [toList_child habove, Text.cutLast_append_cons _ hname]
  exact String.ofList_toList

/-- A name without a separator hangs below the root. -/
theorem parent_of_not_mem {level : Level} (h : separator ∉ level.toList) :
    parent level = root := by
  unfold parent
  rw [Text.cutLast_eq_none.mpr h]

/-- A name without a separator is its own reference. -/
theorem reference_of_not_mem {level : Level} (h : separator ∉ level.toList) :
    reference level = level := by
  unfold reference
  rw [Text.cutLast_eq_none.mpr h]

/-! ## Climbing to the root -/

/-- The texts before each separator, shortest first. -/
def leads (sep : Char) : List Char → List (List Char)
  | [] => []
  | c :: rest =>
      let longer := (leads sep rest).map (c :: ·)
      if c = sep then [] :: longer else longer

/-- Without a separator there is no lead. -/
theorem leads_eq_nil {sep : Char} {chars : List Char} (h : sep ∉ chars) :
    leads sep chars = [] := by
  induction chars with
  | nil => rfl
  | cons c rest ih =>
      rw [List.mem_cons, not_or] at h
      simp [leads, ih h.2, Ne.symm h.1]

/-- The longest lead ends at the last separator. -/
theorem leads_append_cons {sep : Char} (before : List Char) {after : List Char}
    (h : sep ∉ after) : leads sep (before ++ sep :: after) = leads sep before ++ [before] := by
  induction before with
  | nil => simp [leads, leads_eq_nil h]
  | cons c rest ih =>
      simp only [List.cons_append, leads, ih]
      split <;> simp

/-- The levels met by climbing from a level to the root, both included. -/
def ancestors (level : Level) : List Level :=
  level :: ((leads separator level.toList).reverse.map String.ofList ++ [root])

/-- Climbing from a nested level passes its parent next. -/
theorem ancestors_eq_cons_parent {level : Level} (h : separator ∈ level.toList) :
    ancestors level = level :: ancestors (parent level) := by
  cases hcut : Text.cutLast separator level.toList with
  | none => exact absurd h (Text.cutLast_eq_none.mp hcut)
  | some cut =>
      obtain ⟨before, after⟩ := cut
      obtain ⟨heq, hno⟩ := Text.eq_of_cutLast hcut
      have hparent : parent level = String.ofList before := by
        unfold parent
        rw [hcut]
      rw [hparent]
      unfold ancestors
      rw [heq, leads_append_cons before hno]
      simp

/-- Climbing from a level without a separator reaches the root next. -/
theorem ancestors_of_not_mem {level : Level} (h : separator ∉ level.toList) :
    ancestors level = [level, root] := by
  simp [ancestors, leads_eq_nil h]

/-- A bound on the steps from a level up to the root: nothing for the root itself,
and one more than the separators of any other level. -/
def height (level : Level) : Nat :=
  if level = root then 0 else level.toList.count separator + 1

/-- The parent of a level other than the root lies lower than the bound. -/
theorem height_parent_lt {level : Level} (h : level ≠ root) :
    height (parent level) < height level := by
  have hheight : height level = level.toList.count separator + 1 := if_neg h
  cases hcut : Text.cutLast separator level.toList with
  | none =>
      have hroot : height (parent level) = 0 := by
        rw [parent_of_not_mem (Text.cutLast_eq_none.mp hcut)]
        exact if_pos rfl
      rw [hroot, hheight]
      exact Nat.succ_pos _
  | some cut =>
      obtain ⟨before, after⟩ := cut
      have hparent : parent level = String.ofList before := by
        unfold parent
        rw [hcut]
      have hcount : level.toList.count separator =
          before.count separator + (after.count separator + 1) := by
        rw [(Text.eq_of_cutLast hcut).1, List.count_append, List.count_cons_self]
      have hbound : height (parent level) ≤ before.count separator + 1 := by
        rw [hparent]
        unfold height
        split <;> simp
      omega

/-- The levels strictly below an anchor on the way down to a level. -/
def below (anchor level : Level) : List Level :=
  ((ancestors level).takeWhile fun above => decide (above ≠ anchor)).reverse

@[simp] theorem below_self (anchor : Level) : below anchor anchor = [] := by
  simp [below, ancestors]

/-! ## Scope and alias prefixes -/

/-- The path from an anchor down to a level that extends it. -/
def relative? (level anchor : Level) : Option String :=
  (Text.after? (anchor.toList ++ [separator]) level.toList).map String.ofList

/-- Whether a level may be selected in a statement anchored at another one. -/
def isInScope (level anchor : Level) : Bool :=
  level == anchor || anchor == root || (relative? level anchor).isSome

/-- What output names of a level start with in a statement anchored at another
one: the path below the anchor and a separator, or nothing for the anchor. -/
def aliasPrefix (level anchor : Level) : String :=
  if level = anchor then ""
  else
    let path := if anchor = root then level else (relative? level anchor).getD level
    path ++ String.singleton separator

@[simp] theorem aliasPrefix_self (anchor : Level) : aliasPrefix anchor anchor = "" := by
  simp [aliasPrefix]

/-- Below the root the whole level is the alias prefix. -/
theorem aliasPrefix_root {level : Level} (h : level ≠ root) :
    aliasPrefix level root = level ++ String.singleton separator := by
  simp [aliasPrefix, h]

/-- The relative path is what follows the anchor and a separator. -/
theorem relative?_eq_some {level anchor : Level} {path : String} :
    relative? level anchor = some path ↔
      level.toList = anchor.toList ++ separator :: path.toList := by
  unfold relative?
  rw [Option.map_eq_some_iff]
  constructor
  · rintro ⟨rest, hrest, rfl⟩
    simpa using Text.after?_eq_some.mp hrest
  · intro h
    exact ⟨path.toList, Text.after?_eq_some.mpr (by simpa using h), String.ofList_toList⟩

/-- Every level is in the scope of the root. -/
@[simp] theorem isInScope_root (level : Level) : isInScope level root = true := by
  simp [isInScope]

@[simp] theorem isInScope_self (anchor : Level) : isInScope anchor anchor = true := by
  simp [isInScope]

/-- The root lies in the scope of no other anchor. -/
theorem anchor_eq_root_of_isInScope_root {anchor : Level} (h : isInScope root anchor = true) :
    anchor = root := by
  unfold isInScope at h
  rw [Bool.or_eq_true, Bool.or_eq_true, beq_iff_eq, beq_iff_eq, Option.isSome_iff_exists] at h
  rcases h with (h | h) | ⟨path, h⟩
  · exact h.symm
  · exact h
  · have hmem : separator ∈ root.toList := by
      rw [relative?_eq_some.mp h]
      simp
    exact absurd hmem (by decide)

end Level

end SelectionSql
