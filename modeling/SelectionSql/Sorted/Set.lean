/-!
# Sorted sets - Finite sets of text in order

A set is the strictly increasing list of its members, ordered by code point.

Main results:

- `SortedSet.mem_insert`, `SortedSet.mem_insertAll`, `SortedSet.mem_ofList`:
  the members after each operation.
- `SortedSet.ext_mem`: sets with the same members are equal.
- `SortedSet.ofList_toList`: a set is made anew from its members.
-/

namespace SelectionSql

/-- A finite set of texts, kept in order. -/
structure SortedSet where
  toList : List String
  /-- The members increase strictly, so none occurs twice. -/
  increasing : toList.Pairwise (· < ·)
  deriving DecidableEq

namespace SortedSet

/-- Put a member at its place unless it is there already. -/
def insertMember (member : String) : List String → List String
  | [] => [member]
  | head :: rest =>
      if member < head then member :: head :: rest
      else if member = head then head :: rest
      else head :: insertMember member rest

/-- Insertion into a list adds exactly its member. -/
theorem mem_insertMember {member other : String} {members : List String} :
    other ∈ insertMember member members ↔ other = member ∨ other ∈ members := by
  induction members with
  | nil => simp [insertMember]
  | cons head rest ih =>
      unfold insertMember
      split
      · simp
      · split
        next heq => subst heq; simp
        next => simp [ih]; grind

/-- Insertion keeps the members strictly increasing. -/
theorem increasing_insertMember {member : String} {members : List String}
    (h : members.Pairwise (· < ·)) : (insertMember member members).Pairwise (· < ·) := by
  induction members with
  | nil => simp [insertMember]
  | cons head rest ih =>
      rw [List.pairwise_cons] at h
      unfold insertMember
      split
      next hlt =>
        rw [List.pairwise_cons]
        refine ⟨?_, List.pairwise_cons.mpr h⟩
        intro other hother
        rcases List.mem_cons.mp hother with rfl | hmem
        · exact hlt
        · exact String.lt_trans hlt (h.1 other hmem)
      next hnlt =>
        split
        next => exact List.pairwise_cons.mpr h
        next hne =>
          rw [List.pairwise_cons]
          refine ⟨?_, ih h.2⟩
          intro other hother
          rcases mem_insertMember.mp hother with rfl | hmem
          · exact Std.lt_of_le_of_ne (String.not_lt.mp hnlt) (fun heq => hne heq.symm)
          · exact h.1 other hmem

/-- Strictly increasing lists with the same members are equal. -/
theorem eq_of_mem_iff {left right : List String} (hleft : left.Pairwise (· < ·))
    (hright : right.Pairwise (· < ·)) (h : ∀ text, text ∈ left ↔ text ∈ right) :
    left = right := by
  induction left generalizing right with
  | nil =>
      cases right with
      | nil => rfl
      | cons head rest => simpa using h head
  | cons lhead lrest ih =>
      cases right with
      | nil => simpa using h lhead
      | cons rhead rrest =>
          rw [List.pairwise_cons] at hleft hright
          have hheads : lhead = rhead := by
            rcases List.mem_cons.mp ((h lhead).mp List.mem_cons_self) with heq | hl
            · exact heq
            · rcases List.mem_cons.mp ((h rhead).mpr List.mem_cons_self) with heq | hr
              · exact heq.symm
              · exact absurd (String.lt_trans (hleft.1 _ hr) (hright.1 _ hl))
                  (String.lt_irrefl _)
          subst hheads
          refine congrArg (List.cons _) (ih hleft.2 hright.2 fun text => ?_)
          have hiff := h text
          rw [List.mem_cons, List.mem_cons] at hiff
          constructor
          · intro hmem
            rcases hiff.mp (Or.inr hmem) with rfl | hr
            · exact absurd (hleft.1 _ hmem) (String.lt_irrefl _)
            · exact hr
          · intro hmem
            rcases hiff.mpr (Or.inr hmem) with rfl | hl
            · exact absurd (hright.1 _ hmem) (String.lt_irrefl _)
            · exact hl

/-! ## Sets -/

instance : Membership String SortedSet := ⟨fun set text => text ∈ set.toList⟩

instance (text : String) (set : SortedSet) : Decidable (text ∈ set) :=
  inferInstanceAs (Decidable (text ∈ set.toList))

/-- Nothing is in order. -/
theorem increasing_nil : ([] : List String).Pairwise (· < ·) :=
  List.Pairwise.nil

/-- The set without members. -/
def empty : SortedSet := ⟨[], increasing_nil⟩

instance : EmptyCollection SortedSet := ⟨empty⟩

instance : Inhabited SortedSet := ⟨empty⟩

/-- Add a member. -/
def insert (set : SortedSet) (member : String) : SortedSet :=
  ⟨insertMember member set.toList, increasing_insertMember set.increasing⟩

/-- Add every text of a list. -/
def insertAll (set : SortedSet) (members : List String) : SortedSet :=
  members.foldl insert set

/-- The set of the texts in a list. -/
def ofList (members : List String) : SortedSet :=
  empty.insertAll members

theorem mem_toList {set : SortedSet} {text : String} : text ∈ set.toList ↔ text ∈ set :=
  Iff.rfl

@[simp] theorem not_mem_empty (text : String) : text ∉ empty :=
  List.not_mem_nil

/-- The members after an insertion. -/
theorem mem_insert {set : SortedSet} {member text : String} :
    text ∈ set.insert member ↔ text = member ∨ text ∈ set :=
  mem_insertMember

/-- The members after several insertions. -/
theorem mem_insertAll {set : SortedSet} {members : List String} {text : String} :
    text ∈ set.insertAll members ↔ text ∈ members ∨ text ∈ set := by
  induction members generalizing set with
  | nil => simp [insertAll]
  | cons head rest ih =>
      have hstep : set.insertAll (head :: rest) = (set.insert head).insertAll rest := rfl
      rw [hstep, ih, mem_insert, List.mem_cons]
      constructor
      · rintro (hmem | rfl | hmem)
        · exact Or.inl (Or.inr hmem)
        · exact Or.inl (Or.inl rfl)
        · exact Or.inr hmem
      · rintro ((rfl | hmem) | hmem)
        · exact Or.inr (Or.inl rfl)
        · exact Or.inl hmem
        · exact Or.inr (Or.inr hmem)

/-- The members of a set built from a list. -/
theorem mem_ofList {members : List String} {text : String} :
    text ∈ ofList members ↔ text ∈ members := by
  rw [ofList, mem_insertAll]
  simp

/-- Sets with the same members are equal. -/
theorem ext_mem {left right : SortedSet} (h : ∀ text, text ∈ left ↔ text ∈ right) :
    left = right := by
  obtain ⟨left, hleft⟩ := left
  obtain ⟨right, hright⟩ := right
  have : left = right := eq_of_mem_iff hleft hright h
  subst this
  rfl

/-- A set is made anew from its members. -/
theorem ofList_toList (set : SortedSet) : ofList set.toList = set := by
  refine ext_mem fun text => ?_
  rw [mem_ofList, mem_toList]

/-- Members occur once. -/
theorem nodup_toList (set : SortedSet) : set.toList.Nodup := by
  refine List.Pairwise.imp ?_ set.increasing
  intro left right hlt heq
  subst heq
  exact String.lt_irrefl left hlt

end SortedSet

end SelectionSql
