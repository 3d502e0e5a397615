import Mathlib.Data.Set.Function
import SelectionSql.Proofs.Ancestry

/-!
# Alias prefixes - The way down from an anchor, as output names begin with it

In a statement anchored at a level, the names of the columns of another level begin with the
path from the anchor down to it.  Such paths are appended along a way down, so a statement that
is anchored further down only cuts a common beginning off its names.

Main results:

- `Level.aliasPrefix_append`: along a way down, alias prefixes are appended to one another.
- `Level.aliasPrefix_eq_append_iff`: prefixes nest exactly as levels do.
- `Level.aliasPrefix_exact`: prefixes compose, tell the levels of a scope apart, and are empty
  for its anchor alone.
-/

namespace SelectionSql

namespace Level

variable {anchor level upper lower : Level}

/-! ## Nesting of alias prefixes -/

/-- What levels below an anchor start with, apart from their alias prefixes. -/
def stem (anchor : Level) : List Char :=
  if anchor = root then [] else anchor.toList ++ [separator]

/-- A level below the anchor and a separator are the stem and the alias prefix. -/
theorem toList_append_separator (h : isInScope level anchor = true) (hlevel : level ≠ anchor) :
    level.toList ++ [separator] = stem anchor ++ (aliasPrefix level anchor).toList := by
  by_cases hanchor : anchor = root
  · subst hanchor
    rw [stem, if_pos rfl, aliasPrefix_root hlevel]
    simp
  · rcases isInScope_iff.mp h with heq | heq | ⟨path, hpath⟩
    · exact absurd heq hlevel
    · exact absurd heq hanchor
    · have hprefix : aliasPrefix level anchor = path ++ String.singleton separator := by
        simp [aliasPrefix, hlevel, hanchor, relative?_eq_some.mpr hpath]
      rw [stem, if_neg hanchor, hprefix, hpath]
      simp

/-- Only the anchor has no alias prefix. -/
theorem aliasPrefix_ne_empty (hlevel : level ≠ anchor) : aliasPrefix level anchor ≠ "" := by
  intro h
  have hlist := congrArg String.toList h
  simp [aliasPrefix, hlevel] at hlist

/-- Along a way down, alias prefixes are appended to one another. -/
theorem aliasPrefix_append (hupper : isInScope upper anchor = true)
    (hlower : isInScope lower upper = true) :
    aliasPrefix upper anchor ++ aliasPrefix lower upper = aliasPrefix lower anchor := by
  by_cases hanchor : upper = anchor
  · rw [hanchor, aliasPrefix_self, String.empty_append]
  by_cases hequal : lower = upper
  · rw [hequal, aliasPrefix_self, String.append_empty]
  have hroot : upper ≠ root := ne_root_of_isInScope hupper hanchor
  have hne : lower ≠ anchor := by
    rintro rfl
    exact hequal (isInScope_antisymm hlower hupper)
  have hwhole := toList_append_separator (isInScope_trans hlower hupper) hne
  have hstem : stem upper = stem anchor ++ (aliasPrefix upper anchor).toList := by
    rw [stem, if_neg hroot]
    exact toList_append_separator hupper hanchor
  rw [toList_append_separator hlower hequal, hstem, List.append_assoc] at hwhole
  rw [← String.toList_inj, String.toList_append]
  exact List.append_cancel_left hwhole

/-- A prefix that goes on after that of another level belongs to its scope. -/
theorem isInScope_of_aliasPrefix (hupper : isInScope upper anchor = true)
    (hlower : isInScope lower anchor = true) {rest : String}
    (h : aliasPrefix lower anchor = aliasPrefix upper anchor ++ rest) :
    isInScope lower upper = true := by
  by_cases hupperAnchor : upper = anchor
  · rwa [hupperAnchor]
  by_cases hlowerAnchor : lower = anchor
  · rw [hlowerAnchor, aliasPrefix_self] at h
    exact absurd (String.append_eq_empty_iff.mp h.symm).1 (aliasPrefix_ne_empty hupperAnchor)
  have hlevels : lower.toList ++ [separator] = upper.toList ++ [separator] ++ rest.toList := by
    rw [toList_append_separator hlower hlowerAnchor, toList_append_separator hupper hupperAnchor,
      h, String.toList_append, List.append_assoc]
  rcases List.eq_nil_or_concat rest.toList with hnil | ⟨path, last, hconcat⟩
  · rw [hnil, List.append_nil] at hlevels
    rw [String.toList_inj.mp (List.append_cancel_right hlevels)]
    exact isInScope_self upper
  · rw [hconcat, List.concat_eq_append, ← List.append_assoc] at hlevels
    have hpath := List.append_inj_left' hlevels rfl
    refine isInScope_iff.mpr (Or.inr (Or.inr ⟨String.ofList path, ?_⟩))
    rw [hpath, String.toList_ofList, List.append_assoc]
    rfl

/-- Alias prefixes nest exactly as levels do. -/
theorem aliasPrefix_eq_append_iff (hupper : isInScope upper anchor = true)
    (hlower : isInScope lower anchor = true) {rest : String} :
    aliasPrefix lower anchor = aliasPrefix upper anchor ++ rest ↔
      isInScope lower upper = true ∧ rest = aliasPrefix lower upper := by
  constructor
  · intro h
    have hscope := isInScope_of_aliasPrefix hupper hlower h
    rw [← aliasPrefix_append hupper hscope, String.append_right_inj] at h
    exact ⟨hscope, h.symm⟩
  · intro hparts
    rcases hparts with ⟨hscope, rfl⟩
    exact (aliasPrefix_append hupper hscope).symm

/-! ## What a prefix tells of its level -/

/-- Levels in one scope with the same prefix are the same. -/
theorem aliasPrefix_injOn (anchor : Level) :
    {level | isInScope level anchor = true}.InjOn fun level => aliasPrefix level anchor := by
  intro lower hlower upper hupper heq
  have happend : aliasPrefix lower anchor = aliasPrefix upper anchor ++ "" := by
    rw [String.append_empty]
    exact heq
  have hempty := ((aliasPrefix_eq_append_iff hupper hlower).mp happend).2
  by_contra hne
  exact aliasPrefix_ne_empty hne hempty.symm

/-- The anchor and no other level has an empty prefix. -/
theorem aliasPrefix_eq_empty : aliasPrefix level anchor = "" ↔ level = anchor := by
  constructor
  · intro h
    by_contra hne
    exact aliasPrefix_ne_empty hne h
  · rintro rfl
    exact aliasPrefix_self level

/-- What lies below a level in the scope of an anchor lies in that scope, and its alias prefix
there is that of the upper level followed by its own below it.  In one scope different levels
have different prefixes, and the anchor alone has none. -/
theorem aliasPrefix_exact (anchor : Level) :
    (∀ upper lower, isInScope upper anchor = true → isInScope lower upper = true →
      isInScope lower anchor = true ∧
        aliasPrefix lower anchor = aliasPrefix upper anchor ++ aliasPrefix lower upper) ∧
      ({level | isInScope level anchor = true}.InjOn fun level => aliasPrefix level anchor) ∧
      ∀ level, aliasPrefix level anchor = "" ↔ level = anchor := by
  refine ⟨?_, aliasPrefix_injOn anchor, fun level => aliasPrefix_eq_empty⟩
  intro upper lower hupper hlower
  exact ⟨isInScope_trans hlower hupper, (aliasPrefix_append hupper hlower).symm⟩

/-- Below surgeons, the specialities of their doctors are prefixed by both steps of the way
down, and not like the doctors. -/
theorem specialities_prefixed :
    isInScope "surgeon_doctor" "surgeon" = true ∧
      isInScope "surgeon_doctor_speciality" "surgeon_doctor" = true ∧
      isInScope "surgeon_doctor_speciality" "surgeon" = true ∧
      aliasPrefix "surgeon_doctor_speciality" "surgeon" = "doctor_" ++ "speciality_" ∧
      aliasPrefix "surgeon_doctor_speciality" "surgeon" ≠ aliasPrefix "surgeon_doctor" "surgeon" := by
  have hdoctor : isInScope "surgeon_doctor" "surgeon" = true := by decide
  have hbelow : isInScope "surgeon_doctor_speciality" "surgeon_doctor" = true := by decide
  obtain ⟨hcompose, hinjective, -⟩ := aliasPrefix_exact "surgeon"
  obtain ⟨hspeciality, happend⟩ := hcompose _ _ hdoctor hbelow
  refine ⟨hdoctor, hbelow, hspeciality, happend, ?_⟩
  intro heq
  exact absurd (hinjective hspeciality hdoctor heq) (by decide)

end Level

end SelectionSql
