/-!
# Cutting text - Splitting characters at a separator

Main results:

- `Text.cutLast_append_cons`, `Text.cutFirst_append_cons`: where the cut falls.
- `Text.cutLast_eq_none`, `Text.cutFirst_eq_none`: there is no cut exactly when
  the separator does not occur.
- `Text.intercalate_pieces`, `Text.sep_notMem_of_mem_pieces`: the pieces make up the text, and
  none of them holds the separator.
- `Text.after?_eq_some`: what follows a lead.
-/

namespace SelectionSql.Text

/-! ## One cut -/

/-- The characters before and after the last occurrence of a separator. -/
def cutLast (sep : Char) : List Char → Option (List Char × List Char)
  | [] => none
  | c :: rest =>
      match cutLast sep rest with
      | some (before, after) => some (c :: before, after)
      | none => if c = sep then some ([], rest) else none

/-- The characters before and after the first occurrence of a separator. -/
def cutFirst (sep : Char) : List Char → Option (List Char × List Char)
  | [] => none
  | c :: rest =>
      if c = sep then some ([], rest)
      else (cutFirst sep rest).map fun cut => (c :: cut.1, cut.2)

/-- There is no last cut exactly when the separator does not occur. -/
theorem cutLast_eq_none {sep : Char} {chars : List Char} :
    cutLast sep chars = none ↔ sep ∉ chars := by
  induction chars with
  | nil => simp [cutLast]
  | cons c rest ih =>
      unfold cutLast
      cases hrest : cutLast sep rest with
      | some cut =>
          have hmem : sep ∈ rest := by
            refine Decidable.byContradiction fun hno => ?_
            rw [ih.mpr hno] at hrest
            simp at hrest
          simp [hmem]
      | none =>
          have hno : sep ∉ rest := ih.mp hrest
          by_cases h : c = sep
          · simp [h]
          · simp [h, hno, Ne.symm h]

/-- The last cut falls before a separator after which none follows. -/
theorem cutLast_append_cons {sep : Char} (before : List Char) {after : List Char}
    (h : sep ∉ after) : cutLast sep (before ++ sep :: after) = some (before, after) := by
  induction before with
  | nil => simp [cutLast, cutLast_eq_none.mpr h]
  | cons c rest ih => simp [cutLast, ih]

/-- The last cut loses nothing but the separator, and none follows it. -/
theorem eq_of_cutLast {sep : Char} {chars before after : List Char}
    (h : cutLast sep chars = some (before, after)) :
    chars = before ++ sep :: after ∧ sep ∉ after := by
  induction chars generalizing before after with
  | nil => simp [cutLast] at h
  | cons c rest ih =>
      unfold cutLast at h
      cases hrest : cutLast sep rest with
      | some cut =>
          obtain ⟨b, a⟩ := cut
          rw [hrest] at h
          simp only [Option.some.injEq, Prod.mk.injEq] at h
          obtain ⟨rfl, rfl⟩ := h
          obtain ⟨heq, hno⟩ := ih hrest
          exact ⟨by rw [heq]; rfl, hno⟩
      | none =>
          rw [hrest] at h
          by_cases hc : c = sep
          · simp only [hc, if_true, Option.some.injEq, Prod.mk.injEq] at h
            obtain ⟨rfl, rfl⟩ := h
            exact ⟨by rw [hc]; rfl, cutLast_eq_none.mp hrest⟩
          · simp [hc] at h

/-- There is no first cut exactly when the separator does not occur. -/
theorem cutFirst_eq_none {sep : Char} {chars : List Char} :
    cutFirst sep chars = none ↔ sep ∉ chars := by
  induction chars with
  | nil => simp [cutFirst]
  | cons c rest ih =>
      unfold cutFirst
      by_cases h : c = sep
      · simp [h]
      · simp [h, ih, Ne.symm h]

/-- The first cut falls at a separator before which there is none. -/
theorem cutFirst_append_cons {sep : Char} {before : List Char} (after : List Char)
    (h : sep ∉ before) : cutFirst sep (before ++ sep :: after) = some (before, after) := by
  induction before with
  | nil => simp [cutFirst]
  | cons c rest ih =>
      rw [List.mem_cons, not_or] at h
      simp [cutFirst, ih h.2, Ne.symm h.1]

/-- The first cut loses nothing but the separator, and none precedes it. -/
theorem eq_of_cutFirst {sep : Char} {chars before after : List Char}
    (h : cutFirst sep chars = some (before, after)) :
    chars = before ++ sep :: after ∧ sep ∉ before := by
  induction chars generalizing before after with
  | nil => simp [cutFirst] at h
  | cons c rest ih =>
      unfold cutFirst at h
      by_cases hc : c = sep
      · simp only [hc, if_true, Option.some.injEq, Prod.mk.injEq] at h
        obtain ⟨rfl, rfl⟩ := h
        exact ⟨by rw [hc]; rfl, List.not_mem_nil⟩
      · simp only [hc, if_false, Option.map_eq_some_iff] at h
        obtain ⟨⟨b, a⟩, hrest, heq⟩ := h
        simp only [Prod.mk.injEq] at heq
        obtain ⟨rfl, rfl⟩ := heq
        obtain ⟨hsame, hno⟩ := ih hrest
        refine ⟨by rw [hsame]; rfl, ?_⟩
        rw [List.mem_cons, not_or]
        exact ⟨fun h => hc h.symm, hno⟩

/-! ## All pieces and leads -/

/-- The pieces between the occurrences of a separator. -/
def pieces (sep : Char) : List Char → List (List Char)
  | [] => [[]]
  | c :: rest =>
      if c = sep then [] :: pieces sep rest
      else
        match pieces sep rest with
        | [] => [[c]]
        | first :: others => (c :: first) :: others

/-- There is at least one piece. -/
theorem pieces_ne_nil (sep : Char) (chars : List Char) : pieces sep chars ≠ [] := by
  cases chars with
  | nil => simp [pieces]
  | cons c rest =>
      unfold pieces
      split
      · simp
      · split <;> simp

/-- A character other than the separator goes to the first piece. -/
theorem exists_pieces_cons {sep c : Char} (rest : List Char) (h : c ≠ sep) :
    ∃ first others, pieces sep rest = first :: others ∧
      pieces sep (c :: rest) = (c :: first) :: others := by
  obtain ⟨first, others, hpieces⟩ := List.exists_cons_of_ne_nil (pieces_ne_nil sep rest)
  exact ⟨first, others, hpieces, by simp [pieces, h, hpieces]⟩

/-- The pieces in a row, with the separator between them, are the text. -/
theorem intercalate_pieces (sep : Char) (chars : List Char) :
    [sep].intercalate (pieces sep chars) = chars := by
  induction chars with
  | nil => rfl
  | cons c rest ih =>
      by_cases hsep : c = sep
      · obtain ⟨first, others, hpieces⟩ := List.exists_cons_of_ne_nil (pieces_ne_nil sep rest)
        rw [pieces, if_pos hsep, hpieces, List.intercalate_cons_cons, ← hpieces, ih, hsep]
        rfl
      · obtain ⟨first, others, hrest, hpieces⟩ := exists_pieces_cons rest hsep
        rw [hrest] at ih
        rw [hpieces, ← ih]
        cases others <;> simp [List.intercalate_cons_cons]

/-- No piece holds the separator. -/
theorem sep_notMem_of_mem_pieces {sep : Char} {chars piece : List Char}
    (h : piece ∈ pieces sep chars) : sep ∉ piece := by
  induction chars generalizing piece with
  | nil =>
      cases List.mem_singleton.mp h
      exact List.not_mem_nil
  | cons c rest ih =>
      by_cases hsep : c = sep
      · rw [pieces, if_pos hsep] at h
        rcases List.mem_cons.mp h with rfl | h
        · exact List.not_mem_nil
        · exact ih h
      · obtain ⟨first, others, hrest, hpieces⟩ := exists_pieces_cons rest hsep
        rw [hpieces] at h
        rw [hrest] at ih
        rcases List.mem_cons.mp h with rfl | h
        · rw [List.mem_cons, not_or]
          exact ⟨Ne.symm hsep, ih List.mem_cons_self⟩
        · exact ih (List.mem_cons_of_mem _ h)

/-- The characters after a lead, if the text starts with it. -/
def after? : List Char → List Char → Option (List Char)
  | [], chars => some chars
  | _ :: _, [] => none
  | l :: lead, c :: chars => if l = c then after? lead chars else none

/-- What follows a lead is the text without it. -/
theorem after?_eq_some {lead chars rest : List Char} :
    after? lead chars = some rest ↔ chars = lead ++ rest := by
  induction lead generalizing chars with
  | nil => simp [after?]
  | cons l lead ih =>
      cases chars with
      | nil => simp [after?]
      | cons c chars =>
          by_cases h : l = c
          · simp [after?, h, ih]
          · simp [after?, h, Ne.symm h]

end SelectionSql.Text
