import SelectionSql.Plan.Template
import SelectionSql.Text.Blank

/-!
# Templates - Texts that substitution leaves alone

A template in which no braced name occurs is what it was after substitution, whatever its
aliases stand for.  Trimming only cuts white space off its ends.

Main results:

- `substituteAliases_of_not_hasBracedName`: without braced names nothing is replaced.
- `Text.trimEnd_append`: what stands before text that is not blank is kept.
- `Text.HasBracedName.of_trimEnd`: trimming brings no braced name about.
-/

namespace SelectionSql

namespace Text

variable {chars lead rest : List Char} {c : Char}

/-! ## Braced names in a text -/

/-- A braced word occurs somewhere among the characters. -/
def HasBracedName (chars : List Char) : Prop :=
  ∃ before name after, name ≠ [] ∧ (∀ c ∈ name, isWord c = true) ∧
    chars = before ++ (braced name ++ after)

/-- What occurs in a part of a text occurs in the whole. -/
theorem HasBracedName.append (h : HasBracedName chars) (lead rest : List Char) :
    HasBracedName (lead ++ chars ++ rest) := by
  rcases h with ⟨before, name, after, hne, hword, rfl⟩
  exact ⟨lead ++ before, name, after ++ rest, hne, hword, by simp⟩

/-- Without a dollar sign there is no braced name. -/
theorem not_hasBracedName_of_not_mem (h : '$' ∉ chars) : ¬ HasBracedName chars := by
  rintro ⟨before, name, after, -, -, rfl⟩
  exact h (List.mem_append_right _ List.mem_cons_self)

/-- A braced name begins at a dollar sign, so it does not begin before one. -/
theorem HasBracedName.of_append (hlead : '$' ∉ lead)
    (h : HasBracedName (lead ++ chars)) : HasBracedName chars := by
  induction lead with
  | nil => exact h
  | cons first lead ih =>
      rw [List.mem_cons, not_or] at hlead
      refine ih hlead.2 ?_
      rcases h with ⟨before, name, after, hne, hword, hsplit⟩
      cases before with
      | nil =>
          have hfirst : first = '$' := (List.cons.inj hsplit).1
          exact absurd hfirst.symm hlead.1
      | cons other before => exact ⟨before, name, after, hne, hword, (List.cons.inj hsplit).2⟩

/-- Without braced names a scan for them keeps every character. -/
theorem scan_of_not_hasBracedName (h : ¬ HasBracedName chars) :
    scan bracedName? 0 chars = chars.map Piece.kept := by
  induction chars with
  | nil => rfl
  | cons c rest ih =>
      have hrest : ¬ HasBracedName rest := by
        intro hrest
        have hwhole := hrest.append [c] []
        rw [List.append_nil] at hwhole
        exact h hwhole
      have hnone : bracedName? (c :: rest) = none := by
        rw [bracedName?_eq_none_iff]
        rintro name hname ⟨after, hsplit⟩
        exact h ⟨[], name, after, hname.1, hname.2, hsplit.symm⟩
      rw [scan_of_none hnone, ih hrest, List.map_cons]

/-! ## White space at the ends -/

/-- The text without its trailing white space. -/
def trimEnd (text : String) : String :=
  String.ofList (dropTrailingBlanks text.toList)

/-- Only white space is dropped from the end. -/
theorem exists_append_dropTrailingBlanks (chars : List Char) :
    ∃ blanks, chars = dropTrailingBlanks chars ++ blanks := by
  refine ⟨(chars.reverse.takeWhile isBlank).reverse, ?_⟩
  rw [dropTrailingBlanks, ← List.reverse_append, List.takeWhile_append_dropWhile,
    List.reverse_reverse]

/-- What stands before characters that are not all blank stays. -/
theorem dropTrailingBlanks_append (h : chars.all isBlank = false) (lead : List Char) :
    dropTrailingBlanks (lead ++ chars) = lead ++ dropTrailingBlanks chars := by
  have hkept : (chars.reverse.dropWhile isBlank).isEmpty = false := by
    rw [Bool.eq_false_iff]
    intro hempty
    have hall := dropWhile_isBlank_eq_nil_iff.mp (List.isEmpty_iff.mp hempty)
    rw [List.all_reverse, h] at hall
    exact Bool.false_ne_true hall
  unfold dropTrailingBlanks
  rw [List.reverse_append, List.dropWhile_append, hkept]
  simp

/-- What stands before text that is not blank is kept. -/
theorem trimEnd_append {text : String} (h : isBlankText text = false) (before : String) :
    trimEnd (before ++ text) = before ++ trimEnd text := by
  rw [← String.toList_inj, trimEnd, trimEnd, String.toList_append, String.toList_append,
    String.toList_ofList, String.toList_ofList, dropTrailingBlanks_append h]

/-- Trimming a text that starts with no white space only cuts its end. -/
theorem trim_of_not_isBlank {text : String} (htext : text.toList = c :: rest)
    (h : isBlank c = false) : trim text = trimEnd text := by
  unfold trim trimEnd
  rw [htext, List.dropWhile_cons, h]
  rfl

/-- Trimming brings no braced name about. -/
theorem HasBracedName.of_trimEnd {text : String} (h : HasBracedName (trimEnd text).toList) :
    HasBracedName text.toList := by
  rcases exists_append_dropTrailingBlanks text.toList with ⟨blanks, hsplit⟩
  rw [trimEnd, String.toList_ofList] at h
  rw [hsplit]
  exact h.append [] blanks

end Text

/-- Without braced names nothing is replaced in a text. -/
theorem substituteAliases_of_not_hasBracedName {text : String}
    (h : ¬ Text.HasBracedName text.toList) (aliases : List TableAlias) :
    substituteAliases aliases text = text := by
  have hkept : ∀ chars : List Char,
      (chars.map Text.Piece.kept).flatMap (replacePiece aliases) = chars := by
    intro chars
    induction chars with
    | nil => rfl
    | cons c rest ih =>
        rw [List.map_cons, List.flatMap_cons, ih]
        rfl
  rw [substituteAliases, Text.scan_of_not_hasBracedName h, hkept, String.ofList_toList]

end SelectionSql
