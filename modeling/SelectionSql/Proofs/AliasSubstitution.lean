import Mathlib.Data.List.Forall2
import SelectionSql.Plan.Template

/-!
# Alias substitution - Every placeholder of a text is replaced, once

A placeholder is a name in braces behind a dollar sign, wherever it stands in a text.  No two of
them overlap, so a text is cut in one way only into its placeholders and the characters that
belong to none.  Substitution puts the level of the first alias of its name in the place of each
placeholder, and leaves all the rest as it is.

Main results:

- `Text.PlaceholderAt.add_length_le`: placeholders do not overlap.
- `Text.cuts_iff`: the pieces of a text are what a scan finds.
- `replaces_iff`: what a piece is replaced by.
- `substituteAliases_exact`: the text that substitution gives.
-/

namespace SelectionSql

namespace Text

variable {text rest name other : List Char} {start first second : Nat}
variable {piece : Piece (List Char)} {pieces : List (Piece (List Char))}

/-! ## Placeholders of a text -/

/-- The placeholder of a name stands at a position of a text. -/
def PlaceholderAt (text : List Char) (start : Nat) (name : List Char) : Prop :=
  IsName name ∧ braced name <+: text.drop start

/-- Positions behind some characters are those of what follows them. -/
theorem placeholderAt_append (lead : List Char) :
    PlaceholderAt (lead ++ rest) (lead.length + start) name ↔ PlaceholderAt rest start name := by
  simp [PlaceholderAt, ← List.drop_drop]

/-- A placeholder holds no dollar sign but its first character. -/
theorem dollar_not_mem_tail_braced (h : IsName name) : '$' ∉ (braced name).tail := by
  intro hmem
  have hname : '$' ∈ name := by simpa [braced] using hmem
  exact absurd (h.2 '$' hname) (by decide)

/-- A placeholder is over before the next one begins. -/
theorem PlaceholderAt.add_length_le (h : PlaceholderAt text first name)
    (hother : PlaceholderAt text second other) (hlt : first < second) :
    first + (braced name).length ≤ second := by
  by_contra hinside
  obtain ⟨after, hafter⟩ := h.2
  obtain ⟨otherAfter, hotherAfter⟩ := hother.2
  -- the second one begins with a dollar sign, which would be inside the first one
  have hdollar : text[second]? = some '$' := by
    rw [← List.head?_drop, ← hotherAfter]
    rfl
  have htail : text[second]? = (braced name).tail[second - first - 1]? := by
    have hplace : first + (second - first - 1 + 1) = second := by omega
    have hshort : second - first - 1 + 1 < (braced name).length := by omega
    rw [List.getElem?_tail, ← List.getElem?_append_left hshort, hafter, List.getElem?_drop, hplace]
  apply dollar_not_mem_tail_braced h.1
  exact List.mem_of_getElem? (htail.symm.trans hdollar)

/-- The finder of a scan recognises placeholders where they stand. -/
theorem placeholderAt_iff_bracedName? :
    PlaceholderAt text start name ↔
      bracedName? (text.drop start) = some (name, (braced name).length) := by
  simp [PlaceholderAt, bracedName?_eq_some_iff]

/-- At one position stands the placeholder of one name. -/
theorem PlaceholderAt.name_eq (h : PlaceholderAt text start name)
    (hother : PlaceholderAt text start other) : name = other := by
  rw [placeholderAt_iff_bracedName?] at h hother
  exact congrArg Prod.fst (Option.some.inj (h.symm.trans hother))

/-! ## Cutting a text -/

/-- The characters that a piece of a text was made of. -/
def Piece.source : Piece (List Char) → List Char
  | .kept c => [c]
  | .found name => braced name

/-- The placeholder of a name is one of some pieces, behind a number of characters. -/
def FoundAt (pieces : List (Piece (List Char))) (start : Nat) (name : List Char) : Prop :=
  ∃ before after, pieces = before ++ .found name :: after ∧
    (before.flatMap Piece.source).length = start

/-- A text is cut into pieces when they make it up and the placeholders among them are those of
the text, all of them, each where it stands. -/
structure Cuts (text : List Char) (pieces : List (Piece (List Char))) : Prop where
  source : pieces.flatMap Piece.source = text
  found_iff : ∀ start name, PlaceholderAt text start name ↔ FoundAt pieces start name

theorem Piece.length_source_pos (piece : Piece (List Char)) : 0 < piece.source.length := by
  cases piece <;> simp [source]

/-- A placeholder among some pieces is the first one of them or stands behind it. -/
theorem foundAt_cons :
    FoundAt (piece :: pieces) start name ↔
      (start = 0 ∧ piece = .found name) ∨
        ∃ next, start = piece.source.length + next ∧ FoundAt pieces next name := by
  constructor
  · rintro ⟨before, after, hpieces, hstart⟩
    cases before with
    | nil =>
        obtain ⟨rfl, rfl⟩ := List.cons.inj hpieces
        exact Or.inl ⟨hstart.symm, rfl⟩
    | cons head before =>
        obtain ⟨rfl, rfl⟩ := List.cons.inj hpieces
        rw [List.flatMap_cons, List.length_append] at hstart
        exact Or.inr ⟨_, hstart.symm, before, after, rfl, rfl⟩
  · rintro (⟨rfl, rfl⟩ | ⟨next, rfl, before, after, rfl, rfl⟩)
    · exact ⟨[], pieces, rfl, rfl⟩
    · exact ⟨piece :: before, after, rfl, by simp⟩

theorem foundAt_cons_zero : FoundAt (piece :: pieces) 0 name ↔ piece = .found name := by
  have hpos := piece.length_source_pos
  rw [foundAt_cons]
  constructor
  · rintro (⟨-, hpiece⟩ | ⟨next, hnext, -⟩)
    · exact hpiece
    · omega
  · exact fun hpiece => Or.inl ⟨rfl, hpiece⟩

theorem foundAt_cons_add :
    FoundAt (piece :: pieces) (piece.source.length + start) name ↔ FoundAt pieces start name := by
  have hpos := piece.length_source_pos
  rw [foundAt_cons]
  constructor
  · rintro (⟨hzero, -⟩ | ⟨next, hnext, hfound⟩)
    · omega
    · rwa [Nat.add_left_cancel hnext]
  · exact fun hfound => Or.inr ⟨start, rfl, hfound⟩

/-- A piece heads a text when the text begins with it, and with a placeholder only if the piece
is that one. -/
def Heads (piece : Piece (List Char)) (rest : List Char) : Prop :=
  ∀ name, PlaceholderAt (piece.source ++ rest) 0 name ↔ piece = .found name

/-- A placeholder of a text is the piece that heads it or stands behind it. -/
theorem Heads.placeholderAt_iff (h : Heads piece rest) :
    PlaceholderAt (piece.source ++ rest) start name ↔
      (start = 0 ∧ piece = .found name) ∨
        ∃ next, start = piece.source.length + next ∧ PlaceholderAt rest next name := by
  constructor
  · intro hplace
    rcases Nat.eq_zero_or_pos start with rfl | hpos
    · exact Or.inl ⟨rfl, (h name).mp hplace⟩
    · have hbehind : piece.source.length ≤ start := by
        cases piece with
        | kept c => exact hpos
        | found head =>
            have hsum := ((h head).mpr rfl).add_length_le hplace hpos
            rwa [Nat.zero_add] at hsum
      obtain ⟨next, rfl⟩ := Nat.exists_eq_add_of_le hbehind
      exact Or.inr ⟨next, rfl, (placeholderAt_append _).mp hplace⟩
  · rintro (⟨rfl, hpiece⟩ | ⟨next, rfl, hplace⟩)
    · exact (h name).mpr hpiece
    · exact (placeholderAt_append _).mpr hplace

/-- A text is cut by its first piece and a cut of what is left. -/
theorem cuts_cons_iff :
    Cuts (piece.source ++ rest) (piece :: pieces) ↔ Heads piece rest ∧ Cuts rest pieces := by
  constructor
  · intro h
    refine ⟨fun name => (h.found_iff 0 name).trans foundAt_cons_zero, ?_, fun start name => ?_⟩
    · exact List.append_cancel_left h.source
    · rw [← placeholderAt_append piece.source, h.found_iff, foundAt_cons_add]
  · rintro ⟨hhead, hrest⟩
    refine ⟨by rw [List.flatMap_cons, hrest.source], fun start name => ?_⟩
    rw [hhead.placeholderAt_iff, foundAt_cons]
    simp only [hrest.found_iff]

/-- Every text that is not empty is headed by some piece. -/
theorem exists_heads (hne : text ≠ []) :
    ∃ piece rest, text = piece.source ++ rest ∧ Heads piece rest := by
  by_cases hplace : ∃ name, PlaceholderAt text 0 name
  · obtain ⟨name, hname⟩ := hplace
    obtain ⟨rest, rfl⟩ := hname.2
    refine ⟨.found name, rest, rfl, fun other => ⟨fun hother => ?_, ?_⟩⟩
    · rw [hname.name_eq hother]
    · rintro ⟨⟩
      exact hname
  · obtain ⟨c, rest, rfl⟩ := List.exists_cons_of_ne_nil hne
    refine ⟨.kept c, rest, rfl, fun name => ⟨fun hname => ?_, ?_⟩⟩
    · exact absurd ⟨name, hname⟩ hplace
    · rintro ⟨⟩

/-- A scan records the piece that heads a text and goes on behind it. -/
theorem Heads.scan_append (h : Heads piece rest) :
    scan bracedName? 0 (piece.source ++ rest) = piece :: scan bracedName? 0 rest := by
  cases piece with
  | kept c =>
      apply scan_of_none
      rw [bracedName?_eq_none_iff]
      intro name hname hprefix
      exact absurd ((h name).mp ⟨hname, hprefix⟩) (by simp)
  | found name =>
      apply Text.scan_append
      · simp [Piece.source, braced]
      · exact placeholderAt_iff_bracedName?.mp ((h name).mpr rfl)

/-- What a scan finds cuts the text. -/
theorem cuts_scan (text : List Char) : Cuts text (scan bracedName? 0 text) := by
  by_cases hne : text = []
  · subst hne
    refine ⟨rfl, fun start name => ?_⟩
    simp [PlaceholderAt, FoundAt, scan, braced]
  · obtain ⟨piece, rest, htext, hhead⟩ := exists_heads hne
    have hshort : rest.length < text.length := by
      have hpos := piece.length_source_pos
      rw [htext, List.length_append]
      omega
    rw [htext, hhead.scan_append]
    exact cuts_cons_iff.mpr ⟨hhead, cuts_scan rest⟩
termination_by text.length

/-- A text is cut in one way only. -/
theorem cuts_iff : Cuts text pieces ↔ pieces = scan bracedName? 0 text := by
  constructor
  · intro h
    induction pieces generalizing text with
    | nil => rw [← h.source]; rfl
    | cons piece pieces ih =>
        obtain ⟨rest, rfl⟩ : ∃ rest, text = piece.source ++ rest := ⟨_, h.source.symm⟩
        obtain ⟨hhead, hrest⟩ := cuts_cons_iff.mp h
        rw [hhead.scan_append, ← ih hrest]
  · rintro rfl
    exact cuts_scan text

end Text

/-! ## Replacing the placeholders -/

/-- What a piece of a text is replaced by: a character by itself, a placeholder by the level of
the first alias of its name, or by itself when there is none. -/
inductive Replaces (aliases : List TableAlias) : Text.Piece (List Char) → List Char → Prop
  | kept (c : Char) : Replaces aliases (.kept c) [c]
  | mapped {before after : List TableAlias} {entry : TableAlias}
      (h : aliases = before ++ entry :: after)
      (hfirst : ∀ earlier ∈ before, earlier.name ≠ entry.name) :
      Replaces aliases (.found entry.name.toList) entry.level.toList
  | unknown {name : List Char} (h : ∀ entry ∈ aliases, entry.name ≠ String.ofList name) :
      Replaces aliases (.found name) (Text.braced name)

variable {aliases : List TableAlias} {piece : Text.Piece (List Char)} {part : List Char}

/-- A name is mapped to the level of its first alias. -/
theorem aliasLevel?_of_first {before after : List TableAlias} {entry : TableAlias}
    (hfirst : ∀ earlier ∈ before, earlier.name ≠ entry.name) :
    aliasLevel? (before ++ entry :: after) entry.name = some entry.level := by
  have hfind : (before ++ entry :: after).find? (fun other => other.name = entry.name) =
      some entry := by
    rw [List.find?_eq_some_iff_append]
    exact ⟨by simp, before, after, rfl, by simpa using hfirst⟩
  rw [aliasLevel?, hfind]
  rfl

/-- A name without an alias is not mapped. -/
theorem aliasLevel?_of_unknown {name : String} (h : ∀ entry ∈ aliases, entry.name ≠ name) :
    aliasLevel? aliases name = none := by
  simpa [aliasLevel?] using h

/-- Every piece is replaced in one way. -/
theorem replaces_iff : Replaces aliases piece part ↔ part = replacePiece aliases piece := by
  constructor
  · intro h
    cases h with
    | kept c => rfl
    | mapped h hfirst => simp [replacePiece, h, aliasLevel?_of_first hfirst]
    | unknown h => simp [replacePiece, aliasLevel?_of_unknown h]
  · rintro rfl
    cases piece with
    | kept c => exact .kept c
    | found name =>
        cases hfind : aliases.find? fun entry => entry.name = String.ofList name with
        | none =>
            have hunknown : ∀ entry ∈ aliases, entry.name ≠ String.ofList name := by
              simpa using hfind
            simpa [replacePiece, aliasLevel?_of_unknown hunknown] using
              Replaces.unknown hunknown
        | some entry =>
            obtain ⟨hname, before, after, haliases, hbefore⟩ :=
              List.find?_eq_some_iff_append.mp hfind
            have hentry : entry.name = String.ofList name := by simpa using hname
            have hmapped : Replaces aliases (.found entry.name.toList) entry.level.toList :=
              .mapped haliases (by simpa [hentry] using hbefore)
            simpa [replacePiece, aliasLevel?, hfind, hentry] using hmapped

/-- The parts that pieces are replaced by, one for each. -/
theorem forall₂_replaces_iff {pieces : List (Text.Piece (List Char))} {parts : List (List Char)} :
    List.Forall₂ (Replaces aliases) pieces parts ↔ parts = pieces.map (replacePiece aliases) := by
  have hreplaces : Replaces aliases = fun piece part => replacePiece aliases piece = part := by
    ext piece part
    rw [replaces_iff, eq_comm]
  rw [hreplaces, ← List.forall₂_map_left_iff, List.forall₂_eq_eq_eq, eq_comm]

/-- Placeholders do not overlap, and a text is cut in one way into its placeholders and the
characters outside of them.  Substitution puts what each piece is replaced by in its place. -/
theorem substituteAliases_exact (aliases : List TableAlias) (text : String) :
    (∀ first second name other, Text.PlaceholderAt text.toList first name →
      Text.PlaceholderAt text.toList second other → first < second →
        first + (Text.braced name).length ≤ second) ∧
    ∃ pieces, Text.Cuts text.toList pieces ∧
      (∀ others, Text.Cuts text.toList others → others = pieces) ∧
      ∀ result, substituteAliases aliases text = result ↔
        ∃ parts, List.Forall₂ (Replaces aliases) pieces parts ∧
          result = String.ofList parts.flatten := by
  refine ⟨fun first second name other h hother hlt => h.add_length_le hother hlt,
    Text.scan Text.bracedName? 0 text.toList, Text.cuts_scan _, fun others => Text.cuts_iff.mp, ?_⟩
  intro result
  simp only [forall₂_replaces_iff, exists_eq_left]
  rw [substituteAliases, List.flatMap_def, eq_comm]

-- half-open placeholders and shells stay, and no level is read again
example : substituteAliases [⟨"a", "$\x7bb\x7d"⟩, ⟨"b", "rootObject"⟩, ⟨"a", "ward"⟩]
    "$$\x7ba\x7d $\x7b$\x7bb\x7d\x7d $\x7bc\x7d $\x7b\x7d $\x7ba" =
      "$$\x7bb\x7d $\x7brootObject\x7d $\x7bc\x7d $\x7b\x7d $\x7ba" := by
  decide +kernel

end SelectionSql
