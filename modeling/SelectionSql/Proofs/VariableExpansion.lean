import SelectionSql.Proofs.Outcome
import SelectionSql.Settings.Expansion

/-!
# Variable expansion - One reading of a text, one value for each of its names

A text is read from left to right.  A dollar sign begins a name in braces where one follows, or
else a bare name that is taken as long as possible, or else it stands for itself.  Expansion puts
the value of every name in its place and reads no value again.  It fails for the first name of the
reading that is not set, and for nothing else.

Main results:

- `Text.reads_iff`: the reading of a text is what a scan finds.
- `expands_iff`: what a piece of a reading expands to.
- `expandVariables_exact`: when expansion succeeds, what it gives and what it fails for.
-/

namespace SelectionSql

namespace Text

/-! ## Reading a text -/

/-- A text is read as some pieces, from left to right.  A bare name cannot begin where a name in
braces does, since a brace is no word character. -/
inductive Reads : List Char → List (Piece (List Char)) → Prop
  | done : Reads [] []
  | plain {c : Char} {rest : List Char} {pieces : List (Piece (List Char))}
      (hc : c ≠ '$') (hrest : Reads rest pieces) : Reads (c :: rest) (.kept c :: pieces)
  | braced {name rest : List Char} {pieces : List (Piece (List Char))}
      (hname : IsName name) (hrest : Reads rest pieces) :
      Reads (Text.braced name ++ rest) (.found name :: pieces)
  | bare {name rest : List Char} {pieces : List (Piece (List Char))}
      (hname : IsName name) (hend : EndsWord rest) (hrest : Reads rest pieces) :
      Reads ('$' :: name ++ rest) (.found name :: pieces)
  | dollar {rest : List Char} {pieces : List (Piece (List Char))}
      (hbraced : ∀ name, IsName name → ¬ Text.braced name <+: '$' :: rest)
      (hend : EndsWord rest) (hrest : Reads rest pieces) :
      Reads ('$' :: rest) (.kept '$' :: pieces)

variable {text : List Char} {pieces : List (Piece (List Char))}

/-- A text has no reading but what a scan finds. -/
theorem Reads.eq_scan (h : Reads text pieces) : pieces = scan variableName? 0 text := by
  induction h with
  | done => rfl
  | plain hc hrest ih => rw [scan_of_none (variableName?_of_ne hc _), ← ih]
  | braced hname hrest ih =>
      rw [scan_append (by simp [Text.braced]) (variableName?_braced hname _), ← ih]
  | bare hname hend hrest ih =>
      rw [scan_append (by simp) (variableName?_bare hname hend), ← ih]
  | dollar hbraced hend hrest ih => rw [scan_of_none (variableName?_dollar hbraced hend), ← ih]

/-- Every text that is not empty is read up to somewhere, whatever is read after that. -/
theorem exists_reads_of_ne_nil (hne : text ≠ []) :
    ∃ rest, rest.length < text.length ∧
      ∀ pieces, Reads rest pieces → ∃ piece, Reads text (piece :: pieces) := by
  obtain ⟨c, rest, rfl⟩ := List.exists_cons_of_ne_nil hne
  by_cases hc : c = '$'
  · subst hc
    by_cases hbraced : ∃ name, IsName name ∧ Text.braced name <+: '$' :: rest
    · obtain ⟨name, hname, after, hafter⟩ := hbraced
      refine ⟨after, ?_, fun pieces hpieces => ⟨.found name, ?_⟩⟩
      · simp [← hafter]
      · rw [← hafter]
        exact .braced hname hpieces
    · obtain ⟨word, after, rfl, hword, hend⟩ := exists_word_append rest
      by_cases hempty : word = []
      · subst hempty
        refine ⟨after, by simp, fun pieces hpieces => ⟨.kept '$', ?_⟩⟩
        exact .dollar (by simpa using hbraced) hend hpieces
      · refine ⟨after, ?_, fun pieces hpieces => ⟨.found word, .bare ⟨hempty, hword⟩ hend hpieces⟩⟩
        simp only [List.length_cons, List.length_append]
        omega
  · exact ⟨rest, by simp, fun pieces hpieces => ⟨.kept c, .plain hc hpieces⟩⟩

/-- Every text has a reading. -/
theorem exists_reads (text : List Char) : ∃ pieces, Reads text pieces := by
  by_cases hne : text = []
  · exact ⟨[], hne ▸ .done⟩
  · obtain ⟨rest, hshort, hreads⟩ := exists_reads_of_ne_nil hne
    obtain ⟨pieces, hpieces⟩ := exists_reads rest
    obtain ⟨piece, hpiece⟩ := hreads pieces hpieces
    exact ⟨piece :: pieces, hpiece⟩
termination_by text.length

/-- The one reading of a text is what a scan finds. -/
theorem reads_iff : Reads text pieces ↔ pieces = scan variableName? 0 text := by
  constructor
  · exact Reads.eq_scan
  · rintro rfl
    obtain ⟨pieces, hpieces⟩ := exists_reads text
    rwa [← hpieces.eq_scan]

end Text

/-! ## Expanding what was read -/

/-- What a piece of a reading expands to: a character to itself, a name to its value. -/
inductive Expands (valueOf? : String → Option String) : Text.Piece (List Char) → List Char → Prop
  | kept (c : Char) : Expands valueOf? (.kept c) [c]
  | found {name : List Char} {value : String} (h : valueOf? (String.ofList name) = some value) :
      Expands valueOf? (.found name) value.toList

/-- Every name among some pieces is set. -/
def NamesSet (valueOf? : String → Option String) (pieces : List (Text.Piece (List Char))) : Prop :=
  ∀ name, .found name ∈ pieces → ∃ value, valueOf? (String.ofList name) = some value

variable {valueOf? : String → Option String} {fault : SettingsFault}
variable {piece : Text.Piece (List Char)} {pieces : List (Text.Piece (List Char))}
variable {part : List Char}

/-- A piece expands in one way, if it does. -/
theorem expands_iff : Expands valueOf? piece part ↔ pieceText valueOf? piece = .ok part := by
  constructor
  · intro h
    cases h with
    | kept c => rfl
    | found h => exact pieceText_found h
  · intro h
    cases piece with
    | kept c =>
        cases Except.ok.inj h
        exact .kept c
    | found name =>
        cases hvalue : valueOf? (String.ofList name) with
        | none => simp [pieceText, hvalue] at h
        | some value =>
            rw [pieceText_found hvalue] at h
            cases Except.ok.inj h
            exact .found hvalue

/-- Pieces expand one by one, if they do. -/
theorem forall₂_expands_iff {parts : List (List Char)} :
    List.Forall₂ (Expands valueOf?) pieces parts ↔
      pieces.mapM (pieceText valueOf?) = .ok parts := by
  have hexpands : Expands valueOf? = fun piece part => pieceText valueOf? piece = .ok part := by
    ext piece part
    exact expands_iff
  rw [hexpands, Outcome.mapM_eq_ok]

/-- A piece is at fault exactly when it is a name that is not set. -/
theorem pieceText_eq_error :
    pieceText valueOf? piece = .error fault ↔
      ∃ name, piece = .found name ∧ valueOf? (String.ofList name) = none ∧
        fault = .missingVariable (String.ofList name) := by
  cases piece with
  | kept c => simp
  | found name => cases hvalue : valueOf? (String.ofList name) <;> simp [pieceText, hvalue, eq_comm]

/-- Names are set exactly when every piece expands. -/
theorem namesSet_iff :
    NamesSet valueOf? pieces ↔ ∀ piece ∈ pieces, ∃ part, pieceText valueOf? piece = .ok part := by
  constructor
  · intro h piece hpiece
    cases piece with
    | kept c => exact ⟨[c], rfl⟩
    | found name =>
        obtain ⟨value, hvalue⟩ := h name hpiece
        exact ⟨value.toList, pieceText_found hvalue⟩
  · intro h name hname
    obtain ⟨part, hpart⟩ := h _ hname
    cases expands_iff.mpr hpart with
    | found hvalue => exact ⟨_, hvalue⟩

/-- Expansion expands what a scan finds, piece by piece. -/
theorem expandVariables_eq (valueOf? : String → Option String) (text : String) :
    expandVariables valueOf? text =
      ((Text.scan Text.variableName? 0 text.toList).mapM (pieceText valueOf?)).map
        fun parts => String.ofList parts.flatten := by
  rw [expandVariables]
  cases (Text.scan Text.variableName? 0 text.toList).mapM (pieceText valueOf?) <;> rfl

/-- A text has one reading.  Expansion succeeds exactly when every name that is read is set, with
what each piece expands to in its place, and fails exactly for the first name that is not. -/
theorem expandVariables_exact (valueOf? : String → Option String) (text : String) :
    ∃ pieces, Text.Reads text.toList pieces ∧
      (∀ others, Text.Reads text.toList others → others = pieces) ∧
      ((∃ result, expandVariables valueOf? text = .ok result) ↔ NamesSet valueOf? pieces) ∧
      (∀ result, expandVariables valueOf? text = .ok result ↔
        ∃ parts, List.Forall₂ (Expands valueOf?) pieces parts ∧
          result = String.ofList parts.flatten) ∧
      ∀ fault, expandVariables valueOf? text = .error fault ↔
        ∃ before name after, pieces = before ++ .found name :: after ∧
          NamesSet valueOf? before ∧ valueOf? (String.ofList name) = none ∧
          fault = .missingVariable (String.ofList name) := by
  refine ⟨Text.scan Text.variableName? 0 text.toList, Text.reads_iff.mpr rfl,
    fun others => Text.Reads.eq_scan, ?_, ?_, ?_⟩
  · rw [expandVariables_eq, namesSet_iff]
    constructor
    · rintro ⟨result, hresult⟩ piece hpiece
      obtain ⟨parts, hparts, -⟩ := Outcome.map_eq_ok.mp hresult
      obtain ⟨part, -, hpart⟩ := Outcome.exists_of_mem_mapM hparts hpiece
      exact ⟨part, hpart⟩
    · intro h
      obtain ⟨parts, hparts⟩ := Outcome.exists_mapM_eq_ok h
      exact ⟨_, Outcome.map_eq_ok.mpr ⟨parts, hparts, rfl⟩⟩
  · intro result
    rw [expandVariables_eq, Outcome.map_eq_ok]
    simp only [forall₂_expands_iff, @eq_comm _ result]
  · intro fault
    rw [expandVariables_eq, Outcome.map_eq_error, Outcome.mapM_eq_error]
    constructor
    · rintro ⟨before, piece, after, hpieces, hbefore, hpiece⟩
      obtain ⟨name, rfl, hunset, hfault⟩ := pieceText_eq_error.mp hpiece
      exact ⟨before, name, after, hpieces, namesSet_iff.mpr hbefore, hunset, hfault⟩
    · rintro ⟨before, name, after, hpieces, hbefore, hunset, hfault⟩
      exact ⟨before, .found name, after, hpieces, namesSet_iff.mp hbefore,
        pieceText_eq_error.mpr ⟨name, rfl, hunset, hfault⟩⟩

-- values are not expanded again, and a name is taken as long as it goes
example : expandVariables
    (fun name => List.lookup name [("HOM", "?"), ("HOME", "$USER"), ("USER", "ward")])
    "$HOME/$\x7bUSER\x7d.toml $\x7bHOME $$USER$" = .ok "$USER/ward.toml $\x7bHOME $ward$" := by
  decide +kernel

end SelectionSql
