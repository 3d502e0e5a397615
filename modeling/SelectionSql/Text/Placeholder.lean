import SelectionSql.Text.Scan
import SelectionSql.Text.Word

/-!
# Placeholders - Braced and bare names after a dollar sign

A braced name is `$` followed by a non-empty word in braces; a bare name is `$`
followed by a non-empty word, taken as long as possible.

Main results:

- `Text.bracedName?_braced`: a braced word is recognised whatever follows it.
- `Text.bracedName?_eq_some_iff`: and nothing else is recognised as a braced name.
- `Text.variableName?_braced`, `Text.variableName?_bare`: names in both forms are recognised.
- `Text.variableName?_dollar`, `Text.variableName?_of_ne`: and nothing else is.
-/

namespace SelectionSql.Text

/-- The text of a braced name. -/
def braced (name : List Char) : List Char :=
  '$' :: '\x7b' :: name ++ ['\x7d']

/-- The braced name at the head of a text, with the number of characters it
takes. -/
def bracedName? : List Char → Option (List Char × Nat)
  | '$' :: '\x7b' :: rest =>
      let name := rest.takeWhile isWord
      match name, rest.dropWhile isWord with
      | _ :: _, '\x7d' :: _ => some (name, name.length + 3)
      | _, _ => none
  | _ => none

/-- The name at the head of a text, braced or bare, with the number of
characters it takes. -/
def variableName? (chars : List Char) : Option (List Char × Nat) :=
  match bracedName? chars with
  | some found => some found
  | none =>
      match chars with
      | '$' :: rest =>
          let name := rest.takeWhile isWord
          if name.isEmpty then none else some (name, name.length + 1)
      | _ => none

/-- A word is a name when it is not empty. -/
def IsName (name : List Char) : Prop :=
  name ≠ [] ∧ ∀ c ∈ name, isWord c = true

/-- No word goes on at the head of a text. -/
def EndsWord (rest : List Char) : Prop :=
  ∀ c, rest.head? = some c → isWord c = false

variable {name rest : List Char}

/-! ## Words at the head of a text -/

/-- A word is taken to its end. -/
theorem takeWhile_isWord_append (hword : ∀ c ∈ name, isWord c = true) (hend : EndsWord rest) :
    (name ++ rest).takeWhile isWord = name := by
  rw [List.takeWhile_append_of_pos hword]
  cases rest with
  | nil => simp
  | cons c rest => simp [hend c rfl]

/-- What follows a word is left. -/
theorem dropWhile_isWord_append (hword : ∀ c ∈ name, isWord c = true) (hend : EndsWord rest) :
    (name ++ rest).dropWhile isWord = rest := by
  rw [List.dropWhile_append_of_pos hword]
  cases rest with
  | nil => rfl
  | cons c rest => simp [hend c rfl]

/-- A text begins with a word, which may be empty, and no word goes on behind it. -/
theorem exists_word_append (chars : List Char) :
    ∃ word rest, chars = word ++ rest ∧ (∀ c ∈ word, isWord c = true) ∧ EndsWord rest := by
  refine ⟨chars.takeWhile isWord, chars.dropWhile isWord, ?_, ?_, ?_⟩
  · exact List.takeWhile_append_dropWhile.symm
  · exact fun c hc => List.all_eq_true.mp List.all_takeWhile c hc
  · intro c hc
    have hstop := List.head?_dropWhile_not isWord chars
    rw [hc] at hstop
    simpa using hstop

/-! ## Braced names -/

/-- A name in braces takes three characters more. -/
@[simp] theorem length_braced (name : List Char) : (braced name).length = name.length + 3 := by
  simp [braced]

/-- A braced word is recognised whatever follows it. -/
theorem bracedName?_braced {name : List Char} (rest : List Char)
    (hne : name ≠ []) (hword : ∀ c ∈ name, isWord c = true) :
    bracedName? (braced name ++ rest) = some (name, name.length + 3) := by
  have hclose : EndsWord ('\x7d' :: rest) := by
    rintro c ⟨⟩
    decide
  have hshape : braced name ++ rest = '$' :: '\x7b' :: (name ++ '\x7d' :: rest) := by
    simp [braced]
  rw [hshape]
  simp only [bracedName?, takeWhile_isWord_append hword hclose,
    dropWhile_isWord_append hword hclose]
  cases name with
  | nil => exact absurd rfl hne
  | cons c name => rfl

/-- Nothing but a braced word is recognised as a braced name. -/
theorem eq_of_bracedName? {chars name : List Char} {length : Nat}
    (h : bracedName? chars = some (name, length)) :
    name ≠ [] ∧ (∀ c ∈ name, isWord c = true) ∧ length = name.length + 3 ∧
      ∃ rest, chars = braced name ++ rest := by
  unfold bracedName? at h
  split at h
  next rest =>
    simp only at h
    split at h
    next c tail after hname hrest =>
      simp only [Option.some.injEq, Prod.mk.injEq] at h
      obtain ⟨rfl, rfl⟩ := h
      refine ⟨by simp [hname], ?_, rfl, after, ?_⟩
      · intro d hd
        exact List.all_eq_true.mp List.all_takeWhile d hd
      · have hsplit := List.takeWhile_append_dropWhile (p := isWord) (l := rest)
        rw [hrest] at hsplit
        simp only [braced, List.cons_append, List.append_assoc, List.nil_append]
        rw [hsplit]
    next => simp at h
  next => simp at h

/-- A braced name is recognised exactly where a name in braces begins. -/
theorem bracedName?_eq_some_iff {chars : List Char} {length : Nat} :
    bracedName? chars = some (name, length) ↔
      IsName name ∧ length = (braced name).length ∧ braced name <+: chars := by
  rw [length_braced]
  constructor
  · intro h
    obtain ⟨hne, hword, hlength, after, rfl⟩ := eq_of_bracedName? h
    exact ⟨⟨hne, hword⟩, hlength, List.prefix_append _ _⟩
  · rintro ⟨⟨hne, hword⟩, rfl, after, rfl⟩
    exact bracedName?_braced after hne hword

/-- No braced name is recognised exactly where none begins. -/
theorem bracedName?_eq_none_iff {chars : List Char} :
    bracedName? chars = none ↔ ∀ name, IsName name → ¬ braced name <+: chars := by
  rw [Option.eq_none_iff_forall_ne_some]
  constructor
  · intro h name hname hprefix
    exact h _ (bracedName?_eq_some_iff.mpr ⟨hname, rfl, hprefix⟩)
  · rintro h ⟨name, length⟩ hfound
    obtain ⟨hname, -, hprefix⟩ := bracedName?_eq_some_iff.mp hfound
    exact h name hname hprefix

/-! ## Names, braced or bare -/

/-- A name in braces is recognised whatever follows it. -/
theorem variableName?_braced (h : IsName name) (rest : List Char) :
    variableName? (braced name ++ rest) = some (name, (braced name).length) := by
  have hfound : bracedName? (braced name ++ rest) = some (name, (braced name).length) :=
    bracedName?_eq_some_iff.mpr ⟨h, rfl, List.prefix_append _ _⟩
  unfold variableName?
  rw [hfound]

/-- A bare name is recognised to its end. -/
theorem variableName?_bare (h : IsName name) (hend : EndsWord rest) :
    variableName? ('$' :: name ++ rest) = some (name, ('$' :: name).length) := by
  have hnone : bracedName? ('$' :: name ++ rest) = none := by
    rw [bracedName?_eq_none_iff]
    rintro other - ⟨after, hsame⟩
    cases name with
    | nil => exact absurd rfl h.1
    | cons c name =>
        -- the opening brace is no word character
        have hc : '\x7b' = c := (List.cons.inj (List.cons.inj hsame).2).1
        have hword := h.2 c List.mem_cons_self
        rw [← hc] at hword
        exact absurd hword (by decide)
  have hname : name.isEmpty = false := by simpa using h.1
  unfold variableName?
  rw [hnone]
  simp [takeWhile_isWord_append h.2 hend, hname]

/-- A dollar sign that begins no name is no name. -/
theorem variableName?_dollar (hbraced : ∀ name, IsName name → ¬ braced name <+: '$' :: rest)
    (hend : EndsWord rest) : variableName? ('$' :: rest) = none := by
  have hword : rest.takeWhile isWord = [] := takeWhile_isWord_append (List.forall_mem_nil _) hend
  unfold variableName?
  rw [bracedName?_eq_none_iff.mpr hbraced]
  simp [hword]

/-- Names begin with a dollar sign. -/
theorem variableName?_of_ne {c : Char} (h : c ≠ '$') (rest : List Char) :
    variableName? (c :: rest) = none := by
  have hnone : bracedName? (c :: rest) = none := by
    rw [bracedName?_eq_none_iff]
    rintro name - ⟨after, hsame⟩
    exact h (List.cons.inj hsame).1.symm
  unfold variableName?
  rw [hnone]
  simp [h]

end SelectionSql.Text
