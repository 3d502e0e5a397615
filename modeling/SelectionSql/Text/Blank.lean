/-!
# Blank text - White space and trimming

White space is the `White_Space` property of the character database, which is
larger than the ASCII set.

Main results:

- `Text.trimStart_of_not_isBlank`: a text that starts with no white space keeps its start.
- `Text.trim_eq_self_iff`: it leaves a text as it is exactly when neither end is white space.
-/

namespace SelectionSql.Text

/-- Whether a character is white space. -/
def isBlank (c : Char) : Bool :=
  let code := c.toNat
  (decide (9 ≤ code) && decide (code ≤ 13)) || code == 0x20 || code == 0x85 ||
    code == 0xA0 || code == 0x1680 ||
    (decide (0x2000 ≤ code) && decide (code ≤ 0x200A)) ||
    code == 0x2028 || code == 0x2029 || code == 0x202F || code == 0x205F ||
    code == 0x3000

/-- The text without its leading white space. -/
def trimStart (text : String) : String :=
  String.ofList (text.toList.dropWhile isBlank)

/-- The characters without trailing white space. -/
def dropTrailingBlanks (chars : List Char) : List Char :=
  (chars.reverse.dropWhile isBlank).reverse

/-- The text without its leading and trailing white space. -/
def trim (text : String) : String :=
  String.ofList (dropTrailingBlanks (text.toList.dropWhile isBlank))

/-- Whether a text holds nothing but white space. -/
def isBlankText (text : String) : Bool :=
  text.toList.all isBlank

/-- A text that starts with no white space keeps its start. -/
theorem trimStart_of_not_isBlank {text : String} {first : Char} {rest : List Char}
    (htext : text.toList = first :: rest) (h : isBlank first = false) : trimStart text = text := by
  rw [trimStart, htext, List.dropWhile_cons, h, if_neg Bool.false_ne_true, ← htext,
    String.ofList_toList]

/-- Dropping a prefix of blanks leaves nothing exactly of blanks alone. -/
theorem dropWhile_isBlank_eq_nil_iff {chars : List Char} :
    chars.dropWhile isBlank = [] ↔ chars.all isBlank = true := by
  induction chars with
  | nil => simp
  | cons c rest ih =>
      rw [List.dropWhile_cons]
      split
      next h => rw [ih, List.all_cons, h, Bool.true_and]
      next h => simp [h]

/-- Dropping a prefix of blanks leaves a list as it is exactly when it begins with none. -/
theorem dropWhile_isBlank_eq_self_iff {chars : List Char} :
    chars.dropWhile isBlank = chars ↔ ∀ c, chars.head? = some c → isBlank c = false := by
  cases chars with
  | nil => simp
  | cons c rest =>
      rw [List.dropWhile_cons]
      split
      next h =>
        constructor
        · intro heq
          have hlength := (List.dropWhile_suffix isBlank (l := rest)).length_le
          rw [heq] at hlength
          exact absurd hlength (Nat.not_succ_le_self _)
        · intro hhead
          exact absurd (hhead c rfl) (by simp [h])
      next h => simp [h]

theorem length_dropTrailingBlanks_le (chars : List Char) :
    (dropTrailingBlanks chars).length ≤ chars.length := by
  have hlength := (List.dropWhile_suffix isBlank (l := chars.reverse)).length_le
  rw [List.length_reverse] at hlength
  rwa [dropTrailingBlanks, List.length_reverse]

/-- Dropping trailing blanks leaves a list as it is exactly when it ends with none. -/
theorem dropTrailingBlanks_eq_self_iff {chars : List Char} :
    dropTrailingBlanks chars = chars ↔ ∀ c, chars.getLast? = some c → isBlank c = false := by
  rw [dropTrailingBlanks, List.reverse_eq_iff, dropWhile_isBlank_eq_self_iff]
  simp only [List.head?_reverse]

/-- Trimming leaves a text as it is exactly when neither its first nor its last character is
white space. -/
theorem trim_eq_self_iff {text : String} :
    trim text = text ↔
      ∀ c, text.toList.head? = some c ∨ text.toList.getLast? = some c → isBlank c = false := by
  rw [← String.toList_inj, trim, String.toList_ofList]
  generalize text.toList = chars
  constructor
  · intro h
    -- what is dropped from the front cannot be made up for at the end
    have hfront : chars.dropWhile isBlank = chars := by
      apply (List.dropWhile_suffix isBlank).eq_of_length_le
      have hlength := length_dropTrailingBlanks_le (chars.dropWhile isBlank)
      rwa [h] at hlength
    rw [hfront] at h
    rintro c (hhead | hlast)
    · exact dropWhile_isBlank_eq_self_iff.mp hfront c hhead
    · exact dropTrailingBlanks_eq_self_iff.mp h c hlast
  · intro h
    rw [dropWhile_isBlank_eq_self_iff.mpr fun c hhead => h c (Or.inl hhead)]
    exact dropTrailingBlanks_eq_self_iff.mpr fun c hlast => h c (Or.inr hlast)

end SelectionSql.Text
