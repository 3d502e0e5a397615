import SelectionSql.Text.CaseSpans

/-!
# Casing - Upper and lower case of characters

ASCII characters follow their own rule and all others the tables of the
character database.  Changing the case of one character may give several.

Main results:

- `Text.toLower_of_ascii`, `Text.toUpper_of_ascii`, `Text.isUpper_of_ascii`: the rule
  inside ASCII.
-/

namespace SelectionSql.Text

/-- Whether a character belongs to ASCII. -/
def isAscii (c : Char) : Bool :=
  decide (c.toNat < 0x80)

/-- Whether a character is upper case. -/
def isUpper (c : Char) : Bool :=
  if isAscii c then c.isUpper else upperSpans.any fun span => span.covers c.toNat

/-- A character moved along the first span that covers it. -/
def shiftCase (spans : List CaseSpan) (c : Char) : Char :=
  match spans.find? fun span => span.covers c.toNat with
  | some span => Char.ofNat (Int.ofNat c.toNat + span.shift).toNat
  | none => c

/-- The characters that a table of several gives, or else the shifted one. -/
def changeCase (several : List (Nat × List Nat)) (spans : List CaseSpan)
    (c : Char) : List Char :=
  match several.find? fun entry => entry.1 == c.toNat with
  | some entry => entry.2.map Char.ofNat
  | none => [shiftCase spans c]

/-- The upper case of a character. -/
def toUpper (c : Char) : List Char :=
  if isAscii c then [c.toUpper] else changeCase toUpperSeveral toUpperSpans c

/-- The lower case of a character. -/
def toLower (c : Char) : List Char :=
  if isAscii c then [c.toLower] else changeCase toLowerSeveral toLowerSpans c

/-- The text with its first character in upper case. -/
def capitalize : List Char → List Char
  | [] => []
  | c :: rest => toUpper c ++ rest

/-- The text with its first character in lower case, unless its first two
characters are both upper case. -/
def decapitalize : List Char → List Char
  | [] => []
  | [c] => toLower c
  | c :: d :: rest =>
      if isUpper c && isUpper d then c :: d :: rest else toLower c ++ d :: rest

theorem isUpper_of_ascii {c : Char} (h : isAscii c = true) : isUpper c = c.isUpper := by
  simp [isUpper, h]

theorem toUpper_of_ascii {c : Char} (h : isAscii c = true) : toUpper c = [c.toUpper] := by
  simp [toUpper, h]

theorem toLower_of_ascii {c : Char} (h : isAscii c = true) : toLower c = [c.toLower] := by
  simp [toLower, h]

end SelectionSql.Text
