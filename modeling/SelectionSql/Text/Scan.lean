/-!
# Scanning text - One pass over the occurrences of a form

A scan reads characters from left to right.  Wherever a finder recognises its
form at the head of what remains, the scan records the finding and skips the
characters it covers; every other character is kept.  What a finding is
replaced by is never read again.

Main results:

- `Text.scan_covered`: covered characters leave no piece.
- `Text.scan_append`: a finding at the head of a text covers it, and the scan goes on behind it.
- `Text.scan_of_none`: where the finder recognises nothing, all is kept.
-/

namespace SelectionSql.Text

universe u

/-- One piece of a scanned text: a character, or what a finder recognised. -/
inductive Piece (α : Type u)
  | kept (c : Char)
  | found (value : α)
  deriving DecidableEq

/-- The pieces of a text, of which the first characters are still covered by
an earlier finding.  The finder gives a value and the number of characters it
covers. -/
def scan {α : Type u} (find : List Char → Option (α × Nat)) :
    Nat → List Char → List (Piece α)
  | _, [] => []
  | covered + 1, _ :: rest => scan find covered rest
  | 0, c :: rest =>
      match find (c :: rest) with
      | some (value, length) => .found value :: scan find (length - 1) rest
      | none => .kept c :: scan find 0 rest

variable {α : Type u} {find : List Char → Option (α × Nat)}

/-- Covered characters leave no piece. -/
theorem scan_covered (covered rest : List Char) :
    scan find covered.length (covered ++ rest) = scan find 0 rest := by
  induction covered with
  | nil => rfl
  | cons c covered ih => exact ih

/-- A finding is recorded once and its characters are skipped. -/
theorem scan_of_some {c : Char} {covered rest : List Char} {value : α} {length : Nat}
    (h : find (c :: (covered ++ rest)) = some (value, length))
    (hlength : length = covered.length + 1) :
    scan find 0 (c :: (covered ++ rest)) = .found value :: scan find 0 rest := by
  subst hlength
  rw [scan, h]
  exact congrArg (List.cons _) (scan_covered covered rest)

/-- The scan goes on behind a finding. -/
theorem scan_append {lead rest : List Char} {value : α} (hlead : lead ≠ [])
    (h : find (lead ++ rest) = some (value, lead.length)) :
    scan find 0 (lead ++ rest) = .found value :: scan find 0 rest := by
  cases lead with
  | nil => exact absurd rfl hlead
  | cons c covered => exact scan_of_some h rfl

/-- Where the finder recognises nothing the character is kept. -/
theorem scan_of_none {c : Char} {rest : List Char} (h : find (c :: rest) = none) :
    scan find 0 (c :: rest) = .kept c :: scan find 0 rest := by
  rw [scan, h]

end SelectionSql.Text
