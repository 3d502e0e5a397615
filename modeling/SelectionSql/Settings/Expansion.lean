import SelectionSql.Settings.Fault
import SelectionSql.Text.Placeholder

/-!
# Expansion - Variables in a text

A variable is named in braces or bare after a dollar sign.  Its value takes the
place of the name and is not expanded again.

Main results:

- `pieceText_kept`, `pieceText_found`: what a piece of a text expands to.
-/

namespace SelectionSql

/-- What a piece of a text expands to. -/
def pieceText (valueOf? : String → Option String) :
    Text.Piece (List Char) → Except SettingsFault (List Char)
  | .kept c => .ok [c]
  | .found name =>
      match valueOf? (String.ofList name) with
      | some value => .ok value.toList
      | none => .error (.missingVariable (String.ofList name))

/-- The text with every named variable replaced by its value; the first name
that is not set is at fault. -/
def expandVariables (valueOf? : String → Option String) (text : String) :
    Except SettingsFault String := do
  let pieces ← (Text.scan Text.variableName? 0 text.toList).mapM (pieceText valueOf?)
  return String.ofList pieces.flatten

/-- The names of the variables in a text, in reading order. -/
def namedVariables (text : String) : List String :=
  (Text.scan Text.variableName? 0 text.toList).filterMap fun
    | .kept _ => none
    | .found name => some (String.ofList name)

/-- A character outside any name stays. -/
@[simp] theorem pieceText_kept (valueOf? : String → Option String) (c : Char) :
    pieceText valueOf? (.kept c) = .ok [c] := rfl

/-- A name that is set expands to its value. -/
theorem pieceText_found {valueOf? : String → Option String} {name : List Char}
    {value : String} (h : valueOf? (String.ofList name) = some value) :
    pieceText valueOf? (.found name) = .ok value.toList := by
  simp [pieceText, h]

end SelectionSql
