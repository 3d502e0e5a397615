import SelectionSql.Query.Spec
import SelectionSql.Text.Placeholder

/-!
# Templates - Placeholders for table aliases

A placeholder `${name}` stands for the level that its name is mapped to.  An
unknown one stays as it is, and inserted levels are not read again.
-/

namespace SelectionSql

/-- The level that a name is mapped to first. -/
def aliasLevel? (aliases : List TableAlias) (name : String) : Option Level :=
  (aliases.find? fun entry => entry.name = name).map TableAlias.level

/-- What a piece of a template is replaced by. -/
def replacePiece (aliases : List TableAlias) : Text.Piece (List Char) → List Char
  | .kept c => [c]
  | .found name =>
      match aliasLevel? aliases (String.ofList name) with
      | some level => level.toList
      | none => Text.braced name

/-- The text with every mapped placeholder replaced by its level. -/
def substituteAliases (aliases : List TableAlias) (text : String) : String :=
  String.ofList ((Text.scan Text.bracedName? 0 text.toList).flatMap (replacePiece aliases))

end SelectionSql
