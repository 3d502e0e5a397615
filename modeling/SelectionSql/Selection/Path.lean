import SelectionSql.Schema.Catalog
import SelectionSql.Selection
import SelectionSql.Text.Blank

/-!
# Selection paths - From slash-separated paths to a selection

A path names a scalar field by the references that lead to it, or a reference
by itself.  Every level on the way is registered with an at least empty set of
fields, so that the joins that lead to a nested field are always made.
-/

namespace SelectionSql

/-- The segments of a path: trimmed, the blank ones left out. -/
def pathSegments (path : String) : List String :=
  ((Text.pieces '/' path.toList).map fun piece => Text.trim (String.ofList piece)).filter
    fun segment => decide (segment ≠ "")

namespace Selection

/-- Register every level on the way down from a level. -/
def descend (map : LevelMap) (selection : Selection) (level : Level) :
    List String → Except QueryFault (Selection × Level)
  | [] => .ok (selection, level)
  | segment :: rest =>
      let below := Level.child level segment
      match map.get? below with
      | none => .error (.unknownLevel below)
      | some entity =>
          descend map ((selection.withLevel below entity).withFields below []) below rest

/-- Register what the last segment of a path names: the level of a reference,
or else a field. -/
def selectLeaf (map : LevelMap) (selection : Selection) (level : Level) (name : String) :
    Selection :=
  let below := Level.child level name
  match map.get? below with
  | some entity => selection.withLevel below entity
  | none => selection.withFields (if level = "" then Level.root else level) [name]

/-- Add a path given by its segments. -/
def addSegments (map : LevelMap) (selection : Selection) (segments : List String) :
    Except QueryFault Selection :=
  match segments.getLast? with
  | none => .ok selection
  | some leaf =>
      (descend map selection "" segments.dropLast).map fun reached =>
        selectLeaf map reached.1 reached.2 leaf

/-- Add a path. -/
def addPath (map : LevelMap) (selection : Selection) (path : String) :
    Except QueryFault Selection :=
  addSegments map selection (pathSegments path)

/-- The selection of some paths below a root entity. -/
def ofPaths (metadata : Metadata) (rootEntity : String) (paths : List String) :
    Except QueryFault Selection :=
  match metadata.levelMap? rootEntity with
  | none => .error (.unknownEntity rootEntity)
  | some map => paths.foldlM (addPath map) (new rootEntity)

end Selection

end SelectionSql
