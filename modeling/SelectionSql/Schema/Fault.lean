import SelectionSql.Files

/-!
# Metadata faults - Why entity definitions are refused
-/

namespace SelectionSql

/-- Why entity definitions are refused. -/
inductive MetadataFault
  | unreadable (fault : FileFault)
  /-- The text is no TOML document of the expected shape. -/
  | invalidToml
  /-- The text is no JSON document of the expected shape. -/
  | invalidJson
  /-- The file name ends in neither of the known formats. -/
  | unsupportedFormat (path : String)
  | duplicateEntity (entity : String)
  /-- A reference leads to an entity that is not defined. -/
  | unknownReference (entity reference target : String)
  /-- A reference name holds the separator of graph levels. -/
  | invalidReferenceName (entity reference : String)
  /-- A field is mapped to two columns. -/
  | conflictingField (entity field column other : String)
  /-- A column is mapped from two fields. -/
  | conflictingColumn (entity column field other : String)
  /-- References lead from each of the entities to all of them. -/
  | cyclicReference (cycle : List String)
  /-- The entity is not declared as a root. -/
  | unknownRoot (entity : String)
  deriving DecidableEq

namespace MetadataFault

/-- The message of a fault. -/
def message : MetadataFault → String
  | unreadable fault => "Failed to read metadata file: " ++ fault.message
  | invalidToml => "Failed to parse metadata TOML:"
  | invalidJson => "Failed to parse metadata JSON:"
  | unsupportedFormat path => "Unsupported metadata file format: " ++ path
  | duplicateEntity entity => "Entity " ++ entity ++ " is defined more than once"
  | unknownReference entity reference target =>
      "Reference '" ++ reference ++ "' of entity " ++ entity ++
        " points to unknown entity " ++ target
  | invalidReferenceName entity reference =>
      "Reference '" ++ reference ++ "' of entity " ++ entity ++ " must not contain '_'"
  | conflictingField entity field column other =>
      "Field '" ++ field ++ "' of entity " ++ entity ++ " is mapped to both '" ++
        column ++ "' and '" ++ other ++ "'"
  | conflictingColumn entity column field other =>
      "Column '" ++ column ++ "' of entity " ++ entity ++ " is mapped from both '" ++
        field ++ "' and '" ++ other ++ "'"
  | cyclicReference cycle =>
      "Entity references form a cycle between: " ++ String.intercalate ", " cycle
  | unknownRoot entity => "Entity " ++ entity ++ " is not declared as a root entity"

end MetadataFault

end SelectionSql
