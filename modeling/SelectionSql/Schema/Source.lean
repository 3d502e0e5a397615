import SelectionSql.Document.Json.Reader
import SelectionSql.Document.Schema
import SelectionSql.Document.Toml.Reader
import SelectionSql.Schema.Catalog

/-!
# Catalog sources - Catalogs from texts and files

The ending of a file name says in which format the definitions are written.  A file that cannot be
read is the fault, whatever its name.
-/

namespace SelectionSql

/-- The format of a metadata file. -/
inductive MetadataFormat
  | toml
  | json
  deriving DecidableEq

namespace MetadataFormat

/-- The format that the ending of a file name stands for.  A name that only
begins with a dot has no ending. -/
def ofPath? (path : String) : Option MetadataFormat :=
  match (Files.steps path).getLast?.bind fun file => Text.cutLast '.' file.toList with
  | some (_ :: _, ending) =>
      if ending = "toml".toList then some .toml
      else if ending = "json".toList then some .json
      else none
  | _ => none

end MetadataFormat

namespace Catalog

/-- The catalog of the definitions in a TOML text. -/
def ofToml (text : String) : Except MetadataFault Catalog :=
  match (Toml.read text).bind (EntityDef.listOfDocument? .tabular) with
  | some definitions => ofDefs definitions
  | none => .error .invalidToml

/-- The catalog of the definitions in a JSON text. -/
def ofJson (text : String) : Except MetadataFault Catalog :=
  match (Json.read text).bind (EntityDef.listOfDocument? .streamed) with
  | some definitions => ofDefs definitions
  | none => .error .invalidJson

/-- The catalog of the definitions in a file, which is read before its format is
looked at. -/
def ofFile (files : Files) (path : String) : Except MetadataFault Catalog :=
  match files path with
  | .error fault => .error (.unreadable fault)
  | .ok text =>
      match MetadataFormat.ofPath? path with
      | some .toml => ofToml text
      | some .json => ofJson text
      | none => .error (.unsupportedFormat path)

end Catalog

end SelectionSql
