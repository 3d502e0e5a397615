import SelectionSql.Plan.Statement
import SelectionSql.Selection.Path
import SelectionSql.Document.Json.Reader
import SelectionSql.Document.Json.Writer
import SelectionSql.Document.Query
import SelectionSql.Document.Schema
import SelectionSql.Document.Selection
import SelectionSql.Document.Toml.Reader
import SelectionSql.Files.Disk
import SelectionSql.Settings
import SelectionSql.Schema.Source
import SelectionSql.CommandLine.Run
import SelectionSql.Main
import SelectionSql.Proofs.Ancestry
import SelectionSql.Proofs.Emission
import SelectionSql.Proofs.JoinPlan
import SelectionSql.Proofs.Columns
import SelectionSql.Proofs.OutputNames
import SelectionSql.Proofs.Reach
import SelectionSql.Proofs.TableAliases
import SelectionSql.Proofs.Entities
import SelectionSql.Proofs.Aggregates
import SelectionSql.Proofs.Cycles
import SelectionSql.Proofs.LevelMaps
import SelectionSql.Proofs.Coherence
import SelectionSql.Proofs.Acceptance
import SelectionSql.Proofs.Faults
import SelectionSql.Proofs.CatalogLevels
import SelectionSql.Proofs.SelectionPaths
import SelectionSql.Proofs.Serving
import SelectionSql.Proofs.Blame
import SelectionSql.Proofs.Templates
import SelectionSql.Proofs.NativeJoins
import SelectionSql.Proofs.Marks
import SelectionSql.Proofs.Fragments
import SelectionSql.Proofs.Placeholders
import SelectionSql.Proofs.Formulas
import SelectionSql.Proofs.InertJoins
import SelectionSql.Proofs.PreparedFields
import SelectionSql.Proofs.WiderSelections
import SelectionSql.Proofs.Shapes
import SelectionSql.Proofs.WrittenSchemas
import SelectionSql.Proofs.RoundTrips
import SelectionSql.Proofs.PathUnions
import SelectionSql.Proofs.RegisteredLevels
import SelectionSql.Proofs.ColumnSelection
import SelectionSql.Proofs.AggregateColumns
import SelectionSql.Proofs.GroupedColumns
import SelectionSql.Proofs.AnchorKeys
import SelectionSql.Proofs.JoinTypes
import SelectionSql.Proofs.RedeclaredJoins
import SelectionSql.Proofs.LoadedQueries
import SelectionSql.Proofs.FieldTables
import SelectionSql.Proofs.QueryParts
import SelectionSql.Proofs.AliasSubstitution
import SelectionSql.Proofs.VariableExpansion
import SelectionSql.Proofs.AliasPrefixes
import SelectionSql.Proofs.DefinitionOrder
import SelectionSql.Proofs.NamedLevels
import SelectionSql.Proofs.AssembledSelections
import SelectionSql.Proofs.GivenMetadata
import SelectionSql.Proofs.FieldNames
