import TypedSql.Generation.Json
import TypedSql.Settings.Json
import TypedSql.Proofs.StableOrder
import TypedSql.Proofs.PassOutcome
import TypedSql.Proofs.SchemaInsertion
import TypedSql.Proofs.TableStructs
import TypedSql.Proofs.RowReuse
import TypedSql.Proofs.ColumnTypes
import TypedSql.Proofs.EnumReferences
import TypedSql.Proofs.StructReferences
import TypedSql.Proofs.OrderIndependence
import TypedSql.Proofs.SlotBinding
import TypedSql.Proofs.UnknownTypes
import TypedSql.Proofs.StagedPass
import TypedSql.Proofs.TableAddition
import TypedSql.Proofs.NativeTypeCase
import TypedSql.Proofs.TableSettingsScope
import TypedSql.Proofs.JsonRecords
import TypedSql.Proofs.InputRoundTrip
import TypedSql.Proofs.SchemaLoading
import TypedSql.Proofs.PlaceholderExpansion
import TypedSql.Proofs.FieldNumbering
import TypedSql.Proofs.TableImages
import TypedSql.Proofs.EnumMembers
import TypedSql.Proofs.SnakeCase
import TypedSql.Proofs.TableFieldNames
import TypedSql.Proofs.IntroducedNames
import TypedSql.Proofs.EnumTypeNames
import TypedSql.Proofs.ShadowedOverrides
import TypedSql.Proofs.WordEndings
import TypedSql.Proofs.SingularWords
import TypedSql.Proofs.SingularStability
import TypedSql.Proofs.LocalNames
