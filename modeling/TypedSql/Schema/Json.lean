import TypedSql.Json.Decode
import TypedSql.Schema.Basic

/-!
# Schemas in JSON

How columns, tables and schemas are read from JSON and written to it.
-/

namespace TypedSql

namespace Column

/-- The fields of a column. Only the native type must be given. -/
def format : RecordFormat Column where
  initial := { nativeType := "" }
  fields :=
    [.default "name" (Draft.readOption Draft.readText) fun label column => { column with label },
     .mandatory "native_type" Draft.readText fun nativeType column => { column with nativeType },
     .default "not_null" Draft.readFlag fun notNull column => { column with notNull },
     .default "table" Draft.readText fun table column => { column with table },
     .default "enum_values" (Draft.readList Draft.readText) fun enumValues column =>
      { column with enumValues }]

def read : Draft → Except Fault Column :=
  format.read

def toJson (column : Column) : Json :=
  .object
    [("name", .ofOption .text column.label),
     ("native_type", .text column.nativeType),
     ("not_null", .bool column.notNull),
     ("table", .text column.table),
     ("enum_values", .ofList .text column.enumValues)]

end Column

namespace Table

/-- The fields of a table, both of which must be given. -/
def format : RecordFormat Table where
  initial := { name := "" }
  fields :=
    [.mandatory "name" Draft.readText fun name table => { table with name },
     .mandatory "columns" (Draft.readList Column.read) fun columns table => { table with columns }]

/-- Reads a table as it is written, without stamping its columns. -/
def read : Draft → Except Fault Table :=
  format.read

def toJson (table : Table) : Json :=
  .object [("name", .text table.name), ("columns", .ofList Column.toJson table.columns)]

end Table

namespace Schema

/-- Reads a schema from an object of tables. The keys give the order only. -/
def read (draft : Draft) : Except Fault Schema :=
  (draft.readMap Table.read).map ofMap

/-- The JSON form of a schema: an object of its tables under their names. -/
def toJson (schema : Schema) : Json :=
  .object (schema.entries.map fun table => (table.name, table.toJson))

end Schema

end TypedSql
