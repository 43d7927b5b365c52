import TypedSql.Query.Basic
import TypedSql.Schema.Json

/-!
# Queries in JSON

How queries are read from JSON and written to it.
-/

namespace TypedSql

namespace Command

def readMarker (text : String) : Except Fault Command :=
  match ofMarker? text with
  | some command => .ok command
  | none => .error .mismatch

/-- Reads a command: its marker, or an object of its marker and `null`. -/
def read : Draft → Except Fault Command
  | .text (some text) => readMarker text
  | .object [(some text, .null)] => readMarker text
  | other => .error other.refusal

def toJson (command : Command) : Json :=
  .text command.marker

end Command

namespace Expansion

/-- The field of a mark, which must be given. -/
def format : RecordFormat Expansion where
  initial := { placeholder := "" }
  fields := [.mandatory "placeholder" Draft.readText fun placeholder _ => { placeholder }]

def read : Draft → Except Fault Expansion :=
  format.read

def toJson (mark : Expansion) : Json :=
  .object [("placeholder", .text mark.placeholder)]

end Expansion

namespace Param

/-- The fields of a parameter. Its name and type must be given. -/
def format : RecordFormat Param where
  initial := { name := "", typeName := "" }
  fields :=
    [.mandatory "name" Draft.readText fun name param => { param with name },
     .mandatory "type_name" Draft.readText fun typeName param => { param with typeName },
     .default "like_in" (Draft.readOption Expansion.read) fun expansion param =>
      { param with expansion }]

def read : Draft → Except Fault Param :=
  format.read

def toJson (param : Param) : Json :=
  .object
    [("name", .text param.name),
     ("type_name", .text param.typeName),
     ("like_in", .ofOption Expansion.toJson param.expansion)]

end Param

namespace QueryAnnotations

def format : RecordFormat QueryAnnotations where
  initial := {}
  fields :=
    [.default "row_struct_name" (Draft.readOption Draft.readText) fun rowStructName _ =>
      { rowStructName }]

def read : Draft → Except Fault QueryAnnotations :=
  format.read

def toJson (annotations : QueryAnnotations) : Json :=
  .object [("row_struct_name", .ofOption .text annotations.rowStructName)]

end QueryAnnotations

namespace Query

/-- The fields of a query. Only the SQL text must be given. -/
def format : RecordFormat Query where
  initial := { sql := "" }
  fields :=
    [.default "name" Draft.readText fun name query => { query with name },
     .default "cmd" (Draft.readOption Command.read) fun command query => { query with command },
     .default "filename" Draft.readText fun filename query => { query with filename },
     .mandatory "sql" Draft.readText fun sql query => { query with sql },
     .default "params" (Draft.readList Param.read) fun params query => { query with params },
     .default "columns" (Draft.readList Column.read) fun columns query => { query with columns },
     .default "meta" QueryAnnotations.read fun annotations query => { query with annotations }]

def read : Draft → Except Fault Query :=
  format.read

def toJson (query : Query) : Json :=
  .object
    [("name", .text query.name),
     ("cmd", .ofOption Command.toJson query.command),
     ("filename", .text query.filename),
     ("sql", .text query.sql),
     ("params", .ofList Param.toJson query.params),
     ("columns", .ofList Column.toJson query.columns),
     ("meta", query.annotations.toJson)]

end Query

end TypedSql
