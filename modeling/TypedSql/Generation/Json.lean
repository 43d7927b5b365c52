import TypedSql.Declaration.Json
import TypedSql.Generation.Basic

/-!
# Outcomes in JSON

The JSON form of the outcome of a generation pass.
-/

namespace TypedSql

def Outcome.toJson (output : Outcome) : Json :=
  .object
    [("enums", .ofList EnumDecl.toJson output.enums),
     ("structs", .ofList StructDecl.toJson output.structs),
     ("queries", .ofList QueryMethod.toJson output.queries),
     ("diagnostics", .ofList Diagnostic.toJson output.diagnostics)]

end TypedSql
