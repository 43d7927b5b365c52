import TypedSql.Declaration.Basic
import TypedSql.Diagnostic
import TypedSql.Query.Json

/-!
# Declarations in JSON

The JSON forms of declarations and diagnostics, as they are handed to the writer
of the code.
-/

namespace TypedSql

def EnumMember.toJson (constant : EnumMember) : Json :=
  .object
    [("name", .text constant.name),
     ("value", .text constant.value),
     ("type_name", .text constant.typeName)]

def EnumDecl.toJson (decl : EnumDecl) : Json :=
  .object
    [("name", .text decl.name),
     ("comment", .text decl.comment),
     ("constants", .ofList EnumMember.toJson decl.members),
     ("not_null", .bool decl.notNull)]

def FieldDecl.toJson (field : FieldDecl) : Json :=
  .object
    [("name", .text field.name),
     ("type_name", .text field.typeName),
     ("tag", .text field.tag),
     ("comment", .text field.comment)]

def StructDecl.toJson (decl : StructDecl) : Json :=
  .object
    [("name", .text decl.name),
     ("fields", .ofList FieldDecl.toJson decl.fields),
     ("table", .ofOption .text decl.table)]

/-- The JSON form of a value that a query takes or returns, marked with its
kind. -/
def MethodValue.toJson : MethodValue → Json
  | absent => .object [("kind", .text "absent")]
  | scalar name typeName =>
      .object [("kind", .text "scalar"), ("name", .text name), ("type_name", .text typeName)]
  | struct name decl emit =>
      .object
        [("kind", .text "struct"),
         ("name", .text name),
         ("descriptor", decl.toJson),
         ("emit", .bool emit)]

def QueryMethod.toJson (method : QueryMethod) : Json :=
  .object
    [("cmd", method.command.toJson),
     ("constant_name", .text method.sqlConstant),
     ("field_name", .text method.statementField),
     ("method_name", .text method.name),
     ("source_name", .text method.sourceFile),
     ("sql", .text method.rawSql),
     ("rewritten_sql", .ofOption .text method.expandedSql),
     ("arg", method.arg.toJson),
     ("ret", method.ret.toJson)]

/-- The JSON form of a finding, marked with its kind. -/
def Diagnostic.toJson : Diagnostic → Json
  | unknownType table column nativeType =>
      .object
        [("kind", .text "unknown_type"),
         ("table", .text table),
         ("column", .text column),
         ("native_type", .text nativeType)]

end TypedSql
