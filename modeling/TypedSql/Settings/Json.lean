import TypedSql.Json.Decode
import TypedSql.Json.Frame
import TypedSql.Settings.Basic

/-!
# Settings in JSON

How settings are read from JSON texts and written to JSON.

An override carries no mark of its kind. A rule is first read whole, so a defect
anywhere in it makes the text malformed; then the kinds are tried in turn.
Values that are read whole may not lie too deep within one another.
-/

namespace TypedSql

namespace TypeOverride

/-- The fields of a rule for one column, all of which must be given. -/
def columnFormat : RecordFormat (String × String × String) where
  initial := ("", "", "")
  fields :=
    [.mandatory "table" Draft.readText fun table rule => (table, rule.2),
     .mandatory "column" Draft.readText fun column rule => (rule.1, column, rule.2.2),
     .mandatory "target_type" Draft.readText fun target rule => (rule.1, rule.2.1, target)]

/-- The fields of a rule for a native type. Nullability need not be given. -/
def typeFormat : RecordFormat (String × Bool × String) where
  initial := ("", false, "")
  fields :=
    [.mandatory "db_type" Draft.readText fun nativeType rule => (nativeType, rule.2),
     .default "nullable" Draft.readFlag fun nullable rule => (rule.1, nullable, rule.2.2),
     .mandatory "target_type" Draft.readText fun target rule => (rule.1, rule.2.1, target)]

/-- Reads the members of a rule: those of a column rule, or else those of a type
rule. -/
def readMembers (members : List (Option String × Draft)) : Except Fault TypeOverride :=
  match columnFormat.readMembers [] columnFormat.initial members with
  | .ok (table, column, target) => .ok (forColumn table column target)
  | .error _ =>
      match typeFormat.readMembers [] typeFormat.initial members with
      | .ok (nativeType, nullable, target) => .ok (forType nativeType nullable target)
      | .error _ => .error .mismatch

/-- Reads a rule, which is always an object. -/
def read (draft : Draft) : Except Fault TypeOverride :=
  if draft.sound then
    match draft with
    | .object members => readMembers members
    | _ => .error .mismatch
  else
    .error .malformed

def toJson : TypeOverride → Json
  | forColumn table column target =>
      .object [("table", .text table), ("column", .text column), ("target_type", .text target)]
  | forType nativeType nullable target =>
      .object
        [("db_type", .text nativeType), ("nullable", .bool nullable), ("target_type", .text target)]

end TypeOverride

/-- The JSON form of a map: an object of its values. -/
def NameMap.toJson {α : Type} (value : α → Json) (map : NameMap α) : Json :=
  .object (map.entries.map fun pair => (pair.1, value pair.2))

namespace ColumnSettings

def format : RecordFormat ColumnSettings where
  initial := {}
  fields :=
    [.default "rename" (Draft.readOption Draft.readText) fun rename settings =>
      { settings with rename },
     .default "json_tag" (Draft.readOption Draft.readText) fun jsonTag settings =>
      { settings with jsonTag },
     .default "enum_name" (Draft.readOption Draft.readText) fun enumName settings =>
      { settings with enumName }]

def read : Draft → Except Fault ColumnSettings :=
  format.read

def toJson (settings : ColumnSettings) : Json :=
  .object
    [("rename", .ofOption .text settings.rename),
     ("json_tag", .ofOption .text settings.jsonTag),
     ("enum_name", .ofOption .text settings.enumName)]

end ColumnSettings

namespace TableSettings

def format : RecordFormat TableSettings where
  initial := {}
  fields :=
    [.default "struct_name" (Draft.readOption Draft.readText) fun structName settings =>
      { settings with structName },
     .default "columns" (Draft.readMap ColumnSettings.read) fun columns settings =>
      { settings with columns }]

def read : Draft → Except Fault TableSettings :=
  format.read

def toJson (settings : TableSettings) : Json :=
  .object
    [("struct_name", .ofOption .text settings.structName),
     ("columns", NameMap.toJson ColumnSettings.toJson settings.columns)]

end TableSettings

namespace Settings

/-- The greatest depth of a rule: a text may nest 127 arrays and objects, and
two stand around a rule. -/
def maxRuleDepth : Nat :=
  125

def readRule (draft : Draft) : Except Fault TypeOverride :=
  if draft.depth ≤ maxRuleDepth then TypeOverride.read draft else .error .malformed

def format : RecordFormat Settings where
  initial := {}
  fields :=
    [.default "overrides" (Draft.readList readRule) fun overrides settings =>
      { settings with overrides },
     .default "rename" (Draft.readMap Draft.readText) fun renames settings =>
      { settings with renames },
     .default "tables" (Draft.readMap TableSettings.read) fun tables settings =>
      { settings with tables }]

def read : Draft → Except Fault Settings :=
  format.read

/-- Reads settings from a whole JSON text. -/
def ofText (source : String) : Except Fault Settings :=
  match read (Draft.ofText source).1 with
  | .ok settings => if (Draft.ofText source).2 then .ok settings else .error .malformed
  | .error fault => .error fault

def toJson (settings : Settings) : Json :=
  .object
    [("overrides", .ofList TypeOverride.toJson settings.overrides),
     ("rename", NameMap.toJson .text settings.renames),
     ("tables", NameMap.toJson TableSettings.toJson settings.tables)]

end Settings

end TypedSql
