import TypedSql.Declaration.Basic
import TypedSql.Naming.UsedNames

/-!
# Structs of queries

The parameters and the rows of a query form structs of their own. Fields that
would share a name are numbered.
-/

namespace TypedSql

/-- The source of a field: its name and its type. -/
structure FieldSource where
  name : String
  typeName : String
  deriving DecidableEq

def itemNames (settings : Settings) (items : List FieldSource) : List (String × String) :=
  Naming.UsedNames.assignAll {} (items.map fun item =>
    (Naming.identifier settings item.name, item.name))

def itemFields (settings : Settings) (items : List FieldSource) : List FieldDecl :=
  (items.zip (itemNames settings items)).map fun (item, name, tag) =>
    { name, typeName := item.typeName, tag }

/-- A struct with one field for each item. -/
def queryStruct (settings : Settings) (name : String) (items : List FieldSource) :
    StructDecl :=
  { name, fields := itemFields settings items }

theorem queryStruct_congr
    {settings other : Settings} (sameRenames : settings.renames = other.renames)
    (name : String) (items : List FieldSource) :
    queryStruct settings name items = queryStruct other name items := by
  simp only [queryStruct, itemFields, itemNames, Naming.identifier_congr sameRenames]

end TypedSql
