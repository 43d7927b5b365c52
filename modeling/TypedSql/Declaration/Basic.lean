import TypedSql.Query.Basic

/-!
# Declarations

Declarations are what a generation pass makes of a schema and its queries: enum
types, structs and query methods. They hold every name and type that generated
code needs, so that writing the code takes no further decision.
-/

namespace TypedSql

/-- A constant of an enum type: its identifier, its literal value and the name
of its type. -/
structure EnumMember where
  name : String
  value : String
  typeName : String
  deriving DecidableEq

/-- An enum type made from a column. The constant for nulls comes first if the
column is nullable. -/
structure EnumDecl where
  name : String
  comment : String := ""
  members : List EnumMember
  notNull : Bool
  deriving DecidableEq

/-- Whether the enum type has a constant for nulls. -/
def EnumDecl.isNullable (decl : EnumDecl) : Bool :=
  !decl.notNull

/-- A field of a struct: its identifier, its type and its serialization tag. -/
structure FieldDecl where
  name : String
  typeName : String
  tag : String := ""
  comment : String := ""
  deriving DecidableEq

/-- What tells fields apart when structs are compared: name and type. -/
def FieldDecl.shape (field : FieldDecl) : String × String :=
  (field.name, field.typeName)

/-- A struct: the image of a table, or the parameters or rows of one query. -/
structure StructDecl where
  name : String
  fields : List FieldDecl
  table : Option String := none
  deriving DecidableEq

namespace StructDecl

/-- Whether the struct is the image of a table. -/
def isOfTable (decl : StructDecl) : Bool :=
  decl.table.isSome

/-- Whether two structs have the same table and, position by position, fields of
the same name and type. Their own names do not matter. -/
def sameFields (decl other : StructDecl) : Bool :=
  decl.table = other.table &&
    decl.fields.map FieldDecl.shape = other.fields.map FieldDecl.shape

end StructDecl

/-- What a query takes or returns: nothing, one value, or a struct. The query
that introduces a struct has it emitted. -/
inductive MethodValue where
  | absent
  | scalar (name typeName : String)
  | struct (name : String) (decl : StructDecl) (emit : Bool)
  deriving DecidableEq

namespace MethodValue

def isAbsent : MethodValue → Bool
  | absent => true
  | _ => false

def name? : MethodValue → Option String
  | absent => none
  | scalar name _ => some name
  | struct name _ _ => some name

def typeName? : MethodValue → Option String
  | absent => none
  | scalar _ typeName => some typeName
  | struct _ decl _ => some decl.name

def decl? : MethodValue → Option StructDecl
  | struct _ decl _ => some decl
  | _ => none

/-- Whether the value introduces a struct. -/
def introduces : MethodValue → Bool
  | struct _ _ emit => emit
  | _ => false

/-- The struct that the value introduces. -/
def introduced? (value : MethodValue) : Option StructDecl :=
  if value.introduces then value.decl? else none

end MethodValue

/-- The method of a query: the names of its generated parts and the values that
it takes and returns. The expanded SQL text is there if it differs from the SQL
text of the query. -/
structure QueryMethod where
  name : String
  command : Command
  sqlConstant : String
  statementField : String
  sourceFile : String
  rawSql : String
  expandedSql : Option String
  arg : MethodValue
  ret : MethodValue
  deriving DecidableEq

/-- The SQL text to use: the expanded one if there is one. -/
def QueryMethod.sql (method : QueryMethod) : String :=
  method.expandedSql.getD method.rawSql

end TypedSql
