import TypedSql.Naming.Identifier
import TypedSql.Schema.Column

/-!
# Queries

A query as the analysis of a SQL file describes it: its command, its SQL text,
its parameters and its result columns.
-/

namespace TypedSql

/-- What a query returns: one row, many rows, nothing, a number of rows, or the
raw result. -/
inductive Command where
  | one
  | many
  | exec
  | execRows
  | execResult
  deriving DecidableEq

namespace Command

/-- The text that marks a query with the command in a SQL file. -/
def marker : Command → String
  | one => ":one"
  | many => ":many"
  | exec => ":exec"
  | execRows => ":execrows"
  | execResult => ":execresult"

def all : List Command :=
  [one, many, exec, execRows, execResult]

def ofMarker? (text : String) : Option Command :=
  all.find? fun command => command.marker = text

/-- The message about a text that is no marker. -/
def unknownMessage (text : String) : String :=
  "unknown query command: " ++ text

theorem ofMarker?_marker (command : Command) :
    ofMarker? command.marker = some command := by
  cases command <;> decide

end Command

/-- The mark of a parameter inside `LIKE ... IN (...)`. Its placeholder stands
in double quotes in the SQL text. -/
structure Expansion where
  placeholder : String
  deriving DecidableEq, Inhabited

/-- What is put in the place of the quoted placeholder: the given text, or the
bare placeholder if that text is empty. Without a placeholder there is nothing
to replace. -/
def Expansion.replacement? (mark : Expansion) (bound : String) : Option (String × String) :=
  if mark.placeholder = "" then
    none
  else
    some ("\"" ++ mark.placeholder ++ "\"",
      if bound = "" then mark.placeholder else bound)

/-- A parameter of a query with the type found for it. -/
structure Param where
  name : String
  typeName : String
  expansion : Option Expansion := none
  deriving DecidableEq, Inhabited

namespace Param

/-- The name of the variable that holds the parameter. -/
def localName (param : Param) : String :=
  Naming.localName param.name

/-- Whether the parameter stands inside `LIKE ... IN (...)`. -/
def isExpanded (param : Param) : Bool :=
  param.expansion.isSome

end Param

/-- Annotations of a query: the name given to its row struct. -/
structure QueryAnnotations where
  rowStructName : Option String := none
  deriving DecidableEq, Inhabited

/-- The name given to the row struct, or else another name. -/
def QueryAnnotations.rowNameOr (annotations : QueryAnnotations) (other : String) : String :=
  (filled? annotations.rowStructName).getD other

/-- An analyzed query. A query without a name or without a command is not
bound. -/
structure Query where
  name : String := ""
  command : Option Command := none
  filename : String := ""
  sql : String
  params : List Param := []
  columns : List Column := []
  annotations : QueryAnnotations := {}
  deriving DecidableEq, Inhabited

namespace Query

/-- A query without parameters and result columns. -/
def named (name : String) (command : Command) (sql : String) : Query :=
  { name, command := some command, sql }

def withFilename (query : Query) (filename : String) : Query :=
  { query with filename }

def withParam (query : Query) (param : Param) : Query :=
  { query with params := query.params ++ [param] }

def withColumn (query : Query) (column : Column) : Query :=
  { query with columns := query.columns ++ [column] }

def withRowStructName (query : Query) (name : String) : Query :=
  { query with annotations := { query.annotations with rowStructName := some name } }

/-- Whether the query has a name and a command. -/
def isBound (query : Query) : Bool :=
  query.name ≠ "" && query.command.isSome

end Query

end TypedSql
