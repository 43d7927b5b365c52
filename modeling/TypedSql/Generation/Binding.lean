import TypedSql.Typing.QueryStruct
import TypedSql.Typing.TableStruct

/-!
# Binding queries

A query is bound to the values that it takes and returns. Several parameters go
into a struct. Several result columns go into a struct as well: the struct of a
table if it has exactly these fields, and otherwise a struct that belongs to the
query. The method of a query depends on its result columns only through their
tables, names and types.
-/

namespace TypedSql

/-! ## Parameters -/

/-- The name of the variable that holds a struct of parameters. -/
def argVariable : String :=
  "arg"

/-- The SQL text with the quoted placeholder of a parameter replaced, if the
parameter has one. -/
def expandParam (param : Param) (bound sql : String) : String :=
  match param.expansion.bind fun mark => mark.replacement? bound with
  | none => sql
  | some (old, new) => String.ofList (Text.replaceFirst old.toList new.toList sql.toList)

/-- The SQL text with the placeholders of parameters replaced one after the
other, each one by the field that holds its parameter. -/
def expandParams (params : List (Param × FieldDecl)) (sql : String) : String :=
  params.foldl
    (fun text (param, field) =>
      expandParam param (argVariable ++ "." ++ field.name) text)
    sql

def paramStruct (settings : Settings) (method : String) (params : List Param) :
    StructDecl :=
  queryStruct settings (method ++ "Params")
    (params.map fun param => ⟨param.name, param.typeName⟩)

def argValue (settings : Settings) (method : String) : List Param → MethodValue
  | [] => .absent
  | [param] => .scalar param.localName param.typeName
  | params => .struct argVariable (paramStruct settings method params) true

/-- The SQL text of a query after its placeholders are replaced. -/
def expandSql (settings : Settings) (method : String) (params : List Param)
    (sql : String) : String :=
  match params with
  | [] => sql
  | [param] => expandParam param "" sql
  | params =>
      expandParams (params.zip (paramStruct settings method params).fields) sql

/-! ## Result columns -/

/-- The name of the variable that holds a row. -/
def rowVariable : String :=
  "i"

/-- A result column with the table from which it comes, its name and its
type. -/
structure ResultColumn where
  table : String
  name : String
  typeName : String
  deriving DecidableEq

/-- The result column at a position, given its type. -/
def resultColumn (column : Column) (position : Nat) (typeName : String) : ResultColumn :=
  { table := column.table,
    name := Naming.resultName column position,
    typeName }

/-- The table from which all result columns come, if there is one. -/
def commonTable? : List ResultColumn → Option String
  | [] => none
  | first :: others =>
      if first.table ≠ "" ∧ ∀ column ∈ others, column.table = first.table then
        some first.table
      else
        none

/-- The fields that result columns would have in the struct of a table. -/
def columnFields (settings : Settings) (table : String) (columns : List ResultColumn) :
    List FieldDecl :=
  columns.map fun column =>
    { name := Naming.fieldName settings table column.name, typeName := column.typeName }

/-- The first struct that has exactly the result columns as its fields. -/
def reusedStruct? (settings : Settings) (structs : List StructDecl)
    (columns : List ResultColumn) : Option StructDecl :=
  (commonTable? columns).bind fun table =>
    structs.find? fun candidate => candidate.sameFields
      { name := "", fields := columnFields settings table columns, table := some table }

def rowStruct (settings : Settings) (query : Query) (columns : List ResultColumn) :
    StructDecl :=
  queryStruct settings (query.annotations.rowNameOr (query.name ++ "Row"))
    (columns.map fun column => ⟨column.name, column.typeName⟩)

def retValue (settings : Settings) (structs : List StructDecl) (query : Query) :
    List ResultColumn → MethodValue
  | [] => .absent
  | [column] => .scalar column.name column.typeName
  | columns =>
      match reusedStruct? settings structs columns with
      | some reused => .struct rowVariable reused false
      | none => .struct rowVariable (rowStruct settings query columns) true

/-! ## Queries -/

/-- The method of a query with a name and a command, given its result
columns. -/
def describeQuery (settings : Settings) (structs : List StructDecl) (query : Query)
    (command : Command) (columns : List ResultColumn) : QueryMethod :=
  let expanded := expandSql settings query.name query.params query.sql
  { name := query.name,
    command,
    sqlConstant := Naming.titleCase (query.name ++ "SQL"),
    statementField := Naming.uncapitalize query.name ++ "Stmt",
    sourceFile := query.filename,
    rawSql := query.sql,
    expandedSql := if expanded = query.sql then none else some expanded,
    arg := argValue settings query.name query.params,
    ret := retValue settings structs query columns }

/-- Binds a query. A query without a name or without a command is skipped. -/
def bindQuery (settings : Settings) (structs : List StructDecl) (query : Query) :
    ReportM (Option QueryMethod) := do
  if query.name = "" then
    return none
  match query.command with
  | none => return none
  | some command =>
      let columns ← query.columns.zipIdx.mapM fun (column, position) => do
        let typeName ← resolveType settings column
        return resultColumn column position typeName
      return some (describeQuery settings structs query command columns)

/-! ## Methods with their types -/

/-- The result columns of a query, each one with the type that it gets. -/
def resultColumns (settings : Settings) (query : Query) : List ResultColumn :=
  query.columns.zipIdx.map fun (column, position) =>
    resultColumn column position (typeSource settings column).typeName

/-- The method of a query; there is none for a query without a name or without a
command. -/
def boundQuery? (settings : Settings) (structs : List StructDecl) (query : Query) :
    Option QueryMethod :=
  if query.name = "" then
    none
  else
    query.command.map fun command =>
      describeQuery settings structs query command (resultColumns settings query)

/-! ## What methods depend on -/

section

variable {settings other : Settings}

theorem resultColumn_congr
    {column otherColumn : Column}
    (sameColumn : typedColumn settings column = typedColumn other otherColumn)
    (position : Nat) :
    resultColumn column position (typeSource settings column).typeName =
      resultColumn otherColumn position (typeSource other otherColumn).typeName := by
  obtain ⟨sameTable, sameName, sameType⟩ := TypedColumn.mk.inj sameColumn
  simp only [resultColumn, Naming.resultName, sameTable, sameName, sameType]

theorem resultColumns_congr
    {query otherQuery : Query}
    (sameColumns : query.columns.map (typedColumn settings) =
      otherQuery.columns.map (typedColumn other)) :
    resultColumns settings query = resultColumns other otherQuery := by
  have sameNumbered : query.columns.zipIdx.map (Prod.map (typedColumn settings) id) =
      otherQuery.columns.zipIdx.map (Prod.map (typedColumn other) id) := by
    rw [← List.zipIdx_map, ← List.zipIdx_map, sameColumns]
  refine map_eq_map_of_views ?_ sameNumbered
  rintro ⟨column, position⟩ ⟨otherColumn, otherPosition⟩ sameIndexed
  obtain ⟨sameColumn, samePosition⟩ := Prod.mk.inj sameIndexed
  dsimp only [id] at samePosition
  simp only [← samePosition, resultColumn_congr sameColumn]

theorem argValue_congr
    (sameRenames : settings.renames = other.renames) (method : String) (params : List Param) :
    argValue settings method params = argValue other method params := by
  match params with
  | [] => rfl
  | [_] => rfl
  | _ :: _ :: _ => simp only [argValue, paramStruct, queryStruct_congr sameRenames]

theorem expandSql_congr
    (sameRenames : settings.renames = other.renames)
    (method : String) (params : List Param) (sql : String) :
    expandSql settings method params sql = expandSql other method params sql := by
  match params with
  | [] => rfl
  | [_] => rfl
  | _ :: _ :: _ => simp only [expandSql, paramStruct, queryStruct_congr sameRenames]

theorem rowStruct_congr
    (sameRenames : settings.renames = other.renames)
    (query : Query) (columns : List ResultColumn) :
    rowStruct settings query columns = rowStruct other query columns :=
  queryStruct_congr sameRenames _ _

theorem reusedStruct?_congr
    (alike : ∀ table, settings.NamesAlike other table)
    (structs : List StructDecl) (columns : List ResultColumn) :
    reusedStruct? settings structs columns = reusedStruct? other structs columns := by
  have sameFields (table : String) :
      columnFields settings table columns = columnFields other table columns := by
    simp only [columnFields, Naming.fieldName_congr (alike table)]
  simp only [reusedStruct?, sameFields]

theorem retValue_congr
    (alike : ∀ table, settings.NamesAlike other table)
    (structs : List StructDecl) (query : Query) (columns : List ResultColumn) :
    retValue settings structs query columns = retValue other structs query columns := by
  -- Renames belong to no table, so any one gives them.
  have sameRenames := (alike "").sameRenames
  match columns with
  | [] => rfl
  | [_] => rfl
  | _ :: _ :: _ =>
      simp only [retValue, reusedStruct?_congr alike, rowStruct_congr sameRenames]

theorem describeQuery_congr
    (alike : ∀ table, settings.NamesAlike other table)
    (structs : List StructDecl) (query : Query) (command : Command)
    (columns : List ResultColumn) :
    describeQuery settings structs query command columns =
      describeQuery other structs query command columns := by
  have sameRenames := (alike "").sameRenames
  simp only [describeQuery, argValue_congr sameRenames, expandSql_congr sameRenames,
    retValue_congr alike]

/-- The method of a query depends on its columns only through their types. -/
theorem boundQuery?_congr
    (alike : ∀ table, settings.NamesAlike other table)
    (structs : List StructDecl) (query : Query) {columns : List Column}
    (sameColumns :
      query.columns.map (typedColumn settings) = columns.map (typedColumn other)) :
    boundQuery? settings structs query = boundQuery? other structs { query with columns } := by
  have sameResults :
      resultColumns settings query = resultColumns other { query with columns } :=
    resultColumns_congr sameColumns
  simp only [boundQuery?, sameResults, describeQuery_congr alike]
  rfl

end

/-! ## Findings -/

/-- The findings about the result columns of a query that is not skipped. -/
def queryFindings (settings : Settings) (query : Query) : Diagnostics :=
  if query.isBound then query.columns.flatMap (typeFindings settings) else []

theorem yields_resultColumns (settings : Settings) (query : Query) :
    Yields
      (query.columns.zipIdx.mapM fun (column, position) => do
        let typeName ← resolveType settings column
        return resultColumn column position typeName)
      (resultColumns settings query)
      (query.columns.flatMap (typeFindings settings)) := by
  have one (indexed : Column × Nat) :
      Yields
        (do
          let typeName ← resolveType settings indexed.1
          return resultColumn indexed.1 indexed.2 typeName)
        (resultColumn indexed.1 indexed.2 (typeSource settings indexed.1).typeName)
        (typeFindings settings indexed.1) := by
    rw [← List.append_nil (typeFindings settings indexed.1)]
    exact (yields_resolveType settings indexed.1).bind (Yields.pure _)
  have findings : query.columns.flatMap (typeFindings settings) =
      query.columns.zipIdx.flatMap fun indexed => typeFindings settings indexed.1 :=
    calc query.columns.flatMap (typeFindings settings)
      _ = (query.columns.zipIdx.map Prod.fst).flatMap (typeFindings settings) := by
        rw [List.zipIdx_map_fst]
      _ = query.columns.zipIdx.flatMap fun indexed => typeFindings settings indexed.1 :=
        List.flatMap_map ..
  rw [findings]
  exact Yields.mapM one query.columns.zipIdx

theorem yields_bindQuery (settings : Settings) (structs : List StructDecl)
    (query : Query) :
    Yields (bindQuery settings structs query) (boundQuery? settings structs query)
      (queryFindings settings query) := by
  unfold bindQuery boundQuery? queryFindings Query.isBound
  by_cases unnamed : query.name = ""
  · simp only [unnamed, if_true, ne_eq, not_true_eq_false, decide_false, Bool.false_and,
      Bool.false_eq_true, if_false]
    exact Yields.pure none
  · cases known : query.command with
    | none =>
        simp only [unnamed, if_false, Option.isSome_none, Bool.and_false,
          Bool.false_eq_true, Option.map_none]
        exact Yields.pure none
    | some command =>
        simp only [unnamed, if_false, ne_eq, not_false_eq_true, decide_true,
          Option.isSome_some, Bool.and_self, if_true, Option.map_some]
        rw [← List.append_nil (query.columns.flatMap (typeFindings settings))]
        exact (yields_resultColumns settings query).bind (Yields.pure _)

end TypedSql
