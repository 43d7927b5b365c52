import TypedSql.Naming.Singular
import TypedSql.Settings.Basic
import TypedSql.Text.Lowercase
import TypedSql.Text.Splice

/-!
# Identifiers

Names of tables, columns and literals have words that are joined by underscores.
The identifiers of types, fields, variables and constants are built from these
words.
-/

namespace TypedSql.Naming

/-- The words of a name between its underscores. -/
def words (name : String) : List (List Char) :=
  name.toList.splitOn '_'

/-- A word within an exported identifier: a title, except for `id`. -/
def exportWord (word : List Char) : List Char :=
  if word = ['i', 'd'] then ['I', 'D'] else titleChars word

/-- The exported identifier of a name without regard to settings. -/
def exported (name : String) : String :=
  String.ofList ((words name).flatMap exportWord)

/-- The exported identifier of a type or field. An identifier that the settings
put in the place of the name goes first. -/
def identifier (settings : Settings) (name : String) : String :=
  (settings.rename? name).getD (exported name)

theorem underscore_notMem_exported (name : String) : '_' ∉ (exported name).toList := by
  rw [exported, String.toList_ofList, List.mem_flatMap]
  intro found
  rcases found with ⟨word, member, underscore⟩
  have plain := Text.notMem_of_mem_splitOn member
  unfold exportWord at underscore
  by_cases isId : word = ['i', 'd']
  · rw [if_pos isId] at underscore
    exact absurd underscore (by decide)
  · rw [if_neg isId] at underscore
    exact underscore_notMem_titleAfter ' ' plain underscore

/-- An identifier with an underscore is one that the settings give to the name. -/
theorem rename?_of_underscore_mem_identifier
    {settings : Settings} {name : String}
    (underscore : '_' ∈ (identifier settings name).toList) :
    settings.rename? name = some (identifier settings name) := by
  cases renamed : settings.rename? name with
  | none =>
      rw [identifier, renamed, Option.getD_none] at underscore
      exact absurd underscore (underscore_notMem_exported name)
  | some target => rw [identifier, renamed, Option.getD_some]

/-- The field name of a column in the struct of a table. -/
def fieldName (settings : Settings) (table column : String) : String :=
  ((settings.table? table).bind fun entry => entry.rename? column).getD
    (identifier settings column)

/-- The struct name of a table: the singular of the name given to it, or else of
its identifier. -/
def tableTypeName (settings : Settings) (table : String) : String :=
  singularize (((settings.table? table).bind TableSettings.structName?).getD
    (identifier settings table))

section

variable {settings other : Settings}

theorem identifier_congr (sameRenames : settings.renames = other.renames) (name : String) :
    identifier settings name = identifier other name := by
  simp only [identifier, Settings.rename?, sameRenames]

theorem fieldName_congr
    {table : String} (alike : settings.NamesAlike other table) (column : String) :
    fieldName settings table column = fieldName other table column := by
  simp only [fieldName, alike.sameEntry, identifier_congr alike.sameRenames]

theorem tableTypeName_congr {table : String} (alike : settings.NamesAlike other table) :
    tableTypeName settings table = tableTypeName other table := by
  simp only [tableTypeName, alike.sameEntry, identifier_congr alike.sameRenames]

end

/-- The name of a local variable: its first word is lowercased. -/
def localName (name : String) : String :=
  match words name with
  | [] => ""
  | first :: others => String.ofList (Text.lowerAll first ++ others.flatMap exportWord)

/-- The name of a constant of an enum type: the titles of the words of the
column, of `Type` and of the literal. -/
def memberName (column value : String) : String :=
  String.ofList ((words column ++ ["Type".toList, value.toList]).flatMap titleChars)

/-- A literal without its first two single quotes. -/
def unquoted (literal : String) : String :=
  String.ofList ((literal.toList.erase '\'').erase '\'')

/-- The name of a result column, or its one-based position when it has none. -/
def resultName (column : Column) (position : Nat) : String :=
  if column.name = "" then
    "column_" ++ String.ofList (Nat.toDigits 10 (position + 1))
  else
    column.name

/-- The last word of a table name of several words, or the empty text. -/
def lastWord (table : String) : String :=
  String.ofList (Text.afterLast '_' table.toList)

end TypedSql.Naming
