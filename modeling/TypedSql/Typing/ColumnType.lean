import TypedSql.Diagnostic
import TypedSql.Typing.EnumType
import TypedSql.Typing.NativeType

/-!
# Types of columns

The type of a column comes from the first override that applies to it, or else
from its native type. A column with an unknown native type gets a type that
holds anything, and is reported.
-/

namespace TypedSql

/-- The target type of columns whose native type is unknown. -/
def anyType : String :=
  "interface\x7b\x7d"

/-- Where the type of a column comes from. -/
inductive TypeSource where
  /-- An override with its target type. -/
  | configured (target : String)
  /-- The target type of the native type. -/
  | builtin (target : String)
  /-- The enum type of the column. -/
  | enumeration (name : String)
  /-- Nowhere, as the native type is unknown. -/
  | unknown
  deriving DecidableEq

def TypeSource.typeName : TypeSource → String
  | configured target => target
  | builtin target => target
  | enumeration name => name
  | unknown => anyType

/-- Where the type of a column comes from when no override applies. -/
def nativeTypeSource (settings : Settings) (column : Column) : TypeSource :=
  match NativeType.ofName column.nativeType with
  | .enumeration => .enumeration (columnEnumName settings column.table column.name)
  | category =>
      match category.target? column.isNullable with
      | some target => .builtin target
      | none => .unknown

/-- Where the type of a column comes from. -/
def typeSource (settings : Settings) (column : Column) : TypeSource :=
  match settings.override? column with
  | some target => .configured target
  | none => nativeTypeSource settings column

/-- Where the type of a column comes from depends on the override that applies to
it and on the names that the settings give in its table. -/
theorem typeSource_congr
    {settings other : Settings} {column : Column}
    (sameOverride : settings.override? column = other.override? column)
    (alike : settings.NamesAlike other column.table) :
    typeSource settings column = typeSource other column := by
  simp only [typeSource, nativeTypeSource, sameOverride, columnEnumName_congr alike]

/-! ## Columns with their types -/

/-- What declarations show of a column: the table from which it comes, its name
and the type that it gets. -/
structure TypedColumn where
  table : String
  name : String
  typeName : String
  deriving DecidableEq

def typedColumn (settings : Settings) (column : Column) : TypedColumn where
  table := column.table
  name := column.name
  typeName := (typeSource settings column).typeName

/-- A list has the same images as another one if item by item they have the same
views and the images depend on these alone. -/
theorem map_eq_map_of_views
    {α β γ δ : Type} {view : α → γ} {otherView : β → γ} {image : α → δ} {otherImage : β → δ}
    {items : List α} {others : List β}
    (each : ∀ item other, view item = otherView other → image item = otherImage other)
    (sameViews : items.map view = others.map otherView) :
    items.map image = others.map otherImage := by
  induction items generalizing others with
  | nil =>
      have noOthers : others = [] := List.map_eq_nil_iff.1 sameViews.symm
      rw [noOthers, List.map_nil, List.map_nil]
  | cons item items inductionHypothesis =>
      cases others with
      | nil => cases sameViews
      | cons other others =>
          obtain ⟨sameView, sameRest⟩ := List.cons.inj sameViews
          rw [List.map_cons, List.map_cons, each item other sameView,
            inductionHypothesis sameRest]

/-! ## Reports -/

/-- The type of a column, which is reported if it is unknown. -/
def resolveType (settings : Settings) (column : Column) : ReportM String := do
  if typeSource settings column = .unknown then
    report (.unknownType column.table column.name column.nativeType)
  return (typeSource settings column).typeName

/-- The findings about the type of a column: one if its native type is unknown
and no override applies. -/
def typeFindings (settings : Settings) (column : Column) : Diagnostics :=
  if typeSource settings column = .unknown then
    [.unknownType column.table column.name column.nativeType]
  else
    []

theorem yields_resolveType (settings : Settings) (column : Column) :
    Yields (resolveType settings column) (typeSource settings column).typeName
      (typeFindings settings column) := by
  unfold resolveType typeFindings
  split
  · exact (Yields.report _).bind (Yields.pure _)
  · exact Yields.pure _

end TypedSql
