import TypedSql.NameMap
import TypedSql.Schema.Table

/-!
# Schemas

A schema is a catalog of tables: each table stands under its own name, and the
tables come in ascending order of their names.
-/

namespace TypedSql

/-- Tables in strictly ascending order of their names. -/
abbrev Schema : Type :=
  Catalog Table.name

namespace Schema

/-- The schema of the tables of a map, taken in the order of its keys. Each
table is stamped and stands under its own name; of tables with one name the last
one stays. -/
def ofMap (tables : NameMap Table) : Schema :=
  Catalog.ofList (tables.entries.map fun pair => pair.2.stamp)

def Stamped (schema : Schema) : Prop :=
  ∀ table ∈ schema.entries, table.Stamped

end Schema

end TypedSql
