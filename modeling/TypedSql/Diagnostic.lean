/-!
# Diagnostics

Findings that do not stop a generation pass are collected in the order in which
they are made.

A reporting computation is described by its value and the findings that it adds,
neither of which depends on what was found before. The main statements say how
these descriptions follow the construction of a computation.
-/

namespace TypedSql

/-- A finding. The table of an unknown type is empty when it is not known, and
the column is empty when it has no name. -/
inductive Diagnostic where
  | unknownType (table column nativeType : String)
  deriving DecidableEq

def Diagnostic.message : Diagnostic → String
  | unknownType table column nativeType =>
      "unknown MySQL type `" ++ nativeType ++ "` for column `" ++
        (if table = "" then column else table ++ "." ++ column) ++ "`"

/-- Findings in the order in which they were made. -/
abbrev Diagnostics : Type :=
  List Diagnostic

/-- A computation that adds findings to those made before. -/
abbrev ReportM (α : Type) : Type :=
  StateM Diagnostics α

def report (diagnostic : Diagnostic) : ReportM Unit :=
  modify fun found => found ++ [diagnostic]

/-- The computation has this value and adds these findings, whatever was found
before. -/
def Yields {α : Type} (computation : ReportM α) (value : α) (findings : Diagnostics) :
    Prop :=
  ∀ found, computation.run found = (value, found ++ findings)

namespace Yields

variable {α β : Type}

theorem pure (value : α) : Yields (Pure.pure value) value [] := by
  intro found
  rw [List.append_nil]
  rfl

theorem report (diagnostic : Diagnostic) :
    Yields (report diagnostic) () [diagnostic] :=
  fun _ => rfl

theorem bind {computation : ReportM α} {next : α → ReportM β} {value : α} {result : β}
    {findings further : Diagnostics}
    (first : Yields computation value findings)
    (second : Yields (next value) result further) :
    Yields (computation >>= next) result (findings ++ further) := by
  intro found
  rw [StateT.run_bind, first found]
  exact (second (found ++ findings)).trans (by rw [List.append_assoc])

/-- Computations on the items of a list add their findings in the order of the
items. -/
theorem mapM {computation : α → ReportM β} {value : α → β} {findings : α → Diagnostics}
    (each : ∀ item, Yields (computation item) (value item) (findings item))
    (items : List α) :
    Yields (items.mapM computation) (items.map value) (items.flatMap findings) := by
  induction items with
  | nil => exact pure []
  | cons item rest inductionHypothesis =>
      rw [List.mapM_cons, List.flatMap_cons,
        ← List.append_nil (List.flatMap findings rest)]
      exact (each item).bind (inductionHypothesis.bind (pure _))

end Yields

end TypedSql
