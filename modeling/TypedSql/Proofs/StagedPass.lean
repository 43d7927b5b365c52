import TypedSql.Proofs.PassOutcome

/-!
# The stages of a pass

The structs of the tables can be asked for alone, and so can the methods of
queries, for which the structs are made once more. A whole pass makes the structs
once. Both ways lead to the same declarations, findings and errors.
-/

namespace TypedSql

section

variable {settings : Settings} {schema : Schema} {slots : List (Option Query)}

/-- The structs that are made first leave their findings before those about the
queries, also when the queries cannot be bound. -/
theorem yields_schemaQueries
    {result : Except PassError (List QueryMethod)} {findings : Diagnostics}
    (bound : Yields (bindAll settings (schemaStructs settings schema) slots).run
      result findings) :
    Yields (schemaQueries settings schema slots).run result
      (schemaFindings settings schema ++ findings) := by
  have described := yields_describeTables settings schema
  have staged :
      (schemaQueries settings schema slots).run =
        describeTables settings schema >>= fun structs =>
          (bindAll settings structs slots).run :=
    ExceptT.run_bind_lift _ _
  rw [staged]
  exact described.bind bound

end

/-- The stages agree with the whole pass: the structs are those of the pass, the
methods are bound exactly when the pass succeeds and are those of the pass, and
otherwise both report the same empty slot. What the stages find is what the pass
finds, behind whatever was found before. -/
theorem stages_agree_with_pass
    (settings : Settings) (schema : Schema) (slots : List (Option Query)) :
    ∃ structs structFindings,
      Yields (describeTables settings schema) structs structFindings ∧
      ((∃ methods further,
          generate settings schema slots =
            .ok { enums := schemaEnums settings schema, structs, queries := methods,
                  diagnostics := structFindings ++ further } ∧
          Yields (schemaQueries settings schema slots).run (.ok methods)
            (structFindings ++ further)) ∨
        ∃ index further,
          generate settings schema slots = .error (.emptySlot index slots.length) ∧
          Yields (schemaQueries settings schema slots).run
            (.error (.emptySlot index slots.length)) (structFindings ++ further)) := by
  have described := yields_describeTables settings schema
  refine ⟨schemaStructs settings schema, schemaFindings settings schema, described, ?_⟩
  rcases slots_filled_or_empty slots with ⟨queries, rfl⟩ | ⟨before, after, rfl⟩
  · have bound := run_bindAll_filled settings (schemaStructs settings schema) queries
    exact .inl ⟨_, _, generate_filled settings schema queries, yields_schemaQueries bound⟩
  · have stopped := run_bindAll_empty settings (schemaStructs settings schema) before after
    have count :
        (before.map some ++ none :: after).length =
          before.length + (after.length + 1) := by
      rw [List.length_append, List.length_map, List.length_cons]
    rw [count]
    exact .inr ⟨before.length, _, generate_empty settings schema before after,
      yields_schemaQueries stopped⟩

end TypedSql
