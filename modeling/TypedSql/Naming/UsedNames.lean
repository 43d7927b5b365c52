/-!
# Repeated field names

Fields of one struct that would share a name are told apart by their number: the
first one keeps its name, and the n-th one gets `_n` behind its name and behind
its tag.
-/

namespace TypedSql.Naming

/-- The field names that were asked for so far, last first. -/
structure UsedNames where
  asked : List String := []
  deriving DecidableEq, Inhabited

namespace UsedNames

/-- A text with a number behind it, except for the number one. -/
def numbered (s : String) (n : Nat) : String :=
  if n > 1 then s ++ "_" ++ String.ofList (Nat.toDigits 10 n) else s

/-- How often a field name has been asked for, the next time included. -/
def occurrence (namer : UsedNames) (field : String) : Nat :=
  namer.asked.count field + 1

/-- The field name and the tag of the next field, and the namer after it. -/
def assign (namer : UsedNames) (field tag : String) : (String × String) × UsedNames :=
  ((numbered field (namer.occurrence field), numbered tag (namer.occurrence field)),
    ⟨field :: namer.asked⟩)

/-- The field names and tags of fields that are named one after the other. -/
def assignAll (namer : UsedNames) : List (String × String) → List (String × String)
  | [] => []
  | (field, tag) :: fields =>
      (namer.assign field tag).1 :: assignAll (namer.assign field tag).2 fields

end UsedNames

end TypedSql.Naming
