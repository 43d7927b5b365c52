import TypedSql.Typing.EnumType

/-!
# Constants of enum types

The name of an enum type and the names of its constants are made of the same
words by different rules: only the name of the type has `ID` in the place of the
word `id`, and only this name can be renamed. The constants carry on the name of
their type as long as neither happens.
-/

namespace TypedSql

open Naming (exportWord titleChars titleCase words)

/-! ## Words of types and of constants -/

theorem length_exportWord (word : List Char) :
    (exportWord word).length = (titleChars word).length := by
  unfold exportWord
  by_cases isId : word = ['i', 'd']
  · rw [if_pos isId, isId]
    decide
  · rw [if_neg isId]

theorem exportWord_eq_titleChars_iff {word : List Char} :
    exportWord word = titleChars word ↔ word ≠ ['i', 'd'] := by
  unfold exportWord
  by_cases isId : word = ['i', 'd']
  · rw [if_pos isId, isId]
    decide
  · rw [if_neg isId]
    exact iff_of_true rfl isId

/-- The word `id` is the only one that makes a difference, wherever it stands. -/
theorem flatMap_exportWord_eq_iff {pieces : List (List Char)} :
    pieces.flatMap exportWord = pieces.flatMap titleChars ↔ ['i', 'd'] ∉ pieces := by
  induction pieces with
  | nil => exact iff_of_true rfl List.not_mem_nil
  | cons word rest inductionHypothesis =>
      rw [List.flatMap_cons, List.flatMap_cons, List.mem_cons, not_or]
      constructor
      · intro same
        rcases List.append_inj same (length_exportWord word) with ⟨first, others⟩
        have notId := exportWord_eq_titleChars_iff.1 first
        exact ⟨Ne.symm notId, inductionHypothesis.1 others⟩
      · rintro ⟨notId, others⟩
        rw [exportWord_eq_titleChars_iff.2 (Ne.symm notId), inductionHypothesis.2 others]

/-! ## Names of constants -/

theorem toList_memberName (source value : String) :
    (Naming.memberName source value).toList =
      (words source).flatMap titleChars ++ "Type".toList ++ titleChars value.toList := by
  have typeWord : titleChars "Type".toList = "Type".toList := by decide
  rw [Naming.memberName, String.toList_ofList, List.flatMap_append, List.append_assoc]
  simp only [List.flatMap_cons, List.flatMap_nil, List.append_nil, typeWord]

/-- A constant carries on the name of a type that is made of the same words if
none of them is `id`. -/
theorem memberName_eq_iff {source value : String} :
    Naming.memberName source value =
        Naming.exported source ++ "Type" ++ titleCase value ↔
      ['i', 'd'] ∉ words source := by
  rw [← flatMap_exportWord_eq_iff, ← String.toList_inj, toList_memberName]
  simp only [Naming.exported, titleCase, String.toList_append, String.toList_ofList,
    List.append_assoc, List.append_left_inj]
  exact eq_comm

/-- What stands in front of the literal in the names of all constants of an enum
type. -/
def enumMemberStem (settings : Settings) (table column : String) : String :=
  match settings.enumName? table column with
  | some typeName => titleCase typeName
  | none => Naming.memberName (enumSourceName table column) ""

theorem enumMemberName_eq_append (settings : Settings) (table column value : String) :
    enumMemberName settings table column value =
      enumMemberStem settings table column ++ titleCase value := by
  unfold enumMemberName enumMemberStem
  cases settings.enumName? table column with
  | some typeName => rfl
  | none =>
      have nothing : titleChars "".toList = [] := rfl
      rw [← String.toList_inj, String.toList_append]
      simp only [toList_memberName, titleCase, String.toList_ofList, nothing, List.append_nil]

/-! ## Enum types of columns -/

/-- Every constant is named by a common text and the title of its value. -/
def EnumDecl.NamedAfter (decl : EnumDecl) (stem : String) : Prop :=
  ∀ member ∈ decl.members, member.name = stem ++ titleCase member.value

theorem namedAfter_enumMemberStem (settings : Settings) (table : String) (column : Column) :
    (columnEnum settings table column).NamedAfter
      (enumMemberStem settings table column.name) := by
  intro member inMembers
  rcases List.mem_map.1 inMembers with ⟨value, _, rfl⟩
  exact enumMemberName_eq_append settings table column.name value

theorem EnumDecl.NamedAfter.name_eq_iff
    {decl : EnumDecl} {stem : String} (named : decl.NamedAfter stem)
    {member other : EnumMember} (inMembers : member ∈ decl.members)
    (otherInMembers : other ∈ decl.members) :
    member.name = other.name ↔ titleCase member.value = titleCase other.value := by
  rw [named member inMembers, named other otherInMembers]
  exact String.append_right_inj stem

theorem columnEnumName_of_plain
    {settings : Settings} {table column : String}
    (notGiven : settings.enumName? table column = none)
    (notRenamed : settings.rename? (enumSourceName table column) = none) :
    columnEnumName settings table column =
      Naming.exported (enumSourceName table column) ++ "Type" := by
  rw [columnEnumName, notGiven, Option.getD_none, Naming.identifier, notRenamed,
    Option.getD_none]

/-- Without settings for its name, a constant carries on the name of its enum type
if and only if no word of this name is `id`. -/
theorem member_name_eq_iff_of_plain
    {settings : Settings} {table : String} {column : Column}
    (notGiven : settings.enumName? table column.name = none)
    (notRenamed : settings.rename? (enumSourceName table column.name) = none)
    {member : EnumMember} (inMembers : member ∈ (columnEnum settings table column).members) :
    member.name = (columnEnum settings table column).name ++ titleCase member.value ↔
      ['i', 'd'] ∉ words (enumSourceName table column.name) := by
  rcases List.mem_map.1 inMembers with ⟨value, _, rfl⟩
  rw [show (columnEnum settings table column).name =
      columnEnumName settings table column.name from rfl,
    columnEnumName_of_plain notGiven notRenamed]
  simp only [enumMemberName, notGiven]
  exact memberName_eq_iff

/-- An enum type has the constant for nulls if its column is nullable, and then one
for each literal, all of this type. Under a given name the constants are named by
its title. Otherwise, and unless the type is renamed, they carry on its name
exactly if no word of this name is `id`. Two constants share a name only with the
titles of their values. -/
theorem enum_members_line_up (settings : Settings) (table : String) (column : Column) :
    (columnEnum settings table column).members.map EnumMember.value =
        (if column.isNullable then [nullLiteral] else []) ++
          column.enumValues.map Naming.unquoted ∧
      (∀ member ∈ (columnEnum settings table column).members,
        member.typeName = (columnEnum settings table column).name) ∧
      (∀ given, settings.enumName? table column.name = some given →
        (columnEnum settings table column).name = given ∧
        (columnEnum settings table column).NamedAfter (titleCase given)) ∧
      (settings.enumName? table column.name = none →
        settings.rename? (enumSourceName table column.name) = none →
        (['i', 'd'] ∉ words (enumSourceName table column.name) →
          (columnEnum settings table column).NamedAfter
            (columnEnum settings table column).name) ∧
        (['i', 'd'] ∈ words (enumSourceName table column.name) →
          ∀ member ∈ (columnEnum settings table column).members,
            member.name ≠
              (columnEnum settings table column).name ++ titleCase member.value)) ∧
      ∀ member ∈ (columnEnum settings table column).members,
        ∀ other ∈ (columnEnum settings table column).members,
          member.name = other.name ↔ titleCase member.value = titleCase other.value := by
  refine ⟨?_, ?_, ?_, ?_, ?_⟩
  · rw [columnEnum, List.map_map]
    exact List.map_id _
  · intro member inMembers
    rcases List.mem_map.1 inMembers with ⟨value, _, rfl⟩
    rfl
  · intro typeName given
    have named := namedAfter_enumMemberStem settings table column
    rw [enumMemberStem, given] at named
    refine ⟨?_, named⟩
    rw [show (columnEnum settings table column).name =
        columnEnumName settings table column.name from rfl,
      columnEnumName, given, Option.getD_some]
  · intro notGiven notRenamed
    refine ⟨?_, ?_⟩
    · intro noId member inMembers
      exact (member_name_eq_iff_of_plain notGiven notRenamed inMembers).2 noId
    · intro hasId member inMembers same
      exact (member_name_eq_iff_of_plain notGiven notRenamed inMembers).1 same hasId
  · intro member inMembers other otherInMembers
    exact (namedAfter_enumMemberStem settings table column).name_eq_iff inMembers otherInMembers

/-- An enum column with the word `id` in its name, and with two literals that have
one title. -/
def idKindColumn : Column :=
  .enumeration "id_kind" ["'on hold'", "'on Hold'"]

/-- Settings that give the enum type of the column a name in small letters. -/
def powerSettings : Settings :=
  Settings.withTable {} "devices"
    { columns := NameMap.set .empty "id_kind" { enumName := some "power" } }

theorem idKind_members_line_up :
    (Settings.enumName? {} "app_flags" idKindColumn.name = none ∧
      Settings.rename? {} (enumSourceName "app_flags" idKindColumn.name) = none ∧
      ['i', 'd'] ∈ words (enumSourceName "app_flags" idKindColumn.name) ∧
      (columnEnum {} "app_flags" idKindColumn).name = "FlagsIDKindType" ∧
      (columnEnum {} "app_flags" idKindColumn).members.map EnumMember.name =
        ["FlagsIdKindTypeNULL", "FlagsIdKindTypeOn Hold", "FlagsIdKindTypeOn Hold"] ∧
      ∀ member ∈ (columnEnum {} "app_flags" idKindColumn).members,
        member.name ≠
          (columnEnum {} "app_flags" idKindColumn).name ++ titleCase member.value) ∧
    powerSettings.enumName? "devices" idKindColumn.name = some "power" ∧
      (columnEnum powerSettings "devices" idKindColumn).name = "power" ∧
      (columnEnum powerSettings "devices" idKindColumn).NamedAfter "Power" := by
  have hasId : ['i', 'd'] ∈ words (enumSourceName "app_flags" idKindColumn.name) := by decide
  have given : powerSettings.enumName? "devices" idKindColumn.name = some "power" := by decide
  rcases enum_members_line_up {} "app_flags" idKindColumn with ⟨_, _, _, plain, _⟩
  rcases enum_members_line_up powerSettings "devices" idKindColumn with ⟨_, _, custom, _, _⟩
  rcases custom "power" given with ⟨name, named⟩
  have power : titleCase "power" = "Power" := by decide
  rw [power] at named
  exact ⟨⟨rfl, rfl, hasId, by decide, by decide, (plain rfl rfl).2 hasId⟩, given, name, named⟩

end TypedSql
