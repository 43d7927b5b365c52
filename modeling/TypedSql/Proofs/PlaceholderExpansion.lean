import TypedSql.Proofs.ColumnTypes
import TypedSql.Proofs.SlotBinding

/-!
# Quoted placeholders in SQL texts

The placeholders of the parameters are replaced one after the other, each one at
its leftmost quoted occurrence in the text that the earlier ones have left. Every
replacement takes quotes out of the text and puts none in. So a text that has
been changed never comes back, and placeholders that stand in the order of their
parameters are replaced in this order.
-/

namespace TypedSql

/-! ## Placeholders -/

def Param.placeholder? (param : Param) : Option String :=
  filled? (param.expansion.map Expansion.placeholder)

def quoted (placeholder : String) : String :=
  "\"" ++ placeholder ++ "\""

/-- The quoted placeholder of the parameter occurs in a SQL text. -/
def Param.MarkedIn (param : Param) (sql : String) : Prop :=
  ∃ placeholder, param.placeholder? = some placeholder ∧
    (quoted placeholder).toList <:+: sql.toList

def quoteCount (sql : String) : Nat :=
  sql.toList.count '"'

/-- A field of the parameter struct as it is written in a SQL text. -/
def argField (field : FieldDecl) : String :=
  argVariable ++ "." ++ field.name

theorem toList_quoted (placeholder : String) :
    (quoted placeholder).toList = '"' :: (placeholder.toList ++ ['"']) := by
  simp [quoted]

section

variable {param : Param}

theorem replacement?_of_placeholder?_eq_none
    (unplaced : param.placeholder? = none) (bound : String) :
    (param.expansion.bind fun mark => mark.replacement? bound) = none := by
  cases marked : param.expansion with
  | none => rfl
  | some mark =>
      have empty : mark.placeholder = "" := by
        simpa [Param.placeholder?, filled?, marked] using unplaced
      simp only [Option.bind_some, Expansion.replacement?, empty, if_true]

theorem replacement?_of_placeholder?
    {placeholder : String} (placed : param.placeholder? = some placeholder) (bound : String) :
    (param.expansion.bind fun mark => mark.replacement? bound) =
      some (quoted placeholder, if bound = "" then placeholder else bound) := by
  rcases Option.filter_eq_some_iff.1 placed with ⟨given, filled⟩
  rcases Option.map_eq_some_iff.1 given with ⟨mark, marked, rfl⟩
  have named : mark.placeholder ≠ "" := of_decide_eq_true filled
  simp only [marked, Option.bind_some, Expansion.replacement?, if_neg named, quoted]

theorem expandParam_of_placeholder?_eq_none
    (unplaced : param.placeholder? = none) (bound sql : String) :
    expandParam param bound sql = sql := by
  rw [expandParam, replacement?_of_placeholder?_eq_none unplaced bound]

theorem expandParam_of_not_markedIn
    {sql : String} (unmarked : ¬ param.MarkedIn sql) (bound : String) :
    expandParam param bound sql = sql := by
  cases placed : param.placeholder? with
  | none => exact expandParam_of_placeholder?_eq_none placed bound sql
  | some placeholder =>
      have absent : ¬ (quoted placeholder).toList <:+: sql.toList := fun occurs =>
        unmarked ⟨placeholder, placed, occurs⟩
      rw [expandParam, replacement?_of_placeholder? placed bound]
      dsimp only
      rw [Text.replaceFirst_of_not_infix _ absent, String.ofList_toList]

/-- The replacement takes place at the leftmost quoted placeholder. -/
theorem toList_expandParam_of_firstAt
    {placeholder sql : String} {before after : List Char}
    (placed : param.placeholder? = some placeholder)
    (first : Text.FirstAt (quoted placeholder).toList sql.toList before after)
    (bound : String) :
    (expandParam param bound sql).toList =
      before ++ (if bound = "" then placeholder else bound).toList ++ after := by
  rw [expandParam, replacement?_of_placeholder? placed bound]
  dsimp only
  rw [Text.replaceFirst_of_firstAt _ first, String.toList_ofList]

/-- One parameter leaves its bare placeholder in the text. -/
theorem exists_firstAt_of_markedIn
    {sql : String} (marked : param.MarkedIn sql) :
    ∃ placeholder before after, param.placeholder? = some placeholder ∧
      Text.FirstAt (quoted placeholder).toList sql.toList before after ∧
      (expandParam param "" sql).toList = before ++ placeholder.toList ++ after := by
  rcases marked with ⟨placeholder, placed, occurs⟩
  rcases Text.exists_firstAt occurs with ⟨before, after, first⟩
  refine ⟨placeholder, before, after, placed, first, ?_⟩
  simpa only [if_true] using toList_expandParam_of_firstAt placed first ""

theorem expandParam_empty_ne_iff {sql : String} :
    expandParam param "" sql ≠ sql ↔ param.MarkedIn sql := by
  constructor
  · intro different
    by_contra unmarked
    exact different (expandParam_of_not_markedIn unmarked "")
  · intro marked same
    rcases exists_firstAt_of_markedIn marked with ⟨placeholder, before, after, _, first, result⟩
    have lengths := congrArg List.length result
    rw [same, first.splits, toList_quoted] at lengths
    simp only [List.length_append, List.length_cons, List.length_nil] at lengths
    omega

/-! ## Quotes get fewer -/

theorem quoteCount_quoted_pos (placeholder : String) : 0 < quoteCount (quoted placeholder) := by
  rw [quoteCount, toList_quoted, List.count_cons_self]
  exact Nat.succ_pos _

theorem quoteCount_expandParam_lt
    {bound sql : String} (filled : bound ≠ "") (plain : '"' ∉ bound.toList)
    (marked : param.MarkedIn sql) :
    quoteCount (expandParam param bound sql) < quoteCount sql := by
  rcases marked with ⟨placeholder, placed, occurs⟩
  rcases Text.exists_firstAt occurs with ⟨before, after, first⟩
  have result := toList_expandParam_of_firstAt placed first bound
  have removed := quoteCount_quoted_pos placeholder
  have inserted : bound.toList.count '"' = 0 := List.count_eq_zero.2 plain
  rw [if_neg filled] at result
  rw [quoteCount] at removed
  rw [quoteCount, quoteCount, result, first.splits]
  simp only [List.count_append]
  omega

end

theorem expandParams_cons
    (pair : Param × FieldDecl) (rest : List (Param × FieldDecl)) (sql : String) :
    expandParams (pair :: rest) sql =
      expandParams rest (expandParam pair.1 (argField pair.2) sql) :=
  rfl

theorem expandParams_append (earlier later : List (Param × FieldDecl)) (sql : String) :
    expandParams (earlier ++ later) sql = expandParams later (expandParams earlier sql) :=
  List.foldl_append

theorem toList_argField (field : FieldDecl) :
    (argField field).toList = 'a' :: 'r' :: 'g' :: '.' :: field.name.toList := by
  have start : (argVariable ++ ".").toList = ['a', 'r', 'g', '.'] := by decide
  rw [argField, String.toList_append, start]
  rfl

theorem argField_ne_empty (field : FieldDecl) : argField field ≠ "" := by
  intro empty
  have letters := congrArg String.toList empty
  rw [toList_argField] at letters
  exact nomatch letters

theorem quote_notMem_argField
    {field : FieldDecl} (plain : '"' ∉ field.name.toList) : '"' ∉ (argField field).toList := by
  rw [toList_argField]
  simpa using plain

/-- Either nothing is replaced because no placeholder of the parameters occurs
in the text, or one does and the text loses quotes. -/
theorem expandParams_progress
    {pairs : List (Param × FieldDecl)}
    (plain : ∀ pair ∈ pairs, '"' ∉ pair.2.name.toList) (sql : String) :
    (expandParams pairs sql = sql ∧ ∀ pair ∈ pairs, ¬ pair.1.MarkedIn sql) ∨
      (quoteCount (expandParams pairs sql) < quoteCount sql ∧
        ∃ pair ∈ pairs, pair.1.MarkedIn sql) := by
  induction pairs generalizing sql with
  | nil => exact .inl ⟨rfl, fun _ impossible => absurd impossible List.not_mem_nil⟩
  | cons pair rest inductionHypothesis =>
      have plainRest : ∀ other ∈ rest, '"' ∉ other.2.name.toList := fun other member =>
        plain other (List.mem_cons_of_mem pair member)
      have plainField := quote_notMem_argField (plain pair List.mem_cons_self)
      rw [expandParams_cons]
      by_cases marked : pair.1.MarkedIn sql
      · have fewer := quoteCount_expandParam_lt (argField_ne_empty pair.2) plainField marked
        refine .inr ⟨?_, pair, List.mem_cons_self, marked⟩
        rcases inductionHypothesis plainRest (expandParam pair.1 (argField pair.2) sql) with
          ⟨same, _⟩ | ⟨evenFewer, _⟩
        · rw [same]
          exact fewer
        · exact Nat.lt_trans evenFewer fewer
      · rw [expandParam_of_not_markedIn marked]
        rcases inductionHypothesis plainRest sql with ⟨same, none⟩ | ⟨fewer, other, member, found⟩
        · exact .inl ⟨same, List.forall_mem_cons.2 ⟨marked, none⟩⟩
        · exact .inr ⟨fewer, other, List.mem_cons_of_mem pair member, found⟩

theorem quoteCount_expandParams_le
    {pairs : List (Param × FieldDecl)}
    (plain : ∀ pair ∈ pairs, '"' ∉ pair.2.name.toList) (sql : String) :
    quoteCount (expandParams pairs sql) ≤ quoteCount sql := by
  rcases expandParams_progress plain sql with ⟨same, _⟩ | ⟨fewer, _⟩
  · exact Nat.le_of_eq (congrArg quoteCount same)
  · exact Nat.le_of_lt fewer

theorem expandParams_ne_iff
    {pairs : List (Param × FieldDecl)}
    (plain : ∀ pair ∈ pairs, '"' ∉ pair.2.name.toList) (sql : String) :
    expandParams pairs sql ≠ sql ↔ ∃ pair ∈ pairs, pair.1.MarkedIn sql := by
  rcases expandParams_progress plain sql with ⟨same, none⟩ | ⟨fewer, found⟩
  · refine iff_of_false (fun different => different same) ?_
    intro found
    rcases found with ⟨pair, member, marked⟩
    exact none pair member marked
  · refine iff_of_true ?_ found
    intro same
    rw [same] at fewer
    exact Nat.lt_irrefl _ fewer

/-! ## Texts of bound queries -/

section

variable {settings : Settings} {structs : List StructDecl} {query : Query}
  {method : QueryMethod}

theorem BindsTo.expandedSql_eq_some_iff
    (binds : BindsTo settings structs query method) {expanded : String} :
    method.expandedSql = some expanded ↔
      expandSql settings query.name query.params query.sql = expanded ∧
        expanded ≠ query.sql := by
  rcases boundQuery?_eq_some_iff.1 (boundQuery?_of_bindsTo binds) with ⟨_, command, _, rfl⟩
  simp only [describeQuery]
  by_cases same : expandSql settings query.name query.params query.sql = query.sql
  · rw [if_pos same, same]
    refine iff_of_false (Option.some_ne_none expanded).symm ?_
    intro different
    exact different.2 different.1.symm
  · rw [if_neg same, Option.some.injEq]
    constructor
    · intro equal
      exact ⟨equal, equal ▸ same⟩
    · intro equal
      exact equal.1

theorem BindsTo.isSome_expandedSql_iff (binds : BindsTo settings structs query method) :
    method.expandedSql.isSome = true ↔
      expandSql settings query.name query.params query.sql ≠ query.sql := by
  rw [Option.isSome_iff_exists]
  constructor
  · intro recorded
    rcases recorded with ⟨expanded, recorded⟩
    rcases binds.expandedSql_eq_some_iff.1 recorded with ⟨rfl, different⟩
    exact different
  · intro different
    exact ⟨_, binds.expandedSql_eq_some_iff.2 ⟨rfl, different⟩⟩

/-- The SQL text to use is the expanded text, whether it is recorded or not. -/
theorem BindsTo.sql_eq (binds : BindsTo settings structs query method) :
    method.sql = expandSql settings query.name query.params query.sql := by
  rcases boundQuery?_eq_some_iff.1 (boundQuery?_of_bindsTo binds) with ⟨_, command, _, rfl⟩
  simp only [QueryMethod.sql, describeQuery]
  by_cases same : expandSql settings query.name query.params query.sql = query.sql
  · rw [if_pos same, Option.getD_none, same]
  · rw [if_neg same, Option.getD_some]

end

/-- The parameters of a query beside the fields of the struct that holds them. -/
def Query.heldParams (settings : Settings) (query : Query) : List (Param × FieldDecl) :=
  query.params.zip (paramStruct settings query.name query.params).fields

section

variable {settings : Settings} {query : Query}

theorem expandSql_of_two_le (several : 2 ≤ query.params.length) :
    expandSql settings query.name query.params query.sql =
      expandParams (query.heldParams settings) query.sql := by
  rw [Query.heldParams]
  match query.params, several with
  | _ :: _ :: _, _ => rfl

theorem argValue_of_two_le (several : 2 ≤ query.params.length) :
    argValue settings query.name query.params =
      .struct argVariable (paramStruct settings query.name query.params) true := by
  match query.params, several with
  | _ :: _ :: _, _ => rfl

theorem map_fst_heldParams (settings : Settings) (query : Query) :
    (query.heldParams settings).map Prod.fst = query.params := by
  have lengths := congrArg List.length (typeNames_itemFields settings
    (query.params.map fun param => ⟨param.name, param.typeName⟩))
  rw [List.length_map, List.length_map, List.length_map] at lengths
  exact List.map_fst_zip (Nat.le_of_eq lengths.symm)

theorem plain_heldParams
    (plain : ∀ field ∈ (paramStruct settings query.name query.params).fields,
      '"' ∉ field.name.toList) :
    ∀ pair ∈ query.heldParams settings, '"' ∉ pair.2.name.toList := fun pair member =>
  plain pair.2 (List.of_mem_zip member).2

/-- Several parameters change the text if and only if one of their placeholders
occurs in it. -/
theorem expandSql_ne_iff
    (several : 2 ≤ query.params.length)
    (plain : ∀ field ∈ (paramStruct settings query.name query.params).fields,
      '"' ∉ field.name.toList) :
    expandSql settings query.name query.params query.sql ≠ query.sql ↔
      ∃ param ∈ query.params, param.MarkedIn query.sql := by
  rw [expandSql_of_two_le several, expandParams_ne_iff (plain_heldParams plain)]
  constructor
  · intro found
    rcases found with ⟨pair, member, marked⟩
    exact ⟨pair.1, (List.of_mem_zip member).1, marked⟩
  · intro found
    rcases found with ⟨param, member, marked⟩
    rw [← map_fst_heldParams settings query] at member
    rcases List.mem_map.1 member with ⟨pair, inPairs, rfl⟩
    exact ⟨pair, inPairs, marked⟩

end

/-- Whether an expanded text is recorded can be read off the SQL text of the
query: some quoted placeholder must occur in it. One parameter gives up the
quotes of its leftmost placeholder and nothing else; several parameters take
quotes away step by step. -/
theorem expansion_recorded_iff_marked
    {settings : Settings} {structs : List StructDecl} {query : Query}
    {method : QueryMethod} (binds : BindsTo settings structs query method) :
    (∀ param, query.params = [param] →
      (method.expandedSql.isSome = true ↔ param.MarkedIn query.sql) ∧
      ∀ expanded, method.expandedSql = some expanded →
        ∃ placeholder before after, param.placeholder? = some placeholder ∧
          Text.FirstAt (quoted placeholder).toList query.sql.toList before after ∧
          expanded.toList = before ++ placeholder.toList ++ after) ∧
    (2 ≤ query.params.length →
      (∀ field ∈ (paramStruct settings query.name query.params).fields,
        '"' ∉ field.name.toList) →
      (method.expandedSql.isSome = true ↔ ∃ param ∈ query.params, param.MarkedIn query.sql) ∧
      method.sql = expandParams (query.heldParams settings) query.sql ∧
      (∀ earlier later, earlier ++ later <+: query.heldParams settings →
        quoteCount (expandParams (earlier ++ later) query.sql) ≤
          quoteCount (expandParams earlier query.sql)) ∧
      quoteCount method.sql ≤ quoteCount query.sql ∧
      ∀ expanded, method.expandedSql = some expanded → expanded ≠ query.sql) := by
  refine ⟨?_, ?_⟩
  · intro param single
    have text : expandSql settings query.name query.params query.sql =
        expandParam param "" query.sql := by
      rw [single]
      rfl
    refine ⟨?_, ?_⟩
    · rw [binds.isSome_expandedSql_iff, text]
      exact expandParam_empty_ne_iff
    · intro expanded recorded
      rcases binds.expandedSql_eq_some_iff.1 recorded with ⟨same, different⟩
      rw [text] at same
      subst same
      exact exists_firstAt_of_markedIn (expandParam_empty_ne_iff.1 different)
  · intro several plain
    have plainHeld := plain_heldParams plain
    have text : method.sql = expandParams (query.heldParams settings) query.sql := by
      rw [binds.sql_eq, expandSql_of_two_le several]
    refine ⟨?_, text, ?_, ?_, ?_⟩
    · rw [binds.isSome_expandedSql_iff]
      exact expandSql_ne_iff several plain
    · intro earlier later taken
      rw [expandParams_append]
      apply quoteCount_expandParams_le
      intro pair member
      exact plainHeld pair (taken.subset (List.mem_append_right earlier member))
    · rw [text]
      exact quoteCount_expandParams_le plainHeld query.sql
    · intro expanded recorded
      exact (binds.expandedSql_eq_some_iff.1 recorded).2

/-- The quoted comma between the two quoted marks is the placeholder of the first
parameter. Replacing it leaves no quoted mark for the second one. -/
def overlappingMarks : Query :=
  { name := "FindRange", command := some .many,
    sql := "SELECT id FROM devices WHERE id IN (\"?\", \"?\")",
    params :=
      [{ name := "low", typeName := "int", expansion := some { placeholder := ", " } },
       { name := "high", typeName := "int", expansion := some { placeholder := "?" } }] }

theorem overlappingMarks_recorded :
    ∃ method, BindsTo {} [] overlappingMarks method ∧ 2 ≤ overlappingMarks.params.length ∧
      (∀ field ∈ (paramStruct {} "FindRange" overlappingMarks.params).fields,
        '"' ∉ field.name.toList) ∧
      method.expandedSql.isSome = true ∧ quoteCount method.sql ≤ 4 := by
  have bound : overlappingMarks.isBound = true := by decide
  rcases boundQuery?_of_isBound {} [] bound with ⟨command, described⟩
  have binds := bindsTo_of_boundQuery? described
  have several : 2 ≤ overlappingMarks.params.length := by decide
  have plain : ∀ field ∈ (paramStruct {} "FindRange" overlappingMarks.params).fields,
      '"' ∉ field.name.toList := by decide
  have comma : (quoted ", ").toList <:+: overlappingMarks.sql.toList :=
    ⟨"SELECT id FROM devices WHERE id IN (\"?".toList, "?\")".toList, by decide⟩
  have marked : ∃ param ∈ overlappingMarks.params, param.MarkedIn overlappingMarks.sql :=
    ⟨_, List.mem_cons_self, ", ", by decide, comma⟩
  have quotes : quoteCount overlappingMarks.sql = 4 := by decide
  rcases (expansion_recorded_iff_marked binds).2 several plain with ⟨recorded, _, _, fewer, _⟩
  rw [quotes] at fewer
  exact ⟨_, binds, several, plain, recorded.2 marked, fewer⟩

/-! ## Placeholders in the order of their parameters -/

/-- A SQL text cut at quoted placeholders: the piece in front of them, and each
placeholder with the piece behind it. -/
structure CutSql where
  start : String
  marks : List (String × String)

namespace CutSql

def text (cut : CutSql) : String :=
  cut.start ++ String.join (cut.marks.map fun mark => quoted mark.1 ++ mark.2)

/-- The text with fields in the place of the quoted placeholders. -/
def filledWith (cut : CutSql) (fields : List FieldDecl) : String :=
  cut.start ++
    String.join (List.zipWith (fun field mark => argField field ++ mark.2) fields cut.marks)

/-- The only quotes of the text are those around the placeholders. -/
def Plain (cut : CutSql) : Prop :=
  '"' ∉ cut.start.toList ∧ ∀ mark ∈ cut.marks, '"' ∉ mark.1.toList ∧ '"' ∉ mark.2.toList

end CutSql

/-- The fields of the parameters that have a placeholder. -/
def placeholderFields (pairs : List (Param × FieldDecl)) : List FieldDecl :=
  (pairs.filter fun pair => pair.1.placeholder?.isSome).map Prod.snd

theorem placeholderFields_cons_none
    {pair : Param × FieldDecl} (unplaced : pair.1.placeholder? = none)
    (rest : List (Param × FieldDecl)) :
    placeholderFields (pair :: rest) = placeholderFields rest := by
  simp only [placeholderFields, List.filter_cons, unplaced, Option.isSome_none,
    Bool.false_eq_true, if_false]

theorem placeholderFields_cons_some
    {pair : Param × FieldDecl} {placeholder : String}
    (placed : pair.1.placeholder? = some placeholder) (rest : List (Param × FieldDecl)) :
    placeholderFields (pair :: rest) = pair.2 :: placeholderFields rest := by
  simp only [placeholderFields, List.filter_cons, placed, Option.isSome_some, if_true,
    List.map_cons]

theorem length_placeholderFields (pairs : List (Param × FieldDecl)) :
    (placeholderFields pairs).length =
      ((pairs.map Prod.fst).filterMap Param.placeholder?).length := by
  induction pairs with
  | nil => rfl
  | cons pair rest inductionHypothesis =>
      cases placed : pair.1.placeholder? with
      | none =>
          rw [placeholderFields_cons_none placed, List.map_cons,
            List.filterMap_cons_none placed, inductionHypothesis]
      | some placeholder =>
          rw [placeholderFields_cons_some placed, List.map_cons,
            List.filterMap_cons_some placed, List.length_cons, List.length_cons,
            inductionHypothesis]

theorem expandParam_first_mark
    {param : Param} {placeholder bound start : String}
    (placed : param.placeholder? = some placeholder) (filled : bound ≠ "")
    (plain : '"' ∉ start.toList) (rest : String) :
    expandParam param bound (start ++ quoted placeholder ++ rest) = start ++ bound ++ rest := by
  have first : Text.FirstAt (quoted placeholder).toList
      (start ++ quoted placeholder ++ rest).toList start.toList rest.toList := by
    rw [String.toList_append, String.toList_append, toList_quoted]
    exact Text.firstAt_of_notMem plain _ _
  apply String.toList_inj.1
  rw [toList_expandParam_of_firstAt placed first bound, if_neg filled,
    String.toList_append, String.toList_append]

theorem CutSql.text_cons (start placeholder piece : String) (marks : List (String × String)) :
    CutSql.text ⟨start, (placeholder, piece) :: marks⟩ =
      start ++ quoted placeholder ++ (piece ++ String.join (marks.map fun mark =>
        quoted mark.1 ++ mark.2)) := by
  simp only [CutSql.text, List.map_cons, String.join_cons, String.append_assoc]

theorem CutSql.text_extend (start bound piece : String) (marks : List (String × String)) :
    CutSql.text ⟨start ++ bound ++ piece, marks⟩ =
      start ++ bound ++ (piece ++ String.join (marks.map fun mark =>
        quoted mark.1 ++ mark.2)) := by
  simp only [CutSql.text, String.append_assoc]

theorem CutSql.Plain.extend
    {start placeholder piece bound : String} {marks : List (String × String)}
    (plain : (CutSql.mk start ((placeholder, piece) :: marks)).Plain)
    (plainBound : '"' ∉ bound.toList) :
    (CutSql.mk (start ++ bound ++ piece) marks).Plain := by
  rcases plain with ⟨plainStart, plainMarks⟩
  have plainPiece := (plainMarks _ List.mem_cons_self).2
  refine ⟨?_, fun mark member => plainMarks mark (List.mem_cons_of_mem _ member)⟩
  simp only [String.toList_append, List.mem_append, not_or]
  exact ⟨⟨plainStart, plainBound⟩, plainPiece⟩

/-- Each replacement turns the first placeholder that is left into a part of the
piece in front of the next one, and this piece has no quotes. -/
theorem expandParams_cut
    {pairs : List (Param × FieldDecl)}
    (plainFields : ∀ pair ∈ pairs, '"' ∉ pair.2.name.toList)
    {cut : CutSql} (plain : cut.Plain)
    (inOrder : cut.marks.map Prod.fst = (pairs.map Prod.fst).filterMap Param.placeholder?) :
    expandParams pairs cut.text = cut.filledWith (placeholderFields pairs) := by
  induction pairs generalizing cut with
  | nil =>
      have noMarks : cut.marks = [] := List.map_eq_nil_iff.1 inOrder
      simp only [expandParams, List.foldl_nil, CutSql.text, CutSql.filledWith, noMarks,
        placeholderFields, List.filter_nil, List.map_nil, List.zipWith_nil_left]
  | cons pair rest inductionHypothesis =>
      have plainRest : ∀ other ∈ rest, '"' ∉ other.2.name.toList := fun other member =>
        plainFields other (List.mem_cons_of_mem pair member)
      rw [expandParams_cons]
      cases placed : pair.1.placeholder? with
      | none =>
          rw [List.map_cons, List.filterMap_cons_none placed] at inOrder
          rw [expandParam_of_placeholder?_eq_none placed, placeholderFields_cons_none placed]
          exact inductionHypothesis plainRest plain inOrder
      | some placeholder =>
          rw [List.map_cons, List.filterMap_cons_some placed] at inOrder
          rcases cut with ⟨start, _ | ⟨⟨mark, piece⟩, marks⟩⟩
          · exact absurd inOrder (List.cons_ne_nil _ _).symm
          · rcases List.cons.inj inOrder with ⟨sameMark, laterMarks⟩
            dsimp only at sameMark
            subst sameMark
            have plainField := quote_notMem_argField (plainFields pair List.mem_cons_self)
            have plainNext := plain.extend plainField
            rw [CutSql.text_cons,
              expandParam_first_mark placed (argField_ne_empty pair.2) plain.1,
              ← CutSql.text_extend, placeholderFields_cons_some placed,
              inductionHypothesis plainRest plainNext laterMarks]
            simp only [CutSql.filledWith, List.zipWith_cons_cons, String.join_cons,
              String.append_assoc]

theorem CutSql.exists_markedIn_iff
    {cut : CutSql} {params : List Param}
    (inOrder : cut.marks.map Prod.fst = params.filterMap Param.placeholder?) :
    (∃ param ∈ params, param.MarkedIn cut.text) ↔ 1 ≤ cut.marks.length := by
  constructor
  · intro found
    rcases found with ⟨param, member, placeholder, placed, _⟩
    have inMarks : placeholder ∈ cut.marks.map Prod.fst := by
      rw [inOrder]
      exact List.mem_filterMap.2 ⟨param, member, placed⟩
    have enough := List.length_pos_of_mem inMarks
    rw [List.length_map] at enough
    exact enough
  · intro filled
    rcases cut with ⟨start, _ | ⟨⟨placeholder, piece⟩, marks⟩⟩
    · exact absurd filled (Nat.not_succ_le_zero 0)
    · have first : placeholder ∈ params.filterMap Param.placeholder? := by
        rw [← inOrder]
        exact List.mem_cons_self
      rcases List.mem_filterMap.1 first with ⟨param, member, placed⟩
      refine ⟨param, member, placeholder, placed, ?_⟩
      rw [CutSql.text_cons, String.toList_append, String.toList_append]
      exact List.infix_append _ _ _

/-- Placeholders that stand in the order of their parameters are replaced in this
order, each one by the field of its own parameter, and nothing else changes. -/
theorem placeholders_filled_in_order
    {settings : Settings} {structs : List StructDecl} {query : Query} {cut : CutSql}
    (bound : query.isBound = true) (several : 2 ≤ query.params.length)
    (plainFields : ∀ field ∈ (paramStruct settings query.name query.params).fields,
      '"' ∉ field.name.toList)
    (plain : cut.Plain)
    (inOrder : cut.marks.map Prod.fst = query.params.filterMap Param.placeholder?)
    (written : query.sql = cut.text) :
    ∃ method, BindsTo settings structs query method ∧
      method.arg = .struct argVariable (paramStruct settings query.name query.params) true ∧
      method.sql = cut.filledWith (placeholderFields (query.heldParams settings)) ∧
      (placeholderFields (query.heldParams settings)).length = cut.marks.length ∧
      method.rawSql = query.sql ∧
      (method.expandedSql.isSome = true ↔ 1 ≤ cut.marks.length) := by
  rcases boundQuery?_of_isBound settings structs bound with ⟨command, described⟩
  have binds := bindsTo_of_boundQuery? described
  refine ⟨_, binds, argValue_of_two_le several, ?_, ?_, rfl, ?_⟩
  · rw [binds.sql_eq, expandSql_of_two_le several, written]
    apply expandParams_cut (plain_heldParams plainFields) plain
    rw [map_fst_heldParams, inOrder]
  · rw [length_placeholderFields, map_fst_heldParams, ← inOrder, List.length_map]
  · rw [binds.isSome_expandedSql_iff, expandSql_ne_iff several plainFields, written]
    exact CutSql.exists_markedIn_iff inOrder

/-- Both marks are the same, and the fields of their parameters differ by a number
only. -/
def repeatedMarks : CutSql :=
  { start := "SELECT price FROM orders WHERE id IN (",
    marks := [("?", ") AND price > ? AND id NOT IN ("), ("?", ")")] }

def pickOrders : Query :=
  { name := "PickOrders", command := some .many,
    sql := "SELECT price FROM orders WHERE id IN (\"?\") AND price > ? AND id NOT IN (\"?\")",
    params :=
      [{ name := "id", typeName := "[]int", expansion := some { placeholder := "?" } },
       { name := "price", typeName := "int" },
       { name := "id", typeName := "[]int", expansion := some { placeholder := "?" } }] }

theorem pickOrders_filled :
    pickOrders.isBound = true ∧ 2 ≤ pickOrders.params.length ∧
      (∀ field ∈ (paramStruct {} "PickOrders" pickOrders.params).fields,
        '"' ∉ field.name.toList) ∧
      repeatedMarks.Plain ∧
      repeatedMarks.marks.map Prod.fst = pickOrders.params.filterMap Param.placeholder? ∧
      pickOrders.sql = repeatedMarks.text ∧
      ∃ method, BindsTo {} [] pickOrders method ∧
        method.sql = "SELECT price FROM orders WHERE id IN (arg.ID) AND price > ? AND " ++
          "id NOT IN (arg.ID_2)" := by
  have bound : pickOrders.isBound = true := by decide
  have several : 2 ≤ pickOrders.params.length := by decide
  have plainFields : ∀ field ∈ (paramStruct {} "PickOrders" pickOrders.params).fields,
      '"' ∉ field.name.toList := by decide
  have plain : repeatedMarks.Plain := by
    rw [CutSql.Plain]
    decide
  have inOrder :
      repeatedMarks.marks.map Prod.fst = pickOrders.params.filterMap Param.placeholder? := by
    decide
  have written : pickOrders.sql = repeatedMarks.text := by decide
  rcases @placeholders_filled_in_order {} [] pickOrders repeatedMarks bound several plainFields
      plain inOrder written with ⟨method, binds, _, filled, _⟩
  refine ⟨bound, several, plainFields, plain, inOrder, written, method, binds, ?_⟩
  rw [filled]
  decide

end TypedSql
