import TableDdl.Proofs.Lexical.Reader
import TableDdl.Proofs.Lexical.Token
import TableDdl.Proofs.Operand.Blank

/-!
# Reading conditions back

The clauses of a check can be told from its text, though columns and operands may hold parentheses,
quotes and an `AND` of their own.

* `ClauseReading` is what a clause says, and `Conditions.readings` lists what some conditions have
  to say, entry by entry;
* `readConditions?` reads a text as clauses with `AND` between them, and `readConditions?_sql` says
  that it finds these readings.

`Conditions.sql_reads_readings` adds when there is no text at all, and with it no constraint.
-/

namespace TableDdl

open Text

namespace Lexical

inductive ClauseReading where
  | compare (column operator : String) (operand : LiteralToken)
  | equals (column : String) (operand : LiteralToken)
  | isNull (column : String)
deriving DecidableEq, Repr

/-! ## The reader -/

def operatorWords : List String :=
  ["=", "!=", "<>", ">", ">=", "<", "<=", "LIKE", "NOT LIKE"]

def readOperator? (cs : List Char) : Option (String × List Char) :=
  operatorWords.findSome? fun word =>
    (cs.dropPrefix? (word.toList ++ " ".toList)).map fun rest => (word, rest)

def readComparison? (style : QuoteStyle) (cs : List Char) :
    Option (ClauseReading × List Char) := do
  let cs ← cs.dropPrefix? "(".toList
  let (column, cs) ← readName? style cs
  let cs ← cs.dropPrefix? " ".toList
  let (word, cs) ← readOperator? cs
  let (operand, cs) ← readLiteral? cs
  let cs ← cs.dropPrefix? ")".toList
  return (.compare (String.ofList column) word operand, cs)

def readEquality? (style : QuoteStyle) (cs : List Char) : Option (ClauseReading × List Char) := do
  let (column, cs) ← readName? style cs
  let cs ← cs.dropPrefix? " = ".toList
  let (operand, cs) ← readLiteral? cs
  return (.equals (String.ofList column) operand, cs)

def readNullTest? (style : QuoteStyle) (cs : List Char) : Option (ClauseReading × List Char) := do
  let (column, cs) ← readName? style cs
  let cs ← cs.dropPrefix? " IS NULL".toList
  return (.isNull (String.ofList column), cs)

/-- Reads the clause at the front of a text and gives what follows. -/
def readClause? (style : QuoteStyle) (cs : List Char) : Option (ClauseReading × List Char) :=
  readComparison? style cs <|> readEquality? style cs <|> readNullTest? style cs

/-- Reads a whole text as clauses; the empty text has none. -/
def readConditions? (style : QuoteStyle) (cs : List Char) : Option (List ClauseReading) :=
  if cs = [] then some []
  else match readList? (readClause? style) " AND ".toList cs with
    | some (readings, []) => some readings
    | _ => none

end Lexical

open Lexical

/-! ## What conditions say -/

/-- What a reader has to find where the operand is written. -/
def Scalar.operandToken (style : QuoteStyle) (v : Scalar) : LiteralToken :=
  (v.literal v.operandFormatter).token style

/-- An operator counts in upper case and without the blanks around it, if it is one of those that
are known; a comparison under any other one says nothing. -/
def Predicate.readings (style : QuoteStyle) (column : String) : Predicate → List ClauseReading
  | compare operands =>
      operands.entries.filterMap fun entry =>
        if upperAscii (trim entry.1) ∈ operatorWords then
          some (.compare column (upperAscii (trim entry.1)) (entry.2.operandToken style))
        else none
  | equals .null => [.isNull column]
  | equals v => [.equals column (v.operandToken style)]

def Conditions.readings (style : QuoteStyle) (conditions : Conditions) : List ClauseReading :=
  conditions.entries.flatMap fun entry => entry.2.readings style entry.1

namespace ConditionClause

def column : ConditionClause → String
  | compare column _ _ | equals column _ | isNull column => column

/-- What the compiler's clause says. -/
def reading (style : QuoteStyle) : ConditionClause → ClauseReading
  | compare column op operand => .compare column op.symbol (operand.operandToken style)
  | equals column v => .equals column (v.operandToken style)
  | isNull column => .isNull column

end ConditionClause

section Readings

variable {style : QuoteStyle}

theorem Comparison.symbol_mem_operatorWords (op : Comparison) : op.symbol ∈ operatorWords := by
  cases op <;> decide

/-- A comparison is known by its symbol, whatever blanks stand around it. -/
theorem Comparison.map_ofText? {α : Type} (f : String → α) (s : String) :
    (ofText? s).map (fun op => f op.symbol) =
      if upperAscii (trim s) ∈ operatorWords then some (f (upperAscii (trim s))) else none := by
  unfold ofText?
  cases hfind : all.find? fun op => op.symbol == upperAscii (trim s) with
  | none =>
    have hunknown : upperAscii (trim s) ∉ operatorWords := by
      intro hmem
      have hwords : operatorWords = all.map symbol := rfl
      rw [hwords] at hmem
      rcases List.mem_map.1 hmem with ⟨op, hop, hsymbol⟩
      have hne := List.find?_eq_none.1 hfind op hop
      rw [hsymbol, beq_self_eq_true] at hne
      exact hne rfl
    rw [if_neg hunknown, Option.map_none]
  | some op =>
    have hsymbol : op.symbol = upperAscii (trim s) := eq_of_beq (List.find?_some hfind :)
    rw [← hsymbol, if_pos op.symbol_mem_operatorWords, Option.map_some]

/-- The clauses of a predicate say what the predicate says about its column. -/
theorem Predicate.map_reading_clauses (p : Predicate) (column : String) :
    (p.clauses column).map (ConditionClause.reading style) = p.readings style column := by
  cases p with
  | compare operands =>
    have hentry : ∀ entry : String × Scalar,
        ((Comparison.ofText? entry.1).map fun op => ConditionClause.compare column op entry.2).map
            (ConditionClause.reading style) =
          if upperAscii (trim entry.1) ∈ operatorWords then
            some (.compare column (upperAscii (trim entry.1)) (entry.2.operandToken style))
          else none := by
      intro entry
      rw [Option.map_map, ← Comparison.map_ofText? fun word =>
        ClauseReading.compare column word (entry.2.operandToken style)]
      rfl
    unfold clauses readings
    simp only [List.map_filterMap, hentry]
  | equals v => cases v <;> rfl

/-- All clauses of a predicate are about its column. -/
theorem Predicate.column_of_mem_clauses {p : Predicate} {column : String}
    {clause : ConditionClause} (h : clause ∈ p.clauses column) : clause.column = column := by
  cases p with
  | compare operands =>
    rcases List.mem_filterMap.1 h with ⟨entry, _, hsome⟩
    rcases Option.map_eq_some_iff.1 hsome with ⟨op, _, rfl⟩
    rfl
  | equals v => cases v <;> cases List.mem_singleton.1 h <;> rfl

/-- The compiler makes one clause of each reading. -/
theorem Conditions.map_reading_clauses (m : Conditions) :
    m.clauses.map (ConditionClause.reading style) = m.readings style := by
  unfold clauses readings
  rw [List.map_flatMap]
  simp only [Predicate.map_reading_clauses]

/-- If no column is without a name, no clause is. -/
theorem Conditions.column_ne_of_mem_clauses {m : Conditions}
    (hm : ∀ column ∈ m.keys, column ≠ "") : ∀ clause ∈ m.clauses, clause.column ≠ "" := by
  intro clause hclause
  rcases List.mem_flatMap.1 hclause with ⟨entry, hentry, hmem⟩
  rw [Predicate.column_of_mem_clauses hmem]
  exact hm entry.1 (List.mem_map_of_mem hentry)

/-- The text of conditions is that of their clauses with AND between them. -/
theorem Conditions.toList_sql (q : Quoter) (m : Conditions) :
    (Conditions.sql q m).toList =
      " AND ".toList.intercalate (m.clauses.map fun clause => (clause.sql q).toList) := by
  unfold Conditions.sql
  rw [String.toList_intercalate, List.map_map]
  rfl

end Readings

namespace Lexical

variable {style : QuoteStyle} {column : String} {rest : List Char}

/-! ## Reading a clause -/

/-- The symbol of an operator reads back in front of a blank. -/
theorem readOperator?_symbol (op : Comparison) (rest : List Char) :
    readOperator? (op.symbol.toList ++ (" ".toList ++ rest)) = some (op.symbol, rest) := by
  cases op <;> simp [readOperator?, operatorWords, Comparison.symbol, List.dropPrefix?]

/-- An operand reads back as one token. -/
theorem readLiteral?_operand (hwords : TokenWords style) (v : Scalar) (hrest : EndsLiteral rest) :
    readLiteral? ((style.quoter.operand v).toList ++ rest) = some (v.operandToken style, rest) := by
  rw [QuoteStyle.operand_eq_value]
  exact readLiteral?_value hwords v v.operandFormatter hrest

/-- A comparison reads back as what it says. -/
theorem readComparison?_sql (hstyle : Usual style) (hwords : TokenWords style)
    (hcolumn : column ≠ "") (op : Comparison) (v : Scalar) (rest : List Char) :
    readComparison? style
        (((ConditionClause.compare column op v).sql style.quoter).toList ++ rest) =
      some ((ConditionClause.compare column op v).reading style, rest) := by
  have hname := readName?_quoter_name hstyle hcolumn " ".toList rfl
  have hoperator := readOperator?_symbol op
  have hoperand : readLiteral? ((style.quoter.operand v).toList ++ (")".toList ++ rest)) =
      some (v.operandToken style, ")".toList ++ rest) :=
    readLiteral?_operand hwords v (.cons (c := ')') (by simp) rest)
  unfold readComparison? ConditionClause.sql
  simp only [String.toList_append, List.append_assoc]
  simp only [Option.bind_eq_bind, Option.bind_some, dropPrefix?_append, hname, hoperator, hoperand,
    String.ofList_toList]
  rfl

/-- An equality reads back as what it says. -/
theorem readEquality?_sql (hstyle : Usual style) (hwords : TokenWords style)
    (hcolumn : column ≠ "") (v : Scalar) (hrest : EndsLiteral rest) :
    readEquality? style (((ConditionClause.equals column v).sql style.quoter).toList ++ rest) =
      some ((ConditionClause.equals column v).reading style, rest) := by
  have hname := readName?_quoter_name hstyle hcolumn " = ".toList rfl
  have hoperand := readLiteral?_operand hwords v hrest
  unfold readEquality? ConditionClause.sql
  simp only [String.toList_append, List.append_assoc]
  simp only [Option.bind_eq_bind, Option.bind_some, dropPrefix?_append, hname, hoperand,
    String.ofList_toList]
  rfl

/-- A test for NULL reads back. -/
theorem readNullTest?_sql (hstyle : Usual style) (hcolumn : column ≠ "") (rest : List Char) :
    readNullTest? style (((ConditionClause.isNull column).sql style.quoter).toList ++ rest) =
      some ((ConditionClause.isNull column).reading style, rest) := by
  have hname := readName?_quoter_name hstyle hcolumn " IS NULL".toList rfl rest
  unfold readNullTest? ConditionClause.sql
  simp only [String.toList_append, List.append_assoc]
  simp only [Option.bind_eq_bind, Option.bind_some, dropPrefix?_append, hname,
    String.ofList_toList]
  rfl

/-! ## Telling the clauses apart -/

/-- A column alone is no comparison: those begin with a parenthesis. -/
theorem readComparison?_name (hstyle : Usual style) (hcolumn : column ≠ "") (cs : List Char) :
    readComparison? style ((style.quoter.name column).toList ++ cs) = none := by
  have hopening : style.opening ≠ '(' := Ne.symm (hstyle.ne_opening (by simp))
  have htext : (style.quoter.name column).toList =
      style.opening :: nameBody style column.toList := by
    simp [QuoteStyle.quoter, QuoteStyle.name, hcolumn, nameChars_eq_cons_nameBody]
  rw [htext]
  simp [readComparison?, List.dropPrefix?, hopening]

/-- A test for NULL is no equality. -/
theorem readEquality?_isNull (hstyle : Usual style) (hcolumn : column ≠ "") (rest : List Char) :
    readEquality? style (((ConditionClause.isNull column).sql style.quoter).toList ++ rest) =
      none := by
  have hname := readName?_quoter_name hstyle hcolumn " IS NULL".toList rfl rest
  unfold readEquality? ConditionClause.sql
  rw [String.toList_append, List.append_assoc, hname]
  rfl

/-- A parenthesis tells a comparison from the others, and what stands behind the column tells those
apart. -/
theorem readClause?_sql (hstyle : Usual style) (hwords : TokenWords style)
    {clause : ConditionClause} (hcolumn : clause.column ≠ "") (hrest : EndsLiteral rest) :
    readClause? style ((clause.sql style.quoter).toList ++ rest) =
      some (clause.reading style, rest) := by
  unfold readClause?
  cases clause with
  | compare column op v =>
    have hne : column ≠ "" := hcolumn
    rw [readComparison?_sql hstyle hwords hne]
    rfl
  | equals column v =>
    have hne : column ≠ "" := hcolumn
    have hother : readComparison? style
        (((ConditionClause.equals column v).sql style.quoter).toList ++ rest) = none := by
      simp only [ConditionClause.sql, String.toList_append, List.append_assoc]
      exact readComparison?_name hstyle hne _
    rw [hother, readEquality?_sql hstyle hwords hne v hrest]
    rfl
  | isNull column =>
    have hne : column ≠ "" := hcolumn
    have hother : readComparison? style
        (((ConditionClause.isNull column).sql style.quoter).toList ++ rest) = none := by
      simp only [ConditionClause.sql, String.toList_append, List.append_assoc]
      exact readComparison?_name hstyle hne _
    rw [hother, readEquality?_isNull hstyle hne, readNullTest?_sql hstyle hne]
    rfl

/-! ## Reading conditions -/

/-- Conditions with named columns read back clause by clause. -/
theorem readConditions?_sql (hstyle : Usual style) (hwords : TokenWords style) {m : Conditions}
    (hm : ∀ column ∈ m.keys, column ≠ "") :
    readConditions? style (Conditions.sql style.quoter m).toList = some (m.readings style) := by
  rw [← Conditions.map_reading_clauses, Conditions.toList_sql]
  by_cases hnone : m.clauses = []
  · rw [hnone]
    rfl
  · have hclause : ∀ clause ∈ m.clauses, ∀ more, EndsLiteral more →
        readClause? style ((clause.sql style.quoter).toList ++ more) =
          some (clause.reading style, more) :=
      fun clause hmem more hmore =>
        readClause?_sql hstyle hwords (Conditions.column_ne_of_mem_clauses hm clause hmem) hmore
    have hmore : ∀ more, EndsLiteral (" AND ".toList ++ more) :=
      fun more => .cons (c := ' ') (by simp) _
    have hlist := readList?_intercalate hnone (by decide) hclause hmore .nil rfl
    rw [List.append_nil] at hlist
    have hne : " AND ".toList.intercalate
        (m.clauses.map fun clause => (clause.sql style.quoter).toList) ≠ [] := by
      intro hempty
      rw [hempty, readList?_nil _ rfl] at hlist
      cases hlist
    unfold readConditions?
    rw [if_neg hne, hlist]

/-! ## No conditions at all -/

variable {d : Dialect} {m : Conditions}

/-- Conditions without a clause have no text. -/
theorem conditionsSql_eq_empty (q : Quoter) (h : m.readings style = []) :
    Conditions.sql q m = "" := by
  rw [← Conditions.map_reading_clauses, List.map_eq_nil_iff] at h
  unfold Conditions.sql
  rw [h]
  rfl

/-- The text of a clause is not blank. -/
theorem hasInk_conditionClause (hd : d ∈ Dialect.provided) {clause : ConditionClause}
    (hcolumn : clause.column ≠ "") : HasInk (clause.sql d.quotes.quoter).toList := by
  apply (HasInk.name hd hcolumn).of_subset
  cases clause <;> simp [ConditionClause.sql, ConditionClause.column]

/-- The text of conditions is blank only if they have no clause. -/
theorem isBlankText_conditionsSql_iff (hd : d ∈ Dialect.provided)
    (hm : ∀ column ∈ m.keys, column ≠ "") :
    isBlankText (Conditions.sql d.quotes.quoter m) = true ↔ m.readings d.quotes = [] := by
  constructor
  · intro hblank
    rw [← Conditions.map_reading_clauses, List.map_eq_nil_iff]
    by_contra hne
    rcases List.exists_cons_of_ne_nil hne with ⟨clause, others, hclauses⟩
    have hclause : HasInk (clause.sql d.quotes.quoter).toList :=
      hasInk_conditionClause hd (Conditions.column_ne_of_mem_clauses hm clause (by simp [hclauses]))
    have hink : HasInk (Conditions.sql d.quotes.quoter m).toList := by
      rw [Conditions.toList_sql, hclauses, List.map_cons, intercalate_cons_eq_append_flatMap]
      exact hclause.of_subset (List.subset_append_left _ _)
    rw [isBlankText_eq_false_iff.2 hink] at hblank
    cases hblank
  · intro hnone
    rw [conditionsSql_eq_empty _ hnone]
    rfl

/-- A check has no text if there is no template for it or nothing to check. -/
theorem sql?_check_eq_none_iff (q : Quoter) (templates : ConstraintTemplates)
    (expression : CheckExpression) :
    (Constraint.check expression).sql? q templates = none ↔
      templates.check = none ∨ isBlankText (expression.sql q) = true := by
  unfold Constraint.sql? ConstraintTemplates.find? Constraint.values?
  cases templates.check with
  | none => simp
  | some form => cases hblank : isBlankText (expression.sql q) <;> simp [hblank]

end Lexical

/-- The text of conditions reads back as what they say, clause by clause and in order, and there is
no text and no constraint if they say nothing.  So they say the same if their texts are the same. -/
theorem Conditions.sql_reads_readings {d : Dialect} (hd : d ∈ Dialect.provided) {m : Conditions}
    (hm : ∀ column ∈ m.keys, column ≠ "") :
    readConditions? d.quotes (Conditions.sql d.quotes.quoter m).toList =
        some (m.readings d.quotes) ∧
      (Conditions.sql d.quotes.quoter m = "" ↔ m.readings d.quotes = []) ∧
      (∀ templates, (Constraint.check (.conditions m)).sql? d.quotes.quoter templates = none ↔
        templates.check = none ∨ m.readings d.quotes = []) ∧
      ∀ m' : Conditions, (∀ column ∈ m'.keys, column ≠ "") →
        Conditions.sql d.quotes.quoter m' = Conditions.sql d.quotes.quoter m →
        m'.readings d.quotes = m.readings d.quotes := by
  have husual := (PlainDialect.of_mem_provided hd).usual
  have hwords := TokenWords.of_mem_provided hd
  have hread := readConditions?_sql husual hwords hm
  have hblank := isBlankText_conditionsSql_iff hd hm
  refine ⟨hread, ⟨?_, conditionsSql_eq_empty _⟩, ?_, ?_⟩
  · intro hempty
    apply hblank.1
    rw [hempty]
    rfl
  · intro templates
    rw [sql?_check_eq_none_iff, ← hblank]
    rfl
  · intro m' hm' hsame
    apply Option.some_inj.1
    calc
      some (m'.readings d.quotes) =
          readConditions? d.quotes (Conditions.sql d.quotes.quoter m').toList :=
        (readConditions?_sql husual hwords hm').symm
      _ = readConditions? d.quotes (Conditions.sql d.quotes.quoter m).toList := by rw [hsame]
      _ = some (m.readings d.quotes) := hread

/-- The column and the operand hold quotes, parentheses and an `AND`; the second operator is not
known. -/
def Conditions.tricky : Conditions :=
  .ofList
    [("a AND b", .compare (.ofList [(" not like ", .text "x') AND ("), ("~", .text "y")])),
     ("c`)", .equals .null), ("d", .equals (.text " 1 "))]

/-- Columns and texts that hold the words and parentheses of clauses, and are told from them. -/
theorem Conditions.sql_reads_readings_tricky :
    readConditions? Dialect.mysql.quotes
        "(`a AND b` NOT LIKE 'x'') AND (') AND `c``)` IS NULL AND `d` = 1".toList =
      some [.compare "a AND b" "NOT LIKE" (.string "x') AND (".toList), .isNull "c`)",
        .equals "d" (.bare ['1'])] := by
  have hnamed : ∀ column ∈ Conditions.tricky.keys, column ≠ "" := by decide
  have hread := (sql_reads_readings Dialect.mysql_mem_provided hnamed).1
  have htext : Conditions.sql Dialect.mysql.quotes.quoter .tricky =
      "(`a AND b` NOT LIKE 'x'') AND (') AND `c``)` IS NULL AND `d` = 1" := by
    decide +kernel
  rw [htext] at hread
  rw [hread]
  decide +kernel

end TableDdl
