import TableDdl.Proofs.Lexical.Reader
import TableDdl.Proofs.Operand.Blank

/-!
# Reading keys back

A primary key, a list of unique columns and a reference to another table can be told from their
texts, whatever their names hold: commas, parentheses, quotes, and slots of a template as well.

* `Key` is what the text of such a constraint says, and `Constraint.declaredKey?` what it has to
  say;
* `Key.sql` is the text, and `Constraint.sql?_of_declaredKey?` says that every dialect writes just
  this;
* `Key.read?` reads a text, and `Key.read?_sql` says that it finds the key again.

`Constraint.read?_of_declaredKey?` puts the two together.
-/

namespace TableDdl

open Text Lexical

inductive Key where
  | primary (columns : List String)
  /-- The columns are unique; `index` is whether the keyword for an index is there. -/
  | unique (columns : List String) (index : Bool)
  /-- The columns refer to the columns `targets` of a table; `action` says what a change there
  does. -/
  | reference (columns : List String) (table : String) (targets : List String)
      (action : Option String)
deriving DecidableEq, Repr

/-- Whether the dialect has a keyword for the index of unique columns. -/
def Dialect.marksIndex (d : Dialect) : Bool :=
  (d.constraints.unique.bind ConstraintTemplate.indexKeyword).isSome

/-- The key that a constraint declares.  Without a keyword for it an index does not show. -/
def Constraint.declaredKey? (d : Dialect) : Constraint → Option Key
  | primary columns => some (.primary columns.toList)
  | foreignKey columns table targets action =>
      some (.reference columns.toList table targets.toList action)
  | unique columns index => some (.unique columns.toList (index && d.marksIndex))
  | check _ | unknown => none

namespace Key

/-- No list of names is empty, and no name is. -/
def IsNamed : Key → Prop
  | primary columns | unique columns _ => AreNames columns
  | reference columns table targets _ => AreNames columns ∧ table ≠ "" ∧ AreNames targets

/-! ## Writing -/

def namesSql (style : QuoteStyle) (names : List String) : String :=
  "(" ++ (ColumnNames.many names).sql style.quoter ++ ")"

def actionSql : Option String → String
  | none => ""
  | some action => " ON " ++ action

def sql (style : QuoteStyle) : Key → String
  | primary columns => "PRIMARY KEY " ++ namesSql style columns
  | unique columns index => "UNIQUE " ++ ((if index then "KEY " else "") ++ namesSql style columns)
  | reference columns table targets action =>
      "FOREIGN KEY " ++ (namesSql style columns ++ (" REFERENCES " ++ (style.quoter.name table
        ++ (" " ++ (namesSql style targets ++ actionSql action)))))

/-! ## Reading -/

/-- Reads what follows a reference: nothing, or an action up to the end of the text. -/
def readAction? : List Char → Option (Option String)
  | [] => some none
  | c :: cs => ((c :: cs).dropPrefix? " ON ".toList).map fun action => some (String.ofList action)

def readPrimary? (style : QuoteStyle) (cs : List Char) : Option Key := do
  let cs ← cs.dropPrefix? "PRIMARY KEY ".toList
  let (columns, cs) ← readColumns? style cs
  if cs = [] then some (.primary columns) else none

def readUnique? (style : QuoteStyle) (cs : List Char) : Option Key := do
  let cs ← cs.dropPrefix? "UNIQUE ".toList
  let behindKeyword? := cs.dropPrefix? "KEY ".toList
  let (columns, cs) ← readColumns? style (behindKeyword?.getD cs)
  if cs = [] then some (.unique columns behindKeyword?.isSome) else none

def readReference? (style : QuoteStyle) (cs : List Char) : Option Key := do
  let cs ← cs.dropPrefix? "FOREIGN KEY ".toList
  let (columns, cs) ← readColumns? style cs
  let cs ← cs.dropPrefix? " REFERENCES ".toList
  let (table, cs) ← readName? style cs
  let cs ← cs.dropPrefix? " ".toList
  let (targets, cs) ← readColumns? style cs
  let action ← readAction? cs
  return .reference columns (String.ofList table) targets action

def read? (style : QuoteStyle) (cs : List Char) : Option Key :=
  readPrimary? style cs <|> readUnique? style cs <|> readReference? style cs

variable {style : QuoteStyle} {columns targets : List String} {table : String}

/-- Names in parentheses read back, whatever follows. -/
theorem readColumns?_namesSql (hstyle : Usual style) (h : AreNames columns) (rest : List Char) :
    readColumns? style ((namesSql style columns).toList ++ rest) = some (columns, rest) := by
  have hnames : AreNames (ColumnNames.many columns).toList := h
  have hread := readColumns?_sql hstyle hnames rest
  unfold namesSql
  rw [String.toList_append, String.toList_append, List.append_assoc, List.append_assoc]
  exact hread

theorem readColumns?_namesSql_end (hstyle : Usual style) (h : AreNames columns) :
    readColumns? style (namesSql style columns).toList = some (columns, []) := by
  have hread := readColumns?_namesSql hstyle h []
  rwa [List.append_nil] at hread

/-- The action of a reference reads back from the end of the text. -/
theorem readAction?_actionSql (action : Option String) :
    readAction? (actionSql action).toList = some action := by
  cases action with
  | none => rfl
  | some action =>
    have hword := dropPrefix?_append " ON ".toList action.toList
    have htext : (actionSql (some action)).toList = " ON ".toList ++ action.toList :=
      String.toList_append
    rw [htext]
    exact (congrArg (Option.map _) hword).trans (by simp)

/-- A primary key reads back. -/
theorem readPrimary?_sql (hstyle : Usual style) (h : AreNames columns) :
    readPrimary? style (sql style (.primary columns)).toList = some (.primary columns) := by
  have hcolumns := readColumns?_namesSql_end hstyle h
  unfold readPrimary? sql
  rw [String.toList_append, dropPrefix?_append]
  simp only [Option.bind_eq_bind, Option.bind_some, hcolumns, if_pos]

/-- Unique columns read back, with the keyword for an index or without. -/
theorem readUnique?_sql (hstyle : Usual style) (h : AreNames columns) (index : Bool) :
    readUnique? style (sql style (.unique columns index)).toList =
      some (.unique columns index) := by
  have hcolumns := readColumns?_namesSql_end hstyle h
  have hkeyword : (namesSql style columns).toList.dropPrefix? "KEY ".toList = none := by
    simp [namesSql, List.dropPrefix?]
  cases index with
  | false =>
    have htext : (sql style (.unique columns false)).toList =
        "UNIQUE ".toList ++ (namesSql style columns).toList := by
      rw [sql, if_neg Bool.false_ne_true, String.empty_append, String.toList_append]
    rw [htext, readUnique?, dropPrefix?_append]
    simp only [Option.bind_eq_bind, Option.bind_some, hkeyword, Option.getD_none, hcolumns, if_pos,
      Option.isSome_none]
  | true =>
    have htext : (sql style (.unique columns true)).toList =
        "UNIQUE ".toList ++ ("KEY ".toList ++ (namesSql style columns).toList) := by
      rw [sql, if_pos rfl, String.toList_append, String.toList_append]
    rw [htext, readUnique?, dropPrefix?_append]
    simp only [Option.bind_eq_bind, Option.bind_some, dropPrefix?_append, Option.getD_some,
      hcolumns, if_pos, Option.isSome_some]

/-- A reference to another table reads back. -/
theorem readReference?_sql (hstyle : Usual style) (hcolumns : AreNames columns)
    (htable : table ≠ "") (htargets : AreNames targets) (action : Option String) :
    readReference? style (sql style (.reference columns table targets action)).toList =
      some (.reference columns table targets action) := by
  have hreadColumns := readColumns?_namesSql hstyle hcolumns
  have hreadTargets := readColumns?_namesSql hstyle htargets (actionSql action).toList
  have hreadAction := readAction?_actionSql action
  have hreadTable := readName?_quoter_name hstyle htable " ".toList rfl
  unfold readReference? sql
  simp only [String.toList_append]
  simp only [Option.bind_eq_bind, Option.bind_some, dropPrefix?_append, hreadColumns, hreadTable,
    hreadTargets, hreadAction, String.ofList_toList]
  rfl

/-- The first word tells the three readers apart, and each of them reads its own texts. -/
theorem read?_sql (hstyle : Usual style) {k : Key} (h : k.IsNamed) :
    read? style (k.sql style).toList = some k := by
  unfold read?
  cases k with
  | primary columns =>
    rw [readPrimary?_sql hstyle h]
    rfl
  | unique columns index =>
    have hother : readPrimary? style (sql style (.unique columns index)).toList = none := by
      simp [readPrimary?, sql, List.dropPrefix?]
    rw [hother, readUnique?_sql hstyle h]
    rfl
  | reference columns table targets action =>
    rcases h with ⟨hcolumns, htable, htargets⟩
    have hothers :
        readPrimary? style (sql style (.reference columns table targets action)).toList = none ∧
        readUnique? style (sql style (.reference columns table targets action)).toList = none := by
      simp [readPrimary?, readUnique?, sql, List.dropPrefix?]
    rw [hothers.1, hothers.2, readReference?_sql hstyle hcolumns htable htargets]
    rfl

end Key

/-! ## The templates of keys -/

namespace Template

variable {values : Values} {column table targets : String}

@[simp] theorem fillWord_plainWord (s : String) : fillWord values (Dialect.plainWord s) = s := by
  simp [fillWord, Dialect.plainWord, fillPiece]

@[simp] theorem fillWord_slotWord (before name after : String) :
    fillWord values (Dialect.slotWord before name after) =
      before ++ ((values.lookup name).getD "" ++ after) := by
  simp [fillWord, Dialect.slotWord, fillPiece]

@[simp] theorem fillWord_slot (name : String) :
    fillWord values [.slot name] = (values.lookup name).getD "" := by
  simp [fillWord, fillPiece]

/-- What stands in parentheses is never dropped. -/
theorem isBlankText_parens (s : String) : isBlankText ("(" ++ (s ++ ")")) = false := by
  have hink : HasInk ("(" ++ (s ++ ")")).toList := ⟨'(', by simp, rfl⟩
  exact isBlankText_eq_false_iff.2 hink

/-- The words of the templates are never dropped. -/
theorem isBlankText_keyWords :
    isBlankText "PRIMARY" = false ∧ isBlankText "KEY" = false ∧ isBlankText "FOREIGN" = false ∧
      isBlankText "REFERENCES" = false ∧ isBlankText "UNIQUE" = false := by
  decide

theorem fill_primaryTemplate :
    Dialect.primaryTemplate.fill [("column", column)] =
      "PRIMARY KEY " ++ ("(" ++ column ++ ")") := by
  rw [← String.toList_inj]
  simp [Dialect.primaryTemplate, fill, isBlankText_keyWords, isBlankText_parens]

theorem fill_uniqueTemplate (index : String) :
    Dialect.uniqueTemplate.fill [("column", column), ("index", index)] =
      "UNIQUE " ++ ("" ++ ("(" ++ column ++ ")")) := by
  rw [← String.toList_inj]
  simp [Dialect.uniqueTemplate, fill, isBlankText_keyWords, isBlankText_parens]

/-- The text of unique columns with the keyword for an index, if there is one. -/
theorem fill_uniqueIndexTemplate (index : String) :
    Dialect.uniqueIndexTemplate.fill [("column", column), ("index", index)] =
      "UNIQUE "
        ++ ((if isBlankText index then "" else index ++ " ") ++ ("(" ++ column ++ ")")) := by
  rw [← String.toList_inj]
  cases hindex : isBlankText index <;>
    simp [Dialect.uniqueIndexTemplate, fill, isBlankText_keyWords, isBlankText_parens,
      List.lookup_cons, hindex]

/-- The text of a reference with its action, if there is one. -/
theorem fill_foreignKeyTemplate (htable : isBlankText table = false) (action : Option String) :
    Dialect.foreignKeyTemplate.fill
        [("column", column), ("to", table), ("toColumn", targets),
          ("on", (action.map fun sql => "ON " ++ sql).getD "")] =
      "FOREIGN KEY " ++ ("(" ++ column ++ ")" ++ (" REFERENCES " ++ (table
        ++ (" " ++ ("(" ++ targets ++ ")" ++ Key.actionSql action))))) := by
  have hempty : isBlankText "" = true := rfl
  have haction : ∀ sql, isBlankText ("ON " ++ sql) = false := by
    intro sql
    have hink : HasInk ("ON " ++ sql).toList := ⟨'O', by simp, rfl⟩
    exact isBlankText_eq_false_iff.2 hink
  rw [← String.toList_inj]
  cases action <;>
    simp [Dialect.foreignKeyTemplate, fill, isBlankText_keyWords, isBlankText_parens,
      List.lookup_cons, htable, hempty, haction, Key.actionSql]

end Template

/-! ## The keys of a dialect -/

variable {d : Dialect} {c : Constraint} {k : Key}

/-- A constraint with a template and values has the filled template for its text. -/
theorem Constraint.sql?_eq_some {q : Quoter} {templates : ConstraintTemplates}
    {form : ConstraintTemplate} {values : Template.Values} (hform : templates.find? c = some form)
    (hvalues : c.values? q form.indexKeyword = some values) :
    c.sql? q templates = some (form.template.fill values) := by
  unfold sql?
  rw [hform, Option.bind_eq_bind, Option.bind_some, hvalues]
  rfl

/-- Every dialect writes a key by the same rule. -/
theorem Constraint.sql?_of_declaredKey? (hd : d ∈ Dialect.provided) (hk : c.declaredKey? d = some k)
    (h : k.IsNamed) : c.sql? d.quotes.quoter d.constraints = some (k.sql d.quotes) := by
  cases c with
  | primary columns =>
    cases hk
    have hform : d.constraints.find? (.primary columns) = _ := Dialect.primary_eq_of_mem_provided hd
    rw [sql?_eq_some hform rfl, Template.fill_primaryTemplate]
    rfl
  | foreignKey columns table targets action =>
    cases hk
    have hform : d.constraints.find? (.foreignKey columns table targets action) = _ :=
      Dialect.foreignKey_eq_of_mem_provided hd
    have htable : isBlankText (d.quotes.quoter.name table) = false :=
      isBlankText_eq_false_iff.2 (.name hd h.2.1)
    rw [sql?_eq_some hform rfl, Template.fill_foreignKeyTemplate htable]
    rfl
  | unique columns index =>
    cases hk
    -- Only one dialect has the keyword, and only two have a place for it.
    rcases Dialect.mem_provided_iff.1 hd with rfl | rfl | rfl
    · rw [sql?_eq_some rfl rfl, Template.fill_uniqueIndexTemplate]
      cases index <;> rfl
    · rw [sql?_eq_some rfl rfl, Template.fill_uniqueTemplate]
      cases index <;> rfl
    · rw [sql?_eq_some rfl rfl, Template.fill_uniqueIndexTemplate]
      cases index <;> rfl
  | check expression => cases hk
  | unknown => cases hk

/-- A key over columns with names has a text, which reads back as the key, and no other key has this
text. -/
theorem Constraint.read?_of_declaredKey? (hd : d ∈ Dialect.provided)
    (hk : c.declaredKey? d = some k) (h : k.IsNamed) :
    ∃ sql, c.sql? d.quotes.quoter d.constraints = some sql ∧
      Key.read? d.quotes sql.toList = some k ∧
      ∀ (c' : Constraint) (k' : Key), c'.declaredKey? d = some k' → k'.IsNamed →
        c'.sql? d.quotes.quoter d.constraints = some sql → k' = k := by
  have husual := (PlainDialect.of_mem_provided hd).usual
  have hread := Key.read?_sql husual h
  refine ⟨k.sql d.quotes, sql?_of_declaredKey? hd hk h, hread, ?_⟩
  intro c' k' hk' h' hsame
  have hsql : k'.sql d.quotes = k.sql d.quotes :=
    Option.some_inj.1 ((sql?_of_declaredKey? hd hk' h').symm.trans hsame)
  apply Option.some_inj.1
  calc
    some k' = Key.read? d.quotes (k'.sql d.quotes).toList := (Key.read?_sql husual h').symm
    _ = Key.read? d.quotes (k.sql d.quotes).toList := by rw [hsql]
    _ = some k := hread

/-- The names hold a comma, parentheses, quotes and a slot, and the action is a parenthesis. -/
theorem Constraint.read?_of_declaredKey?_tricky :
    Key.read? Dialect.postgres.quotes
        "FOREIGN KEY (\"a, b)\", \"\x7bto\x7d\") REFERENCES \"t\"\"\" (\"id\") ON (".toList =
      some (.reference ["a, b)", "\x7bto\x7d"] "t\"" ["id"] (some "(")) ∧
    Key.read? Dialect.mysql.quotes "UNIQUE KEY (`a``, b`)".toList =
      some (.unique ["a`, b"] true) := by
  refine ⟨?_, ?_⟩
  · obtain ⟨sql, hsql, hread, _⟩ := read?_of_declaredKey? Dialect.postgres_mem_provided
      (c := .foreignKey (.many ["a, b)", "\x7bto\x7d"]) "t\"" (.one "id") (some "("))
      rfl (by simp [Key.IsNamed, AreNames, ColumnNames.toList])
    have htext : some sql = some
        "FOREIGN KEY (\"a, b)\", \"\x7bto\x7d\") REFERENCES \"t\"\"\" (\"id\") ON (" := by
      rw [← hsql]
      decide +kernel
    rwa [Option.some_inj.1 htext] at hread
  · obtain ⟨sql, hsql, hread, _⟩ := read?_of_declaredKey? Dialect.mysql_mem_provided
      (c := .unique (.one "a`, b") true)
      rfl (by simp [Key.IsNamed, AreNames, ColumnNames.toList])
    have htext : some sql = some "UNIQUE KEY (`a``, b`)" := by
      rw [← hsql]
      decide +kernel
    rwa [Option.some_inj.1 htext] at hread

end TableDdl
