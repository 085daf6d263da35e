import TableDdl.Proofs.Lexical.IndexName
import TableDdl.Proofs.Lexical.KeyConstraint
import TableDdl.Proofs.PrimaryKey

/-!
# Reading indexes back

Every index of a table has one text, an item of the body or a statement of its own, and the texts
stand in the order of the indexes.  Each of them can be told from its text, whatever the names hold.

* `IndexReading` is what such a text says, and `IndexReading.sql` the text;
* `IndexReading.read?` reads a text, and `IndexReading.read?_sql` says that it finds this again;
* `Index.itemReading` and `Index.statementReading` are what the index of a schema has to say in
  either place.

The index under the reserved name is the primary key.  Its text is that of a key, which has no word
for being unique.
-/

namespace TableDdl

open Lexical

inductive IndexReading where
  /-- The primary key goes by no name. -/
  | primaryKey (columns : List String)
  /-- An index inside the body of its table. -/
  | item (unique : Bool) (name : String) (columns : List String)
  /-- An index in a statement of its own. -/
  | statement (unique : Bool) (name table : String) (columns : List String)
deriving DecidableEq, Repr

namespace IndexReading

def IsNamed : IndexReading → Prop
  | primaryKey columns => AreNames columns
  | item _ name columns => name ≠ "" ∧ AreNames columns
  | statement _ name table columns => name ≠ "" ∧ table ≠ "" ∧ AreNames columns

/-! ## Writing -/

def uniqueSql (unique : Bool) : String :=
  if unique then "UNIQUE " else ""

def sql (style : QuoteStyle) : IndexReading → String
  | primaryKey columns => Key.sql style (.primary columns)
  | item unique name columns =>
      uniqueSql unique ++ ("KEY " ++ (style.quoter.name name
        ++ (" " ++ Key.namesSql style columns)))
  | statement unique name table columns =>
      "CREATE " ++ (uniqueSql unique ++ ("INDEX " ++ (style.quoter.name name
        ++ (" ON " ++ (style.quoter.name table ++ (" " ++ (Key.namesSql style columns ++ ";")))))))

/-! ## Reading -/

/-- Reads the word for a unique index, which may be missing: whether it is there, and what
follows. -/
def readUnique (cs : List Char) : Bool × List Char :=
  match cs.dropPrefix? "UNIQUE ".toList with
  | some rest => (true, rest)
  | none => (false, cs)

def readPrimaryKey? (style : QuoteStyle) (cs : List Char) : Option IndexReading :=
  match Key.readPrimary? style cs with
  | some (.primary columns) => some (.primaryKey columns)
  | _ => none

def readItem? (style : QuoteStyle) (cs : List Char) : Option IndexReading := do
  let (unique, cs) := readUnique cs
  let cs ← cs.dropPrefix? "KEY ".toList
  let (name, cs) ← readName? style cs
  let cs ← cs.dropPrefix? " ".toList
  let (columns, cs) ← readColumns? style cs
  if cs = [] then some (.item unique (String.ofList name) columns) else none

def readStatement? (style : QuoteStyle) (cs : List Char) : Option IndexReading := do
  let cs ← cs.dropPrefix? "CREATE ".toList
  let (unique, cs) := readUnique cs
  let cs ← cs.dropPrefix? "INDEX ".toList
  let (name, cs) ← readName? style cs
  let cs ← cs.dropPrefix? " ON ".toList
  let (table, cs) ← readName? style cs
  let cs ← cs.dropPrefix? " ".toList
  let (columns, cs) ← readColumns? style cs
  if cs = ";".toList then
    some (.statement unique (String.ofList name) (String.ofList table) columns)
  else none

def read? (style : QuoteStyle) (cs : List Char) : Option IndexReading :=
  readPrimaryKey? style cs <|> readItem? style cs <|> readStatement? style cs

variable {style : QuoteStyle} {name table : String} {columns : List String}

/-- The word for a unique index is read if it is there. -/
theorem readUnique_sql (unique : Bool) (word : String) (hword : word ∈ ["KEY ", "INDEX "])
    (rest : List Char) :
    readUnique ((uniqueSql unique).toList ++ (word.toList ++ rest)) =
      (unique, word.toList ++ rest) := by
  unfold readUnique uniqueSql
  cases unique with
  | true => rw [if_pos rfl, dropPrefix?_append]
  | false =>
    have hother : (word.toList ++ rest).dropPrefix? "UNIQUE ".toList = none := by
      simp only [List.mem_cons, List.not_mem_nil, or_false] at hword
      rcases hword with rfl | rfl <;> simp [List.dropPrefix?]
    rw [if_neg Bool.false_ne_true, String.toList_empty, List.nil_append, hother]

/-- A primary key reads back by its columns. -/
theorem readPrimaryKey?_sql (hstyle : Usual style) (h : AreNames columns) :
    readPrimaryKey? style (sql style (.primaryKey columns)).toList = some (.primaryKey columns) := by
  have hkey := Key.readPrimary?_sql hstyle h
  unfold readPrimaryKey? sql
  rw [hkey]

/-- An index inside the body reads back. -/
theorem readItem?_sql (hstyle : Usual style) (hname : name ≠ "") (h : AreNames columns)
    (unique : Bool) :
    readItem? style (sql style (.item unique name columns)).toList =
      some (.item unique name columns) := by
  have hunique := readUnique_sql unique "KEY " (by simp)
  have hreadName := readName?_quoter_name hstyle hname " ".toList rfl
  have hcolumns := Key.readColumns?_namesSql_end hstyle h
  unfold readItem? sql
  simp only [String.toList_append, hunique]
  simp only [Option.bind_eq_bind, Option.bind_some, dropPrefix?_append, hreadName, hcolumns, if_pos,
    String.ofList_toList]

/-- An index in a statement of its own reads back. -/
theorem readStatement?_sql (hstyle : Usual style) (hname : name ≠ "") (htable : table ≠ "")
    (h : AreNames columns) (unique : Bool) :
    readStatement? style (sql style (.statement unique name table columns)).toList =
      some (.statement unique name table columns) := by
  have hunique := readUnique_sql unique "INDEX " (by simp)
  have hreadName := readName?_quoter_name hstyle hname " ON ".toList rfl
  have hreadTable := readName?_quoter_name hstyle htable " ".toList rfl
  have hcolumns := Key.readColumns?_namesSql hstyle h ";".toList
  unfold readStatement? sql
  simp only [String.toList_append]
  simp only [Option.bind_eq_bind, Option.bind_some, dropPrefix?_append, hunique, hreadName,
    hreadTable, hcolumns, if_pos, String.ofList_toList]

/-- An index inside the body is not taken for a primary key. -/
theorem readPrimaryKey?_item (unique : Bool) (rest : List Char) :
    readPrimaryKey? style ((uniqueSql unique).toList ++ ("KEY ".toList ++ rest)) = none := by
  cases unique <;> simp [readPrimaryKey?, Key.readPrimary?, uniqueSql, List.dropPrefix?]

/-- A statement is not taken for a primary key. -/
theorem readPrimaryKey?_statement (rest : List Char) :
    readPrimaryKey? style ("CREATE ".toList ++ rest) = none := by
  simp [readPrimaryKey?, Key.readPrimary?, List.dropPrefix?]

/-- A statement is not taken for an index inside the body. -/
theorem readItem?_statement (rest : List Char) :
    readItem? style ("CREATE ".toList ++ rest) = none := by
  simp [readItem?, readUnique, List.dropPrefix?]

/-- The first word tells the three readers apart, and each of them reads its own texts. -/
theorem read?_sql (hstyle : Usual style) {reading : IndexReading} (h : reading.IsNamed) :
    read? style (reading.sql style).toList = some reading := by
  unfold read?
  cases reading with
  | primaryKey columns =>
    rw [readPrimaryKey?_sql hstyle h]
    rfl
  | item unique name columns =>
    have hprimaryKey :
        readPrimaryKey? style (sql style (.item unique name columns)).toList = none := by
      rw [sql, String.toList_append, String.toList_append, readPrimaryKey?_item]
    rw [hprimaryKey, readItem?_sql hstyle h.1 h.2]
    rfl
  | statement unique name table columns =>
    have hprimaryKey :
        readPrimaryKey? style (sql style (.statement unique name table columns)).toList = none := by
      rw [sql, String.toList_append, readPrimaryKey?_statement]
    have hitem :
        readItem? style (sql style (.statement unique name table columns)).toList = none := by
      rw [sql, String.toList_append, readItem?_statement]
    rw [hprimaryKey, hitem, readStatement?_sql hstyle h.1 h.2.1 h.2.2]
    rfl

/-- No two readings have the same text. -/
theorem sql_inj (hstyle : Usual style) {reading other : IndexReading} (h : reading.IsNamed)
    (hother : other.IsNamed) (hsame : reading.sql style = other.sql style) : reading = other := by
  apply Option.some_inj.1
  calc
    some reading = read? style (reading.sql style).toList := (read?_sql hstyle h).symm
    _ = read? style (other.sql style).toList := by rw [hsame]
    _ = some other := read?_sql hstyle hother

end IndexReading

/-! ## The indexes of a table -/

namespace Index

variable {d : Dialect} {style : QuoteStyle} {form : ConstraintTemplate} {index : Index}
  {table name : String} {withTable : Bool}

def IsNamed (index : Index) (name : String) : Prop :=
  name ≠ "" ∧ AreNames index.columns.toList

def itemReading (index : Index) (name : String) : IndexReading :=
  if name = primaryIndexName then .primaryKey index.columns.toList
  else .item index.unique name index.columns.toList

/-- What the index has to say in a statement of its own. -/
def statementReading (index : Index) (withTable : Bool) (table name : String) : IndexReading :=
  .statement index.unique (fullName withTable table name) table index.columns.toList

/-- An index with a name has a full name. -/
theorem fullName_ne_empty_of_name (hname : name ≠ "") : fullName withTable table name ≠ "" := by
  cases withTable with
  | true => exact fullName_ne_empty table name
  | false => exact hname

theorem IsNamed.itemReading (h : index.IsNamed name) : (index.itemReading name).IsNamed := by
  unfold Index.itemReading
  split
  · exact h.2
  · exact h

theorem IsNamed.statementReading (h : index.IsNamed name) (htable : table ≠ "") :
    (index.statementReading withTable table name).IsNamed :=
  ⟨fullName_ne_empty_of_name h.1, htable, h.2⟩

/-- Inside the body, the text of an index is that of what it has to say. -/
theorem bodySql_eq (index : Index) (name : String) :
    index.bodySql style.quoter name =
      (IndexReading.item index.unique name index.columns.toList).sql style := by
  simp only [bodySql, IndexReading.sql, Key.namesSql, String.append_assoc]
  rfl

/-- Where names stand in quotes, the statement of an index is the text of what it has to say. -/
theorem statementSql_eq_sql (index : Index) (withTable : Bool) (table name : String) :
    index.statementSql style.quoter withTable true table name =
      (index.statementReading withTable table name).sql style := by
  unfold statementSql
  simp only [statementReading, IndexReading.sql, Key.namesSql, String.append_assoc]
  rfl

/-- The index under the reserved name is written as a primary key. -/
theorem bodyItem?_primary (hform : d.constraints.primary = some form)
    (htemplate : form.template = Dialect.primaryTemplate) (index : Index) :
    index.bodyItem? d style.quoter primaryIndexName =
      some ⟨(index.itemReading primaryIndexName).sql style, true⟩ := by
  unfold bodyItem? itemReading
  rw [if_pos rfl, if_pos rfl, Constraint.bodyItem?_primary _ hform, keyItem, htemplate,
    Template.fill_primaryTemplate]
  rfl

/-- Inside the body, every index has an item. -/
theorem bodyItem?_of_inBody (hform : d.constraints.primary = some form)
    (htemplate : form.template = Dialect.primaryTemplate) (hplace : d.indexes = .inBody)
    (index : Index) (name : String) :
    index.bodyItem? d style.quoter name =
      some ⟨(index.itemReading name).sql style, name == primaryIndexName⟩ := by
  by_cases hname : name = primaryIndexName
  · subst hname
    rw [bodyItem?_primary hform htemplate, beq_self_eq_true]
  · have hbeq : (name == primaryIndexName) = false := by simp [hname]
    rw [hbeq, itemReading, if_neg hname, ← bodySql_eq]
    simp [bodyItem?, hname, hplace]

/-- Outside of it, only the primary key has one. -/
theorem bodyItem?_of_separate (hform : d.constraints.primary = some form)
    (htemplate : form.template = Dialect.primaryTemplate) {quoted : Bool}
    (hplace : d.indexes = .separate withTable quoted) (index : Index) (name : String) :
    index.bodyItem? d style.quoter name =
      if name == primaryIndexName then some ⟨(index.itemReading name).sql style, true⟩
      else none := by
  by_cases hname : name = primaryIndexName
  · subst hname
    rw [bodyItem?_primary hform htemplate, beq_self_eq_true, if_pos rfl]
  · simp [bodyItem?, hname, hplace]

/-- Outside the body, every index but the primary key has a statement. -/
theorem statement?_of_separate (hplace : d.indexes = .separate withTable true) (index : Index)
    (name : String) :
    index.statement? d style.quoter table name =
      if name != primaryIndexName then some ((index.statementReading withTable table name).sql style)
      else none := by
  rw [← statementSql_eq_sql]
  by_cases hname : name = primaryIndexName <;> simp [statement?, hname, hplace]

/-- The text of an item is that of what its index has to say. -/
theorem sql_of_bodyItem? (hform : d.constraints.primary = some form)
    (htemplate : form.template = Dialect.primaryTemplate) {item : BodyItem}
    (h : index.bodyItem? d style.quoter name = some item) :
    item.sql = (index.itemReading name).sql style := by
  cases hplace : d.indexes with
  | inBody =>
    rw [bodyItem?_of_inBody hform htemplate hplace] at h
    cases h
    rfl
  | separate withTable quoted =>
    rw [bodyItem?_of_separate hform htemplate hplace] at h
    split at h
    · cases h
      rfl
    · cases h

/-- The text of a statement is that of what its index has to say. -/
theorem sql_of_statement? (hplace : d.indexes = .separate withTable true) {sql : String}
    (h : index.statement? d style.quoter table name = some sql) :
    sql = (index.statementReading withTable table name).sql style := by
  rw [statement?_of_separate hplace] at h
  split at h
  · cases h
    rfl
  · cases h

/-- The statement tells its index: behind the same table, different names stay different. -/
theorem eq_of_statementReading_eq {table' name' : String} {index' : Index}
    (h : index'.statementReading withTable table' name' =
      index.statementReading withTable table name) :
    table' = table ∧ name' = name ∧ index'.unique = index.unique ∧
      index'.columns.toList = index.columns.toList := by
  unfold statementReading at h
  injection h with hunique hfull htable hcolumns
  subst htable
  refine ⟨rfl, ?_, hunique, hcolumns⟩
  cases withTable with
  | false => exact hfull
  | true =>
    -- Both names begin with the same table, so what is behind it is the same.
    have hchars := congrArg String.toList hfull
    exact String.toList_inj.1 (by simpa [fullName] using hchars)

end Index

section Indexes

variable {d : Dialect} {style : QuoteStyle} {form : ConstraintTemplate} {table : String}
  {indexes : OrderedMap Index} {withTable : Bool}

/-- Inside the body every index has an item, in order. -/
theorem indexItems_of_inBody (hform : d.constraints.primary = some form)
    (htemplate : form.template = Dialect.primaryTemplate) (hplace : d.indexes = .inBody) :
    indexItems d style.quoter indexes =
      indexes.entries.map fun entry =>
        ⟨(entry.2.itemReading entry.1).sql style, entry.1 == primaryIndexName⟩ := by
  unfold indexItems
  simp only [Index.bodyItem?_of_inBody hform htemplate hplace]
  rw [List.filterMap_eq_map']

/-- Outside of it only the primary key has one. -/
theorem indexItems_of_separate (hform : d.constraints.primary = some form)
    (htemplate : form.template = Dialect.primaryTemplate) {quoted : Bool}
    (hplace : d.indexes = .separate withTable quoted) :
    indexItems d style.quoter indexes =
      (indexes.entries.filter fun entry => entry.1 == primaryIndexName).map fun entry =>
        ⟨(entry.2.itemReading entry.1).sql style, true⟩ := by
  unfold indexItems
  simp only [Index.bodyItem?_of_separate hform htemplate hplace]
  exact filterMap_ite_some _ _ _

/-- The statements in quotes are those of what their indexes have to say. -/
theorem indexStatements_eq_map_sql (hplace : d.indexes = .separate withTable true) :
    indexStatements d style.quoter table indexes =
      (indexes.entries.filter fun entry => entry.1 != primaryIndexName).map fun entry =>
        (entry.2.statementReading withTable table entry.1).sql style := by
  rw [indexStatements_of_separate _ _ hplace]
  exact List.map_congr_left fun entry _ => entry.2.statementSql_eq_sql withTable table entry.1

end Indexes

def AreNamedIndexes (indexes : OrderedMap Index) : Prop :=
  ∀ entry ∈ indexes.entries, entry.2.IsNamed entry.1

def readIndexItems (style : QuoteStyle) (items : List BodyItem) : List (Option IndexReading) :=
  items.map fun item => IndexReading.read? style item.sql.toList

def readIndexStatements (style : QuoteStyle) (statements : List String) :
    List (Option IndexReading) :=
  statements.map fun sql => IndexReading.read? style sql.toList

/-- The texts of indexes read back one by one, and each text belongs to one index. -/
structure IndexesReadBack (d : Dialect) (style : QuoteStyle) (table : String)
    (indexes : OrderedMap Index) : Prop where
  /-- Inside the body each index has an item. -/
  items_inBody : d.indexes = .inBody →
    readIndexItems style (indexItems d style.quoter indexes) =
      indexes.entries.map fun entry => some (entry.2.itemReading entry.1)
  statements_inBody : d.indexes = .inBody → indexStatements d style.quoter table indexes = []
  /-- Outside of it each index has a statement. -/
  statements_separate : ∀ withTable, d.indexes = .separate withTable true →
    readIndexStatements style (indexStatements d style.quoter table indexes) =
      (indexes.entries.filter fun entry => entry.1 != primaryIndexName).map fun entry =>
        some (entry.2.statementReading withTable table entry.1)
  /-- Only the primary key still has an item. -/
  items_separate : ∀ withTable, d.indexes = .separate withTable true →
    readIndexItems style (indexItems d style.quoter indexes) =
      (indexes.entries.filter fun entry => entry.1 == primaryIndexName).map fun entry =>
        some (.primaryKey entry.2.columns.toList)
  item_unique : ∀ entry ∈ indexes.entries, ∀ item,
    entry.2.bodyItem? d style.quoter entry.1 = some item →
    ∀ (name : String) (index : Index), index.IsNamed name →
      index.bodyItem? d style.quoter name = some item →
      index.itemReading name = entry.2.itemReading entry.1
  statement_unique : ∀ withTable, d.indexes = .separate withTable true →
    ∀ entry ∈ indexes.entries, ∀ sql,
      entry.2.statement? d style.quoter table entry.1 = some sql →
      ∀ (other name : String) (index : Index), other ≠ "" → index.IsNamed name →
        index.statement? d style.quoter other name = some sql →
        other = table ∧ name = entry.1 ∧ index.unique = entry.2.unique ∧
          index.columns.toList = entry.2.columns.toList

/-- Under either placement, indexes with names read back from their texts, in their order; but a
primary key does not say whether its index was to be unique. -/
theorem indexesReadBack_of_usual {d : Dialect} {style : QuoteStyle} {form : ConstraintTemplate}
    {table : String} {indexes : OrderedMap Index} (hstyle : Usual style)
    (hform : d.constraints.primary = some form)
    (htemplate : form.template = Dialect.primaryTemplate) (htable : table ≠ "")
    (hnamed : AreNamedIndexes indexes) : IndexesReadBack d style table indexes where
  items_inBody := by
    intro hplace
    rw [indexItems_of_inBody hform htemplate hplace, readIndexItems, List.map_map]
    refine List.map_congr_left fun entry hentry => ?_
    exact IndexReading.read?_sql hstyle (hnamed entry hentry).itemReading
  statements_inBody := indexStatements_of_inBody style.quoter indexes
  statements_separate := by
    intro withTable hplace
    rw [indexStatements_eq_map_sql hplace, readIndexStatements, List.map_map]
    refine List.map_congr_left fun entry hentry => ?_
    have hentryNamed := hnamed entry (List.mem_filter.1 hentry).1
    exact IndexReading.read?_sql hstyle (hentryNamed.statementReading htable)
  items_separate := by
    intro withTable hplace
    rw [indexItems_of_separate hform htemplate hplace, readIndexItems, List.map_map]
    refine List.map_congr_left fun entry hentry => ?_
    rcases List.mem_filter.1 hentry with ⟨hmem, hprimary⟩
    -- What is left by the filter is the primary key.
    have hreading : entry.2.itemReading entry.1 = .primaryKey entry.2.columns.toList :=
      if_pos (eq_of_beq hprimary)
    have hread := IndexReading.read?_sql hstyle (hnamed entry hmem).itemReading
    rw [hreading] at hread
    rw [Function.comp_apply, hreading, hread]
  item_unique := by
    intro entry hentry item hitem name index hindex hother
    have htext := Index.sql_of_bodyItem? hform htemplate hitem
    have hothertext := Index.sql_of_bodyItem? hform htemplate hother
    exact IndexReading.sql_inj hstyle hindex.itemReading (hnamed entry hentry).itemReading
      (hothertext.symm.trans htext)
  statement_unique := by
    intro withTable hplace entry hentry sql hsql other name index hother hindex hsame
    have htext := Index.sql_of_statement? hplace hsql
    have hothertext := Index.sql_of_statement? hplace hsame
    have hreading : index.statementReading withTable other name =
        entry.2.statementReading withTable table entry.1 :=
      IndexReading.sql_inj hstyle (hindex.statementReading hother)
        ((hnamed entry hentry).statementReading htable) (hothertext.symm.trans htext)
    exact Index.eq_of_statementReading_eq hreading

/-- The names hold quotes, a comma, a parenthesis and a dot; the second index is the primary key. -/
def trickyIndexes : OrderedMap Index :=
  .ofList
    [("by`a", { columns := .many ["a, b)", "c\""], unique := true }),
     (primaryIndexName, { columns := .many ["id", "c\""] }),
     ("x.y ON", { columns := .one "id" })]

theorem trickyIndexes_named : AreNamedIndexes trickyIndexes := by
  have hentries : trickyIndexes.entries =
      [("by`a", ⟨.many ["a, b)", "c\""], true⟩), (primaryIndexName, ⟨.many ["id", "c\""], false⟩),
        ("x.y ON", ⟨.one "id", false⟩)] := by
    decide
  intro entry hentry
  rw [hentries] at hentry
  simp only [List.mem_cons, List.not_mem_nil, or_false] at hentry
  rcases hentry with rfl | rfl | rfl <;>
    simp [Index.IsNamed, AreNames, ColumnNames.toList, primaryIndexName]

/-- The names hold quotes, commas and dots, and all of them are found again. -/
theorem indexesReadBack_of_usual_tricky :
    readIndexItems Dialect.mysql.quotes (indexItems Dialect.mysql Dialect.mysql.quotes.quoter
        trickyIndexes) =
      [some (.item true "by`a" ["a, b)", "c\""]), some (.primaryKey ["id", "c\""]),
        some (.item false "x.y ON" ["id"])] ∧
    readIndexStatements Dialect.sqlite.quotes
        ["CREATE UNIQUE INDEX \"t\"\"_by`a\" ON \"t\"\"\" (\"a, b)\", \"c\"\"\");",
          "CREATE INDEX \"t\"\"_x\".\"y ON\" ON \"t\"\"\" (\"id\");"] =
      [some (.statement true "t\"_by`a" "t\"" ["a, b)", "c\""]),
        some (.statement false "t\"_x.y ON" "t\"" ["id"])] := by
  have hmysql : IndexesReadBack Dialect.mysql Dialect.mysql.quotes "t\"" trickyIndexes :=
    indexesReadBack_of_usual (PlainDialect.of_mem_provided Dialect.mysql_mem_provided).usual
      rfl rfl (by decide) trickyIndexes_named
  have hsqlite : IndexesReadBack Dialect.sqlite Dialect.sqlite.quotes "t\"" trickyIndexes :=
    indexesReadBack_of_usual (PlainDialect.of_mem_provided Dialect.sqlite_mem_provided).usual
      rfl rfl (by decide) trickyIndexes_named
  refine ⟨(hmysql.items_inBody rfl).trans (by decide +kernel), ?_⟩
  have htexts : indexStatements Dialect.sqlite Dialect.sqlite.quotes.quoter "t\"" trickyIndexes =
      ["CREATE UNIQUE INDEX \"t\"\"_by`a\" ON \"t\"\"\" (\"a, b)\", \"c\"\"\");",
        "CREATE INDEX \"t\"\"_x\".\"y ON\" ON \"t\"\"\" (\"id\");"] := by
    decide +kernel
  rw [← htexts]
  exact (hsqlite.statements_separate true rfl).trans (by decide +kernel)

/-- No reader can tell whether the index of a primary key was to be unique. -/
theorem primaryKey_hides_unique :
    ¬ ∃ readUnique : String → Bool, ∀ indexes : OrderedMap Index, AreNamedIndexes indexes →
      (indexItems Dialect.sqlite Dialect.sqlite.quotes.quoter indexes).map (fun item =>
          readUnique item.sql) =
        (indexes.entries.filter fun entry => entry.1 == primaryIndexName).map fun entry =>
          entry.2.unique := by
  rintro ⟨readUnique, h⟩
  have hread : ∀ unique, readUnique "PRIMARY KEY (\"id\")" = unique := by
    intro unique
    have hnamed : AreNamedIndexes (.ofList [(primaryIndexName, ⟨.one "id", unique⟩)]) := by
      intro entry hentry
      cases List.mem_singleton.1 hentry
      simp [Index.IsNamed, AreNames, ColumnNames.toList, primaryIndexName]
    -- Whatever the index says, this is its text.
    have htext : indexItems Dialect.sqlite Dialect.sqlite.quotes.quoter
        (.ofList [(primaryIndexName, ⟨.one "id", unique⟩)]) =
          [⟨"PRIMARY KEY (\"id\")", true⟩] := by
      cases unique <;> decide +kernel
    have hfound := h _ hnamed
    rw [htext] at hfound
    exact List.head_eq_of_cons_eq hfound
  exact Bool.false_ne_true ((hread false).symm.trans (hread true))

end TableDdl
