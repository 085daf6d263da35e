import TableDdl.Proofs.Compilation
import TableDdl.Proofs.Lexical.Fragment
import TableDdl.Proofs.Lexical.Identifier

/-!
# Nothing breaks out of its place

A schema may hold any text in its names, defaults, attributes and conditions.  As long as none of
them is asked to be written as it stands, the scanner cuts the statement of the table exactly where
the compiler put the pieces together:

* `cutItems_intercalate`: closed items between commas are the items that the scanner finds;
* `CreateTable.read?_statement`: the statement of a schema, as the scanner reads it.
-/

namespace TableDdl
namespace Lexical

open Text

variable {d : Dialect} {style : QuoteStyle}

/-! ## The body -/

/-- Closed items between commas, up to the parenthesis behind them. -/
theorem cutItems_intercalate {items : List (List Char)} (hne : items ≠ [])
    (hitems : ∀ cs ∈ items, Closed style cs) (rest : List Char) :
    cutItems style .code 0 ([','].intercalate items ++ ')' :: rest) = some (items, rest) := by
  induction items with
  | nil => exact absurd rfl hne
  | cons item items ih =>
    have hitem := hitems item List.mem_cons_self 0
    -- Behind the last item comes the parenthesis, behind any other one a comma.
    cases items with
    | nil =>
      rw [List.intercalate_singleton, hitem]
      simp [cutItems, pushChars]
    | cons next items =>
      have hrest := ih (List.cons_ne_nil next items) fun cs hcs =>
        hitems cs (List.mem_cons_of_mem _ hcs)
      calc
        cutItems style .code 0 ([','].intercalate (item :: next :: items) ++ ')' :: rest)
            = (cutItems style .code 0
                (',' :: ([','].intercalate (next :: items) ++ ')' :: rest))).map
                  (pushChars item) := by
              rw [List.intercalate_cons_cons, List.append_assoc, List.append_assoc, hitem,
                List.singleton_append]
        _ = (some ([] :: next :: items, rest)).map (pushChars item) := by
              rw [cutItems, if_neg (by simp), if_pos (by simp), hrest]
              rfl
        _ = some (item :: next :: items, rest) := by
              simp [pushChars]

/-- Breaking lines behind the commas is the same as beginning each item with a line break. -/
theorem newline_cons_intercalate {items : List (List Char)} (hne : items ≠ []) :
    '\n' :: [',', '\n'].intercalate items = [','].intercalate (items.map ('\n' :: ·)) := by
  rcases List.exists_cons_of_ne_nil hne with ⟨item, others, rfl⟩
  rw [List.map_cons, intercalate_cons_eq_append_flatMap, intercalate_cons_eq_append_flatMap]
  simp [List.flatMap_map]

end Lexical

open Lexical Text

/-! ## Columns -/

/-- The declaration of a column begins with its name, and nothing continues that. -/
theorem Field.exists_column_sql_eq {d : Dialect} (hmark : d.quotes.closing ≠ ' ') (f : Field)
    {key : String} (hkey : key ≠ "") (type : ColumnType) (inlineKey : Bool) :
    ∃ rest, EndsName d.quotes rest ∧
      (f.column d d.quotes.quoter key type inlineKey).sql.toList =
        d.quotes.nameChars key.toList ++ rest := by
  have hname : (d.quotes.name key).toList = d.quotes.nameChars key.toList := by
    simp [QuoteStyle.name, hkey]
  have hne : d.quotes.name key ≠ "" := mt name_eq_empty_iff.1 hkey
  have hparts : ∃ others,
      (f.column d d.quotes.quoter key type inlineKey).parts.filter (fun part => part != "") =
        d.quotes.name key :: others := ⟨_, Column.filter_parts hne⟩
  rcases hparts with ⟨others, hothers⟩
  unfold Column.sql
  rw [hothers, String.toList_intercalate, List.map_cons, hname]
  cases others with
  | nil =>
    refine ⟨[], ?_, by simp⟩
    intro c hc
    cases hc
  | cons other others =>
    refine ⟨' ' :: " ".toList.intercalate ((other :: others).map String.toList), ?_, ?_⟩
    · intro c hc
      cases hc
      exact ⟨Ne.symm hmark, by decide⟩
    · rw [List.map_cons, List.intercalate_cons_cons]
      simp

/-! ## Statements -/

namespace CreateTable

/-- The body is its columns and items on lines of their own, with commas between them. -/
theorem newline_cons_body {t : CreateTable} (hne : t.columns ≠ [])
    (hcolumns : ∀ c ∈ t.columns, c.sql ≠ "") :
    '\n' :: t.body.toList =
      [','].intercalate
        ((t.columns.map Column.sql ++ t.items.map BodyItem.sql).map fun sql => '\n' :: sql.toList) := by
  have htexts : (t.columns.map Column.sql ++ t.items.map BodyItem.sql).map String.toList ≠ [] := by
    simp [hne]
  have hlines := newline_cons_intercalate htexts
  rw [body_eq_intercalate hne hcolumns, String.toList_intercalate]
  simpa [Function.comp_def] using hlines

/-- The statement has the body in its first parentheses. -/
theorem toList_statement (t : CreateTable) :
    t.statement.toList = ("CREATE TABLE ".toList ++ t.name.toList ++ [' ']) ++
      '(' :: ('\n' :: t.body.toList ++ ')' :: (t.attributes.toList ++ [';'])) := by
  have hopen : " (\n".toList = [' ', '(', '\n'] := rfl
  have hclose : ")".toList = [')'] := rfl
  have hend : ";".toList = [';'] := rfl
  unfold statement
  simp only [String.toList_append]
  rw [hopen, hclose, hend]
  simp only [List.append_assoc, List.cons_append, List.nil_append]

/-- The columns and items of an escaped schema are closed. -/
theorem Compiles.closed {d : Dialect} {table : String} {s : TableSchema} {t : CreateTable}
    (hd : PlainDialect d) (ht : Compiles d d.quotes.quoter table s t) (hs : s.IsEscaped d) :
    ∀ sql ∈ t.columns.map Column.sql ++ t.items.map BodyItem.sql, Closed d.quotes sql.toList := by
  intro sql hsql
  rcases List.mem_append.1 hsql with hcolumn | hitem
  · rcases List.mem_map.1 hcolumn with ⟨c, hc, rfl⟩
    rcases exists_of_forall₂_of_mem ht.columns hc with ⟨entry, hentry, type, hcompiles⟩
    have hf : (entry.2.withName entry.1).IsEscaped d :=
      ⟨(hs.fields entry hentry).nativeType_eq, (hs.fields entry hentry).defaultValue_ne,
        (hs.fields entry hentry).attributes_quoted⟩
    rw [hcompiles.column_eq]
    exact Closed.column hd hf hcompiles.known entry.1 _
  · rcases List.mem_map.1 hitem with ⟨item, hmem, rfl⟩
    rw [ht.items_eq] at hmem
    unfold TableSchema.items at hmem
    rcases List.mem_append.1 hmem with hdeclared | himplied
    · rcases List.mem_append.1 hdeclared with hindex | hconstraint
      · rcases List.mem_filterMap.1 hindex with ⟨entry, _, hentry⟩
        exact Closed.index hd hentry
      · rcases List.mem_filterMap.1 hconstraint with ⟨c, hc, hsome⟩
        exact Closed.constraint hd (hs.constraints c hc) hsome
    · -- The key that follows from the marked fields is a primary one, which has no verbatim text.
      rcases Option.bind_eq_some_iff.1 (Option.mem_toList.1 himplied) with ⟨c, hc, hsome⟩
      refine Closed.constraint hd ?_ hsome
      unfold TableSchema.impliedKey? at hc
      split at hc
      · cases hc
      · rcases Option.map_eq_some_iff.1 hc with ⟨name, _, rfl⟩
        trivial

/-- Whatever its names, defaults, attributes and conditions hold, the statement of a schema without
verbatim texts falls apart exactly into the name of the table, one item for each field with the
name of the field in front, the indexes and constraints in order, and the attributes. -/
theorem read?_statement {d : Dialect} {table : String} {s : TableSchema} {t : CreateTable}
    (hd : d ∈ Dialect.provided) (h : ofSchema d d.quotes.quoter table s = .ok t)
    (hs : s.IsEscaped d) :
    StatementText.read? d.quotes t.statement.toList =
        some
          { head := "CREATE TABLE ".toList ++ d.quotes.nameChars table.toList ++ [' ']
            items := (t.columns.map Column.sql ++ t.items.map BodyItem.sql).map
              fun sql => '\n' :: sql.toList
            tail := t.attributes.toList ++ [';'] } ∧
      readName? d.quotes (d.quotes.nameChars table.toList ++ [' ']) = some (table.toList, [' ']) ∧
      List.Forall₂
        (fun entry c => isBlankText c.sql = false ∧
          ∃ rest, readName? d.quotes c.sql.toList = some (entry.1.toList, rest))
        s.fields.entries t.columns ∧
      t.items =
        indexItems d d.quotes.quoter s.declarations.indexes
          ++ s.declarations.constraints.filterMap (Constraint.bodyItem? d d.quotes.quoter)
          ++ ((s.impliedKey? t.columns).bind (Constraint.bodyItem? d d.quotes.quoter)).toList := by
  have hplain := PlainDialect.of_mem_provided hd
  have ht := ofSchema_eq_ok_iff.1 h
  have hmark := hplain.usual.closing_ne
  have hcolumns : List.Forall₂
      (fun entry c => isBlankText c.sql = false ∧
        ∃ rest, readName? d.quotes c.sql.toList = some (entry.1.toList, rest))
      s.fields.entries t.columns := by
    refine ht.columns.imp ?_
    rintro entry c ⟨type, hc⟩
    rcases Field.exists_column_sql_eq hmark.1 (entry.2.withName entry.1) hc.key_ne type
      (!s.declarations.hasPrimaryKey) with ⟨rest, hrest, hsql⟩
    rw [← hc.column_eq] at hsql
    refine ⟨?_, rest, ?_⟩
    · rw [isBlankText, hsql, nameChars_eq_cons_nameBody, List.cons_append, List.all_cons,
        hplain.usual.opening_not_blank, Bool.false_and]
    · rw [hsql]
      exact readName?_nameChars hmark.2 hrest entry.1.toList
  have hne : t.columns ≠ [] := by
    intro hnil
    have hlength := ht.columns.length_eq
    rw [hnil, List.length_nil, List.length_eq_zero_iff] at hlength
    exact ht.fields_ne hlength
  have htexts : ∀ c ∈ t.columns, c.sql ≠ "" := by
    intro c hc hempty
    rcases exists_of_forall₂_of_mem hcolumns hc with ⟨_, _, hblank, _⟩
    rw [hempty] at hblank
    cases hblank
  have hname : t.name.toList = d.quotes.nameChars table.toList := by
    have htable : table ≠ "" := by
      rintro rfl
      exact ht.name_ne rfl
    rw [ht.name_eq]
    simp [QuoteStyle.quoter, QuoteStyle.name, htable]
  refine ⟨?_, ?_, hcolumns, ht.items_eq⟩
  · -- In front of the body nothing opens a parenthesis, and inside every item is closed.
    have hhead : Quiet d.quotes ("CREATE TABLE ".toList ++ t.name.toList ++ [' ']) := by
      have hwords : Quiet d.quotes "CREATE TABLE ".toList := Quiet.of_plain hplain.usual (by decide)
      have hblank : Quiet d.quotes [' '] := Quiet.of_plain hplain.usual (by decide)
      have htable := Quiet.name hplain.usual table
      rw [ht.name_eq]
      exact (hwords.append htable).append hblank
    have hitems : ∀ cs ∈ (t.columns.map Column.sql ++ t.items.map BodyItem.sql).map
        (fun sql => '\n' :: sql.toList), Closed d.quotes cs := by
      intro cs hcs
      rcases List.mem_map.1 hcs with ⟨sql, hsql, rfl⟩
      have hbreak : Quiet d.quotes ['\n'] := Quiet.of_plain hplain.usual (by decide)
      exact hbreak.closed.append (ht.closed hplain hs sql hsql)
    have hcut := cutItems_intercalate (by simp [hne]) hitems (t.attributes.toList ++ [';'])
    rw [toList_statement, newline_cons_body hne htexts, StatementText.read?, hhead.splitBody?, hname]
    simp only [Option.bind_eq_bind, Option.bind_some, hcut]
    rfl
  · refine readName?_nameChars hmark.2 ?_ table.toList
    intro c hc
    cases hc
    exact ⟨Ne.symm hmark.1, by decide⟩

end CreateTable

/-- Marks, commas and parentheses in every place where a schema may hold a text. -/
def TableSchema.unruly : TableSchema :=
  ((({} : TableSchema).addField "a`, (b"
    (((Field.ofType "string").withDefault (.literal (.text "'), ("))).withAttribute "comment"
      (.text "it's, (x"))).addField "n.m" (Field.ofType "integer")).addConstraint
    (.check (.conditions (OrderedMap.ofList [("c`)", .equals (.text "),'("))])))

theorem TableSchema.unruly_isEscaped : TableSchema.unruly.IsEscaped Dialect.mysql := by
  have hentries : ∀ entry ∈ TableSchema.unruly.fields.entries,
      entry.2.nativeType = none ∧ entry.2.defaultValue ∈
        [none, some (.literal (.text "'), ("))] ∧ entry.2.attributes.keys ⊆ ["comment"] := by decide
  refine ⟨?_, ?_⟩
  · intro entry hentry
    have hf := hentries entry hentry
    refine ⟨hf.1, ?_, ?_⟩
    · intro sql hsql
      rw [hsql] at hf
      simp at hf
    · intro name hname rule hrule
      have hcomment : name = "comment" := by simpa using hf.2.2 hname
      subst hcomment
      cases hrule
      rfl
  · intro c hc
    have hcheck : c = .check (.conditions (OrderedMap.ofList [("c`)", .equals (.text "),'("))])) := by
      simpa [TableSchema.unruly, TableSchema.addConstraint, TableSchema.addField] using hc
    rw [hcheck]
    trivial

/-- Names and texts that hold commas, parentheses and quotes: three items are found. -/
theorem CreateTable.read?_statement_unruly :
    ∃ t, CreateTable.ofSchema Dialect.mysql Dialect.mysql.quotes.quoter "t` (" .unruly = .ok t ∧
      (StatementText.read? Dialect.mysql.quotes t.statement.toList).map
        (fun text => text.items.length) = some 3 := by
  obtain ⟨t, h, hlength⟩ : ∃ t, CreateTable.ofSchema Dialect.mysql Dialect.mysql.quotes.quoter "t` ("
      .unruly = .ok t ∧ t.columns.length + t.items.length = 3 := ⟨_, rfl, rfl⟩
  refine ⟨t, h, ?_⟩
  rw [(CreateTable.read?_statement Dialect.mysql_mem_provided h TableSchema.unruly_isEscaped).1]
  simpa using hlength

end TableDdl
