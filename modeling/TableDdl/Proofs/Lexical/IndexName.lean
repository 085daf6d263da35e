import Mathlib.Data.List.Nodup
import TableDdl.Proofs.Lexical.Reference

/-!
# Which name an index goes by

Where the names of indexes are shared by all tables of a database, the full name of an index begins
with that of its table.  An underscore stands between the two, and both may hold further ones.

* `Dialect.indexName?` reads the name of the index from its statement;
* `Index.indexName?_statementSql`: what it reads are the parts of the full name;
* `Index.Overlaps` says that another underscore may be taken for the one between table and index;
* `Index.fullName_eq_iff`: apart from that, the full name tells both table and index.

`CreateTable.indexName?_eq_iff` says which indexes of any two tables go by the same name.
-/

namespace TableDdl

open Lexical

variable {d : Dialect}

/-! ## Full names -/

/-- The name of the second table goes on behind that of the first, with the front of the name of the
first index. -/
def Index.Overlaps (table name table' name' : String) : Prop :=
  ∃ shared, table' = table ++ "_" ++ shared ∧ name = shared ++ "_" ++ name'

theorem overlaps_of_toList_eq {table name table' name' : String} {w : List Char}
    (htable : table'.toList = table.toList ++ '_' :: w)
    (hname : name.toList = w ++ '_' :: name'.toList) : Index.Overlaps table name table' name' := by
  refine ⟨String.ofList w, ?_, ?_⟩
  · rw [← String.toList_inj]
    simpa using htable
  · rw [← String.toList_inj]
    simpa using hname

/-- Where the names overlap, the full names are the same. -/
theorem fullName_eq_of_overlaps {table name table' name' : String}
    (h : Index.Overlaps table name table' name') :
    Index.fullName true table name = Index.fullName true table' name' := by
  rcases h with ⟨shared, rfl, rfl⟩
  simp only [Index.fullName, if_true, String.append_assoc]

/-- Full names are the same only of the same index or where the names overlap. -/
theorem Index.fullName_eq_iff {table name table' name' : String} :
    Index.fullName true table name = Index.fullName true table' name' ↔
      (table = table' ∧ name = name') ∨ Overlaps table name table' name' ∨
        Overlaps table' name' table name := by
  constructor
  · intro h
    have hchars : table.toList ++ '_' :: name.toList = table'.toList ++ '_' :: name'.toList := by
      have hlists := congrArg String.toList h
      simpa [Index.fullName] using hlists
    -- One table is longer by some characters, of which the first can only be the underscore.
    rcases List.append_eq_append_iff.1 hchars with ⟨more, htable, hname⟩ | ⟨more, htable, hname⟩
    · cases more with
      | nil =>
        refine .inl ⟨?_, ?_⟩
        · exact String.toList_inj.1 (by simpa using htable.symm)
        · exact String.toList_inj.1 (by simpa using hname)
      | cons c w =>
        rw [List.cons_append, List.cons.injEq] at hname
        rcases hname with ⟨rfl, hname⟩
        exact .inr (.inl (overlaps_of_toList_eq htable hname))
    · cases more with
      | nil =>
        refine .inl ⟨?_, ?_⟩
        · exact String.toList_inj.1 (by simpa using htable)
        · exact String.toList_inj.1 (by simpa using hname.symm)
      | cons c w =>
        rw [List.cons_append, List.cons.injEq] at hname
        rcases hname with ⟨rfl, hname⟩
        exact .inr (.inr (overlaps_of_toList_eq htable hname))
  · rintro (⟨rfl, rfl⟩ | h | h)
    · rfl
    · exact fullName_eq_of_overlaps h
    · exact (fullName_eq_of_overlaps h).symm

/-! ## Reading the name -/

/-- Reads the parts of the name of an index from its statement. -/
def Dialect.indexName? (d : Dialect) (sql : String) : Option (List (List Char)) :=
  (d.readIndexName? sql).map Prod.fst

/-- A name is all its parts with dots between them. -/
theorem nameParts_inj {name name' : String} : nameParts name = nameParts name' ↔ name = name' := by
  constructor
  · intro h
    have hjoined := congrArg (['.'].intercalate ·) h
    simp only [nameParts, List.intercalate_splitOn] at hjoined
    exact String.toList_inj.1 hjoined
  · rintro rfl
    rfl

/-- The name of an index is read back where it stands in quotes. -/
theorem Index.indexName?_statementSql (hd : d ∈ Dialect.provided) (index : Index)
    {withTable : Bool} {table name : String} (hname : fullName withTable table name ≠ "") :
    d.indexName? (index.statementSql d.quotes.quoter withTable true table name) =
      some (nameParts (fullName withTable table name)) := by
  have husual := (PlainDialect.of_mem_provided hd).usual
  -- What follows the name begins with a blank, which ends it.
  obtain ⟨tail, htail, hsql⟩ : ∃ tail, EndsName d.quotes tail.toList ∧
      index.statementSql d.quotes.quoter withTable true table name =
        "CREATE " ++ index.uniqueWord ++ "INDEX " ++
          (d.quotes.name (fullName withTable table name) ++ tail) := by
    refine ⟨" ON " ++ d.quotes.name table ++ " (" ++ index.columns.sql d.quotes.quoter ++ ");",
      ?_, ?_⟩
    · simp only [String.toList_append]
      exact husual.endsName (c := ' ') (by simp) _
    · unfold statementSql
      simp only [if_true, String.append_assoc]
      rfl
  rw [hsql, Dialect.indexName?, Dialect.readIndexName?_append,
    Dialect.readReference?_name hd hname htail]
  rfl

/-! ## The indexes of tables -/

/-- The names of the indexes, without the one that stands for the primary key. -/
def Declarations.indexNames (declared : Declarations) : List String :=
  declared.indexes.keys.filter fun name => name != primaryIndexName

/-- No two indexes of a table have the same name. -/
theorem Declarations.nodup_indexNames (declared : Declarations) : declared.indexNames.Nodup :=
  declared.indexes.nodup_keys.filter _

/-- There is one statement for each index, and it has the full name of the index. -/
theorem Declarations.map_indexName?_indexStatements (declared : Declarations) (table : String) :
    (indexStatements Dialect.sqlite Dialect.sqlite.quotes.quoter table declared.indexes).map
        Dialect.sqlite.indexName? =
      declared.indexNames.map fun name => some (nameParts (Index.fullName true table name)) := by
  have hplace : Dialect.sqlite.indexes = .separate true true := rfl
  unfold indexNames OrderedMap.keys
  rw [indexStatements_of_separate _ _ hplace, List.map_map, List.filter_map, List.map_map]
  refine List.map_congr_left fun entry _ => ?_
  rw [Function.comp_apply, Function.comp_apply]
  exact entry.2.indexName?_statementSql Dialect.sqlite_mem_provided
    (Index.fullName_ne_empty table entry.1)

/-- The indexes of an SQLite table go by different names, and an index goes by the name of one of
another table only if the names of the two tables and indexes overlap. -/
theorem CreateTable.indexName?_eq_iff {table table' : String} {s s' : TableSchema}
    {t t' : CreateTable}
    (h : ofSchema Dialect.sqlite Dialect.sqlite.quotes.quoter table s = .ok t)
    (h' : ofSchema Dialect.sqlite Dialect.sqlite.quotes.quoter table' s' = .ok t') :
    t.indexes.map Dialect.sqlite.indexName? =
        s.declarations.indexNames.map
          (fun name => some (nameParts (Index.fullName true table name))) ∧
      t'.indexes.map Dialect.sqlite.indexName? =
        s'.declarations.indexNames.map
          (fun name => some (nameParts (Index.fullName true table' name))) ∧
      (t.indexes.map Dialect.sqlite.indexName?).Nodup ∧
      ∀ name ∈ s.declarations.indexNames, ∀ name' ∈ s'.declarations.indexNames,
        nameParts (Index.fullName true table name) = nameParts (Index.fullName true table' name') ↔
          (table = table' ∧ name = name') ∨ Index.Overlaps table name table' name' ∨
            Index.Overlaps table' name' table name := by
  have hnames := s.declarations.map_indexName?_indexStatements table
  have hnames' := s'.declarations.map_indexName?_indexStatements table'
  rw [← (ofSchema_eq_ok_iff.1 h).indexes_eq] at hnames
  rw [← (ofSchema_eq_ok_iff.1 h').indexes_eq] at hnames'
  refine ⟨hnames, hnames', ?_, ?_⟩
  · rw [hnames]
    refine List.Nodup.map ?_ s.declarations.nodup_indexNames
    -- Behind the same table, different names stay different.
    intro name name' hsame
    have hfull := nameParts_inj.1 (Option.some.inj hsame)
    have hchars := congrArg String.toList hfull
    exact String.toList_inj.1 (by simpa [Index.fullName] using hchars)
  · intro name _ name' _
    rw [nameParts_inj, Index.fullName_eq_iff]

/-- One column and a unique index on it. -/
def TableSchema.withUniqueIndex (name : String) : TableSchema :=
  (({} : TableSchema).addField "id" (Field.ofType "integer")).addIndex name ⟨.one "id", true⟩

/-- Two tables with an index of the same name, which go by different full names. -/
theorem CreateTable.indexName?_eq_iff_apart :
    ∃ t t', ofSchema Dialect.sqlite Dialect.sqlite.quotes.quoter "user" (.withUniqueIndex "by_id") =
        .ok t ∧
      ofSchema Dialect.sqlite Dialect.sqlite.quotes.quoter "user_log" (.withUniqueIndex "by_id") =
        .ok t' ∧
      t.indexes.map Dialect.sqlite.indexName? = [some ["user_by_id".toList]] ∧
      t'.indexes.map Dialect.sqlite.indexName? = [some ["user_log_by_id".toList]] := by
  obtain ⟨t, h⟩ : ∃ t, ofSchema Dialect.sqlite Dialect.sqlite.quotes.quoter "user"
      (.withUniqueIndex "by_id") = .ok t := ⟨_, rfl⟩
  obtain ⟨t', h'⟩ : ∃ t', ofSchema Dialect.sqlite Dialect.sqlite.quotes.quoter "user_log"
      (.withUniqueIndex "by_id") = .ok t' := ⟨_, rfl⟩
  obtain ⟨hnames, hnames', _⟩ := indexName?_eq_iff h h'
  refine ⟨t, t', h, h', ?_, ?_⟩
  · rw [hnames]
    decide
  · rw [hnames']
    decide

/-- Two tables with an index each, whose names overlap: both indexes go by the same name. -/
theorem CreateTable.indexName?_shared :
    ∃ t t', ofSchema Dialect.sqlite Dialect.sqlite.quotes.quoter "user" (.withUniqueIndex "log_id") =
        .ok t ∧
      ofSchema Dialect.sqlite Dialect.sqlite.quotes.quoter "user_log" (.withUniqueIndex "id") =
        .ok t' ∧
      ("user", "log_id") ≠ ("user_log", "id") ∧
      t.indexes.map Dialect.sqlite.indexName? = [some ["user_log_id".toList]] ∧
      t'.indexes.map Dialect.sqlite.indexName? = [some ["user_log_id".toList]] := by
  refine ⟨_, _, rfl, rfl, ?_, ?_, ?_⟩ <;> decide

end TableDdl
