import TableDdl.Dialect.Known
import TableDdl.Proofs.Compilation
import TableDdl.Proofs.Lexical.Identifier

/-!
# Which schemas compile, and what is wrong with the others

* `Field.Fault` and `TableSchema.Fault` say what is wrong with a field and with a schema, each by
  its own rules and not by the steps of the compiler;
* `Column.ofField_withName_eq_error_iff` and `CreateTable.ofSchema_eq_error_iff` say that the
  compiler reports exactly that;
* `CreateTable.ofSchema_first_fault` adds what a schema without a fault compiles to.

Of several faults the first one is reported: the name of the table before the fields, one field
before the next, and the name of a field before its type.
-/

namespace TableDdl

variable {d : Dialect} {q : Quoter} {table : String} {s : TableSchema} {e : CompileError}

/-! ## What is wrong with a field -/

inductive Field.Fault (d : Dialect) (key : String) (f : Field) : CompileError → Prop where
  | name (empty : key = "") : Fault d key f .missingColumnName
  | type (named : key ≠ "") (unknown : f.abstractType ∉ d.types.names) :
      Fault d key f (.unknownColumnType f.abstractType)

/-- The field has a name and a type that the dialect knows. -/
def Field.IsCompilable (d : Dialect) (key : String) (f : Field) : Prop :=
  key ≠ "" ∧ f.abstractType ∈ d.types.names

/-- A type is not found if no entry has its name. -/
theorem TypeRegistry.find?_eq_none_iff {registry : TypeRegistry} {name : String} :
    registry.find? name = none ↔ name ∉ registry.names := by
  unfold TypeRegistry.find? TypeRegistry.names
  rw [List.lookup_eq_none_iff, List.mem_map]
  constructor
  · rintro h ⟨row, hrow, rfl⟩
    simpa using h row hrow
  · intro h row hrow
    rw [bne_iff_ne]
    rintro rfl
    exact h ⟨row, hrow, rfl⟩

/-- A field is refused for just the fault that it has. -/
theorem Column.ofField_withName_eq_error_iff {inlineKey : Bool} {key : String} {f : Field} :
    Column.ofField d q inlineKey (f.withName key) = .error e ↔ f.Fault d key e := by
  rw [Column.ofField_withName]
  constructor
  · intro h
    split at h
    · next hkey =>
      cases h
      exact .name hkey
    · next hkey =>
      split at h
      · next hfind =>
        cases h
        exact .type hkey (TypeRegistry.find?_eq_none_iff.1 hfind)
      · cases h
  · intro h
    cases h with
    | name empty => rw [if_pos empty]
    | type named unknown => rw [if_neg named, TypeRegistry.find?_eq_none_iff.2 unknown]

/-- A field without a fault compiles, and no other does. -/
theorem Column.exists_ofField_withName_eq_ok_iff {inlineKey : Bool} {key : String} {f : Field} :
    (∃ c, Column.ofField d q inlineKey (f.withName key) = .ok c) ↔ f.IsCompilable d key := by
  constructor
  · rintro ⟨c, hc⟩
    -- Anything that is missing would have been reported.
    refine ⟨fun hkey => ?_, by_contra fun hunknown => ?_⟩
    · rw [Column.ofField_withName_eq_error_iff.2 (.name hkey)] at hc
      cases hc
    · by_cases hkey : key = ""
      · rw [Column.ofField_withName_eq_error_iff.2 (.name hkey)] at hc
        cases hc
      · rw [Column.ofField_withName_eq_error_iff.2 (.type hkey hunknown)] at hc
        cases hc
  · rintro ⟨hkey, hknown⟩
    cases hcolumn : Column.ofField d q inlineKey (f.withName key) with
    | ok c => exact ⟨c, rfl⟩
    | error e =>
      cases Column.ofField_withName_eq_error_iff.1 hcolumn with
      | name empty => exact absurd empty hkey
      | type _ unknown => exact absurd hknown unknown

/-! ## What is wrong with a schema -/

/-- What is wrong with a schema for a table of the given name. -/
inductive TableSchema.Fault (d : Dialect) (q : Quoter) (table : String) (s : TableSchema) :
    CompileError → Prop where
  | tableName (empty : q.name table = "") : Fault d q table s .emptyTableName
  | noFields (named : q.name table ≠ "") (none : s.fields.entries = []) :
      Fault d q table s (.noFields table)
  /-- Of all fields with a fault the first one counts, whatever follows. -/
  | field {before after : List (String × Field)} {key : String} {f : Field} {e : CompileError}
      (named : q.name table ≠ "") (entries : s.fields.entries = before ++ (key, f) :: after)
      (first : ∀ entry ∈ before, entry.2.IsCompilable d entry.1) (fault : f.Fault d key e) :
      Fault d q table s e

/-- The table has a name, and there are fields, all of them with a name and a known type. -/
structure TableSchema.IsCompilable (d : Dialect) (q : Quoter) (table : String) (s : TableSchema) :
    Prop where
  named : q.name table ≠ ""
  fields_ne : s.fields.entries ≠ []
  fields : ∀ entry ∈ s.fields.entries, entry.2.IsCompilable d entry.1

/-- The fields are refused for the first fault among them. -/
theorem TableSchema.columns_eq_error_iff :
    s.columns d q = .error e ↔
      ∃ before key f after, s.fields.entries = before ++ (key, f) :: after ∧
        (∀ entry ∈ before, entry.2.IsCompilable d entry.1) ∧ f.Fault d key e := by
  unfold TableSchema.columns
  rw [mapM_eq_error_iff]
  simp only [Column.exists_ofField_withName_eq_ok_iff, Column.ofField_withName_eq_error_iff,
    Prod.exists]

/-- A schema is refused for just the fault that comes first in it. -/
theorem CreateTable.ofSchema_eq_error_iff :
    CreateTable.ofSchema d q table s = .error e ↔ s.Fault d q table e := by
  unfold CreateTable.ofSchema
  by_cases hname : q.name table = ""
  · rw [if_pos hname]
    constructor
    · intro h
      cases h
      exact .tableName hname
    · intro h
      cases h with
      | tableName => rfl
      | noFields named => exact absurd hname named
      | field named => exact absurd hname named
  · rw [if_neg hname]
    by_cases hfields : s.fields.entries = []
    · rw [if_pos (by simp [OrderedMap.isEmpty, hfields])]
      constructor
      · intro h
        cases h
        exact .noFields hname hfields
      · intro h
        cases h with
        | tableName empty => exact absurd empty hname
        | noFields => rfl
        | field _ entries => simp [entries] at hfields
    · rw [if_neg (by simpa [OrderedMap.isEmpty] using hfields)]
      -- What is left is the pass over the fields, which stops at the first fault.
      have hpass : (∃ before key f after, s.fields.entries = before ++ (key, f) :: after ∧
          (∀ entry ∈ before, entry.2.IsCompilable d entry.1) ∧ f.Fault d key e) ↔
            s.Fault d q table e := by
        constructor
        · rintro ⟨before, key, f, after, hentries, hfirst, hfault⟩
          exact .field hname hentries hfirst hfault
        · intro h
          cases h with
          | tableName empty => exact absurd empty hname
          | noFields _ none => exact absurd none hfields
          | field _ entries first fault => exact ⟨_, _, _, _, entries, first, fault⟩
      rw [← hpass, ← TableSchema.columns_eq_error_iff (q := q)]
      cases s.columns d q with
      | ok columns => simp
      | error e' => simp

/-- A schema without a fault compiles, and no other does. -/
theorem CreateTable.exists_ofSchema_eq_ok_iff :
    (∃ t, CreateTable.ofSchema d q table s = .ok t) ↔ s.IsCompilable d q table := by
  constructor
  · rintro ⟨t, ht⟩
    have hc := CreateTable.ofSchema_eq_ok_iff.1 ht
    refine ⟨hc.name_ne, hc.fields_ne, ?_⟩
    intro entry hentry
    rcases exists_of_forall₂_of_mem hc.columns.flip hentry with ⟨c, _, hcompiles⟩
    exact Column.exists_ofField_withName_eq_ok_iff.1
      ⟨c, Column.ofField_withName_eq_ok_iff.2 hcompiles⟩
  · intro h
    cases hresult : CreateTable.ofSchema d q table s with
    | ok t => exact ⟨t, rfl⟩
    | error e =>
      exfalso
      cases CreateTable.ofSchema_eq_error_iff.1 hresult with
      | tableName empty => exact h.named empty
      | noFields _ none => exact h.fields_ne none
      | @field before after key f _ _ entries _ fault =>
        have hgood := h.fields (key, f) (by simp [entries])
        cases fault with
        | name empty => exact hgood.1 empty
        | type _ unknown => exact unknown hgood.2

/-! ## The statement of a schema without a fault -/

/-- A schema compiles if nothing is wrong with it, and otherwise the first fault is reported.  Each
column of the statement comes from its own field, with its key as its name, and from nothing else
but the answer to whether the schema declares the primary key. -/
theorem CreateTable.ofSchema_first_fault (d : Dialect) (style : QuoteStyle) (table : String)
    (s : TableSchema) :
    (∀ e, CreateTable.ofSchema d style.quoter table s = .error e ↔ s.Fault d style.quoter table e) ∧
    ((∃ t, CreateTable.ofSchema d style.quoter table s = .ok t) ↔
      s.IsCompilable d style.quoter table) ∧
    ∀ t, CreateTable.ofSchema d style.quoter table s = .ok t →
      List.Forall₂
        (fun entry c =>
          Column.ofField d style.quoter (!s.declarations.hasPrimaryKey)
              (entry.2.withName entry.1) = .ok c ∧
          (s.declarations.hasPrimaryKey = false →
            (Column.ofField d style.quoter true (entry.2.withName entry.1)).map Column.sql =
              .ok c.sql))
        s.fields.entries t.columns ∧
      t.items =
        indexItems d style.quoter s.declarations.indexes
          ++ s.declarations.constraints.filterMap (Constraint.bodyItem? d style.quoter)
          ++ ((s.impliedKey? t.columns).bind (Constraint.bodyItem? d style.quoter)).toList ∧
      t.statement =
        "CREATE TABLE " ++ style.name table ++ " (\n"
          ++ ",\n".intercalate (t.columns.map Column.sql ++ t.items.map BodyItem.sql) ++ ")"
          ++ d.layout.arrange
            (d.tableAttributes.collect style.quoter s.declarations.attributes none none)
          ++ ";" := by
  refine ⟨fun e => CreateTable.ofSchema_eq_error_iff, CreateTable.exists_ofSchema_eq_ok_iff, ?_⟩
  intro t ht
  have hc := CreateTable.ofSchema_eq_ok_iff.1 ht
  refine ⟨?_, hc.items_eq, ?_⟩
  · refine hc.columns.imp fun entry c hcompiles => ?_
    have hcolumn := Column.ofField_withName_eq_ok_iff.2 hcompiles
    refine ⟨hcolumn, fun hkey => ?_⟩
    rw [hkey] at hcolumn
    rw [show Column.ofField d style.quoter true (entry.2.withName entry.1) = .ok c from hcolumn]
    rfl
  · have hcolumns : ∀ c ∈ t.columns, c.sql ≠ "" := by
      intro c hmem
      rcases exists_of_forall₂_of_mem hc.columns hmem with ⟨entry, _, type, hcompiles⟩
      refine Column.sql_ne_empty ?_
      rw [hcompiles.column_eq]
      exact mt Lexical.name_eq_empty_iff.1 hcompiles.key_ne
    unfold CreateTable.statement
    rw [CreateTable.body_eq_intercalate hc.columns_ne hcolumns, hc.name_eq, hc.attributes_eq]
    rfl

def TableSchema.tagged : TableSchema :=
  (({} : TableSchema).addField "id" (Field.ofType "integer").asPrimaryKey).addField "tag"
    (({} : Field).withDefault (.literal (.text "new")))

/-- The same fields, then one of a type that no dialect knows, and one without a name. -/
def TableSchema.twiceFaulty : TableSchema :=
  (TableSchema.tagged.addField "title" (Field.ofType "varchar(255)")).addField ""
    (Field.ofType "integer")

/-- Of two unknown types the first is named; with known types the table is compiled. -/
theorem CreateTable.ofSchema_first_fault_twiceFaulty :
    CreateTable.ofSchema Dialect.sqlite Dialect.sqlite.quotes.quoter "tags" .twiceFaulty =
        .error (.unknownColumnType "varchar(255)") ∧
      ∃ t, CreateTable.ofSchema Dialect.sqlite Dialect.sqlite.quotes.quoter "tags" .tagged = .ok t ∧
        t.statement = "CREATE TABLE \"tags\" (\n\"id\" integer PRIMARY KEY AUTOINCREMENT,\n" ++
          "\"tag\" text(255) DEFAULT 'new');" := by
  refine ⟨?_, ?_⟩
  · have hfirst : ∀ entry ∈ TableSchema.tagged.fields.entries,
        entry.2.IsCompilable Dialect.sqlite entry.1 := by
      unfold Field.IsCompilable
      decide
    have hentries : TableSchema.twiceFaulty.fields.entries = TableSchema.tagged.fields.entries ++
        ("title", Field.ofType "varchar(255)") :: [("", Field.ofType "integer")] := by decide
    have hname : Dialect.sqlite.quotes.quoter.name "tags" ≠ "" := by decide
    refine ((CreateTable.ofSchema_first_fault Dialect.sqlite Dialect.sqlite.quotes "tags"
      .twiceFaulty).1 _).2 (.field hname hentries hfirst ?_)
    exact .type (by decide) (by decide)
  · obtain ⟨t, h⟩ : ∃ t, CreateTable.ofSchema Dialect.sqlite Dialect.sqlite.quotes.quoter "tags"
        .tagged = .ok t := ⟨_, rfl⟩
    refine ⟨t, h, ?_⟩
    rw [((CreateTable.ofSchema_first_fault Dialect.sqlite Dialect.sqlite.quotes "tags"
      .tagged).2.2 t h).2.2]
    cases h
    decide

end TableDdl
