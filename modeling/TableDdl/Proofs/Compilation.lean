import TableDdl.Proofs.Text.Join
import TableDdl.Proofs.Traversal
import TableDdl.Statement.Table

/-!
# What a compiled schema consists of

`CreateTable.ofSchema` takes a few decisions in a row and may fail at each of them.  This module
says once what a success means, so that nothing else has to open the definition:

* `Column.ofField_withName` is what the compiler decides for one field;
* `Field.Compiles` is success for one field, with the column it gives;
* `CreateTable.Compiles` is success for a schema, one condition for each part of the result;
* `CreateTable.ofSchema_eq_ok_iff` says that these are what the compiler decides;
* `CreateTable.body_eq_intercalate` puts the body of the table together.
-/

namespace TableDdl

variable {d : Dialect} {q : Quoter}

/-! ## Fields -/

/-- The field under the key `key` compiles to the column `c`. -/
structure Field.Compiles (d : Dialect) (q : Quoter) (inlineKey : Bool) (key : String) (f : Field)
    (type : ColumnType) (c : Column) : Prop where
  key_ne : key ≠ ""
  known : d.types.find? f.abstractType = some type
  column_eq : c = (f.withName key).column d q key type inlineKey

/-- A field is compiled under its key: an empty one counts as none, and then the type is not looked
at. -/
theorem Column.ofField_withName (inlineKey : Bool) (key : String) (f : Field) :
    Column.ofField d q inlineKey (f.withName key) =
      if key = "" then .error .missingColumnName
      else match d.types.find? f.abstractType with
        | none => .error (.unknownColumnType f.abstractType)
        | some type => .ok ((f.withName key).column d q key type inlineKey) := by
  have htype : (f.withName key).abstractType = f.abstractType := rfl
  unfold Column.ofField
  rw [htype]
  by_cases hkey : key = ""
  · have hname : (f.withName key).name.filter (fun name => name != "") = none := by
      simp [Field.withName, hkey]
    rw [hname, if_pos hkey]
  · have hname : (f.withName key).name.filter (fun name => name != "") = some key := by
      simp [Field.withName, hkey]
    rw [if_neg hkey]
    cases d.types.find? f.abstractType <;> simp only [hname]

/-- A field compiles if its key is not empty and its type is known, and then to just one column. -/
theorem Column.ofField_withName_eq_ok_iff {inlineKey : Bool} {key : String} {f : Field}
    {c : Column} :
    Column.ofField d q inlineKey (f.withName key) = .ok c ↔
      ∃ type, f.Compiles d q inlineKey key type c := by
  rw [Column.ofField_withName]
  constructor
  · intro h
    split at h
    · cases h
    · next hkey =>
      split at h
      · cases h
      · next type hfind =>
        cases h
        exact ⟨type, hkey, hfind, rfl⟩
  · rintro ⟨type, hc⟩
    rw [if_neg hc.key_ne, hc.known, hc.column_eq]

/-- A field that is not taken out of a schema is compiled under the name it has. -/
theorem Column.ofField_eq_ok_iff {inlineKey : Bool} {f : Field} {c : Column} :
    Column.ofField d q inlineKey f = .ok c ↔
      ∃ name type, f.name = some name ∧ f.Compiles d q inlineKey name type c := by
  have hnamed : ∀ {name}, f.name = some name → f.withName name = f := by
    intro name hname
    cases f
    cases hname
    rfl
  constructor
  · intro h
    cases hname : f.name with
    | none =>
      unfold Column.ofField at h
      rw [hname] at h
      cases h
    | some name =>
      rw [← hnamed hname, Column.ofField_withName_eq_ok_iff] at h
      rcases h with ⟨type, hc⟩
      exact ⟨name, type, rfl, hc⟩
  · rintro ⟨name, type, hname, hc⟩
    rw [← hnamed hname, Column.ofField_withName_eq_ok_iff]
    exact ⟨type, hc⟩

/-! ## Texts -/

/-- The name of a column stays when the empty parts of its declaration are dropped. -/
theorem Column.filter_parts {c : Column} (h : c.name ≠ "") :
    c.parts.filter (fun part => part != "") =
      c.name :: c.parts.tail.filter fun part => part != "" := by
  have hkeep : (c.name != "") = true := by simpa using h
  exact List.filter_cons_of_pos hkeep

/-- A column with a name has a text. -/
theorem Column.sql_ne_empty {c : Column} (h : c.name ≠ "") : c.sql ≠ "" := by
  unfold Column.sql
  rw [Column.filter_parts h, Ne, ← String.toList_inj, String.toList_intercalate, List.map_cons,
    Text.intercalate_cons_eq_append_flatMap]
  simp [h]

/-- The body is one list: columns, then items. -/
theorem CreateTable.body_eq_intercalate {t : CreateTable} (hne : t.columns ≠ [])
    (hcolumns : ∀ c ∈ t.columns, c.sql ≠ "") :
    t.body = ",\n".intercalate (t.columns.map Column.sql ++ t.items.map BodyItem.sql) := by
  -- No column is empty, so none is dropped from the body.
  have hfilter : (t.columns.map Column.sql).filter (fun sql => sql != "") =
      t.columns.map Column.sql := by
    refine List.filter_eq_self.2 ?_
    intro sql hsql
    rcases List.mem_map.1 hsql with ⟨c, hc, rfl⟩
    simpa using hcolumns c hc
  rcases List.exists_cons_of_ne_nil hne with ⟨c, columns, hcons⟩
  unfold CreateTable.body
  rw [hfilter, ← String.toList_inj, String.toList_append, String.toList_intercalate,
    String.toList_intercalate, String.toList_join, hcons]
  simp [Text.intercalate_cons_eq_append_flatMap, List.flatMap_map]

/-! ## Schemas -/

/-- The schema compiles to the statements `t`: one condition for each part of them. -/
structure CreateTable.Compiles (d : Dialect) (q : Quoter) (table : String) (s : TableSchema)
    (t : CreateTable) : Prop where
  name_ne : q.name table ≠ ""
  fields_ne : s.fields.entries ≠ []
  name_eq : t.name = q.name table
  columns : List.Forall₂
    (fun entry c =>
      ∃ type, entry.2.Compiles d q (!s.declarations.hasPrimaryKey) entry.1 type c)
    s.fields.entries t.columns
  items_eq : t.items = s.items d q t.columns
  attributes_eq :
    t.attributes =
      d.layout.arrange (d.tableAttributes.collect q s.declarations.attributes none none)
  indexes_eq : t.indexes = indexStatements d q table s.declarations.indexes

/-- The columns of a schema are those of its fields, one for each and in their order. -/
theorem TableSchema.columns_eq_ok_iff {s : TableSchema} {columns : List Column} :
    s.columns d q = .ok columns ↔
      List.Forall₂
        (fun entry c =>
          ∃ type, entry.2.Compiles d q (!s.declarations.hasPrimaryKey) entry.1 type c)
        s.fields.entries columns := by
  unfold TableSchema.columns
  simp only [← Column.ofField_withName_eq_ok_iff]
  exact mapM_eq_ok_iff

/-- The compiler succeeds with just the statements whose parts are as they should be. -/
theorem CreateTable.ofSchema_eq_ok_iff {table : String} {s : TableSchema} {t : CreateTable} :
    CreateTable.ofSchema d q table s = .ok t ↔ CreateTable.Compiles d q table s t := by
  unfold CreateTable.ofSchema
  constructor
  · intro h
    -- The checks come in this order: the name, the fields, then the columns one by one.
    split at h
    · cases h
    · next hname =>
      split at h
      · cases h
      · next hfields =>
        cases hcolumns : s.columns d q with
        | error e =>
          rw [hcolumns] at h
          cases h
        | ok columns =>
          rw [hcolumns] at h
          cases h
          refine ⟨hname, ?_, rfl, TableSchema.columns_eq_ok_iff.1 hcolumns, rfl, rfl, rfl⟩
          intro hnil
          exact hfields (by simp [OrderedMap.isEmpty, hnil])
  · intro h
    have hfields : s.fields.isEmpty = false := by
      simpa [OrderedMap.isEmpty] using h.fields_ne
    have hcolumns : s.columns d q = .ok t.columns :=
      TableSchema.columns_eq_ok_iff.2 h.columns
    rw [if_neg h.name_ne, if_neg (by simp [hfields]), hcolumns]
    simp only [← h.name_eq, ← h.items_eq, ← h.attributes_eq, ← h.indexes_eq]

/-- A schema has fields, so its table has columns. -/
theorem CreateTable.Compiles.columns_ne {table : String} {s : TableSchema} {t : CreateTable}
    (h : CreateTable.Compiles d q table s t) : t.columns ≠ [] := by
  intro hnil
  have hlength := h.columns.length_eq
  rw [hnil, List.length_nil, List.length_eq_zero_iff] at hlength
  exact h.fields_ne hlength

end TableDdl
