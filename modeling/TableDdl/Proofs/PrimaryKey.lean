import TableDdl.Proofs.Compilation
import TableDdl.Proofs.Lexical.KeyConstraint
import TableDdl.Proofs.Template

/-!
# Who declares the primary key

A primary key may be declared by the reserved index, by constraints, by the clause of a column, or
by an item that follows from the last marked field.

* `Declarations.explicitKeys` are the keys that the schema itself asks for;
* `CreateTable.keyItems` are the items of the body that declare a key;
* `BodyItem.IsKeyOf` says what the text of such an item is: the template of the dialect with the
  names of the columns put in.

`CreateTable.keyItems_ofSchema` says which items declare a key, what their texts are and where in
the body they stand.  Nothing keeps a schema from asking for two keys: every index and constraint is
written as it stands.
-/

namespace TableDdl

/-! ## Keys that the schema asks for -/

/-- The columns of a constraint that declares a primary key. -/
def Constraint.key? : Constraint → Option ColumnNames
  | primary columns => some columns
  | _ => none

/-- The columns of the primary keys that the schema asks for: that of the reserved index, and those
of the constraints. -/
def Declarations.explicitKeys (d : Declarations) : List ColumnNames :=
  ((d.indexes.get? primaryIndexName).map Index.columns).toList
    ++ d.constraints.filterMap Constraint.key?

theorem Constraint.isPrimary_eq_isSome_key? (c : Constraint) : c.isPrimary = c.key?.isSome := by
  cases c <;> rfl

theorem OrderedMap.contains_eq_isSome_get? {α : Type} (m : OrderedMap α) (key : String) :
    m.contains key = (m.get? key).isSome := by
  unfold OrderedMap.contains OrderedMap.keys OrderedMap.get?
  induction m.entries with
  | nil => rfl
  | cons entry rest ih =>
    rcases entry with ⟨name, value⟩
    by_cases h : key = name
    · simp [h]
    · have hbeq : (key == name) = false := by simp [h]
      simp only [List.map_cons, List.contains_cons, List.lookup_cons, hbeq, Bool.false_or]
      exact ih

/-- The compiler takes the schema to ask for a key if there is one that it asks for. -/
theorem Declarations.hasPrimaryKey_eq_false_iff {d : Declarations} :
    d.hasPrimaryKey = false ↔ d.explicitKeys = [] := by
  unfold Declarations.hasPrimaryKey Declarations.explicitKeys
  rw [OrderedMap.contains_eq_isSome_get?]
  cases h : d.indexes.get? primaryIndexName with
  | none => simp [Constraint.isPrimary_eq_isSome_key?]
  | some index => simp

theorem Declarations.hasPrimaryKey_eq_true_iff {d : Declarations} :
    d.hasPrimaryKey = true ↔ d.explicitKeys ≠ [] := by
  rw [Ne, ← Declarations.hasPrimaryKey_eq_false_iff, Bool.not_eq_false]

/-! ## Items that declare a key -/

/-- The item of the body that declares some columns as the primary key. -/
def keyItem (q : Quoter) (form : ConstraintTemplate) (columns : ColumnNames) : BodyItem :=
  ⟨form.template.fill [("column", columns.sql q)], true⟩

def CreateTable.keyItems (t : CreateTable) : List BodyItem :=
  t.items.filter BodyItem.declaresKey

/-- The text that the usual template has for a primary key. -/
def primaryKeySql (q : Quoter) (names : List String) : String :=
  "PRIMARY KEY (" ++ ", ".intercalate (names.map q.name) ++ ")"

/-- The item makes the columns of these names the primary key: its text is that of the template,
with the quoted names in order in the place for the columns. -/
structure BodyItem.IsKeyOf (q : Quoter) (template : Template) (names : List String)
    (item : BodyItem) : Prop where
  declaresKey : item.declaresKey = true
  rendered : template.Renders [("column", ", ".intercalate (names.map q.name))] item.sql
  usual : template = .ofText "PRIMARY KEY (\x7bcolumn\x7d)" → item.sql = primaryKeySql q names

variable {d : Dialect} {q : Quoter} {form : ConstraintTemplate}

/-- The usual template is the one that the provided dialects have. -/
theorem ofText_primaryTemplate :
    Template.ofText "PRIMARY KEY (\x7bcolumn\x7d)" = Dialect.primaryTemplate := by
  decide +kernel

/-- The item that the compiler writes for a key has the text of one. -/
theorem isKeyOf_keyItem (q : Quoter) (form : ConstraintTemplate) (columns : ColumnNames) :
    (keyItem q form columns).IsKeyOf q form.template columns.toList where
  declaresKey := rfl
  rendered := Template.renders_iff.2 rfl
  usual := by
    intro htemplate
    have hopening : "PRIMARY KEY (" = "PRIMARY KEY " ++ "(" := by decide
    calc
      (keyItem q form columns).sql
          = "PRIMARY KEY " ++ ("(" ++ columns.sql q ++ ")") := by
            rw [keyItem, htemplate, ofText_primaryTemplate, Template.fill_primaryTemplate]
      _ = primaryKeySql q columns.toList := by
            rw [primaryKeySql, hopening, String.append_assoc, String.append_assoc]
            rfl

/-- A constraint that declares a key always has an item. -/
theorem Constraint.bodyItem?_primary (q : Quoter) (hform : d.constraints.primary = some form)
    (columns : ColumnNames) :
    (Constraint.primary columns).bodyItem? d q = some (keyItem q form columns) := by
  simp [Constraint.bodyItem?, Constraint.sql?, ConstraintTemplates.find?, Constraint.values?,
    hform, keyItem, Constraint.isPrimary]

/-- Only such a constraint has an item that declares a key. -/
theorem Constraint.filter_bodyItem? (q : Quoter) (hform : d.constraints.primary = some form)
    (c : Constraint) :
    (c.bodyItem? d q).filter BodyItem.declaresKey = c.key?.map (keyItem q form) := by
  cases hkey : c.key? with
  | some columns =>
    -- Only one kind of constraint has a key.
    have hc : c = .primary columns := by
      cases c <;> simp_all [Constraint.key?]
    rw [hc, Constraint.bodyItem?_primary q hform]
    rfl
  | none =>
    have hnot : c.isPrimary = false := by
      rw [Constraint.isPrimary_eq_isSome_key?, hkey]
      rfl
    -- The item may be missing, but if it is there it carries the answer for the constraint.
    unfold Constraint.bodyItem?
    cases c.sql? q d.constraints with
    | none => rfl
    | some sql => simp [hnot]

/-- The constraints declare their keys in order. -/
theorem Constraint.filter_filterMap_bodyItem? (hform : d.constraints.primary = some form)
    (constraints : List Constraint) :
    (constraints.filterMap (Constraint.bodyItem? d q)).filter BodyItem.declaresKey =
      (constraints.filterMap Constraint.key?).map (keyItem q form) := by
  rw [List.filter_filterMap, List.map_filterMap]
  exact congrArg (fun f => constraints.filterMap f)
    (funext fun c => Constraint.filter_bodyItem? q hform c)

/-- An index has an item that declares a key only under the reserved name. -/
theorem Index.filter_bodyItem? (hform : d.constraints.primary = some form) (name : String)
    (index : Index) :
    (index.bodyItem? d q name).filter BodyItem.declaresKey =
      if name = primaryIndexName then some (keyItem q form index.columns) else none := by
  unfold Index.bodyItem?
  by_cases h : name = primaryIndexName
  · rw [if_pos h, if_pos h, Constraint.bodyItem?_primary q hform]
    rfl
  · -- Any other index is written inside the body or not at all, and never as a key.
    rw [if_neg h, if_neg h]
    cases d.indexes <;> rfl

/-- Of the indexes only the reserved one declares a key. -/
theorem filter_indexItems (hform : d.constraints.primary = some form)
    (indexes : OrderedMap Index) :
    (indexItems d q indexes).filter BodyItem.declaresKey =
      ((indexes.get? primaryIndexName).map Index.columns).toList.map (keyItem q form) := by
  unfold indexItems
  rw [List.filter_filterMap]
  simp only [Index.filter_bodyItem? hform]
  unfold OrderedMap.get?
  have hnodup := indexes.nodup_keys
  revert hnodup
  -- The keys are pairwise different, so at most one entry has the reserved name.
  induction indexes.entries with
  | nil => intro _; rfl
  | cons entry rest ih =>
    rcases entry with ⟨name, index⟩
    intro hnodup
    rw [List.map_cons, List.nodup_cons] at hnodup
    by_cases h : name = primaryIndexName
    · -- The rest of the entries has other names, so it adds nothing.
      have hrest : rest.filterMap (fun entry =>
          if entry.1 = primaryIndexName then some (keyItem q form entry.2.columns) else none)
            = [] := by
        rw [List.filterMap_eq_nil_iff]
        intro entry hmem
        rw [if_neg]
        intro hname
        exact hnodup.1 (List.mem_map.2 ⟨entry, hmem, hname.trans h.symm⟩)
      have hbeq : (primaryIndexName == name) = true := by simp [h]
      simp [h, hrest]
    · have hbeq : (primaryIndexName == name) = false := by simp [Ne.symm h]
      simp only [List.filterMap_cons, h, if_false, List.lookup_cons, hbeq]
      exact ih hnodup.2

/-! ## The key that follows from the fields -/

/-- A column declares a key if it counts up by itself, is allowed to, and its clause does so. -/
theorem Field.Compiles.declaresKey_eq {inlineKey : Bool} {key : String} {f : Field}
    {type : ColumnType} {c : Column} (h : f.Compiles d q inlineKey key type c) :
    c.declaresKey = (f.increments d type && inlineKey && d.types.keyRule.declaresKey) := by
  have hc : c.declaresKey =
      (f.increments d type && (inlineKey || !d.types.keyRule.declaresKey)
        && d.types.keyRule.declaresKey) := by
    rw [h.column_eq]
    rfl
  -- Where the clause declares no key both sides are false, whatever the compiler was asked for.
  rw [hc]
  cases f.increments d type <;> cases inlineKey <;> cases d.types.keyRule.declaresKey <;> rfl

/-- A key that the schema asks for keeps the columns from declaring another. -/
theorem CreateTable.Compiles.no_column_declares {table : String} {s : TableSchema}
    {t : CreateTable} (h : CreateTable.Compiles d q table s t)
    (hexplicit : s.declarations.explicitKeys ≠ []) : ∀ c ∈ t.columns, c.declaresKey = false := by
  intro c hc
  have hkey : s.declarations.hasPrimaryKey = true :=
    Declarations.hasPrimaryKey_eq_true_iff.2 hexplicit
  rcases exists_of_forall₂_of_mem h.columns hc with ⟨entry, _, type, hcompiles⟩
  rw [hcompiles.declaresKey_eq, hkey]
  simp

/-- The last marked field is the one behind which none is marked. -/
theorem TableSchema.lastMarked?_eq_some {s : TableSchema} {before after : List (String × Field)}
    {name : String} {f : Field} (hentries : s.fields.entries = before ++ (name, f) :: after)
    (hf : f.isPrimary = true) (hafter : ∀ entry ∈ after, entry.2.isPrimary = false) :
    s.lastMarked? = some name := by
  have hnone : after.filter (fun entry => entry.2.isPrimary) = [] := by
    rw [List.filter_eq_nil_iff]
    intro entry hmem
    simp [hafter entry hmem]
  simp [TableSchema.lastMarked?, hentries, hf, hnone]

/-- Without a marked field there is no last one. -/
theorem TableSchema.lastMarked?_eq_none {s : TableSchema}
    (h : ∀ entry ∈ s.fields.entries, entry.2.isPrimary = false) : s.lastMarked? = none := by
  have hnone : s.fields.entries.filter (fun entry => entry.2.isPrimary) = [] := by
    rw [List.filter_eq_nil_iff]
    intro entry hmem
    simp [h entry hmem]
  simp [TableSchema.lastMarked?, hnone]

/-- Nothing follows from the fields if the schema asks for a key. -/
theorem TableSchema.impliedKey?_of_explicit (s : TableSchema) (columns : List Column)
    (h : s.declarations.explicitKeys ≠ []) : s.impliedKey? columns = none := by
  simp [TableSchema.impliedKey?, Declarations.hasPrimaryKey_eq_true_iff.2 h]

theorem TableSchema.impliedKey?_of_declares (s : TableSchema) {columns : List Column}
    (h : ∃ c ∈ columns, c.declaresKey = true) : s.impliedKey? columns = none := by
  have hany : columns.any Column.declaresKey = true := List.any_eq_true.2 h
  simp [TableSchema.impliedKey?, hany]

/-- In all other cases the last marked field is the key. -/
theorem TableSchema.impliedKey?_of_none {s : TableSchema} {columns : List Column}
    (hexplicit : s.declarations.explicitKeys = [])
    (hnone : ∀ c ∈ columns, c.declaresKey = false) :
    s.impliedKey? columns = s.lastMarked?.map fun name => .primary (.one name) := by
  have hany : columns.any Column.declaresKey = false := by
    rw [List.any_eq_false]
    intro c hc
    simp [hnone c hc]
  simp [TableSchema.impliedKey?, Declarations.hasPrimaryKey_eq_false_iff.2 hexplicit, hany]

/-- The columns of the key that follows from the fields, if there is one. -/
def TableSchema.impliedColumns (s : TableSchema) (columns : List Column) : List ColumnNames :=
  ((s.impliedKey? columns).bind Constraint.key?).toList

/-- The keys of the body are those that the schema asks for, then the one that follows. -/
theorem TableSchema.filter_items (hform : d.constraints.primary = some form) (s : TableSchema)
    (columns : List Column) :
    (s.items d q columns).filter BodyItem.declaresKey =
      (s.declarations.explicitKeys ++ s.impliedColumns columns).map (keyItem q form) := by
  have himplied :
      (((s.impliedKey? columns).bind (Constraint.bodyItem? d q)).toList).filter
          BodyItem.declaresKey =
        (s.impliedColumns columns).map (keyItem q form) := by
    unfold TableSchema.impliedColumns
    cases s.impliedKey? columns with
    | none => rfl
    | some c =>
      simpa [Option.toList_filter, Option.toList_map] using
        congrArg Option.toList (Constraint.filter_bodyItem? q hform c)
  unfold TableSchema.items Declarations.explicitKeys
  simp only [List.filter_append, List.map_append, filter_indexItems hform,
    Constraint.filter_filterMap_bodyItem? hform, himplied]

/-- The items that declare a key are those asked for, then the one that follows from the fields. -/
theorem CreateTable.Compiles.keyItems_eq {table : String} {s : TableSchema} {t : CreateTable}
    (hform : d.constraints.primary = some form) (h : CreateTable.Compiles d q table s t) :
    t.keyItems =
      (s.declarations.explicitKeys ++ s.impliedColumns t.columns).map (keyItem q form) := by
  unfold CreateTable.keyItems
  rw [h.items_eq]
  exact TableSchema.filter_items hform s t.columns

/-! ## Where keys stand -/

/-- Every item stands in the body of the table, behind the columns. -/
theorem CreateTable.body_eq_of_mem {t : CreateTable} {item : BodyItem} (h : item ∈ t.items) :
    ∃ front back, t.body = front ++ (",\n" ++ item.sql) ++ back := by
  rcases List.append_of_mem h with ⟨before, after, hitems⟩
  refine ⟨",\n".intercalate ((t.columns.map Column.sql).filter fun sql => sql != "")
    ++ String.join (before.map fun item => ",\n" ++ item.sql),
    String.join (after.map fun item => ",\n" ++ item.sql), ?_⟩
  unfold CreateTable.body
  rw [hitems, List.map_append, List.map_cons, String.join_append, String.join_cons]
  simp only [String.append_assoc]

/-- The last item ends the body. -/
theorem CreateTable.body_eq_of_getLast? {t : CreateTable} {item : BodyItem}
    (h : t.items.getLast? = some item) : ∃ front, t.body = front ++ (",\n" ++ item.sql) := by
  rcases List.getLast?_eq_some_iff.1 h with ⟨before, hitems⟩
  refine ⟨",\n".intercalate ((t.columns.map Column.sql).filter fun sql => sql != "")
    ++ String.join (before.map fun item => ",\n" ++ item.sql), ?_⟩
  unfold CreateTable.body
  rw [hitems, List.map_append, List.map_singleton, String.join_append, String.join_cons]
  simp [String.append_assoc]

/-- A key that the schema asks for wins: no column declares another, and the items that declare a
key are exactly those asked for.  Otherwise the last marked field becomes the key, by an item at the
end of the body, unless a column has declared it already. -/
theorem CreateTable.keyItems_ofSchema {table : String} {s : TableSchema} {t : CreateTable}
    (hform : d.constraints.primary = some form)
    (h : CreateTable.ofSchema d q table s = .ok t) :
    (s.declarations.explicitKeys ≠ [] →
      (∀ c ∈ t.columns, c.declaresKey = false) ∧
        s.impliedKey? t.columns = none ∧
        List.Forall₂ (fun columns item => item.IsKeyOf q form.template columns.toList)
          s.declarations.explicitKeys t.keyItems ∧
        ∀ item ∈ t.keyItems, ∃ front back, t.body = front ++ (",\n" ++ item.sql) ++ back) ∧
    (s.declarations.explicitKeys = [] → (∀ c ∈ t.columns, c.declaresKey = false) →
      ((∀ entry ∈ s.fields.entries, entry.2.isPrimary = false) → t.keyItems = []) ∧
      (∀ before name f after, s.fields.entries = before ++ (name, f) :: after →
        f.isPrimary = true → (∀ entry ∈ after, entry.2.isPrimary = false) →
        ∃ item, t.keyItems = [item] ∧ t.items.getLast? = some item ∧
          item.IsKeyOf q form.template [name] ∧
          ∃ front, t.body = front ++ (",\n" ++ item.sql))) ∧
    (s.declarations.explicitKeys = [] → (∃ c ∈ t.columns, c.declaresKey = true) →
      t.keyItems = []) := by
  have hc := CreateTable.ofSchema_eq_ok_iff.1 h
  have hitems := hc.keyItems_eq hform
  refine ⟨?_, ?_, ?_⟩
  · -- The schema asks for a key: nothing follows from the fields.
    intro hexplicit
    have himplied := s.impliedKey?_of_explicit t.columns hexplicit
    refine ⟨hc.no_column_declares hexplicit, himplied, ?_, ?_⟩
    · rw [hitems, TableSchema.impliedColumns, himplied, Option.bind_none, Option.toList_none,
        List.append_nil, List.forall₂_map_right_iff]
      exact List.forall₂_same.2 fun columns _ => isKeyOf_keyItem q form columns
    · intro item hitem
      exact CreateTable.body_eq_of_mem (List.mem_filter.1 hitem).1
  · -- Neither the schema nor a column: the last marked field decides.
    intro hexplicit hnone
    have himplied := TableSchema.impliedKey?_of_none hexplicit hnone
    refine ⟨?_, ?_⟩
    · intro hunmarked
      simpa [hexplicit, TableSchema.impliedColumns, himplied,
        TableSchema.lastMarked?_eq_none hunmarked] using hitems
    · intro before name f after hentries hf hafter
      have hlast := TableSchema.lastMarked?_eq_some hentries hf hafter
      have hend : t.items.getLast? = some (keyItem q form (.one name)) := by
        rw [hc.items_eq]
        simp [TableSchema.items, himplied, hlast, Constraint.bodyItem?_primary q hform]
      refine ⟨keyItem q form (.one name), ?_, hend, isKeyOf_keyItem q form (.one name),
        CreateTable.body_eq_of_getLast? hend⟩
      simpa [hexplicit, TableSchema.impliedColumns, himplied, hlast, Constraint.key?]
        using hitems
  · -- A column has declared the key, and its fragment is no item of the body.
    intro hexplicit hdeclares
    have himplied := s.impliedKey?_of_declares hdeclares
    simpa [hexplicit, TableSchema.impliedColumns, himplied] using hitems

/-- A marked integer beside a key over two columns in the reserved index. -/
def TableSchema.pairedKey : TableSchema :=
  (((({} : TableSchema).addField "id" (Field.ofType "integer").asPrimaryKey).addField "name"
    {}).addIndex primaryIndexName { columns := .many ["id", "name"] })

/-- Two marked fields, and one behind them that is not marked. -/
def TableSchema.twoMarked : TableSchema :=
  ((({} : TableSchema).addField "id" (Field.ofType "integer").asPrimaryKey).addField "code"
    (Field.ofType "string").asPrimaryKey).addField "note" {}

/-- A key that the schema asks for, and one that follows from the fields. -/
theorem CreateTable.keyItems_ofSchema_askedAndImplied :
    (∃ t, CreateTable.ofSchema Dialect.sqlite Dialect.sqlite.quotes.quoter "pairs" .pairedKey =
        .ok t ∧
      t.keyItems.map BodyItem.sql = ["PRIMARY KEY (\"id\", \"name\")"]) ∧
    ∃ t front, CreateTable.ofSchema Dialect.postgres Dialect.postgres.quotes.quoter "users"
        .twoMarked = .ok t ∧
      t.keyItems.map BodyItem.sql = ["PRIMARY KEY (\"code\")"] ∧
      t.body = front ++ ",\nPRIMARY KEY (\"code\")" := by
  refine ⟨?_, ?_⟩
  · obtain ⟨t, h⟩ : ∃ t, CreateTable.ofSchema Dialect.sqlite Dialect.sqlite.quotes.quoter "pairs"
        .pairedKey = .ok t := ⟨_, rfl⟩
    have hkeys := ((CreateTable.keyItems_ofSchema rfl h).1 (by decide)).2.2.1
    have hasked : TableSchema.pairedKey.declarations.explicitKeys = [.many ["id", "name"]] := by
      decide
    rw [hasked, List.forall₂_cons_left_iff] at hkeys
    rcases hkeys with ⟨item, others, hkey, hothers, hitems⟩
    rw [List.forall₂_nil_left_iff.1 hothers] at hitems
    refine ⟨t, h, ?_⟩
    rw [hitems, List.map_singleton, hkey.usual ofText_primaryTemplate.symm]
    decide
  · obtain ⟨t, h⟩ : ∃ t, CreateTable.ofSchema Dialect.postgres Dialect.postgres.quotes.quoter
        "users" .twoMarked = .ok t := ⟨_, rfl⟩
    have hnone : ∀ c ∈ t.columns, c.declaresKey = false := by
      cases h
      decide
    rcases ((CreateTable.keyItems_ofSchema rfl h).2.1 (by decide) hnone).2
        [("id", (Field.ofType "integer").asPrimaryKey)] "code"
        (Field.ofType "string").asPrimaryKey [("note", {})] (by decide) (by decide) (by decide) with
      ⟨item, hitems, _, hkey, front, hbody⟩
    have hsql : item.sql = "PRIMARY KEY (\"code\")" := by
      rw [hkey.usual ofText_primaryTemplate.symm]
      decide
    refine ⟨t, front, h, ?_, ?_⟩
    · rw [hitems, List.map_singleton, hsql]
    · rw [hbody, hsql]
      rfl

end TableDdl
