import TableDdl.Proofs.PrimaryKey

/-!
# How many primary keys a statement declares

`CreateTable.keyCount` counts the columns and the items of the body that declare a primary key, as
their flags have it.  In the provided dialects

* `CreateTable.FlagsShow`: the flags can be told from the texts;
* `CreateTable.AsksForKeys`: a schema that asks for keys gets these and no other, and a column keeps
  the clause of the key rule only where the clause is none of them;
* `CreateTable.FollowsFields`: any other schema gets one key if a field is marked, and a column with
  the clause of the key rule belongs to it.

`CreateTable.keyCount_of_mem_provided` puts these together.  Schemas that ask for no key and mark
several fields that count up by themselves are left out where each of them would declare it.
-/

namespace TableDdl

variable {d : Dialect} {q : Quoter} {table : String} {s : TableSchema} {t : CreateTable}

/-- Whether the field is a primary key that counts up by itself in the dialect. -/
def Field.incrementsIn (f : Field) (d : Dialect) : Bool :=
  (d.types.find? f.abstractType).any fun type => f.increments d type

/-- The number of declarations of a primary key. -/
def CreateTable.keyCount (t : CreateTable) : Nat :=
  t.columns.countP Column.declaresKey + t.items.countP BodyItem.declaresKey

/-- The flags that are counted can be told from the texts. -/
structure CreateTable.FlagsShow (t : CreateTable) : Prop where
  column : ∀ c ∈ t.columns, c.declaresKey = true ↔ c.clause.sql = "PRIMARY KEY AUTOINCREMENT"
  item : ∀ item ∈ t.items,
    item.declaresKey = true ↔ "PRIMARY KEY (".toList <+: item.sql.toList

/-- The statement declares the keys that the schema asks for, each by an item of its own. -/
structure CreateTable.AsksForKeys (d : Dialect) (q : Quoter) (s : TableSchema) (t : CreateTable) :
    Prop where
  keyCount_eq : t.keyCount = s.declarations.explicitKeys.length
  no_column : ∀ c ∈ t.columns, c.declaresKey = false
  items_eq : t.keyItems.map BodyItem.sql =
    s.declarations.explicitKeys.map fun columns => primaryKeySql q columns.toList
  /-- A column that counts up by itself keeps its clause, unless that would be another key. -/
  clauses : List.Forall₂
    (fun entry c => c.clause = .key d.types.keyRule.clause ↔
      entry.2.incrementsIn d = true ∧ d.types.keyRule.declaresKey = false)
    s.fields.entries t.columns

/-- The statement declares one key if a field is marked, and none otherwise.  A column with the
clause of the key rule belongs to it: by the clause itself, or, if that declares no key, by the item
of the last marked field. -/
structure CreateTable.FollowsFields (d : Dialect) (q : Quoter) (s : TableSchema)
    (t : CreateTable) : Prop where
  keyCount_eq : t.keyCount = if s.fields.entries.any (fun entry => entry.2.isPrimary) then 1 else 0
  clauses : List.Forall₂
    (fun entry c => c.clause = .key d.types.keyRule.clause →
      (d.types.keyRule.declaresKey = false →
        (s.fields.entries.filter fun entry => entry.2.isPrimary).getLast? = some entry) →
      t.keyCount = 1 ∧
        (c.declaresKey = true ∨
          t.keyItems.map BodyItem.sql = [primaryKeySql q [entry.1]]))
    s.fields.entries t.columns

/-! ## Columns with the clause of the key rule -/

/-- What is said of default and NULL is never the clause of a key. -/
theorem ClauseRules.clause_ne_key (rules : ClauseRules) (keyword : String)
    (expression : Option String) (nullable : Option Bool) (sql : String) :
    rules.clause keyword expression nullable ≠ .key sql := by
  unfold ClauseRules.clause
  intro h
  split at h
  · cases h
  · cases h
  · split at h <;> cases h
  · cases h
  · cases h

/-- A column has the clause of a key just where the key rule applies. -/
theorem Field.Compiles.clause_eq_key_iff {inlineKey : Bool} {key sql : String} {f : Field}
    {type : ColumnType} {c : Column} (h : f.Compiles d q inlineKey key type c) :
    c.clause = .key sql ↔
      f.usesKeyRule d type inlineKey = true ∧ d.types.keyRule.clause = sql := by
  have hclause : c.clause = (f.withName key).clause d q type inlineKey := by
    rw [h.column_eq]
    rfl
  have huses : (f.withName key).usesKeyRule d type inlineKey = f.usesKeyRule d type inlineKey :=
    rfl
  rw [hclause]
  unfold Field.clause
  rw [huses]
  split
  · next hkey =>
    simp [hkey]
  · next hkey =>
    -- Without the key rule the clause is `NOT NULL` or one about default and NULL.
    have hother : (if (f.withName key).isPrimary then ColumnClause.notNull else
        d.clauses.clause ((f.withName key).nativeKeyword d type)
          (((f.withName key).effectiveDefault type).map
            (DefaultValue.expression q type.formatter)) (f.withName key).nullable) ≠ .key sql := by
      split
      · intro h
        cases h
      · exact ClauseRules.clause_ne_key _ _ _ _ sql
    simp [hkey, hother]

/-- A column declares the key just where the key rule applies and its clause does so. -/
theorem Field.Compiles.declaresKey_iff {inlineKey : Bool} {key : String} {f : Field}
    {type : ColumnType} {c : Column} (h : f.Compiles d q inlineKey key type c) :
    c.declaresKey = true ↔
      f.usesKeyRule d type inlineKey = true ∧ d.types.keyRule.declaresKey = true := by
  have hc : c.declaresKey = (f.usesKeyRule d type inlineKey && d.types.keyRule.declaresKey) := by
    rw [h.column_eq]
    rfl
  rw [hc, Bool.and_eq_true]

theorem Field.Compiles.incrementsIn_eq {inlineKey : Bool} {key : String} {f : Field}
    {type : ColumnType} {c : Column} (h : f.Compiles d q inlineKey key type c) :
    f.incrementsIn d = f.increments d type := by
  simp [Field.incrementsIn, h.known]

theorem Field.isPrimary_of_incrementsIn {f : Field} (h : f.incrementsIn d = true) :
    f.isPrimary = true := by
  rcases (Option.any_eq_true _ _).1 h with ⟨type, _, htype⟩
  simp only [Field.increments, Bool.and_eq_true] at htype
  exact htype.1.1

/-- Only a column that counts up by itself has the clause. -/
theorem Field.Compiles.incrementsIn_of_clause {inlineKey : Bool} {key sql : String} {f : Field}
    {type : ColumnType} {c : Column} (h : f.Compiles d q inlineKey key type c)
    (hclause : c.clause = .key sql) : f.incrementsIn d = true := by
  have huses := (h.clause_eq_key_iff.1 hclause).1
  rw [h.incrementsIn_eq]
  unfold Field.usesKeyRule at huses
  exact (Bool.and_eq_true_iff.1 huses).1

/-! ## Flags and texts -/

/-- No other clause reads like the one that declares the key. -/
theorem ColumnClause.sql_eq_autoincrement_iff {clause : ColumnClause} :
    clause.sql = "PRIMARY KEY AUTOINCREMENT" ↔ clause = .key "PRIMARY KEY AUTOINCREMENT" := by
  -- The other clauses begin with a word of their own.
  have hword : ∀ (word : String) (rest : String), word.toList.head? ∈ [some 'D', some 'N'] →
      word ++ rest ≠ "PRIMARY KEY AUTOINCREMENT" := by
    intro word rest hhead h
    have hchars : (word.toList ++ rest.toList).head? = some 'P' := by
      rw [← String.toList_append, h]
      rfl
    cases hword : word.toList with
    | nil => simp [hword] at hhead
    | cons c cs =>
      rw [hword, List.cons_append, List.head?_cons] at hchars
      rw [hword, List.head?_cons, hchars] at hhead
      exact absurd hhead (by decide)
  cases clause with
  | unspecified => decide
  | key sql => exact ⟨congrArg ColumnClause.key, ColumnClause.key.inj⟩
  | notNull => decide
  | null => decide
  | default e => exact iff_of_false (hword "DEFAULT " e (by decide)) (by simp)
  | notNullDefault order e =>
    cases order with
    | notNullFirst => exact iff_of_false (hword "NOT NULL DEFAULT " e (by decide)) (by simp)
    | defaultFirst =>
      have hsql : (ColumnClause.notNullDefault .defaultFirst e).sql =
          "DEFAULT " ++ (e ++ " NOT NULL") := String.append_assoc
      refine iff_of_false ?_ (by simp)
      rw [hsql]
      exact hword "DEFAULT " (e ++ " NOT NULL") (by decide)

/-- Among the provided dialects only one has a clause that declares the key. -/
theorem Dialect.keyRule_of_mem_provided (hd : d ∈ Dialect.provided) :
    d.types.keyRule.declaresKey = true ↔ d.types.keyRule.clause = "PRIMARY KEY AUTOINCREMENT" := by
  rcases Dialect.mem_provided_iff.1 hd with rfl | rfl | rfl <;> decide

/-- A first word without slots stays in front, whatever is filled in behind it. -/
theorem Template.prefix_fill {word : String} (hword : Text.isBlankText word = false)
    (words : List (List Piece)) (values : Template.Values) :
    word.toList <+: (Template.fill ⟨Dialect.plainWord word :: words⟩ values).toList := by
  unfold Template.fill
  rw [List.map_cons, Template.fillWord_plainWord, List.filter_cons_of_pos (by simp [hword]),
    String.toList_intercalate, List.map_cons, Text.intercalate_cons_eq_append_flatMap]
  exact List.prefix_append _ _

/-- A constraint that declares no key begins with the word of its kind. -/
theorem Constraint.keyword_of_sql? (hd : d ∈ Dialect.provided) {c : Constraint}
    (hc : c.isPrimary = false) {sql : String} (h : c.sql? q d.constraints = some sql) :
    ∃ word ∈ ["FOREIGN", "UNIQUE", "CHECK"], word.toList <+: sql.toList := by
  unfold Constraint.sql? at h
  rcases Option.bind_eq_some_iff.1 h with ⟨form, hform, hvalues⟩
  rcases Option.bind_eq_some_iff.1 hvalues with ⟨values, _, hfill⟩
  cases hfill
  obtain ⟨word, hword, words, htemplate⟩ : ∃ word ∈ ["FOREIGN", "UNIQUE", "CHECK"], ∃ words,
      form.template = ⟨Dialect.plainWord word :: words⟩ := by
    cases c with
    | primary columns => cases hc
    | foreignKey columns table targets action =>
      rcases Dialect.mem_provided_iff.1 hd with rfl | rfl | rfl <;> cases hform <;>
        exact ⟨"FOREIGN", by simp, _, rfl⟩
    | unique columns index =>
      rcases Dialect.mem_provided_iff.1 hd with rfl | rfl | rfl <;> cases hform <;>
        exact ⟨"UNIQUE", by simp, _, rfl⟩
    | check expression =>
      rcases Dialect.mem_provided_iff.1 hd with rfl | rfl | rfl <;> cases hform <;>
        exact ⟨"CHECK", by simp, _, rfl⟩
    | unknown => cases hform
  have hink : Text.isBlankText word = false := by
    simp only [List.mem_cons, List.not_mem_nil, or_false] at hword
    rcases hword with rfl | rfl | rfl <;> decide
  refine ⟨word, hword, ?_⟩
  rw [htemplate]
  exact Template.prefix_fill hink words values

/-- The words of other items are not those of a primary key. -/
theorem not_prefix_of_keyword {word : String} {cs : List Char}
    (hword : word ∈ ["FOREIGN", "UNIQUE", "CHECK", "KEY"]) (h : word.toList <+: cs) :
    ¬ "PRIMARY KEY (".toList <+: cs := by
  rintro ⟨rest', hrest'⟩
  rcases h with ⟨rest, rfl⟩
  simp only [List.mem_cons, List.not_mem_nil, or_false] at hword
  have hhead := congrArg List.head? hrest'
  rcases hword with rfl | rfl | rfl | rfl <;> simp at hhead

/-- The text of a constraint begins like a primary key if and only if the constraint is one. -/
theorem Constraint.declaresKey_iff_of_bodyItem? (hd : d ∈ Dialect.provided) {c : Constraint}
    {item : BodyItem} (h : c.bodyItem? d q = some item) :
    item.declaresKey = true ↔ "PRIMARY KEY (".toList <+: item.sql.toList := by
  rcases Option.map_eq_some_iff.1 h with ⟨sql, hsql, rfl⟩
  cases hc : c.isPrimary with
  | true =>
    cases c with
    | primary columns =>
      have hform : d.constraints.find? (.primary columns) = some ⟨Dialect.primaryTemplate, _⟩ :=
        Dialect.primary_eq_of_mem_provided hd
      rw [Constraint.sql?_eq_some hform rfl, Option.some_inj] at hsql
      rw [← hsql, Template.fill_primaryTemplate]
      simp
    | foreignKey columns table targets action => cases hc
    | unique columns index => cases hc
    | check expression => cases hc
    | unknown => cases hc
  | false =>
    rcases Constraint.keyword_of_sql? hd hc hsql with ⟨word, hword, hprefix⟩
    have hkeyword : word ∈ ["FOREIGN", "UNIQUE", "CHECK", "KEY"] :=
      List.mem_append_left ["KEY"] hword
    simpa using not_prefix_of_keyword hkeyword hprefix

/-- The text of an index in the body begins like a primary key if and only if it has the reserved
name. -/
theorem Index.declaresKey_iff_of_bodyItem? (hd : d ∈ Dialect.provided) {index : Index}
    {name : String} {item : BodyItem} (h : index.bodyItem? d q name = some item) :
    item.declaresKey = true ↔ "PRIMARY KEY (".toList <+: item.sql.toList := by
  unfold Index.bodyItem? at h
  split at h
  · exact Constraint.declaresKey_iff_of_bodyItem? hd h
  · split at h
    · cases h
      have hword : ∃ word ∈ ["FOREIGN", "UNIQUE", "CHECK", "KEY"],
          word.toList <+: (index.bodySql q name).toList := by
        unfold Index.bodySql Index.uniqueWord
        simp only [String.toList_append, List.append_assoc]
        cases index.unique with
        | true => exact ⟨"UNIQUE", by simp, ⟨_, rfl⟩⟩
        | false => exact ⟨"KEY", by simp, ⟨_, rfl⟩⟩
      rcases hword with ⟨word, hword, hprefix⟩
      simpa using not_prefix_of_keyword hword hprefix
    · cases h

/-- The flags of a compiled table can be told from its texts. -/
theorem CreateTable.Compiles.flagsShow (hd : d ∈ Dialect.provided)
    (h : CreateTable.Compiles d q table s t) : t.FlagsShow where
  column := by
    intro c hc
    rcases exists_of_forall₂_of_mem h.columns hc with ⟨entry, _, type, hcompiles⟩
    rw [ColumnClause.sql_eq_autoincrement_iff, hcompiles.clause_eq_key_iff,
      hcompiles.declaresKey_iff, Dialect.keyRule_of_mem_provided hd]
  item := by
    intro item hitem
    rw [h.items_eq, TableSchema.items, List.mem_append, List.mem_append] at hitem
    rcases hitem with (hindex | hconstraint) | himplied
    · rcases List.mem_filterMap.1 hindex with ⟨entry, _, hentry⟩
      exact Index.declaresKey_iff_of_bodyItem? hd hentry
    · rcases List.mem_filterMap.1 hconstraint with ⟨c, _, hc⟩
      exact Constraint.declaresKey_iff_of_bodyItem? hd hc
    · rw [Option.mem_toList] at himplied
      rcases Option.bind_eq_some_iff.1 himplied with ⟨c, _, hc⟩
      exact Constraint.declaresKey_iff_of_bodyItem? hd hc

/-! ## Counting -/

theorem countP_eq_of_forall₂ {α β : Type} {R : α → β → Prop} {p : α → Bool} {p' : β → Bool}
    (hR : ∀ a b, R a b → p' b = p a) {xs : List α} {ys : List β} (h : List.Forall₂ R xs ys) :
    ys.countP p' = xs.countP p := by
  induction h with
  | nil => rfl
  | cons hab _ ih => simp [List.countP_cons, ih, hR _ _ hab]

/-- The keys of a statement are the columns that declare one, those that the schema asks for, and
the one that follows from the fields. -/
theorem CreateTable.Compiles.keyCount_eq {form : ConstraintTemplate}
    (hform : d.constraints.primary = some form) (h : CreateTable.Compiles d q table s t) :
    t.keyCount = t.columns.countP Column.declaresKey
      + (s.declarations.explicitKeys.length + (s.impliedColumns t.columns).length) := by
  have hitems : t.items.countP BodyItem.declaresKey = t.keyItems.length :=
    List.countP_eq_length_filter
  calc
    t.keyCount
        = t.columns.countP Column.declaresKey + t.keyItems.length := by
          rw [CreateTable.keyCount, hitems]
    _ = t.columns.countP Column.declaresKey
          + (s.declarations.explicitKeys.length + (s.impliedColumns t.columns).length) := by
          rw [h.keyItems_eq hform, List.length_map, List.length_append]

/-- Without a key that the schema asks for, every field that counts up by itself declares one in its
column, where the clause does so. -/
theorem CreateTable.Compiles.countP_declaresKey (h : CreateTable.Compiles d q table s t)
    (hexplicit : s.declarations.explicitKeys = []) :
    t.columns.countP Column.declaresKey =
      s.fields.entries.countP fun entry =>
        entry.2.incrementsIn d && d.types.keyRule.declaresKey := by
  have hkey : s.declarations.hasPrimaryKey = false :=
    Declarations.hasPrimaryKey_eq_false_iff.2 hexplicit
  refine countP_eq_of_forall₂ ?_ h.columns
  rintro entry c ⟨type, hc⟩
  rw [hc.declaresKey_eq, hc.incrementsIn_eq, hkey]
  simp

theorem countP_declaresKey_eq_zero {columns : List Column}
    (hnone : ∀ c ∈ columns, c.declaresKey = false) : columns.countP Column.declaresKey = 0 := by
  rw [List.countP_eq_zero]
  intro c hc
  simp [hnone c hc]

/-- One key follows from the fields if one is marked, however many are. -/
theorem TableSchema.length_impliedColumns {columns : List Column}
    (hexplicit : s.declarations.explicitKeys = [])
    (hnone : ∀ c ∈ columns, c.declaresKey = false) :
    (s.impliedColumns columns).length =
      if s.fields.entries.any (fun entry => entry.2.isPrimary) then 1 else 0 := by
  unfold TableSchema.impliedColumns
  rw [TableSchema.impliedKey?_of_none hexplicit hnone]
  by_cases hany : s.fields.entries.any (fun entry => entry.2.isPrimary) = true
  · have hne : s.fields.entries.filter (fun entry => entry.2.isPrimary) ≠ [] := by
      rw [Ne, List.filter_eq_nil_iff]
      rcases List.any_eq_true.1 hany with ⟨entry, hmem, hprimary⟩
      intro hnot
      exact hnot entry hmem hprimary
    have hlast : s.lastMarked?.isSome = true := by
      simpa [TableSchema.lastMarked?] using hne
    rcases Option.isSome_iff_exists.1 hlast with ⟨name, hname⟩
    rw [if_pos hany, hname]
    rfl
  · have hunmarked : ∀ entry ∈ s.fields.entries, entry.2.isPrimary = false := by
      simpa using hany
    rw [if_neg hany, TableSchema.lastMarked?_eq_none hunmarked]
    rfl

/-- A schema that asks for no key gets one if a field is marked; only columns that declare a key
themselves could be several. -/
theorem CreateTable.Compiles.keyCount_of_fields {form : ConstraintTemplate}
    (hform : d.constraints.primary = some form) (h : CreateTable.Compiles d q table s t)
    (hexplicit : s.declarations.explicitKeys = [])
    (hsingle : d.types.keyRule.declaresKey = true →
      s.fields.entries.countP (fun entry => entry.2.incrementsIn d) ≤ 1) :
    t.keyCount = if s.fields.entries.any (fun entry => entry.2.isPrimary) then 1 else 0 := by
  have hcount := h.countP_declaresKey hexplicit
  rw [h.keyCount_eq hform, hexplicit, List.length_nil, Nat.zero_add]
  -- Either no column declares a key and the last marked field does, or the other way round.
  by_cases hnone : ∀ c ∈ t.columns, c.declaresKey = false
  · rw [countP_declaresKey_eq_zero hnone, TableSchema.length_impliedColumns hexplicit hnone,
      Nat.zero_add]
  · have hdeclares : ∃ c ∈ t.columns, c.declaresKey = true := by
      simpa using hnone
    have hpos : 0 < t.columns.countP Column.declaresKey := List.countP_pos_iff.2 hdeclares
    have himplied : s.impliedColumns t.columns = [] := by
      simp [TableSchema.impliedColumns, s.impliedKey?_of_declares hdeclares]
    -- A column that declares the key belongs to a marked field, and there is only one such column.
    rw [hcount] at hpos
    rcases List.countP_pos_iff.1 hpos with ⟨entry, hmem, hentry⟩
    rw [Bool.and_eq_true] at hentry
    have hrule := hentry.2
    have hany : s.fields.entries.any (fun entry => entry.2.isPrimary) = true :=
      List.any_eq_true.2 ⟨entry, hmem, Field.isPrimary_of_incrementsIn hentry.1⟩
    have hle := hsingle hrule
    have hone : t.columns.countP Column.declaresKey = 1 := by
      simp only [hrule, Bool.and_true] at hcount hpos
      omega
    rw [hone, himplied, if_pos hany]
    rfl

/-! ## The keys of a statement -/

variable {form : ConstraintTemplate}

/-- A schema that asks for keys gets them and no other. -/
theorem CreateTable.Compiles.asksForKeys (hform : d.constraints.primary = some form)
    (htemplate : form.template = .ofText "PRIMARY KEY (\x7bcolumn\x7d)")
    (h : CreateTable.Compiles d q table s t) (hexplicit : s.declarations.explicitKeys ≠ []) :
    CreateTable.AsksForKeys d q s t := by
  have hnone := h.no_column_declares hexplicit
  have himplied : s.impliedColumns t.columns = [] := by
    simp [TableSchema.impliedColumns, s.impliedKey?_of_explicit t.columns hexplicit]
  refine ⟨?_, hnone, ?_, ?_⟩
  · rw [h.keyCount_eq hform, countP_declaresKey_eq_zero hnone, himplied]
    simp
  · calc
      t.keyItems.map BodyItem.sql
          = s.declarations.explicitKeys.map (BodyItem.sql ∘ keyItem q form) := by
            rw [h.keyItems_eq hform, himplied, List.append_nil, List.map_map]
      _ = s.declarations.explicitKeys.map fun columns => primaryKeySql q columns.toList :=
            List.map_congr_left fun columns _ => (isKeyOf_keyItem q form columns).usual htemplate
  · refine h.columns.imp ?_
    rintro entry c ⟨type, hc⟩
    have hkey : s.declarations.hasPrimaryKey = true :=
      Declarations.hasPrimaryKey_eq_true_iff.2 hexplicit
    rw [hc.clause_eq_key_iff, hc.incrementsIn_eq, hkey]
    simp [Field.usesKeyRule]

/-- Without such a request the key is that of the marked fields. -/
theorem CreateTable.Compiles.followsFields (hform : d.constraints.primary = some form)
    (htemplate : form.template = .ofText "PRIMARY KEY (\x7bcolumn\x7d)")
    (h : CreateTable.Compiles d q table s t) (hexplicit : s.declarations.explicitKeys = [])
    (hsingle : d.types.keyRule.declaresKey = true →
      s.fields.entries.countP (fun entry => entry.2.incrementsIn d) ≤ 1) :
    CreateTable.FollowsFields d q s t := by
  have hcount := h.keyCount_of_fields hform hexplicit hsingle
  refine ⟨hcount, ?_⟩
  have hcolumns := h.columns
  rw [List.forall₂_iff_zip] at hcolumns ⊢
  refine ⟨hcolumns.1, ?_⟩
  intro entry c hpair hclause hlast
  rcases hcolumns.2 hpair with ⟨type, hc⟩
  have hmarked : s.fields.entries.any (fun entry => entry.2.isPrimary) = true :=
    List.any_eq_true.2 ⟨entry, (List.of_mem_zip hpair).1,
      Field.isPrimary_of_incrementsIn (hc.incrementsIn_of_clause hclause)⟩
  refine ⟨by rw [hcount, if_pos hmarked], ?_⟩
  cases hrule : d.types.keyRule.declaresKey with
  | true => exact .inl (hc.declaresKey_iff.2 ⟨(hc.clause_eq_key_iff.1 hclause).1, hrule⟩)
  | false =>
    -- No column declares the key, so the last marked field does, and that is the one here.
    have hnone : ∀ c ∈ t.columns, c.declaresKey = false := by
      intro other hother
      rcases exists_of_forall₂_of_mem h.columns hother with ⟨_, _, _, hcompiles⟩
      rw [hcompiles.declaresKey_eq, hrule, Bool.and_false]
    have hname : s.lastMarked? = some entry.1 := by
      rw [TableSchema.lastMarked?, List.getLast?_map, hlast hrule]
      rfl
    have himplied : s.impliedColumns t.columns = [.one entry.1] := by
      simp [TableSchema.impliedColumns, TableSchema.impliedKey?_of_none hexplicit hnone, hname,
        Constraint.key?]
    refine .inr ?_
    calc
      t.keyItems.map BodyItem.sql
          = [(keyItem q form (.one entry.1)).sql] := by
            rw [h.keyItems_eq hform, hexplicit, himplied]
            rfl
      _ = [primaryKeySql q [entry.1]] :=
            congrArg List.singleton ((isKeyOf_keyItem q form (.one entry.1)).usual htemplate)

/-- In the provided dialects, a statement declares the keys that the schema asks for and no other.
If it asks for none, the statement declares one as soon as a field is marked, to which all columns
with the clause of the key rule belong. -/
theorem CreateTable.keyCount_of_mem_provided (hd : d ∈ Dialect.provided)
    (h : CreateTable.ofSchema d q table s = .ok t) :
    t.FlagsShow ∧
    (s.declarations.explicitKeys ≠ [] → CreateTable.AsksForKeys d q s t) ∧
    (s.declarations.explicitKeys = [] →
      (d.types.keyRule.declaresKey = true →
        s.fields.entries.countP (fun entry => entry.2.incrementsIn d) ≤ 1) →
      CreateTable.FollowsFields d q s t) := by
  have hc := CreateTable.ofSchema_eq_ok_iff.1 h
  have hform := Dialect.primary_eq_of_mem_provided hd
  have htemplate := ofText_primaryTemplate.symm
  exact ⟨hc.flagsShow hd, hc.asksForKeys hform htemplate, hc.followsFields hform htemplate⟩

def Field.counter : Field :=
  (Field.ofType "integer").asPrimaryKey

/-- A marked text, and behind it a key that counts up by itself. -/
def TableSchema.counterLast : TableSchema :=
  (({} : TableSchema).addField "code" (Field.ofType "string").asPrimaryKey).addField "id" .counter

/-- A key over two columns that the schema asks for, and keys that follow from the fields: by an item
of the body, and by the clause of a column. -/
theorem CreateTable.keyCount_of_mem_provided_askedAndCounted :
    (∃ t, CreateTable.ofSchema Dialect.mysql Dialect.mysql.quotes.quoter "pairs" .pairedKey =
        .ok t ∧
      t.keyCount = 1 ∧ t.keyItems.map BodyItem.sql = ["PRIMARY KEY (`id`, `name`)"]) ∧
    (∃ t, CreateTable.ofSchema Dialect.mysql Dialect.mysql.quotes.quoter "users" .counterLast =
        .ok t ∧
      t.keyCount = 1 ∧ t.keyItems.map BodyItem.sql = ["PRIMARY KEY (`id`)"]) ∧
    ∃ t c, CreateTable.ofSchema Dialect.sqlite Dialect.sqlite.quotes.quoter "users" .counterLast =
        .ok t ∧
      t.keyCount = 1 ∧ c ∈ t.columns ∧ c.name = "\"id\"" ∧ c.declaresKey = true ∧
        c.clause.sql = "PRIMARY KEY AUTOINCREMENT" := by
  refine ⟨?_, ?_, ?_⟩
  · obtain ⟨t, h⟩ : ∃ t, CreateTable.ofSchema Dialect.mysql Dialect.mysql.quotes.quoter "pairs"
        .pairedKey = .ok t := ⟨_, rfl⟩
    have hasks :=
      (CreateTable.keyCount_of_mem_provided Dialect.mysql_mem_provided h).2.1 (by decide)
    refine ⟨t, h, ?_, ?_⟩
    · rw [hasks.keyCount_eq]
      decide
    · rw [hasks.items_eq]
      decide
  · obtain ⟨t, c, h, hpair, hclause⟩ : ∃ t c, CreateTable.ofSchema Dialect.mysql
        Dialect.mysql.quotes.quoter "users" .counterLast = .ok t ∧
          (("id", Field.counter), c) ∈ TableSchema.counterLast.fields.entries.zip t.columns ∧
          c.clause = .key "NOT NULL AUTO_INCREMENT" :=
      ⟨_, _, rfl, List.mem_cons_of_mem _ List.mem_cons_self, rfl⟩
    have hfollows :=
      (CreateTable.keyCount_of_mem_provided Dialect.mysql_mem_provided h).2.2 (by decide) (by decide)
    rcases (List.forall₂_iff_zip.1 hfollows.clauses).2 hpair hclause (fun _ => rfl) with
      ⟨hcount, hdeclares | hitems⟩
    · have hnone : ∀ c ∈ t.columns, c.declaresKey = false := by
        cases h
        decide
      rw [hnone c (List.of_mem_zip hpair).2] at hdeclares
      cases hdeclares
    · refine ⟨t, h, hcount, ?_⟩
      rw [hitems]
      decide
  · obtain ⟨t, c, h, hmem, hname, hdeclares⟩ : ∃ t c, CreateTable.ofSchema Dialect.sqlite
        Dialect.sqlite.quotes.quoter "users" .counterLast = .ok t ∧ c ∈ t.columns ∧
          c.name = "\"id\"" ∧ c.declaresKey = true :=
      ⟨_, _, rfl, List.mem_cons_of_mem _ List.mem_cons_self, by decide, by decide⟩
    have hkeys := CreateTable.keyCount_of_mem_provided Dialect.sqlite_mem_provided h
    have hfollows := hkeys.2.2 (by decide) (by decide)
    refine ⟨t, c, h, ?_, hmem, hname, hdeclares, (hkeys.1.column c hmem).1 hdeclares⟩
    rw [hfollows.keyCount_eq]
    decide

/-! ## Statements with two keys -/

/-- The same key in the reserved index and in a constraint. -/
def TableSchema.keyAskedTwice : TableSchema :=
  ((({} : TableSchema).addField "id" (Field.ofType "integer")).addIndex primaryIndexName
    { columns := .one "id" }).addConstraint (.primary (.one "id"))

/-- A field with a key that counts up by itself, and a constraint that makes another one the key. -/
def TableSchema.keyElsewhere : TableSchema :=
  ((({} : TableSchema).addField "id" .counter).addField "code" {}).addConstraint
    (.primary (.one "code"))

/-- Two requests for a key are both written, and the column that counts up need not belong to the
key that was asked for. -/
theorem CreateTable.keyCount_not_le_one :
    (∃ t, CreateTable.ofSchema Dialect.mysql Dialect.mysql.quotes.quoter "t" .keyAskedTwice =
        .ok t ∧
      t.keyCount = 2 ∧ t.body = "`id` int(11),\nPRIMARY KEY (`id`),\nPRIMARY KEY (`id`)") ∧
    ∃ t, CreateTable.ofSchema Dialect.mysql Dialect.mysql.quotes.quoter "t" .keyElsewhere =
        .ok t ∧
      t.keyCount = 1 ∧ t.keyItems.map BodyItem.sql = ["PRIMARY KEY (`code`)"] ∧
      ∃ c ∈ t.columns, c.name = "`id`" ∧ c.clause = .key "NOT NULL AUTO_INCREMENT" := by
  refine ⟨⟨_, rfl, ?_, ?_⟩, ⟨_, rfl, ?_, ?_, ⟨_, List.mem_cons_self, ?_, ?_⟩⟩⟩ <;> decide

end TableDdl
