import TableDdl.Dialect.Known
import TableDdl.Proofs.Compilation
import TableDdl.Proofs.Dialect.Attribute
import TableDdl.Proofs.OrderedMap

/-!
# What the statements of a schema do not depend on

A schema may hold things that a dialect does not look at.  `TableSchema.Alike` relates schemas that
differ in nothing else:

* the name inside a field, since the key of the field takes its place;
* the order of attributes, and attributes that are not known, not present or not allowed;
* constraints without a template, as long as they do not declare the primary key;
* a key mark that is not the one of the primary key;
* default and nullability of a field that is marked as the primary key;
* the empty text as the default of a number or a truth value.

`CreateTable.ofSchema_eq_of_alike` says that such schemas compile to the same, errors included.
-/

namespace TableDdl

variable {d : Dialect} {q : Quoter}

/-! ## Attributes -/

namespace AttributeTable

variable {table : AttributeTable} {data data' : OrderedMap Scalar}

/-- Whether an attribute has an effect: it has a value, and the table knows it and allows the
value. -/
def heeds (table : AttributeTable) (entry : String × Scalar) : Bool :=
  !entry.2.isAbsent && (table.lookup entry.1).any fun rule => rule.allows entry.2.display

/-- The attributes that have an effect are the same, in whatever order. -/
def Alike (table : AttributeTable) (data data' : OrderedMap Scalar) : Prop :=
  (data.entries.filter table.heeds).Perm (data'.entries.filter table.heeds)

instance : Decidable (table.Alike data data') :=
  inferInstanceAs (Decidable (List.Perm _ _))

/-- A row writes the same for data that differ only in what no row can write. -/
theorem Writes.of_alike {name text : String} {value : Scalar} {rule : AttributeRule}
    (h : table.Alike data data') (hwrites : Writes table q data name value rule text) :
    Writes table q data' name value rule text := by
  have hheeds : table.heeds (name, value) = true := by
    simp [heeds, hwrites.present, hwrites.known, hwrites.allowed]
  have hmem : (name, value) ∈ data.entries.filter table.heeds :=
    List.mem_filter.2 ⟨OrderedMap.get?_eq_some_iff.1 hwrites.given, hheeds⟩
  have hmem' := (List.mem_filter.1 (h.mem_iff.1 hmem)).1
  exact { hwrites with given := OrderedMap.get?_eq_some_iff.2 hmem' }

theorem contribution?_eq_of_alike (h : table.Alike data data') (name : String) :
    table.contribution? q data name = table.contribution? q data' name := by
  refine Option.ext fun text => ?_
  rw [contribution?_eq_some_iff, contribution?_eq_some_iff]
  constructor
  · rintro ⟨value, rule, hwrites⟩
    exact ⟨value, rule, hwrites.of_alike h⟩
  · rintro ⟨value, rule, hwrites⟩
    exact ⟨value, rule, hwrites.of_alike h.symm⟩

/-- Data that differ only in what no row can write give the same attributes. -/
theorem collect_eq_of_alike (h : table.Alike data data') (names : Option (List String))
    (side : Option Placement) :
    table.collect q data names side = table.collect q data' names side := by
  unfold collect
  simp only [contribution?_eq_of_alike h]

end AttributeTable

/-! ## Fields -/

/-- The type of the field writes its literals as numbers or truth values. -/
def Field.IsBare (d : Dialect) (f : Field) : Prop :=
  ∃ type, d.types.find? f.abstractType = some type ∧
    type.formatter ∈ [Formatter.integer, .real, .boolean]

def Field.HasNoDefault (f : Field) : Prop :=
  f.defaultValue = none ∨ f.defaultValue = some (.literal (.text ""))

/-- Two fields that differ at most in what the dialect does not look at. -/
structure Field.Alike (d : Dialect) (f g : Field) : Prop where
  typeName_eq : f.typeName = g.typeName
  length_eq : f.length = g.length
  precision_eq : f.precision = g.precision
  nativeType_eq : f.nativeType = g.nativeType
  isPrimary_eq : f.isPrimary = g.isPrimary
  default_alike : f.isPrimary = true ∨ f.defaultValue = g.defaultValue ∨
    (f.IsBare d ∧ f.HasNoDefault ∧ g.HasNoDefault)
  nullable_alike : f.isPrimary = true ∨ f.nullable = g.nullable
  attributes : d.columnAttributes.Alike f.attributes g.attributes

namespace Field

variable {f g : Field} {type : ColumnType}

theorem Alike.withName (h : Alike d f g) (name : String) :
    Alike d (f.withName name) (g.withName name) :=
  ⟨h.typeName_eq, h.length_eq, h.precision_eq, h.nativeType_eq, h.isPrimary_eq, h.default_alike,
    h.nullable_alike, h.attributes⟩

theorem Alike.abstractType_eq (h : Alike d f g) : f.abstractType = g.abstractType := by
  unfold abstractType
  rw [h.typeName_eq]

theorem Alike.effectivePrecision_eq (h : Alike d f g) :
    f.effectivePrecision type = g.effectivePrecision type := by
  unfold effectivePrecision
  rw [h.precision_eq]

/-- Fields that are alike ask for the same native type. -/
theorem Alike.ownKeyword_eq (h : Alike d f g) : f.ownKeyword d type = g.ownKeyword d type := by
  unfold ownKeyword
  rw [h.nativeType_eq, h.abstractType_eq, h.effectivePrecision_eq]

theorem Alike.increments_eq (h : Alike d f g) : f.increments d type = g.increments d type := by
  unfold increments
  rw [h.isPrimary_eq, h.ownKeyword_eq]

theorem Alike.nativeKeyword_eq (h : Alike d f g) :
    f.nativeKeyword d type = g.nativeKeyword d type := by
  unfold nativeKeyword
  rw [h.increments_eq, h.ownKeyword_eq]

theorem Alike.usesKeyRule_eq (h : Alike d f g) (inlineKey : Bool) :
    f.usesKeyRule d type inlineKey = g.usesKeyRule d type inlineKey := by
  unfold usesKeyRule
  rw [h.increments_eq]

/-- An empty text is no default where literals stand without quotes. -/
theorem HasNoDefault.effectiveDefault_eq (h : f.HasNoDefault)
    (hbare : type.formatter ∈ [Formatter.integer, .real, .boolean]) :
    f.effectiveDefault type = none := by
  have hformatter : type.formatter = .integer ∨ type.formatter = .real ∨
      type.formatter = .boolean := by
    simpa using hbare
  unfold effectiveDefault
  rcases h with h | h
  · rw [h]
    rfl
  · rw [h]
    rcases hformatter with hf | hf | hf <;> rw [hf] <;> rfl

/-- Of a key the default is not looked at; of any other field it has the same effect. -/
theorem Alike.effectiveDefault_eq (h : Alike d f g)
    (hknown : d.types.find? f.abstractType = some type) (hkey : f.isPrimary = false) :
    f.effectiveDefault type = g.effectiveDefault type := by
  rcases h.default_alike with hprimary | hsame | ⟨⟨type', hknown', hbare⟩, hf, hg⟩
  · rw [hkey] at hprimary
    cases hprimary
  · unfold effectiveDefault
    rw [hsame]
  · have htype : type' = type := by
      rw [hknown'] at hknown
      exact Option.some.inj hknown
    rw [htype] at hbare
    rw [hf.effectiveDefault_eq hbare, hg.effectiveDefault_eq hbare]

/-- Fields that are alike have the same clause, whichever way one of them lacks a default. -/
theorem Alike.clause_eq (h : Alike d f g) (hknown : d.types.find? f.abstractType = some type)
    (inlineKey : Bool) : f.clause d q type inlineKey = g.clause d q type inlineKey := by
  unfold clause
  rw [← h.usesKeyRule_eq, ← h.isPrimary_eq]
  -- Only a field that is no key comes to its default and nullability.
  cases hkey : f.isPrimary with
  | true => simp
  | false =>
    have hnullable : f.nullable = g.nullable := by
      rcases h.nullable_alike with hprimary | hsame
      · rw [hkey] at hprimary
        cases hprimary
      · exact hsame
    rw [h.nativeKeyword_eq, h.effectiveDefault_eq hknown hkey, hnullable]

/-- Fields that are alike have the same column. -/
theorem Alike.column_eq (h : Alike d f g) (hknown : d.types.find? f.abstractType = some type)
    (name : String) (inlineKey : Bool) :
    f.column d q name type inlineKey = g.column d q name type inlineKey := by
  unfold column effectiveLength
  rw [h.nativeKeyword_eq, h.length_eq, h.effectivePrecision_eq, h.usesKeyRule_eq,
    h.clause_eq hknown, AttributeTable.collect_eq_of_alike h.attributes,
    AttributeTable.collect_eq_of_alike h.attributes]

end Field

/-- Fields that are alike compile alike, or are refused alike. -/
theorem Column.ofField_withName_eq_of_alike {f g : Field} (h : f.Alike d g) (key : String)
    (inlineKey : Bool) :
    Column.ofField d q inlineKey (f.withName key) =
      Column.ofField d q inlineKey (g.withName key) := by
  rw [Column.ofField_withName, Column.ofField_withName, ← h.abstractType_eq]
  split
  · rfl
  · cases hknown : d.types.find? f.abstractType with
    | none => rfl
    | some type =>
      simp only
      rw [(h.withName key).column_eq hknown]

/-! ## Constraints -/

/-- Whether a constraint has an effect: it declares the primary key, or the dialect has a template
for its kind. -/
def Constraint.isHeeded (d : Dialect) (c : Constraint) : Bool :=
  c.isPrimary || (d.constraints.find? c).isSome

/-- A constraint that is not heeded is no primary key. -/
theorem Constraint.any_filter_isHeeded (constraints : List Constraint) :
    (constraints.filter (Constraint.isHeeded d)).any Constraint.isPrimary =
      constraints.any Constraint.isPrimary := by
  rw [List.any_filter]
  congr 1
  funext c
  unfold Constraint.isHeeded
  cases c.isPrimary <;> simp

/-- A constraint that is not heeded has no item of the body. -/
theorem Constraint.filterMap_filter_isHeeded (constraints : List Constraint) :
    (constraints.filter (Constraint.isHeeded d)).filterMap (Constraint.bodyItem? d q) =
      constraints.filterMap (Constraint.bodyItem? d q) := by
  rw [List.filterMap_filter]
  congr 1
  funext c
  -- A constraint without an effect has no template, and so no item.
  cases hheeded : c.isHeeded d with
  | true => rfl
  | false =>
    unfold Constraint.isHeeded at hheeded
    rw [Bool.or_eq_false_iff, Option.isSome_eq_false_iff, Option.isNone_iff_eq_none] at hheeded
    simp [Constraint.bodyItem?, Constraint.sql?, hheeded.2]

/-! ## Schemas -/

/-- Two schemas that differ at most in what the dialect does not look at. -/
structure TableSchema.Alike (d : Dialect) (s s' : TableSchema) : Prop where
  fields : List.Forall₂ (fun entry entry' => entry.1 = entry'.1 ∧ entry.2.Alike d entry'.2)
    s.fields.entries s'.fields.entries
  indexes_eq : s.declarations.indexes = s'.declarations.indexes
  constraints_eq : s.declarations.constraints.filter (Constraint.isHeeded d) =
    s'.declarations.constraints.filter (Constraint.isHeeded d)
  attributes : d.tableAttributes.Alike s.declarations.attributes s'.declarations.attributes

namespace TableSchema

variable {s s' : TableSchema}

/-- Schemas that are alike ask for a primary key or both do not. -/
theorem Alike.hasPrimaryKey_eq (h : Alike d s s') :
    s.declarations.hasPrimaryKey = s'.declarations.hasPrimaryKey := by
  unfold Declarations.hasPrimaryKey
  rw [h.indexes_eq, ← Constraint.any_filter_isHeeded (d := d), h.constraints_eq,
    Constraint.any_filter_isHeeded]

theorem Alike.isEmpty_eq (h : Alike d s s') : s.fields.isEmpty = s'.fields.isEmpty := by
  have hlength := h.fields.length_eq
  unfold OrderedMap.isEmpty
  rw [Bool.eq_iff_iff, List.isEmpty_iff_length_eq_zero, List.isEmpty_iff_length_eq_zero, hlength]

/-- Schemas that are alike have the same columns. -/
theorem Alike.columns_eq (h : Alike d s s') : s.columns d q = s'.columns d q := by
  unfold columns
  rw [h.hasPrimaryKey_eq]
  refine mapM_congr (h.fields.imp ?_)
  rintro entry entry' ⟨hkey, halike⟩
  rw [hkey]
  exact Column.ofField_withName_eq_of_alike halike entry'.1 _

theorem Alike.lastMarked?_eq (h : Alike d s s') : s.lastMarked? = s'.lastMarked? := by
  have hnames : ∀ entries entries' : List (String × Field),
      List.Forall₂ (fun entry entry' => entry.1 = entry'.1 ∧ entry.2.Alike d entry'.2) entries
        entries' →
      (entries.filter fun entry => entry.2.isPrimary).map Prod.fst =
        (entries'.filter fun entry => entry.2.isPrimary).map Prod.fst := by
    intro entries entries' hfields
    induction hfields with
    | nil => rfl
    | cons hentry _ ih =>
      rw [List.filter_cons, List.filter_cons, hentry.2.isPrimary_eq]
      split
      · rw [List.map_cons, List.map_cons, hentry.1, ih]
      · exact ih
  unfold lastMarked?
  rw [hnames _ _ h.fields]

/-- The items of the body are the same. -/
theorem Alike.items_eq (h : Alike d s s') (columns : List Column) :
    s.items d q columns = s'.items d q columns := by
  have himplied : s.impliedKey? columns = s'.impliedKey? columns := by
    unfold impliedKey?
    rw [h.hasPrimaryKey_eq, h.lastMarked?_eq]
  unfold items
  rw [himplied, h.indexes_eq, ← Constraint.filterMap_filter_isHeeded, h.constraints_eq,
    Constraint.filterMap_filter_isHeeded]

end TableSchema

/-- What the dialect does not look at has no influence, neither on the statements nor on whether
there are any and what is wrong if there are none. -/
theorem CreateTable.ofSchema_eq_of_alike {s s' : TableSchema} (h : s.Alike d s') (q : Quoter)
    (table : String) : CreateTable.ofSchema d q table s = CreateTable.ofSchema d q table s' := by
  unfold CreateTable.ofSchema
  rw [h.isEmpty_eq, h.columns_eq, h.indexes_eq,
    AttributeTable.collect_eq_of_alike h.attributes]
  simp only [h.items_eq]

/-- A dialect that allows one character set and has no checks. -/
def Dialect.strict : Dialect :=
  { Dialect.mysql with
    columnAttributes :=
      [("charset", { keyword := "CHARACTER SET", allowed := some ["utf8"] }),
       ("comment", { keyword := "COMMENT", quoted := true, placement := .after })]
    constraints := { Dialect.mysql.constraints with check := none } }

/-- A schema with something in every place that a dialect may not look at. -/
def TableSchema.adorned : TableSchema where
  fields := .ofList
    [("id", { name := some "key", typeName := some "integer", key := some .primary,
              defaultValue := some (.literal (.integer 7)), nullable := some true }),
     ("title", { key := some .other,
                 attributes := .ofList [("comment", .text "a"), ("charset", .text "utf8"),
                   ("colour", .text "red")] }),
     ("count", { typeName := some "integer", defaultValue := some (.literal (.text "")),
                 attributes := .ofList [("comment", .null), ("charset", .text "latin1")] })]
  declarations :=
    { constraints := [.unknown, .unique (.one "title") false, .check (.raw "count > 0")]
      attributes := .ofList [("engine", .text "InnoDB"), ("charset", .text "utf8"),
        ("collate", .text "")] }

def TableSchema.unadorned : TableSchema where
  fields := .ofList
    [("id", { typeName := some "integer", key := some .primary }),
     ("title", { attributes := .ofList [("charset", .text "utf8"), ("comment", .text "a")] }),
     ("count", { typeName := some "integer" })]
  declarations :=
    { constraints := [.unique (.one "title") false]
      attributes := .ofList [("charset", .text "utf8"), ("engine", .text "InnoDB")] }

/-- All additions at once change nothing that counts. -/
theorem TableSchema.adorned_alike : TableSchema.adorned.Alike Dialect.strict .unadorned where
  fields := by
    refine .cons ⟨rfl, ?_⟩ (.cons ⟨rfl, ?_⟩ (.cons ⟨rfl, ?_⟩ .nil))
    · exact ⟨rfl, rfl, rfl, rfl, rfl, Or.inl rfl, Or.inl rfl, by decide⟩
    · exact ⟨rfl, rfl, rfl, rfl, rfl, Or.inr (Or.inl rfl), Or.inr rfl, by decide⟩
    · exact ⟨rfl, rfl, rfl, rfl, rfl,
        Or.inr (Or.inr ⟨⟨_, rfl, by decide⟩, Or.inr rfl, Or.inl rfl⟩), Or.inr rfl, by decide⟩
  indexes_eq := rfl
  constraints_eq := by decide
  attributes := by decide

/-- A schema with additions of every kind compiles to the statements of the one without. -/
theorem CreateTable.ofSchema_eq_of_alike_adorned :
    TableSchema.adorned.Alike Dialect.strict .unadorned ∧
      TableSchema.adorned ≠ .unadorned ∧
      CreateTable.ofSchema Dialect.strict Dialect.strict.quotes.quoter "t" .adorned =
        CreateTable.ofSchema Dialect.strict Dialect.strict.quotes.quoter "t" .unadorned :=
  ⟨TableSchema.adorned_alike, by decide,
    CreateTable.ofSchema_eq_of_alike TableSchema.adorned_alike Dialect.strict.quotes.quoter "t"⟩

end TableDdl
