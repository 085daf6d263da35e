import TableDdl.Proofs.Irrelevance
import TableDdl.Proofs.Json.MemberOrder
import TableDdl.Proofs.Schema.Field

/-!
# Schemas whose documents differ in the order of members

Some objects of a schema document are maps whose order counts: the fields, the indexes and the
conditions of a check.  In all others the order of the members is of no consequence:

* `Draft.SchemaReordered` relates documents that differ only in such orders, from the schema inwards:
  its parts, the parts of its declarations, fields, indexes, constraints and table attributes;
* `TableSchema.Reordered` relates schemas that differ only in the order of attributes;
* reading takes related documents to related schemas (`TableSchema.Reordered.ofDraft?`), and related
  schemas are alike for every dialect (`TableSchema.Reordered.alike`).

`TableSchema.ofText?_reordered` puts the two together.
-/

namespace TableDdl

open Json

/-! ## Looking up members -/

section Lookup

variable {α β γ δ : Type}

/-- The order of members does not matter for what is found. -/
theorem single?_of_perm {members members' : List (String × α)} (h : members.Perm members')
    (names : List String) : single? names members = single? names members' := by
  have hfound := h.filter fun member => names.contains member.1
  unfold single?
  generalize (members.filter fun member => names.contains member.1) = found at hfound ⊢
  generalize (members'.filter fun member => names.contains member.1) = found' at hfound ⊢
  -- Lists of at most one member have no other order; longer ones give nothing.
  cases found with
  | nil => rw [List.nil_perm.1 hfound]
  | cons first rest =>
    cases rest with
    | nil => rw [List.singleton_perm.1 hfound]
    | cons second rest =>
      have hlength := hfound.length_eq
      cases found' with
      | nil => cases hlength
      | cons first' rest' =>
        cases rest' with
        | nil => cases hlength
        | cons second' rest' => rfl

/-- Under any keys, both lists have no member, several, or one each with related values. -/
def Agree (R : String → α → β → Prop) (members : List (String × α))
    (members' : List (String × β)) : Prop :=
  ∀ names, Option.Rel (Option.Rel fun value value' => ∃ name ∈ names, R name value value')
    (single? names members) (single? names members')

/-- Members that are related one by one agree. -/
theorem Agree.of_forall₂ {R : String → α → β → Prop} {members : List (String × α)}
    {members' : List (String × β)}
    (h : List.Forall₂ (fun member member' => member.1 = member'.1 ∧ R member.1 member.2 member'.2)
      members members') : Agree R members members' := by
  intro names
  have hfound : List.Forall₂
      (fun member member' => ∃ name ∈ names, R name member.2 member'.2)
      (members.filter fun member => names.contains member.1)
      (members'.filter fun member => names.contains member.1) := by
    induction h with
    | nil => exact .nil
    | @cons member member' _ _ hmember _ ih =>
      rw [List.filter_cons, List.filter_cons, ← hmember.1]
      split
      · next hname => exact .cons ⟨member.1, List.contains_iff_mem.1 hname, hmember.2⟩ ih
      · exact ih
  unfold single?
  generalize (members.filter fun member => names.contains member.1) = found at hfound ⊢
  generalize (members'.filter fun member => names.contains member.1) = found' at hfound ⊢
  cases hfound with
  | nil => exact .some .none
  | cons hfirst hrest =>
    cases hrest with
    | nil => exact .some (.some hfirst)
    | cons => exact .none

theorem Agree.perm_right {R : String → α → β → Prop} {members : List (String × α)}
    {members' members'' : List (String × β)} (h : Agree R members members')
    (hperm : members'.Perm members'') : Agree R members members'' := by
  intro names
  rw [← single?_of_perm hperm]
  exact h names

/-- What is found in members that agree is related. -/
theorem Agree.required? {R : String → α → β → Prop} {members : List (String × α)}
    {members' : List (String × β)} (h : Agree R members members') (names : List String) :
    Option.Rel (fun value value' => ∃ name ∈ names, R name value value')
      (required? names members) (required? names members') := by
  have hjoin : ∀ {part : Option (Option α)} {part' : Option (Option β)},
      Option.Rel (Option.Rel fun value value' => ∃ name ∈ names, R name value value') part part' →
      Option.Rel (fun value value' => ∃ name ∈ names, R name value value') part.join
        part'.join := by
    intro part part' hpart
    cases hpart with
    | none => exact .none
    | some hvalue => exact hvalue
  exact hjoin (h names)

theorem Agree.single?_eq {members members' : List (String × α)}
    (h : Agree (fun _ value value' => value = value') members members') (names : List String) :
    single? names members = single? names members' := by
  have heq : ∀ {part part' : Option (Option α)},
      Option.Rel (Option.Rel fun value value' => ∃ name ∈ names, value = value') part part' →
      part = part' := by
    rintro _ _ (⟨⟨_, _, rfl⟩ | _⟩ | _) <;> rfl
  exact heq (h names)

/-- A part that is missing on both sides is read as the same fallback. -/
theorem orElse?_rel {T : α → β → Prop} {S : γ → δ → Prop} {fallback : γ} {fallback' : δ}
    {read : α → Option γ} {read' : β → Option δ} {part : Option α} {part' : Option β}
    (h : Option.Rel T part part') (hfallback : S fallback fallback')
    (hread : ∀ value value', T value value' → Option.Rel S (read value) (read' value')) :
    Option.Rel S (orElse? fallback read part) (orElse? fallback' read' part') := by
  cases h with
  | none => exact .some hfallback
  | some hvalue => exact hread _ _ hvalue

end Lookup

/-! ## Documents -/

namespace Draft

/-- The parts of an index in another order. -/
abbrev IndexReordered : Draft → Draft → Prop :=
  Parts ["column", "unique"] fun _ d d' => d = d'

/-- What may differ in the declarations, under each of their keys. -/
inductive DeclarationReordered : String → Draft → Draft → Prop where
  | indexes {d d' : Draft} (h : EachMember IndexReordered d d') :
      DeclarationReordered "indexes" d d'
  | constraints {d d' : Draft} (h : EachItem Shuffled d d') :
      DeclarationReordered "constraints" d d'
  | attributes {key : String} {d d' : Draft} (hkey : key ∈ ["table", "tableMetas"])
      (h : Shuffled d d') : DeclarationReordered key d d'
  | same (key : String) (d : Draft) : DeclarationReordered key d d

abbrev DeclarationsReordered : Draft → Draft → Prop :=
  Parts ["indexes", "constraints", "table"] DeclarationReordered

/-- What may differ in a schema, under each of its keys. -/
inductive SchemaPartReordered : String → Draft → Draft → Prop where
  | fields {d d' : Draft} (h : EachMember Shuffled d d') : SchemaPartReordered "fields" d d'
  | declarations {d d' : Draft} (h : DeclarationsReordered d d') : SchemaPartReordered "meta" d d'
  | same (key : String) (d : Draft) : SchemaPartReordered key d d

/-- Documents that differ only in orders of members that do not count in a schema. -/
abbrev SchemaReordered : Draft → Draft → Prop :=
  Parts ["fields", "meta"] SchemaPartReordered

namespace DeclarationReordered

variable {key : String} {d d' : Draft}

theorem of_indexes (h : DeclarationReordered key d d') (hkey : key ∈ ["indexes"]) :
    EachMember IndexReordered d d' := by
  cases h with
  | indexes h => exact h
  | constraints h => exact absurd hkey (by decide)
  | attributes hattributes h =>
    rcases List.mem_singleton.1 hkey with rfl
    exact absurd hattributes (by decide)
  | same => exact .refl d

theorem of_constraints (h : DeclarationReordered key d d') (hkey : key ∈ ["constraints"]) :
    EachItem Shuffled d d' := by
  cases h with
  | indexes h => exact absurd hkey (by decide)
  | constraints h => exact h
  | attributes hattributes h =>
    rcases List.mem_singleton.1 hkey with rfl
    exact absurd hattributes (by decide)
  | same => exact .refl d

theorem of_attributes (h : DeclarationReordered key d d') (hkey : key ∈ ["table", "tableMetas"]) :
    Shuffled d d' := by
  cases h with
  | indexes h => exact absurd hkey (by decide)
  | constraints h => exact absurd hkey (by decide)
  | attributes _ h => exact h
  | same => exact .refl d

end DeclarationReordered

namespace SchemaPartReordered

variable {key : String} {d d' : Draft}

theorem of_fields (h : SchemaPartReordered key d d') (hkey : key ∈ ["fields"]) :
    EachMember Shuffled d d' := by
  cases h with
  | fields h => exact h
  | declarations h => exact absurd hkey (by decide)
  | same => exact .refl d

theorem of_declarations (h : SchemaPartReordered key d d') (hkey : key ∈ ["meta"]) :
    DeclarationsReordered d d' := by
  cases h with
  | fields h => exact absurd hkey (by decide)
  | declarations h => exact h
  | same => exact .refl d

end SchemaPartReordered

/-- Related drafts both have no parts, or parts that agree. -/
theorem Parts.partsUnder? {keys : List String} {R : String → Draft → Draft → Prop} {d d' : Draft}
    (h : Parts keys R d d') (hrefl : ∀ key d, R key d d) :
    Option.Rel (Agree R) (d.partsUnder? keys) (d'.partsUnder? keys) := by
  cases h with
  | refl =>
    exact rel_refl (fun members =>
      .of_forall₂ (List.forall₂_same.2 fun member _ => ⟨rfl, hrefl _ _⟩)) _
  | @object members between members' values order =>
    have hbetween : Option.Rel
        (List.Forall₂ fun member member' =>
          member.1 = member'.1 ∧ R member.1 member.2 member'.2)
        (Draft.partsUnder? keys (.object members)) (Draft.partsUnder? keys (.object between)) := by
      refine rel_mapM (values.imp ?_)
      rintro ⟨key, value⟩ ⟨_, value'⟩ ⟨rfl, hvalue⟩
      cases hkey : key.text? with
      | none => exact .none
      | some name => exact .some ⟨rfl, hvalue name hkey⟩
    -- The keys are read one by one, so the order of the members is the order of the parts.
    have hperm : Option.Rel List.Perm (Draft.partsUnder? keys (.object between))
        (Draft.partsUnder? keys (.object members')) := perm_mapM order
    exact rel_trans (fun _ _ _ hvalues horder => (Agree.of_forall₂ hvalues).perm_right horder)
      hbetween hperm
  | @array items items' length values =>
    unfold Draft.partsUnder?
    simp only
    rw [length]
    split
    · exact .some (.of_forall₂ values)
    · exact .none

end Draft

/-! ## Fields -/

structure Field.Reordered (f g : Field) : Prop where
  typed_eq : { f with attributes := g.attributes } = g
  attributes : f.attributes.entries.Perm g.attributes.entries

namespace Field

/-- Every field is a reordering of itself. -/
theorem Reordered.refl (f : Field) : Reordered f f :=
  ⟨rfl, List.Perm.refl _⟩

/-- The order of attributes is nothing that a compiled table depends on. -/
theorem Reordered.alike {f g : Field} (h : Reordered f g) (d : Dialect) : Alike d f g where
  typeName_eq := (congrArg typeName h.typed_eq :)
  length_eq := (congrArg length h.typed_eq :)
  precision_eq := (congrArg precision h.typed_eq :)
  nativeType_eq := (congrArg nativeType h.typed_eq :)
  isPrimary_eq := (congrArg isPrimary h.typed_eq :)
  default_alike := Or.inr (Or.inl (congrArg defaultValue h.typed_eq :))
  nullable_alike := Or.inr (congrArg nullable h.typed_eq :)
  attributes := h.attributes.filter _

def attributesOf (members : List (String × Json)) : OrderedMap Scalar :=
  (OrderedMap.ofList (members.filter fun member => !typedKeys.contains member.1)).filterMap scalar?

/-- The attributes of reordered members are the same, up to their order. -/
theorem attributesOf_perm {members members' : List (String × Json)} (h : members.Perm members')
    (hnodup : (members.map Prod.fst).Nodup) :
    (attributesOf members).entries.Perm (attributesOf members').entries := by
  have hothers := h.filter fun member => !typedKeys.contains member.1
  have hdistinct : ((members.filter fun member => !typedKeys.contains member.1).map
      Prod.fst).Nodup := hnodup.sublist (List.filter_sublist.map Prod.fst)
  have hdistinct' := (hothers.map Prod.fst).nodup_iff.1 hdistinct
  unfold attributesOf OrderedMap.filterMap
  simp only
  rw [OrderedMap.entries_ofList hdistinct, OrderedMap.entries_ofList hdistinct']
  exact hothers.filterMap _

/-- The order of the members shows only in the attributes. -/
theorem ofMembers?_of_perm {members members' : List (String × Json)} (h : members.Perm members') :
    ofMembers? members' =
      (ofMembers? members).map fun f => { f with attributes := attributesOf members' } := by
  have hbind : ∀ {α : Type} {x x' : Option α} {read read' : α → Option Field}, x = x' →
      (∀ a, read' a = (read a).map fun f => { f with attributes := attributesOf members' }) →
      (x' >>= read') =
        (x >>= read).map fun f => { f with attributes := attributesOf members' } := by
    rintro α x _ read read' rfl hread
    cases x with
    | none => rfl
    | some a => exact hread a
  unfold ofMembers?
  -- Two steps for each typed part: it is looked up, then read.
  iterate 8 refine hbind (single?_of_perm h _) fun _ => hbind rfl fun _ => ?_
  rfl

/-- Reordered members are read as the same field, up to the order of its attributes. -/
theorem Reordered.ofMembers? {members members' : List (String × Json)} (h : members.Perm members')
    (hnodup : (members.map Prod.fst).Nodup) :
    Option.Rel Reordered (ofMembers? members) (ofMembers? members') := by
  rw [ofMembers?_of_perm h]
  cases hread : Field.ofMembers? members with
  | none => exact .none
  | some f =>
    have hattributes : f.attributes = attributesOf members :=
      (ofMembers?_eq_some_iff.1 hread).attributes
    refine .some ⟨rfl, ?_⟩
    simp only
    rw [hattributes]
    exact attributesOf_perm h hnodup

/-- A field whose members are in another order is read alike. -/
theorem Reordered.of_shuffled {j j' : Json} (h : j.Shuffled j') :
    Option.Rel Reordered (ofTypeOrJson? j) (ofTypeOrJson? j') := by
  cases h with
  | refl => exact rel_refl Reordered.refl _
  | object order distinct => exact Reordered.ofMembers? order distinct

end Field

/-! ## Declarations -/

/-- A constraint does not depend on the order of its members. -/
theorem Constraint.ofMembers?_of_perm {members members' : List (String × Json)}
    (h : members.Perm members') (kind : String) :
    ofMembers? kind members = ofMembers? kind members' := by
  unfold ofMembers? required?
  simp only [single?_of_perm h]

/-- The kind of a constraint may come after the members that it decides about. -/
theorem Constraint.ofJson?_of_shuffled {j j' : Json} (h : j.Shuffled j') :
    ofJson? j = ofJson? j' := by
  cases h with
  | refl => rfl
  | object order =>
    simp only [ofJson?, required?, single?_of_perm order, ofMembers?_of_perm order]

/-- Constraints do not depend on the order of their members, but on their own. -/
theorem Constraint.items?_of_eachItem {j j' : Json} (h : j.EachItem Json.Shuffled j') :
    (j.array?.bind fun items => items.mapM ofJson?) =
      j'.array?.bind fun items => items.mapM ofJson? := by
  cases h with
  | refl => rfl
  | array values =>
    simp only [Json.array?, Option.bind_some]
    induction values with
    | nil => rfl
    | cons hitem _ ih => rw [List.mapM_cons, List.mapM_cons, ofJson?_of_shuffled hitem, ih]

/-- The attributes of a table are the same, up to their order. -/
theorem OrderedMap.scalars?_of_shuffled {j j' : Json} (h : j.Shuffled j') :
    Option.Rel (fun m m' => m.entries.Perm m'.entries)
      (j.object?.bind (ofMembers? Json.scalar?)) (j'.object?.bind (ofMembers? Json.scalar?)) := by
  cases h with
  | refl => exact rel_refl (fun m => List.Perm.refl m.entries) _
  | object order distinct => exact perm_ofMembers? order distinct

/-- An index does not depend on the order of its members. -/
theorem Index.ofDraft?_eq {d d' : Draft} (h : d.IndexReordered d') (budget : Nat) :
    ofDraft? budget d = ofDraft? budget d' := by
  unfold ofDraft? required?
  refine bind_eq_of_rel (h.partsUnder? fun _ _ => rfl) fun members members' hagree => ?_
  simp only [hagree.single?_eq]

/-- Two declarations that differ at most in the order of the attributes. -/
structure Declarations.Reordered (d d' : Declarations) : Prop where
  indexes_eq : d.indexes = d'.indexes
  constraints_eq : d.constraints = d'.constraints
  attributes : d.attributes.entries.Perm d'.attributes.entries

namespace Declarations

theorem Reordered.refl (d : Declarations) : Reordered d d :=
  ⟨rfl, rfl, List.Perm.refl _⟩

theorem indexesOfDraft?_eq {d d' : Draft} (h : d.EachMember Draft.IndexReordered d')
    (budget : Nat) : indexesOfDraft? budget d = indexesOfDraft? budget d' := by
  cases h with
  | refl => rfl
  | @object members members' values =>
    have hnamed : Option.Rel
        (List.Forall₂ fun member member' =>
          member.1 = member'.1 ∧ Draft.IndexReordered member.2 member'.2)
        (members.mapM fun member => member.1.text?.map fun name => (name, member.2))
        (members'.mapM fun member => member.1.text?.map fun name => (name, member.2)) := by
      refine rel_mapM (values.imp ?_)
      rintro ⟨key, value⟩ ⟨_, value'⟩ ⟨rfl, hvalue⟩
      exact rel_map (rel_refl (fun _ => rfl) _) fun _ _ hname => ⟨hname, hvalue⟩
    refine bind_eq_of_rel hnamed fun named named' hvalues => ?_
    exact OrderedMap.ofMembers?_congr
      (hvalues.imp fun _ _ hmember => ⟨hmember.1, Index.ofDraft?_eq hmember.2 _⟩)

/-- Declarations are read alike, up to the order of the attributes of the table. -/
theorem Reordered.ofDraft? {d d' : Draft} (h : d.DeclarationsReordered d') (budget : Nat) :
    Option.Rel Reordered (ofDraft? budget d) (ofDraft? budget d') := by
  refine rel_bind (h.partsUnder? .same) fun members members' hagree => ?_
  -- Each part is looked up, then read.  The order of the indexes counts, so they are the same.
  refine rel_bind (hagree _) fun part part' hpart => ?_
  refine rel_bind (R := fun indexes indexes' => indexes = indexes') (orElse?_rel hpart rfl ?_) ?_
  · rintro value value' ⟨name, hname, hvalue⟩
    rw [indexesOfDraft?_eq (hvalue.of_indexes hname)]
    exact rel_refl (fun _ => rfl) _
  rintro indexes _ rfl
  -- Neither is there another order of the constraints, only of the members of each.
  refine rel_bind (hagree _) fun part part' hpart => ?_
  refine rel_bind (R := fun constraints constraints' => constraints = constraints')
    (orElse?_rel hpart rfl ?_) ?_
  · rintro value value' ⟨name, hname, hvalue⟩
    rw [Option.bind_assoc, Option.bind_assoc,
      bind_eq_of_rel ((hvalue.of_constraints hname).read? _ fun budget _ _ h => h.read? budget)
        fun _ _ => Constraint.items?_of_eachItem]
    exact rel_refl (fun _ => rfl) _
  rintro constraints _ rfl
  -- The attributes of the table are a map that keeps the order of the members.
  refine rel_bind (hagree _) fun part part' hpart => ?_
  refine rel_bind (R := fun attributes attributes' => attributes.entries.Perm attributes'.entries)
    (orElse?_rel hpart (List.Perm.refl _) ?_) fun attributes attributes' hperm => ?_
  · rintro value value' ⟨name, hname, hvalue⟩
    rw [Option.bind_assoc, Option.bind_assoc]
    exact rel_bind ((hvalue.of_attributes hname).read? _)
      fun _ _ => OrderedMap.scalars?_of_shuffled
  exact .some ⟨rfl, rfl, hperm⟩

end Declarations

/-! ## Schemas -/

/-- The same columns in the same order, whose fields differ at most in the order of attributes. -/
def TableSchema.FieldsReordered (m m' : OrderedMap Field) : Prop :=
  List.Forall₂ (fun entry entry' => entry.1 = entry'.1 ∧ entry.2.Reordered entry'.2) m.entries
    m'.entries

/-- Two schemas that differ at most in the order of attributes, of the fields or of the table. -/
structure TableSchema.Reordered (s s' : TableSchema) : Prop where
  fields : FieldsReordered s.fields s'.fields
  declarations : s.declarations.Reordered s'.declarations

namespace TableSchema

theorem FieldsReordered.refl (m : OrderedMap Field) : FieldsReordered m m :=
  List.forall₂_same.2 fun entry _ => ⟨rfl, .refl entry.2⟩

/-- The fields are read alike one by one. -/
theorem FieldsReordered.ofMembers? {j j' : Json} (h : j.EachMember Json.Shuffled j') :
    Option.Rel FieldsReordered (j.object?.bind (OrderedMap.ofMembers? Field.ofTypeOrJson?))
      (j'.object?.bind (OrderedMap.ofMembers? Field.ofTypeOrJson?)) := by
  cases h with
  | refl => exact rel_refl FieldsReordered.refl _
  | object values =>
    exact OrderedMap.rel_ofMembers?
      (values.imp fun _ _ hmember => ⟨hmember.1, Field.Reordered.of_shuffled hmember.2⟩)

/-- Reordered schemas are read alike. -/
theorem Reordered.ofDraft? {d d' : Draft} (h : d.SchemaReordered d') (budget : Nat) :
    Option.Rel Reordered (ofDraft? budget d) (ofDraft? budget d') := by
  refine rel_bind (h.partsUnder? .same) fun members members' hagree => ?_
  -- A schema without fields is refused, and one without declarations has empty ones.
  refine rel_bind (R := FieldsReordered) (rel_bind (hagree.required? _) ?_)
    fun fields fields' hfields => ?_
  · rintro value value' ⟨name, hname, hvalue⟩
    rw [Option.bind_assoc, Option.bind_assoc]
    exact rel_bind ((hvalue.of_fields hname).read? _ fun budget _ _ h => h.read? budget)
      fun _ _ => FieldsReordered.ofMembers?
  refine rel_bind (hagree _) fun part part' hpart => ?_
  refine rel_bind (orElse?_rel hpart (.refl {}) ?_)
    fun declarations declarations' hdeclarations => .some ⟨hfields, hdeclarations⟩
  rintro value value' ⟨name, hname, hvalue⟩
  exact Declarations.Reordered.ofDraft? (hvalue.of_declarations hname) _

/-- Schemas that differ in such an order alone compile alike. -/
theorem Reordered.alike {s s' : TableSchema} (h : Reordered s s') (d : Dialect) :
    s.Alike d s' where
  fields := h.fields.imp fun _ _ hentry => ⟨hentry.1, hentry.2.alike d⟩
  indexes_eq := h.declarations.indexes_eq
  constraints_eq := by rw [h.declarations.constraints_eq]
  attributes := h.declarations.attributes.filter _

/-- The order of attributes has no influence on the statements, nor on what is wrong if there are
none. -/
theorem Reordered.createTable_eq {s s' : TableSchema} (h : Reordered s s') (d : Dialect)
    (q : Quoter) (table : String) :
    CreateTable.ofSchema d q table s = CreateTable.ofSchema d q table s' := by
  have halike := h.alike d
  unfold CreateTable.ofSchema
  rw [halike.isEmpty_eq, halike.columns_eq, halike.indexes_eq,
    AttributeTable.collect_eq_of_alike halike.attributes]
  simp only [halike.items_eq]

/-- The order of members does not count where it carries no order of the table: two texts that
differ in nothing else are both refused, or give schemas that differ only in the order of attributes
and compile to the same under every dialect. -/
theorem ofText?_reordered {text text' : String} {d d' : Draft} (hd : Draft.ofText? text = some d)
    (hd' : Draft.ofText? text' = some d') (h : d.SchemaReordered d') :
    Option.Rel
      (fun s s' => s.Reordered s' ∧ ∀ (dialect : Dialect) (q : Quoter) (table : String),
        CreateTable.ofSchema dialect q table s = CreateTable.ofSchema dialect q table s')
      (ofText? text) (ofText? text') := by
  unfold ofText?
  rw [hd, hd', Option.bind_some, Option.bind_some]
  exact rel_imp (Reordered.ofDraft? h Json.depthLimit) fun s s' hreordered =>
    ⟨hreordered, hreordered.createTable_eq⟩

/-- A document with every kind of object whose members may change places. -/
def ordered : Json :=
  .object
    [("fields", .object
      [("id", .object [("type", .ofString "integer"), ("key", .ofString "primary")]),
        ("title", .object
          [("type", .ofString "string"), ("comment", .ofString "a"), ("charset", .ofString "utf8")])]),
      ("meta", .object
        [("indexes", .object
          [("by_title", .object
            [("column", .ofString "title"), ("unique", .scalar (.boolean true))])]),
          ("constraints", .array
            [.object [("type", .ofString "check"), ("expr", .ofString "id > 0")]]),
          ("table", .object [("engine", .ofString "InnoDB"), ("charset", .ofString "utf8")])])]

def reversed : Json :=
  .object
    [("meta", .object
      [("table", .object [("charset", .ofString "utf8"), ("engine", .ofString "InnoDB")]),
        ("constraints", .array
          [.object [("expr", .ofString "id > 0"), ("type", .ofString "check")]]),
        ("indexes", .object
          [("by_title", .object
            [("unique", .scalar (.boolean true)), ("column", .ofString "title")])])]),
      ("fields", .object
        [("id", .object [("key", .ofString "primary"), ("type", .ofString "integer")]),
          ("title", .object
            [("charset", .ofString "utf8"), ("comment", .ofString "a"), ("type", .ofString "string")])])]

/-- All members of one are in reverse order in the other. -/
theorem ordered_schemaReordered : ordered.draft.SchemaReordered reversed.draft := by
  have hpair : ∀ {α : Type} (x y : α), [x, y].Perm [y, x] := fun x y => .swap y x []
  have htriple : ∀ {α : Type} (x y z : α), [x, y, z].Perm [z, y, x] :=
    fun x y z => List.reverse_perm [z, y, x]
  refine .of_object ?_ (hpair _ _)
  refine .cons ⟨rfl, .fields (.of_object ?_)⟩ (.cons ⟨rfl, .declarations ?_⟩ .nil)
  · exact .cons ⟨rfl, .of_object (hpair _ _) (by decide)⟩
      (.cons ⟨rfl, .of_object (htriple _ _ _) (by decide)⟩ .nil)
  · refine .of_object ?_ (htriple _ _ _)
    refine .cons ⟨rfl, .indexes (.of_object (.cons ⟨rfl, ?_⟩ .nil))⟩
      (.cons ⟨rfl, .constraints (.array (.cons ?_ .nil))⟩
        (.cons ⟨rfl, .attributes (by decide) ?_⟩ .nil))
    · refine .of_object ?_ (hpair _ _)
      exact .cons ⟨rfl, rfl⟩ (.cons ⟨rfl, rfl⟩ .nil)
    · exact .of_object (hpair _ _) (by decide)
    · exact .of_object (hpair _ _) (by decide)

/-- A schema with members in every place, and the same with all of them in reverse. -/
theorem ofText?_reordered_reversed :
    (ofText? ordered.print).isSome = true ∧
    Option.Rel
      (fun s s' => s.Reordered s' ∧ ∀ (dialect : Dialect) (q : Quoter) (table : String),
        CreateTable.ofSchema dialect q table s = CreateTable.ofSchema dialect q table s')
      (ofText? ordered.print) (ofText? reversed.print) :=
  ⟨by
    unfold ofText?
    rw [Draft.ofText?_printed, Option.bind_some]
    decide +kernel,
   ofText?_reordered (Draft.ofText?_printed ordered) (Draft.ofText?_printed reversed)
    ordered_schemaReordered⟩

end TableSchema

end TableDdl
