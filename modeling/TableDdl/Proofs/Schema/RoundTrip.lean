import TableDdl.Proofs.Schema.Field

/-!
# Schemas as text

* `TableSchema.WellFormed`: the schemas that a text can describe;
* `TableSchema.ofDraft?_toJson`: a well-formed schema is what its document describes;
* `TableSchema.wellFormed_of_ofText?`: a schema that a text describes is well-formed;
* `TableSchema.ofText?_print`: the text of a schema describes it exactly if it is well-formed.

The outer layers are read from drafts, so they are followed through the drafts of their documents;
from the fields and constraints on inwards `Draft.read?_draft` takes over.
-/

namespace TableDdl

open Json

structure Declarations.WellFormed (d : Declarations) : Prop where
  constraints : ∀ c ∈ d.constraints, c.WellFormed
  attributes : ∀ entry ∈ d.attributes.entries, entry.2.IsStorable

/-- A schema that a document can hold: no attribute of a field goes by the name of a typed part, no
default is null, and no number is infinite or undefined. -/
structure TableSchema.WellFormed (s : TableSchema) : Prop where
  fields : ∀ entry ∈ s.fields.entries, entry.2.WellFormed
  declarations : s.declarations.WellFormed

/-! ## Drafts of objects -/

namespace Json

theorem mapM_text?_memberDrafts (members : List (String × Json)) :
    (memberDrafts members).mapM (fun member => member.1.text?.map fun key => (key, member.2)) =
      some (members.map fun member => (member.1, member.2.draft)) := by
  rw [memberDrafts_eq_map, mapM_eq_some_iff, List.forall₂_map_left_iff, List.forall₂_map_right_iff,
    List.forall₂_same]
  intro member _
  rw [DraftString.text?_unitsOf]
  rfl

theorem eq_object_of_object? {j : Json} {members : List (String × Json)}
    (h : j.object? = some members) : j = .object members := by
  cases j with
  | scalar v => cases h
  | array items => cases h
  | object given =>
    cases h
    rfl

theorem eq_array_of_array? {j : Json} {items : List Json} (h : j.array? = some items) :
    j = .array items := by
  cases j with
  | scalar v => cases h
  | array given =>
    cases h
    rfl
  | object members => cases h

end Json

namespace Draft

/-- The parts of a printed object are its members. -/
theorem partsUnder?_draft (keys : List String) (members : List (String × Json)) :
    (Json.object members).draft.partsUnder? keys =
      some (members.map fun member => (member.1, member.2.draft)) := by
  rw [Json.draft, partsUnder?]
  exact mapM_text?_memberDrafts members

/-- What storing does not change is read back as it is. -/
theorem read?_draft_of_stored {budget : Nat} {j : Json} (hfits : FitsIn budget j)
    (hj : j.stored = j) : read? budget j.draft = some j :=
  (read?_draft hfits).trans (congrArg some hj)

/-- Nothing is lost of the members of an object that was read. -/
theorem stored_of_object? {budget : Nat} {d : Draft} {members : List (String × Json)}
    (h : (read? budget d).bind object? = some members) :
    ∀ member ∈ members, member.2.stored = member.2 := by
  rcases Option.bind_eq_some_iff.1 h with ⟨j, hj, hobject⟩
  cases eq_object_of_object? hobject
  exact stored_object_iff.1 (stored_of_read? budget d hj)

end Draft

/-! ## Indexes -/

/-- An index is read from what is written of it. -/
theorem Index.ofDraft?_toJson (budget : Nat) (index : Index) :
    ofDraft? (budget + 2) index.toJson.draft = some index := by
  have hcolumns := Draft.read?_draft_of_stored (index.columns.fitsIn_toJson budget)
    index.columns.stored_toJson
  have hunique : Draft.read? (budget + 1) (Json.scalar (.boolean index.unique)).draft =
      some (.scalar (.boolean index.unique)) := Draft.read?_draft_of_stored (.scalar _) rfl
  unfold ofDraft? toJson
  rw [Draft.partsUnder?_draft]
  simp [required?, single?, orElse?, hcolumns, hunique, ColumnNames.ofJson?_toJson, boolean?]

/-! ## Declarations -/

namespace Declarations

theorem indexesOfDraft?_toJson (budget : Nat) (indexes : OrderedMap Index) :
    indexesOfDraft? (budget + 3) (indexes.toJson Index.toJson).draft = some indexes := by
  have hindexes := OrderedMap.ofMembers?_map (Index.ofDraft? (budget + 2))
    (fun index => index.toJson.draft) indexes fun entry _ => entry.2.ofDraft?_toJson budget
  unfold OrderedMap.toJson
  rw [Json.draft, indexesOfDraft?, mapM_text?_memberDrafts]
  simpa [Function.comp_def] using hindexes

/-- Declarations that can be stored are read from what is written of them. -/
theorem ofDraft?_toJson (budget : Nat) {d : Declarations} (h : d.WellFormed) :
    ofDraft? (budget + 5) d.toJson.draft = some d := by
  -- The three lists are always there; each is read on its own.
  have hindexes := indexesOfDraft?_toJson (budget + 1) d.indexes
  have hconstraints : Draft.read? (budget + 4) (Json.array (d.constraints.map Constraint.toJson)).draft =
      some (.array (d.constraints.map Constraint.toJson)) := by
    refine Draft.read?_draft_of_stored (.array ?_) (stored_array_iff.2 ?_)
    · intro item hitem
      rcases List.mem_map.1 hitem with ⟨c, _, rfl⟩
      exact c.fitsIn_toJson budget
    · intro item hitem
      rcases List.mem_map.1 hitem with ⟨c, hc, rfl⟩
      exact Constraint.stored_toJson (h.constraints c hc)
  have hread : (d.constraints.map Constraint.toJson).mapM Constraint.ofJson? =
      some d.constraints := by
    rw [mapM_eq_some_iff, List.forall₂_map_left_iff, List.forall₂_same]
    exact fun c _ => c.ofJson?_toJson
  have hattributes : Draft.read? (budget + 4) (d.attributes.toJson .scalar).draft =
      some (d.attributes.toJson .scalar) := by
    refine Draft.read?_draft_of_stored ?_ ?_
    · exact d.attributes.fitsIn_toJson fun v => .scalar v
    · exact OrderedMap.stored_toJson fun entry hentry =>
        stored_scalar_iff.2 (h.attributes entry hentry)
  have hentries := OrderedMap.ofMembers?_map scalar? .scalar d.attributes fun _ _ => rfl
  unfold ofDraft? toJson
  rw [Draft.partsUnder?_draft]
  simp [single?, orElse?, hindexes, hconstraints, hread, hattributes, array?]
  simp [OrderedMap.toJson, object?, hentries]

/-- Only constraints and attributes hold scalars. -/
theorem wellFormed_of_ofDraft? {budget : Nat} {draft : Draft} {d : Declarations}
    (h : ofDraft? budget draft = some d) : d.WellFormed := by
  unfold ofDraft? at h
  obtain ⟨members, _, h⟩ := Option.bind_eq_some_iff.1 h
  obtain ⟨_, _, h⟩ := Option.bind_eq_some_iff.1 h
  obtain ⟨indexes, _, h⟩ := Option.bind_eq_some_iff.1 h
  obtain ⟨constraintsPart, _, h⟩ := Option.bind_eq_some_iff.1 h
  obtain ⟨constraints, hconstraints, h⟩ := Option.bind_eq_some_iff.1 h
  obtain ⟨attributesPart, _, h⟩ := Option.bind_eq_some_iff.1 h
  obtain ⟨attributes, hattributes, hd⟩ := Option.bind_eq_some_iff.1 h
  cases hd
  refine ⟨?_, ?_⟩
  · intro c hc
    cases constraintsPart with
    | none =>
      -- A list that is missing is empty.
      cases hconstraints
      cases hc
    | some part =>
      rcases Option.bind_eq_some_iff.1 hconstraints with ⟨items, hitems, hread⟩
      rcases Option.bind_eq_some_iff.1 hitems with ⟨j, hj, harray⟩
      cases eq_array_of_array? harray
      have hstored := stored_array_iff.1 (Draft.stored_of_read? _ part hj)
      rcases exists_of_forall₂_of_mem (mapM_eq_some_iff.1 hread) hc with ⟨item, hitem, hconstraint⟩
      exact Constraint.wellFormed_of_ofJson? hconstraint (hstored item hitem)
  · intro entry hentry
    cases attributesPart with
    | none =>
      cases hattributes
      cases hentry
    | some part =>
      rcases Option.bind_eq_some_iff.1 hattributes with ⟨given, hgiven, hread⟩
      exact OrderedMap.forall_of_ofMembers? (Draft.stored_of_object? hgiven)
        isStorable_of_scalar? hread entry hentry

end Declarations

/-! ## Schemas -/

namespace TableSchema

/-- A schema that can be stored is read from what is written of it. -/
theorem ofDraft?_toJson (budget : Nat) {s : TableSchema} (h : s.WellFormed) :
    ofDraft? (budget + 6) s.toJson.draft = some s := by
  have hfields : Draft.read? (budget + 5) (s.fields.toJson Field.toJson).draft =
      some (s.fields.toJson Field.toJson) := by
    refine Draft.read?_draft_of_stored ?_ ?_
    · exact s.fields.fitsIn_toJson (Field.fitsIn_toJson (budget + 2))
    · exact OrderedMap.stored_toJson fun entry hentry =>
        Field.stored_toJson (h.fields entry hentry)
  have hentries := OrderedMap.ofMembers?_map Field.ofTypeOrJson? Field.toJson s.fields
    fun entry hentry => Field.ofTypeOrJson?_toJson (h.fields entry hentry)
  have hdeclarations := Declarations.ofDraft?_toJson budget h.declarations
  unfold ofDraft? toJson
  rw [Draft.partsUnder?_draft]
  simp [required?, single?, orElse?, hfields, hdeclarations]
  simp [OrderedMap.toJson, object?, hentries]

theorem wellFormed_of_ofDraft? {budget : Nat} {draft : Draft} {s : TableSchema}
    (h : ofDraft? budget draft = some s) : s.WellFormed := by
  unfold ofDraft? at h
  obtain ⟨members, _, h⟩ := Option.bind_eq_some_iff.1 h
  obtain ⟨fields, hfields, h⟩ := Option.bind_eq_some_iff.1 h
  obtain ⟨declarationsPart, _, h⟩ := Option.bind_eq_some_iff.1 h
  obtain ⟨declarations, hdeclarations, hs⟩ := Option.bind_eq_some_iff.1 h
  cases hs
  refine ⟨?_, ?_⟩
  · rcases Option.bind_eq_some_iff.1 hfields with ⟨part, _, hpart⟩
    rcases Option.bind_eq_some_iff.1 hpart with ⟨given, hgiven, hread⟩
    exact OrderedMap.forall_of_ofMembers? (Draft.stored_of_object? hgiven)
      Field.wellFormed_of_ofTypeOrJson? hread
  · cases declarationsPart with
    | none =>
      cases hdeclarations
      exact ⟨nofun, nofun⟩
    | some part => exact Declarations.wellFormed_of_ofDraft? hdeclarations

theorem wellFormed_of_ofText? {text : String} {s : TableSchema} (h : ofText? text = some s) :
    s.WellFormed := by
  rcases Option.bind_eq_some_iff.1 h with ⟨draft, _, hdraft⟩
  exact wellFormed_of_ofDraft? hdraft

/-- A schema that can be stored is read back from its printed text. -/
theorem ofText?_print_of_wellFormed {s : TableSchema} (h : s.WellFormed) :
    ofText? s.toJson.print = some s := by
  unfold ofText?
  rw [Draft.ofText?_printed, Option.bind_some]
  -- Of the 127 levels that the reader allows, a schema needs no more than six.
  exact ofDraft?_toJson 121 h

/-- The text of a schema describes this schema exactly if it is well-formed, and so does the text of
every schema that came from a text. -/
theorem ofText?_print :
    (∀ s : TableSchema, ofText? s.toJson.print = some s ↔ s.WellFormed) ∧
      ∀ (text : String) (s : TableSchema), ofText? text = some s →
        ofText? s.toJson.print = some s := by
  have hiff : ∀ s : TableSchema, ofText? s.toJson.print = some s ↔ s.WellFormed :=
    fun s => ⟨wellFormed_of_ofText?, ofText?_print_of_wellFormed⟩
  refine ⟨hiff, ?_⟩
  intro text s h
  exact (hiff s).2 (wellFormed_of_ofText? h)

/-- A field with one attribute, which goes by the given name. -/
def remarked (key : String) : TableSchema :=
  addField {} "id" ((Field.ofType "increments").withAttribute key (.text "number"))

/-- The name of an attribute must not be that of a typed part. -/
theorem remarked_wellFormed_iff (key : String) :
    (remarked key).WellFormed ↔ key ∉ Field.typedKeys := by
  have hentries : (remarked key).fields.entries =
      [("id", (Field.ofType "increments").withAttribute key (.text "number"))] := rfl
  constructor
  · intro h
    have hfield := h.fields _ (hentries ▸ List.mem_singleton_self _)
    exact hfield.attributes_keys key List.mem_cons_self
  · intro hkey
    refine ⟨?_, ⟨nofun, nofun⟩⟩
    intro entry hentry
    rw [hentries] at hentry
    cases List.mem_singleton.1 hentry
    refine ⟨?_, ?_, nofun⟩
    · intro other hother
      cases List.mem_singleton.1 hother
      exact hkey
    · intro pair hpair
      cases List.mem_singleton.1 hpair
      trivial

/-- An attribute may go by any name but that of a typed part. -/
theorem ofText?_print_remarked :
    ofText? (remarked "comment").toJson.print = some (remarked "comment") ∧
      ofText? (remarked "name").toJson.print ≠ some (remarked "name") := by
  have hcomment := (remarked_wellFormed_iff "comment").2 (by decide)
  have hname := mt (remarked_wellFormed_iff "name").1 (by decide)
  exact ⟨(ofText?_print.1 _).2 hcomment, mt (ofText?_print.1 _).1 hname⟩

end TableSchema

end TableDdl
