import TableDdl.Proofs.Repetition
import TableDdl.Proofs.Schema.Field

/-!
# Every member of a field is accounted for

The fields of a schema, member by member.  Repeated keys are resolved first, in the map of the
fields and in the object of each field.  Then

* `Field.TypedPart`: one of the eight typed parts, given by the value under its key;
* `Field.HasMembers`: a field whose typed parts and attributes are all that its members say;
* `Field.Accounts`: the entry of a field, which may also be the name of a type;
* `TableSchema.AccountsFor`: what a text says about the fields of the schema that is read from it,
  and that the schema is also read from a text in which the repetitions are resolved.
-/

namespace TableDdl

open Json Text

/-! ## What a value stands for -/

namespace Json

def IsText (j : Json) (s : String) : Prop :=
  j = .scalar (.text s)

def IsTruth (j : Json) (b : Bool) : Prop :=
  j = .scalar (.boolean b)

/-- A whole number from 0 up to what 32 bits hold. -/
def IsCount (j : Json) (n : UInt32) : Prop :=
  ∃ word : Int64, j = .scalar (.integer word) ∧ word.toInt = n.toNat

/-- The name of a key; the case of ASCII letters does not matter. -/
def IsMark (j : Json) (mark : KeyMark) : Prop :=
  ∃ s, j = .scalar (.text s) ∧ (mark = .primary ↔ lowerAscii s = "primary")

/-- A scalar as it is, or an object in which an expression stands under `raw`, once. -/
inductive IsDefault : Json → DefaultValue → Prop where
  | literal (v : Scalar) : IsDefault (.scalar v) (.literal v)
  | raw {members : List (String × Json)} {sql : String}
      (mem : ("raw", .scalar (.text sql)) ∈ members)
      (once : (members.map Prod.fst).count "raw" = 1) : IsDefault (.object members) (.raw sql)

def isScalar : Json → Bool
  | scalar _ => true
  | _ => false

variable {j : Json}

theorem isText_of_string? {s : String} (h : j.string? = some s) : j.IsText s := by
  cases j with
  | scalar v =>
    cases v with
    | text t =>
      cases h
      rfl
    | _ => cases h
  | _ => cases h

theorem isTruth_of_boolean? {b : Bool} (h : j.boolean? = some b) : j.IsTruth b := by
  cases j with
  | scalar v =>
    cases v with
    | boolean t =>
      cases h
      rfl
    | _ => cases h
  | _ => cases h

theorem isCount_of_uint32? {n : UInt32} (h : j.uint32? = some n) : j.IsCount n := by
  cases j with
  | scalar v =>
    cases v with
    | integer word =>
      unfold uint32? at h
      simp only at h
      split at h
      · next hrange =>
        cases h
        refine ⟨word, rfl, ?_⟩
        have hsize : word.toInt.toNat < UInt32.size := (Int.toNat_lt hrange.1).2 hrange.2
        rw [UInt32.toNat_ofNat_of_lt' hsize, Int.toNat_of_nonneg hrange.1]
      · cases h
    | _ => cases h
  | _ => cases h

/-- What is read as the mark of a key is a text, known or not. -/
theorem isMark_of_ofJson? {mark : KeyMark} (h : KeyMark.ofJson? j = some mark) : j.IsMark mark := by
  rcases Option.map_eq_some_iff.1 h with ⟨s, hs, rfl⟩
  refine ⟨s, isText_of_string? hs, ?_⟩
  have hlower : lowerAscii "primary" = "primary" := by decide
  unfold KeyMark.ofText sameIgnoringCase
  rw [hlower]
  split <;> simp_all

/-- What is read as a default is a scalar or a raw text. -/
theorem isDefault_of_ofJson? {value : DefaultValue} (h : DefaultValue.ofJson? j = some value) :
    j.IsDefault value := by
  cases j with
  | scalar v =>
    cases h
    exact .literal v
  | array items => cases h
  | object members =>
    rcases Option.map_eq_some_iff.1 h with ⟨sql, hsql, rfl⟩
    rcases Option.bind_eq_some_iff.1 hsql with ⟨j, hj, hs⟩
    have hsingle := Option.join_eq_some_iff.1 hj
    have htext : j = .scalar (.text sql) := isText_of_string? hs
    exact .raw (htext ▸ mem_of_single?_key hsingle) (count_of_single? hsingle)

end Json

/-! ## Fields -/

namespace Field

/-- `TypedPart Means members key part`: the part is there if a value stands under the key that is
not null, and then it is what this value means. -/
inductive TypedPart {α : Type} (Means : Json → α → Prop) (members : List (String × Json))
    (key : String) : Option α → Prop where
  | missing (absent : key ∉ members.map Prod.fst) : TypedPart Means members key none
  | null (mem : (key, .scalar .null) ∈ members) : TypedPart Means members key none
  | present {j : Json} {a : α} (mem : (key, j) ∈ members) (ne_null : j ≠ .scalar .null)
      (means : Means j a) : TypedPart Means members key (some a)

/-- A part that was read says what its member says, and is missing where there is none. -/
theorem TypedPart.of_read {α : Type} {Means : Json → α → Prop} {members : List (String × Json)}
    {key : String} {read : Json → Option α} {part : Option α}
    (hread : ∀ {j a}, read j = some a → Means j a)
    (h : (single? [key] members).bind (optional? read) = some part) :
    TypedPart Means members key part := by
  rcases Option.bind_eq_some_iff.1 h with ⟨found, hfound, hpart⟩
  unfold optional? at hpart
  split at hpart
  · cases hpart
    exact .missing (not_mem_of_single? hfound)
  · cases hpart
    exact .null (mem_of_single?_key hfound)
  · next j hne =>
    rcases Option.map_eq_some_iff.1 hpart with ⟨a, ha, rfl⟩
    refine .present (mem_of_single?_key hfound) ?_ (hread ha)
    rintro rfl
    exact hne rfl

/-- A field that holds what its members say, and nothing else: the typed parts, and as attributes
the other members that are scalars, in their order. -/
structure HasMembers (members : List (String × Json)) (f : Field) : Prop where
  name : TypedPart IsText members "name" f.name
  typeName : TypedPart IsText members "type" f.typeName
  length : TypedPart IsCount members "length" f.length
  precision : TypedPart IsCount members "precision" f.precision
  defaultValue : TypedPart IsDefault members "default" f.defaultValue
  nullable : TypedPart IsTruth members "null" f.nullable
  key : TypedPart IsMark members "key" f.key
  nativeType : TypedPart IsText members "use" f.nativeType
  attributes : (f.attributes.entries.map fun entry => (entry.1, Json.scalar entry.2)) =
    members.filter fun member => !typedKeys.contains member.1 && member.2.isScalar
  /-- Only arrays and objects are left out. -/
  dropped : ∀ member ∈ members, member.1 ∉ typedKeys → member.1 ∉ f.attributes.keys →
    (∃ items, member.2 = .array items) ∨ ∃ others, member.2 = .object others

/-- What the entry of a field says: the name of its type, or all of its members. -/
inductive Accounts : Json → Field → Prop where
  | type (s : String) : Accounts (.scalar (.text s)) { typeName := some s }
  | object {members : List (String × Json)} {f : Field} (hasMembers : f.HasMembers members) :
      Accounts (.object members) f

variable {members : List (String × Json)} {f : Field}

/-- Of the other members just the scalars are kept. -/
theorem map_filterMap_scalar? (others : List (String × Json)) :
    (others.filterMap fun entry => (scalar? entry.2).map fun value => (entry.1, value)).map
      (fun entry => (entry.1, Json.scalar entry.2)) =
      others.filter fun member => member.2.isScalar := by
  induction others with
  | nil => rfl
  | cons member others ih =>
    rcases member with ⟨key, j⟩
    cases j with
    | scalar v =>
      have hsome : (Json.scalar v).scalar? = some v := rfl
      have hscalar : (Json.scalar v).isScalar = true := rfl
      simp [hsome, hscalar, ih]
    | array items =>
      have hnone : (Json.array items).scalar? = none := rfl
      have hother : (Json.array items).isScalar = false := rfl
      simp [hnone, hother, ih]
    | object members =>
      have hnone : (Json.object members).scalar? = none := rfl
      have hother : (Json.object members).isScalar = false := rfl
      simp [hnone, hother, ih]

/-- If no key is repeated, the attributes are the members that are scalars and no typed parts. -/
theorem ReadFrom.map_attributes (h : f.ReadFrom members) (hnodup : (members.map Prod.fst).Nodup) :
    (f.attributes.entries.map fun entry => (entry.1, Json.scalar entry.2)) =
      members.filter fun member => !typedKeys.contains member.1 && member.2.isScalar := by
  -- Without repetitions the map of the other members is their list.
  have hothers : ((members.filter fun member => !typedKeys.contains member.1).map
      Prod.fst).Nodup := hnodup.sublist (List.filter_sublist.map Prod.fst)
  rw [h.attributes]
  unfold OrderedMap.filterMap
  simp only
  rw [OrderedMap.entries_ofList hothers, map_filterMap_scalar?, List.filter_filter]
  simp only [Bool.and_comm]

/-- Every member of a field that was read is accounted for. -/
theorem HasMembers.of_readFrom (h : f.ReadFrom members) (hnodup : (members.map Prod.fst).Nodup) :
    f.HasMembers members where
  name := .of_read isText_of_string? h.name
  typeName := .of_read isText_of_string? h.typeName
  length := .of_read isCount_of_uint32? h.length
  precision := .of_read isCount_of_uint32? h.precision
  defaultValue := .of_read isDefault_of_ofJson? h.defaultValue
  nullable := .of_read isTruth_of_boolean? h.nullable
  key := .of_read isMark_of_ofJson? h.key
  nativeType := .of_read isText_of_string? h.nativeType
  attributes := h.map_attributes hnodup
  dropped := by
    rintro ⟨key, j⟩ hmember htyped hkey
    cases j with
    | scalar v =>
      -- A scalar is among the attributes, under its key.
      have hkept : (key, Json.scalar v) ∈
          members.filter fun member => !typedKeys.contains member.1 && member.2.isScalar :=
        List.mem_filter.2 ⟨hmember, by simp [htyped, isScalar]⟩
      rw [← h.map_attributes hnodup] at hkept
      rcases List.mem_map.1 hkept with ⟨entry, hentry, hsame⟩
      cases hsame
      exact absurd (List.mem_map_of_mem hentry) hkey
    | array items => exact Or.inl ⟨items, rfl⟩
    | object others => exact Or.inr ⟨others, rfl⟩

/-- The repetitions among the members of a field make no difference. -/
theorem ReadFrom.resolved (h : f.ReadFrom members) :
    f.ReadFrom (OrderedMap.ofList members).entries := by
  -- A typed part is found alone, so it is the same in the map.
  have hfound : ∀ {α : Type} {read : Json → Option α} {key : String} {part : Option α},
      (single? [key] members).bind (optional? read) = some part →
      (single? [key] (OrderedMap.ofList members).entries).bind (optional? read) = some part := by
    intro α read key part hpart
    rcases Option.bind_eq_some_iff.1 hpart with ⟨found, hsingle, hread⟩
    rw [OrderedMap.single?_entries_ofList hsingle]
    exact hread
  refine ⟨hfound h.name, hfound h.typeName, hfound h.length, hfound h.precision,
    hfound h.defaultValue, hfound h.nullable, hfound h.key, hfound h.nativeType, ?_⟩
  rw [h.attributes, ← OrderedMap.entries_ofList_filter fun key => !typedKeys.contains key,
    OrderedMap.ofList_entries]

end Field

/-! ## Resolved entries -/

/-- An entry in which the repeated keys of an object are resolved. -/
inductive Json.MembersResolved : Json → Json → Prop where
  | scalar (v : Scalar) : MembersResolved (.scalar v) (.scalar v)
  | object {members resolved : List (String × Json)} (resolves : Resolves members resolved) :
      MembersResolved (.object members) (.object resolved)

/-- Entries of fields that are resolved twice: the last entry of each name counts, and the last
value of each key in it. -/
def FieldsResolved (entries resolved : List (String × Json)) : Prop :=
  ∃ last, Resolves entries last ∧
    List.Forall₂ (fun entry entry' => entry.1 = entry'.1 ∧ entry.2.MembersResolved entry'.2)
      last resolved

namespace Field

variable {j : Json} {f : Field}

/-- An entry that was read has a resolved form, which says what the field is and gives it again. -/
theorem exists_resolved (h : ofTypeOrJson? j = some f) :
    ∃ j', j.MembersResolved j' ∧ Accounts j' f ∧ ofTypeOrJson? j' = some f := by
  cases j with
  | scalar v =>
    cases v with
    | text s =>
      cases h
      exact ⟨.scalar (.text s), .scalar _, .type s, rfl⟩
    | _ => cases h
  | array items => cases h
  | object members =>
    have hread := (ofMembers?_eq_some_iff.1 h).resolved
    exact ⟨.object (OrderedMap.ofList members).entries,
      .object (OrderedMap.resolves_ofList members),
      .object (.of_readFrom hread (OrderedMap.ofList members).nodup_keys),
      ofMembers?_eq_some_iff.2 hread⟩

end Field

/-- Entries that were read have a resolved form, which says what the fields are and gives them
again. -/
theorem exists_fieldsResolved {entries : List (String × Json)} {fields : OrderedMap Field}
    (h : OrderedMap.ofMembers? Field.ofTypeOrJson? entries = some fields) :
    ∃ resolved, FieldsResolved entries resolved ∧
      List.Forall₂ (fun entry field => entry.1 = field.1 ∧ Field.Accounts entry.2 field.2)
        resolved fields.entries ∧
      OrderedMap.ofMembers? Field.ofTypeOrJson? resolved = some fields := by
  have hpartners : List.Forall₂
      (fun entry field => ∃ entry' : String × Json,
        (entry.1 = entry'.1 ∧ entry.2.MembersResolved entry'.2) ∧
        entry'.1 = field.1 ∧ Field.Accounts entry'.2 field.2 ∧
          Field.ofTypeOrJson? entry'.2 = some field.2)
      (OrderedMap.ofList entries).entries fields.entries := by
    refine (OrderedMap.forall₂_of_ofMembers? h).imp ?_
    rintro ⟨key, j⟩ field ⟨hkey, hread⟩
    rcases Field.exists_resolved hread with ⟨j', hresolved, haccounts, hagain⟩
    exact ⟨(key, j'), ⟨rfl, hresolved⟩, hkey, haccounts, hagain⟩
  rcases exists_forall₂_of_forall₂_exists hpartners with ⟨resolved, hresolved, hfields⟩
  exact ⟨resolved, ⟨_, OrderedMap.resolves_ofList entries, hresolved⟩,
    hfields.imp fun _ _ hfield => ⟨hfield.1, hfield.2.1⟩,
    OrderedMap.ofMembers?_of_forall₂ (hfields.imp fun _ _ hfield => ⟨hfield.1, hfield.2.2⟩)⟩

/-! ## Documents -/

/-- A document around its fields: they stand under their key, or as the first item. -/
inductive Draft.HoldsFields : (Draft → Draft) → Prop where
  | object (front back : List (DraftString × Draft)) {key : DraftString}
      (key_eq : key.text? = some "fields") :
      HoldsFields fun part => .object (front ++ (key, part) :: back)
  | array (rest : List Draft) : HoldsFields fun part => .array (part :: rest)

namespace Draft

/-- Where the parts of a document are known, it holds the part under the key of the fields. -/
theorem exists_holdsFields {d part : Draft} {members : List (String × Draft)}
    (h : d.partsUnder? ["fields", "meta"] = some members) (hpart : ("fields", part) ∈ members) :
    ∃ whole, HoldsFields whole ∧ d = whole part := by
  cases d with
  | object given =>
    rcases exists_of_forall₂_of_mem (mapM_eq_some_iff.1 h) hpart with ⟨member, hmember, hread⟩
    rcases Option.map_eq_some_iff.1 hread with ⟨name, hname, hsame⟩
    cases hsame
    rcases List.append_of_mem hmember with ⟨front, back, rfl⟩
    exact ⟨_, .object front back hname, rfl⟩
  | array items =>
    unfold partsUnder? at h
    simp only at h
    split at h
    · cases h
      cases items with
      | nil => cases hpart
      | cons first rest =>
        rcases List.mem_cons.1 hpart with hfirst | hrest
        · cases hfirst
          exact ⟨_, .array rest, rfl⟩
        · -- The items behind the first stand for other parts.
          have hkey : "fields" ∈ ["meta"] := (List.of_mem_zip hrest).1
          exact absurd hkey (by decide)
    · cases h
  | _ => cases h

/-- The parts of a document, with the fields among them; any other fields take the same place. -/
theorem HoldsFields.partsUnder? {whole : Draft → Draft} (hwhole : HoldsFields whole) {part : Draft}
    {members : List (String × Draft)}
    (h : (whole part).partsUnder? ["fields", "meta"] = some members) :
    ∃ front back, members = front ++ ("fields", part) :: back ∧
      ∀ part', (whole part').partsUnder? ["fields", "meta"] =
        some (front ++ ("fields", part') :: back) := by
  cases hwhole with
  | object front back key_eq =>
    unfold Draft.partsUnder? at h ⊢
    simp only [List.mapM_append, List.mapM_cons, key_eq, Option.map_some, Option.bind_eq_bind,
      Option.bind_some] at h ⊢
    rcases Option.bind_eq_some_iff.1 h with ⟨front', hfront, h⟩
    rcases Option.bind_eq_some_iff.1 h with ⟨rest, hrest, hmembers⟩
    rcases Option.bind_eq_some_iff.1 hrest with ⟨back', hback, hcons⟩
    cases hcons
    cases hmembers
    exact ⟨front', back', rfl, fun part' => by simp [hfront, hback]⟩
  | array rest =>
    unfold Draft.partsUnder? at h ⊢
    simp only [List.length_cons, List.zip_cons_cons] at h ⊢
    split at h
    · next hlength =>
      cases h
      refine ⟨[], List.zip ["meta"] rest, rfl, fun part' => ?_⟩
      rw [if_pos hlength]
      rfl
    · cases h

end Draft

namespace TableSchema

/-- A schema is made from the entries of its fields and from its declarations. -/
theorem ofDraft?_eq_some_iff {budget : Nat} {d : Draft} {s : TableSchema} :
    ofDraft? budget d = some s ↔
      ∃ members part entries, d.partsUnder? ["fields", "meta"] = some members ∧
        single? ["fields"] members = some (some part) ∧
        part.read? (budget - 1) = some (.object entries) ∧
        OrderedMap.ofMembers? Field.ofTypeOrJson? entries = some s.fields ∧
        (single? ["meta"] members).bind (orElse? {} (Declarations.ofDraft? (budget - 1))) =
          some s.declarations := by
  unfold ofDraft? required?
  simp only [Option.bind_eq_bind, Option.bind_eq_some_iff, Option.join_eq_some_iff]
  constructor
  · rintro ⟨members, hmembers, fields, ⟨part, hpart, entries, ⟨json, hread, hobject⟩, hfields⟩,
      found, hfound, declarations, hdeclarations, hs⟩
    cases hs
    cases json with
    | scalar v => cases hobject
    | array items => cases hobject
    | object given =>
      cases hobject
      exact ⟨members, part, _, hmembers, hpart, hread, hfields, found, hfound, hdeclarations⟩
  · rintro ⟨members, part, entries, hmembers, hpart, hread, hfields, found, hfound, hdeclarations⟩
    exact ⟨members, hmembers, s.fields, ⟨part, hpart, entries, ⟨_, hread, rfl⟩, hfields⟩, found,
      hfound, s.declarations, hdeclarations, rfl⟩

/-- The fields of a schema are those that its document holds. -/
theorem exists_entries_of_holdsFields {budget : Nat} {whole : Draft → Draft} {part : Draft}
    {s : TableSchema} (hwhole : Draft.HoldsFields whole)
    (h : ofDraft? budget (whole part) = some s) :
    ∃ entries, part.read? (budget - 1) = some (.object entries) ∧
      OrderedMap.ofMembers? Field.ofTypeOrJson? entries = some s.fields := by
  rcases ofDraft?_eq_some_iff.1 h with
    ⟨members, found, entries, hmembers, hfound, hread, hfields, _⟩
  rcases hwhole.partsUnder? hmembers with ⟨front, back, rfl, _⟩
  cases eq_some_of_single? hfound (List.mem_append_right front List.mem_cons_self)
  exact ⟨entries, hread, hfields⟩

/-- Of a document that is read, the fields may be replaced by others that are read alike. -/
theorem ofDraft?_of_holdsFields {budget : Nat} {whole : Draft → Draft} {part part' : Draft}
    {s : TableSchema} {entries : List (String × Json)} (hwhole : Draft.HoldsFields whole)
    (h : ofDraft? budget (whole part) = some s)
    (hread : part'.read? (budget - 1) = some (.object entries))
    (hfields : OrderedMap.ofMembers? Field.ofTypeOrJson? entries = some s.fields) :
    ofDraft? budget (whole part') = some s := by
  rcases ofDraft?_eq_some_iff.1 h with
    ⟨members, found, _, hmembers, hfound, _, _, hdeclarations⟩
  rcases hwhole.partsUnder? hmembers with ⟨front, back, rfl, hother⟩
  refine ofDraft?_eq_some_iff.2
    ⟨_, part', entries, hother part', single?_replace List.mem_cons_self hfound, hread, hfields, ?_⟩
  rw [single?_append_cons (by decide)] at hdeclarations ⊢
  exact hdeclarations

end TableSchema

/-! ## Accounts of schemas -/

/-- What a text says about the fields of a schema: `entries` are those of the map that stands for
the fields in the document `whole part`, and `resolved` is what they come to. -/
structure TableSchema.AccountsFor (text : String) (s : TableSchema) (whole : Draft → Draft)
    (part : Draft) (entries resolved : List (String × Json)) : Prop where
  holdsFields : Draft.HoldsFields whole
  draft_eq : Draft.ofText? text = some (whole part)
  read_eq : part.read? (depthLimit - 1) = some (.object entries)
  resolves : FieldsResolved entries resolved
  /-- The fields are the resolved entries, in this order, and each has what its entry says. -/
  fields : List.Forall₂ (fun entry field => entry.1 = field.1 ∧ Field.Accounts entry.2 field.2)
    resolved s.fields.entries
  /-- The same document with the resolved entries gives the same schema. -/
  again : ∀ text' part', Draft.ofText? text' = some (whole part') →
    part'.read? (depthLimit - 1) = some (.object resolved) → TableSchema.ofText? text' = some s

namespace TableSchema

/-- Every text that is read as a schema accounts for its fields: of repeated names the last entry
counts, in the place of the first, and each field has what its entry says. -/
theorem exists_accountsFor {text : String} {s : TableSchema} (h : ofText? text = some s) :
    ∃ whole part entries resolved, AccountsFor text s whole part entries resolved := by
  rcases Option.bind_eq_some_iff.1 h with ⟨d, hd, hs⟩
  rcases ofDraft?_eq_some_iff.1 hs with ⟨members, part, entries, hmembers, hpart, hread, hfields, _⟩
  rcases Draft.exists_holdsFields hmembers (mem_of_single?_key hpart) with ⟨whole, hwhole, rfl⟩
  rcases exists_fieldsResolved hfields with ⟨resolved, hresolved, haccounts, hagain⟩
  refine ⟨whole, part, entries, resolved, hwhole, hd, hread, hresolved, haccounts, ?_⟩
  intro text' part' hd' hread'
  unfold ofText?
  rw [hd', Option.bind_some]
  exact ofDraft?_of_holdsFields hwhole hs hread' hagain

/-- A document that repeats a field, and in it keys whose values are scalars, objects and arrays. -/
def repeated : Json :=
  .object
    [("fields", .object
      [("id", .object [("type", .ofString "text"), ("length", .scalar .null)]),
        ("title", .ofString "string"),
        ("id", .object
          [("comment", .object []), ("key", .ofString "PRIMARY"), ("tags", .ofString "a"),
            ("charset", .ofString "utf8"), ("comment", .scalar .null), ("tags", .array [])])])]

/-- The last entry counts, in the first place; in it the comment is null, and there are no tags. -/
def resolvedSchema : TableSchema where
  fields := .ofList
    [("id", { key := some .primary,
              attributes := .ofList [("comment", .null), ("charset", .text "utf8")] }),
      ("title", { typeName := some "string" })]

/-- A field that is there twice, with a key in it that is there twice as well. -/
theorem exists_accountsFor_repeated :
    ofText? repeated.print = some resolvedSchema ∧
    ∃ whole part entries resolved,
      AccountsFor repeated.print resolvedSchema whole part entries resolved := by
  have h : ofText? repeated.print = some resolvedSchema := by
    unfold ofText?
    rw [Draft.ofText?_printed, Option.bind_some]
    decide +kernel
  exact ⟨h, exists_accountsFor h⟩

end TableSchema

end TableDdl
