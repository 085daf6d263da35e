import TableDdl.Proofs.Schema.Parts

/-!
# Fields and their documents

The document of a field holds its typed parts and its attributes side by side.  They can be told
apart as long as no attribute goes by the name of a typed part (`Field.WellFormed`); then every look-up
of a typed part finds this part alone (`Field.single?_members`), and what is left over are the
attributes.
-/

namespace TableDdl

open Json

/-- A field that a document can hold. -/
structure Field.WellFormed (f : Field) : Prop where
  attributes_keys : ∀ key ∈ f.attributes.keys, key ∉ Field.typedKeys
  attributes_storable : ∀ entry ∈ f.attributes.entries, entry.2.IsStorable
  defaultValue : ∀ value ∈ f.defaultValue, value.WellFormed

/-! ## Single parts -/

theorem KeyMark.ofJson?_toJson (mark : KeyMark) : ofJson? mark.toJson = some mark := by
  cases mark <;> decide

theorem Json.uint32?_ofUInt32 (n : UInt32) : uint32? (ofUInt32 n) = some n := by
  -- 32 bits fit into 64 with the sign kept, and back.
  have hlt : n.toNat < 2 ^ 63 := Nat.lt_of_lt_of_le n.toNat_lt (by decide)
  have hsize : n.toNat < UInt32.size := n.toNat_lt
  have hvalue := Int64.toInt_ofNat_of_lt hlt
  unfold ofUInt32 uint32?
  simp only
  rw [hvalue, if_pos ⟨Int.natCast_nonneg _, Int.ofNat_lt.2 hsize⟩, Int.toNat_natCast]
  simp

namespace Field

/-! ## The members of a field -/

def typedParts (f : Field) : List (String × Option Json) :=
  [("name", f.name.map ofString), ("type", f.typeName.map ofString),
    ("length", f.length.map ofUInt32), ("precision", f.precision.map ofUInt32),
    ("default", f.defaultValue.map DefaultValue.toJson),
    ("null", f.nullable.map fun b => .scalar (.boolean b)),
    ("key", f.key.map KeyMark.toJson), ("use", f.nativeType.map ofString)]

/-- The members of the typed parts that are there. -/
def typedMembers (f : Field) : List (String × Json) :=
  f.typedParts.flatMap fun part => member? part.1 part.2

def attributeMembers (f : Field) : List (String × Json) :=
  f.attributes.entries.map fun entry => (entry.1, .scalar entry.2)

/-- A field is written with its typed parts first, then with its attributes. -/
theorem toJson_eq (f : Field) : f.toJson = .object (f.typedMembers ++ f.attributeMembers) := by
  simp [toJson, typedMembers, typedParts, attributeMembers]

theorem typedParts_keys (f : Field) : f.typedParts.map Prod.fst = typedKeys := rfl

theorem eq_of_mem_member? {key : String} {value : Option Json} {member : String × Json}
    (h : member ∈ member? key value) : member.1 = key := by
  cases value with
  | none => cases h
  | some j =>
    cases List.mem_singleton.1 h
    rfl

/-- The typed parts are written under their own keys. -/
theorem mem_typedKeys_of_mem {f : Field} {member : String × Json} (h : member ∈ f.typedMembers) :
    member.1 ∈ typedKeys := by
  rcases List.mem_flatMap.1 h with ⟨part, hpart, hmember⟩
  rw [eq_of_mem_member? hmember, ← f.typedParts_keys]
  exact List.mem_map_of_mem hpart

/-- No attribute is written under one of these. -/
theorem not_mem_typedKeys_of_mem {f : Field} (h : f.WellFormed) {member : String × Json}
    (hmember : member ∈ f.attributeMembers) : member.1 ∉ typedKeys := by
  rcases List.mem_map.1 hmember with ⟨entry, hentry, rfl⟩
  exact h.attributes_keys entry.1 (List.mem_map_of_mem hentry)

/-! ## Typed parts -/

/-- Of parts with different keys, only one has a member under a given key. -/
theorem filter_flatMap_member? {parts : List (String × Option Json)}
    (hnodup : (parts.map Prod.fst).Nodup) {part : String × Option Json} (hpart : part ∈ parts) :
    (parts.flatMap fun part => member? part.1 part.2).filter
      (fun member => [part.1].contains member.1) = member? part.1 part.2 := by
  have hself : (member? part.1 part.2).filter (fun member => [part.1].contains member.1) =
      member? part.1 part.2 := by
    rw [List.filter_eq_self]
    intro member hmember
    simp [eq_of_mem_member? hmember]
  have hother : ∀ parts : List (String × Option Json), part.1 ∉ parts.map Prod.fst →
      (parts.flatMap fun part => member? part.1 part.2).filter
        (fun member => [part.1].contains member.1) = [] := by
    intro parts hkey
    rw [List.filter_eq_nil_iff]
    intro member hmember
    rcases List.mem_flatMap.1 hmember with ⟨other, hmem, hone⟩
    have hne : member.1 ≠ part.1 := by
      rw [eq_of_mem_member? hone]
      intro heq
      exact hkey (heq ▸ List.mem_map_of_mem hmem)
    simpa using hne
  induction parts with
  | nil => cases hpart
  | cons first parts ih =>
    rw [List.map_cons, List.nodup_cons] at hnodup
    rw [List.flatMap_cons, List.filter_append]
    rcases List.mem_cons.1 hpart with rfl | hrest
    · rw [hself, hother parts hnodup.1, List.append_nil]
    · -- The first part has another key, so its member is not kept.
      have hne : first.1 ≠ part.1 := by
        intro heq
        exact hnodup.1 (heq ▸ List.mem_map_of_mem hrest)
      have hfirst := hother [first] (by simpa using hne.symm)
      rw [List.flatMap_singleton] at hfirst
      rw [hfirst, ih hnodup.2 hrest, List.nil_append]

/-- A typed part is found alone, whatever attributes stand beside it. -/
theorem single?_members {f : Field} (h : f.WellFormed) {part : String × Option Json}
    (hpart : part ∈ f.typedParts) :
    single? [part.1] (f.typedMembers ++ f.attributeMembers) = some part.2 := by
  have hkey : part.1 ∈ typedKeys := f.typedParts_keys ▸ List.mem_map_of_mem hpart
  have htyped := filter_flatMap_member? (f.typedParts_keys ▸ by decide) hpart
  have hattributes :
      f.attributeMembers.filter (fun member => [part.1].contains member.1) = [] := by
    rw [List.filter_eq_nil_iff]
    intro member hmember
    have hne : member.1 ≠ part.1 := by
      intro heq
      exact not_mem_typedKeys_of_mem h hmember (heq ▸ hkey)
    simpa using hne
  unfold single?
  rw [List.filter_append, typedMembers, htyped, hattributes, List.append_nil]
  cases part.2 <;> rfl

/-! ## Attributes -/

/-- The attributes can be told from the typed parts by their keys. -/
theorem filter_members {f : Field} (h : f.WellFormed) :
    (f.typedMembers ++ f.attributeMembers).filter
      (fun member => !typedKeys.contains member.1) = f.attributeMembers := by
  have htyped : f.typedMembers.filter (fun member => !typedKeys.contains member.1) = [] := by
    rw [List.filter_eq_nil_iff]
    intro member hmember
    simpa using mem_typedKeys_of_mem hmember
  have hattributes : f.attributeMembers.filter (fun member => !typedKeys.contains member.1) =
      f.attributeMembers := by
    rw [List.filter_eq_self]
    intro member hmember
    simpa using not_mem_typedKeys_of_mem h hmember
  rw [List.filter_append, htyped, hattributes, List.nil_append]

/-- What was written of the attributes is read as these. -/
theorem filterMap_attributeMembers (f : Field) :
    (OrderedMap.ofList f.attributeMembers).filterMap scalar? = f.attributes := by
  -- Attributes have different names, so no value takes the place of another.
  have hnodup : (f.attributeMembers.map Prod.fst).Nodup := by
    have hkeys : f.attributeMembers.map Prod.fst = f.attributes.keys := by
      simp [attributeMembers, OrderedMap.keys]
    rw [hkeys]
    exact f.attributes.nodup_keys
  refine OrderedMap.eq_of_entries_eq ?_
  unfold OrderedMap.filterMap
  simp only
  rw [OrderedMap.entries_ofList hnodup]
  unfold attributeMembers
  rw [List.filterMap_map]
  simp [Function.comp_def, scalar?]

/-! ## Reading a field -/

/-- What is found among the members of a field, and read, makes up the field. -/
structure ReadFrom (members : List (String × Json)) (f : Field) : Prop where
  name : (single? ["name"] members).bind (optional? string?) = some f.name
  typeName : (single? ["type"] members).bind (optional? string?) = some f.typeName
  length : (single? ["length"] members).bind (optional? uint32?) = some f.length
  precision : (single? ["precision"] members).bind (optional? uint32?) = some f.precision
  defaultValue :
    (single? ["default"] members).bind (optional? DefaultValue.ofJson?) = some f.defaultValue
  nullable : (single? ["null"] members).bind (optional? boolean?) = some f.nullable
  key : (single? ["key"] members).bind (optional? KeyMark.ofJson?) = some f.key
  nativeType : (single? ["use"] members).bind (optional? string?) = some f.nativeType
  attributes : f.attributes = (OrderedMap.ofList (members.filter fun member =>
    !typedKeys.contains member.1)).filterMap scalar?

/-- A field is read from members if each of its parts is. -/
theorem ofMembers?_eq_some_iff {members : List (String × Json)} {f : Field} :
    ofMembers? members = some f ↔ f.ReadFrom members := by
  constructor
  · intro h
    -- Looking a part up and reading it are two steps; taken together they are one for each part.
    simp only [ofMembers?, Option.bind_eq_bind, ← Option.bind_assoc] at h
    obtain ⟨name, hname, h⟩ := Option.bind_eq_some_iff.1 h
    obtain ⟨typeName, htype, h⟩ := Option.bind_eq_some_iff.1 h
    obtain ⟨length, hlength, h⟩ := Option.bind_eq_some_iff.1 h
    obtain ⟨precision, hprecision, h⟩ := Option.bind_eq_some_iff.1 h
    obtain ⟨value, hvalue, h⟩ := Option.bind_eq_some_iff.1 h
    obtain ⟨nullable, hnull, h⟩ := Option.bind_eq_some_iff.1 h
    obtain ⟨key, hkey, h⟩ := Option.bind_eq_some_iff.1 h
    obtain ⟨nativeType, huse, hf⟩ := Option.bind_eq_some_iff.1 h
    cases hf
    exact ⟨hname, htype, hlength, hprecision, hvalue, hnull, hkey, huse, rfl⟩
  · rintro ⟨hname, htype, hlength, hprecision, hvalue, hnull, hkey, huse, hattributes⟩
    simp only [ofMembers?, Option.bind_eq_bind, ← Option.bind_assoc, hname, htype, hlength,
      hprecision, hvalue, hnull, hkey, huse, Option.bind_some, ← hattributes]
    rfl

/-- A field is read back if its attributes cannot be taken for typed parts, and its default not for
a missing one. -/
theorem readFrom_members {f : Field} (h : f.WellFormed) :
    f.ReadFrom (f.typedMembers ++ f.attributeMembers) := by
  have hfound : ∀ {α : Type} {read : Json → Option α} (write : α → Json) {key : String}
      {part : Option α}, (key, part.map write) ∈ f.typedParts →
      (∀ a ∈ part, write a ≠ .scalar .null ∧ read (write a) = some a) →
      (single? [key] (f.typedMembers ++ f.attributeMembers)).bind (optional? read) =
        some part := by
    intro α read write key part hpart hread
    rw [single?_members h hpart, Option.bind_some, optional?_map hread]
  -- A text, a number, a truth value or a mark is never taken for a missing part.
  have htext : ∀ s, ofString s ≠ .scalar .null ∧ string? (ofString s) = some s :=
    fun s => ⟨nofun, rfl⟩
  have hnumber : ∀ n, ofUInt32 n ≠ .scalar .null ∧ uint32? (ofUInt32 n) = some n :=
    fun n => ⟨nofun, uint32?_ofUInt32 n⟩
  exact
    { name := hfound ofString (by simp [typedParts]) fun s _ => htext s
      typeName := hfound ofString (by simp [typedParts]) fun s _ => htext s
      length := hfound ofUInt32 (by simp [typedParts]) fun n _ => hnumber n
      precision := hfound ofUInt32 (by simp [typedParts]) fun n _ => hnumber n
      defaultValue := hfound DefaultValue.toJson (by simp [typedParts]) fun value hmem =>
        ⟨DefaultValue.toJson_ne_null (h.defaultValue value hmem), value.ofJson?_toJson⟩
      nullable := hfound (fun b => .scalar (.boolean b)) (by simp [typedParts])
        fun b _ => ⟨nofun, rfl⟩
      key := hfound KeyMark.toJson (by simp [typedParts]) fun mark _ =>
        ⟨nofun, mark.ofJson?_toJson⟩
      nativeType := hfound ofString (by simp [typedParts]) fun s _ => htext s
      attributes := by rw [filter_members h, filterMap_attributeMembers] }

/-- The members of a field give it back. -/
theorem ofMembers?_members {f : Field} (h : f.WellFormed) :
    ofMembers? (f.typedMembers ++ f.attributeMembers) = some f :=
  ofMembers?_eq_some_iff.2 (readFrom_members h)

/-- A field is read from what is written of it. -/
theorem ofTypeOrJson?_toJson {f : Field} (h : f.WellFormed) : ofTypeOrJson? f.toJson = some f := by
  rw [toJson_eq]
  exact ofMembers?_members h

/-- What holds of the documents of all parts that are there. -/
theorem forall_members {f : Field} {P : Json → Prop}
    (hscalar : ∀ v : Scalar, v.IsStorable → P (.scalar v))
    (hvalue : ∀ value ∈ f.defaultValue, P value.toJson)
    (hattribute : ∀ entry ∈ f.attributes.entries, P (.scalar entry.2)) :
    ∀ member ∈ f.typedMembers ++ f.attributeMembers, P member.2 := by
  have htext : ∀ (part : Option String), ∀ j ∈ part.map ofString, P j := by
    intro part j hj
    rcases Option.map_eq_some_iff.1 hj with ⟨s, _, rfl⟩
    exact hscalar (.text s) trivial
  have hnumber : ∀ (part : Option UInt32), ∀ j ∈ part.map ofUInt32, P j := by
    intro part j hj
    rcases Option.map_eq_some_iff.1 hj with ⟨n, _, rfl⟩
    exact hscalar (.integer (Int64.ofNat n.toNat)) trivial
  have hparts : ∀ part ∈ f.typedParts, ∀ j ∈ part.2, P j := by
    simp only [typedParts, List.forall_mem_cons]
    refine ⟨htext _, htext _, hnumber _, hnumber _, ?_, ?_, ?_, htext _, nofun⟩
    · intro j hj
      rcases Option.map_eq_some_iff.1 hj with ⟨value, hmem, rfl⟩
      exact hvalue value hmem
    · intro j hj
      rcases Option.map_eq_some_iff.1 hj with ⟨b, _, rfl⟩
      exact hscalar (.boolean b) trivial
    · intro j hj
      rcases Option.map_eq_some_iff.1 hj with ⟨mark, _, rfl⟩
      exact hscalar (.text mark.text) trivial
  rw [List.forall_mem_append]
  constructor
  · intro member hmember
    rcases List.mem_flatMap.1 hmember with ⟨part, hpart, hmem⟩
    exact forall_member? (hparts part hpart) member hmem
  · intro member hmember
    rcases List.mem_map.1 hmember with ⟨entry, hentry, rfl⟩
    exact hattribute entry hentry

/-- Storing changes nothing about what is written of a field. -/
theorem stored_toJson {f : Field} (h : f.WellFormed) : f.toJson.stored = f.toJson := by
  rw [toJson_eq, stored_object_iff]
  exact forall_members (P := fun j => j.stored = j) (fun v hv => stored_scalar_iff.2 hv)
    (fun value hvalue => DefaultValue.stored_toJson (h.defaultValue value hvalue))
    (fun entry hentry => stored_scalar_iff.2 (h.attributes_storable entry hentry))

/-- A field is not nested deep. -/
theorem fitsIn_toJson (budget : Nat) (f : Field) : FitsIn (budget + 2) f.toJson := by
  rw [toJson_eq]
  exact .object <| forall_members (fun v _ => .scalar v)
    (fun value _ => value.fitsIn_toJson budget) (fun entry _ => .scalar entry.2)

/-! ## Fields that were read -/

/-- A field that was read can be written and read again. -/
theorem wellFormed_of_ofMembers? {members : List (String × Json)} {f : Field}
    (h : ofMembers? members = some f) (hmembers : ∀ member ∈ members, member.2.stored = member.2) :
    f.WellFormed := by
  have hread := ofMembers?_eq_some_iff.1 h
  rcases Option.bind_eq_some_iff.1 hread.defaultValue with ⟨part, hpart, hvalue⟩
  have hentry : ∀ entry ∈ f.attributes.entries,
      entry.1 ∉ typedKeys ∧ entry.2.IsStorable := by
    intro entry hentry
    rw [hread.attributes] at hentry
    -- An attribute comes from a member that is none of the typed parts.
    rcases List.mem_filterMap.1 hentry with ⟨other, hother, hscalar⟩
    rcases Option.map_eq_some_iff.1 hscalar with ⟨v, hv, rfl⟩
    have hmem := List.mem_filter.1 (OrderedMap.mem_of_mem_ofList hother)
    exact ⟨by simpa using hmem.2, isStorable_of_scalar? hv (hmembers other hmem.1)⟩
  refine ⟨?_, fun entry hmem => (hentry entry hmem).2, ?_⟩
  · intro key hkey
    rcases List.mem_map.1 hkey with ⟨entry, hmem, rfl⟩
    exact (hentry entry hmem).1
  · intro value hmem
    refine DefaultValue.wellFormed_of_optional? ?_ (hvalue.trans (congrArg some hmem))
    rintro j rfl
    rcases mem_of_single? hpart with ⟨member, hmember, rfl⟩
    exact hmembers member hmember

theorem wellFormed_ofType (typeName : String) : (ofType typeName).WellFormed :=
  ⟨nofun, nofun, nofun⟩

/-- Every field of a schema that was read can be written and read again. -/
theorem wellFormed_of_ofTypeOrJson? {j : Json} {f : Field} (h : ofTypeOrJson? j = some f)
    (hj : j.stored = j) : f.WellFormed := by
  unfold ofTypeOrJson? at h
  split at h
  · -- A string stands for a field of this type.
    cases h
    exact wellFormed_ofType _
  · rcases Option.bind_eq_some_iff.1 h with ⟨members, hobject, hread⟩
    cases j with
    | scalar v => cases hobject
    | array items => cases hobject
    | object given =>
      cases hobject
      exact wellFormed_of_ofMembers? hread (stored_object_iff.1 hj)

end Field
end TableDdl
