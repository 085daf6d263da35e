import TableDdl.Proofs.Json.RoundTrip
import TableDdl.Proofs.OrderedMap
import TableDdl.Schema.ToJson

/-!
# Parts of a schema and their documents

For each part of a schema below its fields:

* what is read from its document is the part itself (`ofJson?_toJson`);
* its document loses nothing as text if the part is well-formed (`stored_toJson`), and is not deep
  (`fitsIn_toJson`);
* a part that was read from a document as text is well-formed (`wellFormed_of_ofJson?`).

That a document loses nothing is `j.stored = j`; it holds of every document that was read.
-/

namespace TableDdl

open Json

/-! ## Well-formed parts -/

/-- A default that a document can hold. -/
def DefaultValue.WellFormed : DefaultValue → Prop
  | literal v => v ≠ .null ∧ v.IsStorable
  | raw _ => True

def Predicate.WellFormed : Predicate → Prop
  | compare operands => ∀ entry ∈ operands.entries, entry.2.IsStorable
  | equals v => v.IsStorable

def CheckExpression.WellFormed : CheckExpression → Prop
  | raw _ => True
  | conditions m => ∀ entry ∈ m.entries, entry.2.WellFormed

def Constraint.WellFormed : Constraint → Prop
  | check expression => expression.WellFormed
  | _ => True

/-! ## What a document loses -/

namespace Json

theorem stored_scalar_iff {v : Scalar} :
    (Json.scalar v).stored = .scalar v ↔ v.IsStorable := by
  rw [stored, Json.scalar.injEq]
  exact Scalar.stored_eq_self_iff

theorem stored_array_iff {items : List Json} :
    (Json.array items).stored = .array items ↔ ∀ item ∈ items, item.stored = item := by
  -- A map over a list is the identity if it is so on each item.
  have hmap : items.map stored = items ↔ items.map stored = items.map id := by simp
  rw [stored, Json.array.injEq, storedItems_eq_map, hmap]
  exact List.map_eq_map_iff

/-- An object is stored as it is if the values of its members are. -/
theorem stored_object_iff {members : List (String × Json)} :
    (Json.object members).stored = .object members ↔
      ∀ member ∈ members, member.2.stored = member.2 := by
  have hmap : members.map (fun member => (member.1, member.2.stored)) = members ↔
      members.map (fun member => (member.1, member.2.stored)) = members.map id := by simp
  rw [stored, Json.object.injEq, storedMembers_eq_map, hmap, List.map_eq_map_iff]
  refine forall₂_congr ?_
  rintro ⟨key, value⟩ _
  simp

theorem isStorable_of_scalar? {j : Json} {v : Scalar} (h : j.scalar? = some v)
    (hj : j.stored = j) : v.IsStorable := by
  cases j with
  | scalar w =>
    cases h
    exact stored_scalar_iff.1 hj
  | array items => cases h
  | object members => cases h

/-- What holds of a value holds of the member that may be there for it. -/
theorem forall_member? {P : Json → Prop} {key : String} {value : Option Json}
    (h : ∀ j ∈ value, P j) : ∀ member ∈ member? key value, P member.2 := by
  intro member hmember
  cases value with
  | none => cases hmember
  | some j =>
    cases List.mem_singleton.1 hmember
    exact h j rfl

end Json

/-! ## Members -/

theorem mem_of_single? {α : Type} {names : List String} {members : List (String × α)} {value : α}
    (h : single? names members = some (some value)) : ∃ member ∈ members, member.2 = value := by
  unfold single? at h
  split at h
  · cases h
  · next member hfilter =>
    have hmem : member ∈ members.filter fun member => names.contains member.1 := by
      rw [hfilter]
      exact List.mem_singleton_self member
    cases h
    exact ⟨member, (List.mem_filter.1 hmem).1, rfl⟩
  · cases h

theorem mem_of_required? {α : Type} {names : List String} {members : List (String × α)} {value : α}
    (h : required? names members = some value) : ∃ member ∈ members, member.2 = value :=
  mem_of_single? (Option.join_eq_some_iff.1 h)

/-! ### A single member -/

section Single

variable {α : Type} {key : String} {members : List (String × α)}

theorem not_mem_of_single? (h : single? [key] members = some none) :
    key ∉ members.map Prod.fst := by
  unfold single? at h
  split at h
  · next hfilter =>
    intro hkey
    rcases List.mem_map.1 hkey with ⟨member, hmember, rfl⟩
    exact List.filter_eq_nil_iff.1 hfilter member hmember (by simp)
  · cases h
  · cases h

/-- What is found is there once. -/
theorem filter_of_single? {value : α} (h : single? [key] members = some (some value)) :
    members.filter (fun member => [key].contains member.1) = [(key, value)] := by
  unfold single? at h
  split at h
  · cases h
  · next member hfilter =>
    have hmember : member ∈ members.filter fun member => [key].contains member.1 := by
      rw [hfilter]
      exact List.mem_singleton_self member
    have hkey : member.1 = key := by simpa using (List.mem_filter.1 hmember).2
    cases h
    rw [hfilter, ← hkey]
  · cases h

theorem mem_of_single?_key {value : α} (h : single? [key] members = some (some value)) :
    (key, value) ∈ members := by
  have hmem : (key, value) ∈ members.filter fun member => [key].contains member.1 := by
    rw [filter_of_single? h]
    exact List.mem_singleton_self _
  exact (List.mem_filter.1 hmem).1

/-- A member is what is found under its key. -/
theorem eq_some_of_single? {value : α} {found : Option α} (h : single? [key] members = some found)
    (hmem : (key, value) ∈ members) : found = some value := by
  cases found with
  | none => exact absurd (List.mem_map_of_mem hmem) (not_mem_of_single? h)
  | some other =>
    have hfound : (key, value) ∈ members.filter fun member => [key].contains member.1 :=
      List.mem_filter.2 ⟨hmem, by simp⟩
    rw [filter_of_single? h, List.mem_singleton] at hfound
    cases hfound
    rfl

theorem count_of_single? {value : α} (h : single? [key] members = some (some value)) :
    (members.map Prod.fst).count key = 1 := by
  have hsame : ∀ member : String × α, (member.1 == key) = [key].contains member.1 := by
    intro member
    rw [Bool.eq_iff_iff]
    simp
  rw [List.count, List.countP_map, List.countP_eq_length_filter]
  simp only [Function.comp_def, hsame]
  exact congrArg List.length (filter_of_single? h)

section Replaced

variable {names : List String} {front back : List (String × α)} {value value' found : α}

/-- A member that stands alone does so with another value, too. -/
theorem single?_replace (hkey : key ∈ names)
    (h : single? names (front ++ (key, value) :: back) = some (some found)) :
    single? names (front ++ (key, value') :: back) = some (some value') := by
  have hfilter : ∀ value : α,
      (front ++ (key, value) :: back).filter (fun member => names.contains member.1) =
        front.filter (fun member => names.contains member.1) ++
          (key, value) :: back.filter fun member => names.contains member.1 := by
    intro value
    simp [hkey]
  unfold single? at h ⊢
  rw [hfilter] at h ⊢
  generalize (front.filter fun member => names.contains member.1) = before at h ⊢
  generalize (back.filter fun member => names.contains member.1) = behind at h ⊢
  -- Nothing else was found, neither before the member nor behind it.
  cases before with
  | nil =>
    cases behind with
    | nil => rfl
    | cons => cases h
  | cons first before => cases before <;> cases h

/-- A member under another key does not matter. -/
theorem single?_append_cons (hkey : key ∉ names) :
    single? names (front ++ (key, value) :: back) = single? names (front ++ back) := by
  have hfilter : (front ++ (key, value) :: back).filter (fun member => names.contains member.1) =
      (front ++ back).filter fun member => names.contains member.1 := by
    simp [hkey]
  unfold single?
  rw [hfilter]

end Replaced

end Single

/-- A part that may be missing is read back if it is not taken for a missing one. -/
theorem optional?_map {α : Type} {read : Json → Option α} {write : α → Json} {part : Option α}
    (h : ∀ a ∈ part, write a ≠ .scalar .null ∧ read (write a) = some a) :
    optional? read (part.map write) = some part := by
  cases part with
  | none => rfl
  | some a =>
    have ha := h a rfl
    rw [Option.map_some]
    unfold optional?
    split
    · next hnone => cases hnone
    · next hnull => exact absurd (Option.some.inj hnull) ha.1
    · -- Neither missing nor null: the part is read.
      next j hne hj =>
      cases hj
      rw [ha.2]
      rfl

/-! ## Maps -/

namespace OrderedMap

variable {α : Type} {read : Json → Option α} {write : α → Json} {P : α → Prop}

/-- Storing changes nothing about a map if it changes none of its values. -/
theorem stored_toJson {m : OrderedMap α}
    (h : ∀ entry ∈ m.entries, (write entry.2).stored = write entry.2) :
    (m.toJson write).stored = m.toJson write := by
  refine stored_object_iff.2 ?_
  intro member hmember
  rcases List.mem_map.1 hmember with ⟨entry, hentry, rfl⟩
  exact h entry hentry

/-- A map adds one level to those of its values. -/
theorem fitsIn_toJson {budget : Nat} (h : ∀ value, FitsIn budget (write value))
    (m : OrderedMap α) : FitsIn (budget + 1) (m.toJson write) := by
  refine .object ?_
  intro member hmember
  rcases List.mem_map.1 hmember with ⟨entry, _, rfl⟩
  exact h entry.2

/-- What is read from the members of a document holds of each value of the map. -/
theorem forall_of_ofMembers? {members : List (String × Json)}
    (hmembers : ∀ member ∈ members, member.2.stored = member.2)
    (h : ∀ {j value}, read j = some value → j.stored = j → P value) {m : OrderedMap α}
    (hread : ofMembers? read members = some m) : ∀ entry ∈ m.entries, P entry.2 := by
  intro entry hentry
  rcases exists_of_ofMembers? hread hentry with ⟨member, hmember, _, hvalue⟩
  exact h hvalue (hmembers member hmember)

end OrderedMap

/-! ## Column names -/

namespace ColumnNames

/-- Column names are read from what is written of them. -/
theorem ofJson?_toJson (columns : ColumnNames) : ofJson? columns.toJson = some columns := by
  cases columns with
  | one name => rfl
  | many names =>
    have hnames : (names.map ofString).mapM string? = some names := by
      rw [mapM_eq_some_iff, List.forall₂_map_left_iff, List.forall₂_same]
      exact fun _ _ => rfl
    simp [toJson, ofJson?, hnames]

theorem stored_toJson (columns : ColumnNames) : columns.toJson.stored = columns.toJson := by
  cases columns with
  | one name => rfl
  | many names =>
    refine stored_array_iff.2 ?_
    intro item hitem
    rcases List.mem_map.1 hitem with ⟨name, _, rfl⟩
    rfl

theorem fitsIn_toJson (budget : Nat) (columns : ColumnNames) :
    FitsIn (budget + 1) columns.toJson := by
  cases columns with
  | one name => exact .scalar _
  | many names =>
    refine .array ?_
    intro item hitem
    rcases List.mem_map.1 hitem with ⟨name, _, rfl⟩
    exact .scalar _

end ColumnNames

/-! ## Defaults -/

namespace DefaultValue

theorem ofJson?_toJson (value : DefaultValue) : ofJson? value.toJson = some value := by
  cases value with
  | literal v => rfl
  | raw sql => simp [toJson, ofJson?, required?, single?, string?, ofString]

/-- A default is never written as null, which would stand for none. -/
theorem toJson_ne_null {value : DefaultValue} (h : value.WellFormed) :
    value.toJson ≠ .scalar .null := by
  cases value with
  | literal v =>
    intro hnull
    exact h.1 (Json.scalar.inj hnull)
  | raw sql =>
    intro hnull
    cases hnull

/-- Storing changes nothing about a default that can be stored. -/
theorem stored_toJson {value : DefaultValue} (h : value.WellFormed) :
    value.toJson.stored = value.toJson := by
  cases value with
  | literal v => exact stored_scalar_iff.2 h.2
  | raw sql => rfl

theorem fitsIn_toJson (budget : Nat) (value : DefaultValue) : FitsIn (budget + 1) value.toJson := by
  cases value with
  | literal v => exact .scalar v
  | raw sql =>
    refine .object ?_
    intro member hmember
    cases List.mem_singleton.1 hmember
    exact .scalar _

/-- A default that was read can be written and read again. -/
theorem wellFormed_of_optional? {part : Option Json} (hpart : ∀ j ∈ part, j.stored = j)
    {value : DefaultValue} (h : optional? ofJson? part = some (some value)) :
    value.WellFormed := by
  unfold optional? at h
  split at h
  · cases h
  · cases h
  · next j hne =>
    rcases Option.map_eq_some_iff.1 h with ⟨read, hread, hsome⟩
    cases hsome
    cases j with
    | scalar v =>
      cases hread
      refine ⟨?_, stored_scalar_iff.1 (hpart _ rfl)⟩
      rintro rfl
      exact hne rfl
    | array items => cases hread
    | object members =>
      rcases Option.map_eq_some_iff.1 hread with ⟨sql, _, rfl⟩
      trivial

end DefaultValue

/-! ## Checks -/

namespace Predicate

/-- A predicate is read from what is written of it. -/
theorem ofJson?_toJson (p : Predicate) : ofJson? p.toJson = some p := by
  cases p with
  | equals v => rfl
  | compare operands =>
    have hread := OrderedMap.ofMembers?_map scalar? .scalar operands fun _ _ => rfl
    simp [toJson, OrderedMap.toJson, ofJson?, hread]

theorem stored_toJson {p : Predicate} (h : p.WellFormed) : p.toJson.stored = p.toJson := by
  cases p with
  | equals v => exact stored_scalar_iff.2 h
  | compare operands => exact OrderedMap.stored_toJson fun entry hentry =>
      stored_scalar_iff.2 (h entry hentry)

theorem fitsIn_toJson (budget : Nat) (p : Predicate) : FitsIn (budget + 1) p.toJson := by
  cases p with
  | equals v => exact .scalar v
  | compare operands => exact operands.fitsIn_toJson fun v => .scalar v

/-- A predicate that was read can be written and read again. -/
theorem wellFormed_of_ofJson? {j : Json} {p : Predicate} (h : ofJson? j = some p)
    (hj : j.stored = j) : p.WellFormed := by
  cases j with
  | scalar v =>
    cases h
    exact stored_scalar_iff.1 hj
  | array items => cases h
  | object members =>
    rcases Option.map_eq_some_iff.1 h with ⟨operands, hread, rfl⟩
    exact OrderedMap.forall_of_ofMembers? (stored_object_iff.1 hj) isStorable_of_scalar? hread

end Predicate

namespace CheckExpression

/-- A check is read from what is written of it. -/
theorem ofJson?_toJson (expression : CheckExpression) :
    ofJson? expression.toJson = some expression := by
  cases expression with
  | raw sql => rfl
  | conditions m =>
    have hread := OrderedMap.ofMembers?_map Predicate.ofJson? Predicate.toJson m
      fun entry _ => Predicate.ofJson?_toJson entry.2
    simp [toJson, OrderedMap.toJson, ofJson?, hread]

theorem stored_toJson {expression : CheckExpression} (h : expression.WellFormed) :
    expression.toJson.stored = expression.toJson := by
  cases expression with
  | raw sql => rfl
  | conditions m => exact OrderedMap.stored_toJson fun entry hentry =>
      Predicate.stored_toJson (h entry hentry)

theorem fitsIn_toJson (budget : Nat) (expression : CheckExpression) :
    FitsIn (budget + 2) expression.toJson := by
  cases expression with
  | raw sql => exact .scalar _
  | conditions m => exact m.fitsIn_toJson (Predicate.fitsIn_toJson budget)

/-- A check that was read can be written and read again. -/
theorem wellFormed_of_ofJson? {j : Json} {expression : CheckExpression}
    (h : ofJson? j = some expression) (hj : j.stored = j) : expression.WellFormed := by
  unfold ofJson? at h
  split at h
  · cases h
    trivial
  · rcases Option.map_eq_some_iff.1 h with ⟨m, hread, rfl⟩
    exact OrderedMap.forall_of_ofMembers? (stored_object_iff.1 hj)
      Predicate.wellFormed_of_ofJson? hread
  · cases h

end CheckExpression

/-! ## Constraints -/

namespace Constraint

/-- A constraint is read from what is written of it. -/
theorem ofJson?_toJson (c : Constraint) : ofJson? c.toJson = some c := by
  have hcolumns := ColumnNames.ofJson?_toJson
  cases c with
  | primary columns =>
    simp [toJson, ofJson?, ofMembers?, required?, single?, ofString, string?, hcolumns]
  | foreignKey columns table targets action =>
    cases action with
    | none =>
      simp [toJson, ofJson?, ofMembers?, required?, single?, ofString, string?, hcolumns, member?,
        optional?]
    | some action =>
      simp [toJson, ofJson?, ofMembers?, required?, single?, ofString, string?, hcolumns, member?,
        optional?]
  | unique columns index =>
    simp [toJson, ofJson?, ofMembers?, required?, single?, ofString, string?, hcolumns, boolean?,
      orElse?]
  | check expression =>
    have hexpression := CheckExpression.ofJson?_toJson expression
    simp [toJson, ofJson?, ofMembers?, required?, single?, ofString, string?, hexpression]
  | unknown =>
    simp [toJson, ofJson?, ofMembers?, required?, single?, ofString, string?]

/-- Storing changes nothing about a constraint that can be stored. -/
theorem stored_toJson {c : Constraint} (h : c.WellFormed) : c.toJson.stored = c.toJson := by
  have hstring : ∀ s, (ofString s).stored = ofString s := fun _ => rfl
  have hcolumns := ColumnNames.stored_toJson
  cases c with
  | primary columns =>
    refine stored_object_iff.2 ?_
    simp [hstring, hcolumns]
  | foreignKey columns table targets action =>
    refine stored_object_iff.2 ?_
    cases action <;> simp [hstring, hcolumns, member?]
  | unique columns index =>
    refine stored_object_iff.2 ?_
    simp [hstring, hcolumns, stored, Scalar.stored]
  | check expression =>
    refine stored_object_iff.2 ?_
    simp [hstring, CheckExpression.stored_toJson h]
  | unknown => rfl

/-- No constraint is nested deeper than its check. -/
theorem fitsIn_toJson (budget : Nat) (c : Constraint) : FitsIn (budget + 3) c.toJson := by
  have hstring : ∀ s, FitsIn (budget + 2) (ofString s) := fun s => .scalar _
  have hcolumns := ColumnNames.fitsIn_toJson (budget + 1)
  cases c with
  | primary columns =>
    refine .object ?_
    simp [hstring, hcolumns]
  | foreignKey columns table targets action =>
    refine .object ?_
    cases action <;> simp [hstring, hcolumns, member?]
  | unique columns index =>
    refine .object ?_
    simp [hstring, hcolumns, FitsIn.scalar]
  | check expression =>
    refine .object ?_
    simp [hstring, CheckExpression.fitsIn_toJson budget expression]
  | unknown =>
    refine .object ?_
    simp [hstring]

/-- A constraint that was read from members can be written and read again. -/
theorem wellFormed_of_ofMembers? {kind : String} {members : List (String × Json)} {c : Constraint}
    (h : ofMembers? kind members = some c)
    (hmembers : ∀ member ∈ members, member.2.stored = member.2) : c.WellFormed := by
  -- One kind after the other, in the order in which the reader tries them.
  unfold ofMembers? at h
  simp only [Option.bind_eq_bind] at h
  split at h
  · rcases Option.bind_eq_some_iff.1 h with ⟨columns, _, hc⟩
    cases hc
    trivial
  · split at h
    · rcases Option.bind_eq_some_iff.1 h with ⟨columns, _, h⟩
      rcases Option.bind_eq_some_iff.1 h with ⟨table, _, h⟩
      rcases Option.bind_eq_some_iff.1 h with ⟨targets, _, h⟩
      rcases Option.bind_eq_some_iff.1 h with ⟨part, _, h⟩
      rcases Option.bind_eq_some_iff.1 h with ⟨action, _, hc⟩
      cases hc
      trivial
    · split at h
      · rcases Option.bind_eq_some_iff.1 h with ⟨columns, _, h⟩
        rcases Option.bind_eq_some_iff.1 h with ⟨part, _, h⟩
        rcases Option.bind_eq_some_iff.1 h with ⟨index, _, hc⟩
        cases hc
        trivial
      · split at h
        · -- Only a check holds scalars.
          rcases Option.bind_eq_some_iff.1 h with ⟨expression, hexpression, hc⟩
          rcases Option.bind_eq_some_iff.1 hexpression with ⟨j, hj, hread⟩
          rcases mem_of_required? hj with ⟨member, hmember, rfl⟩
          cases hc
          exact CheckExpression.wellFormed_of_ofJson? hread (hmembers member hmember)
        · cases h
          trivial

/-- Every constraint that was read can be written and read again. -/
theorem wellFormed_of_ofJson? {j : Json} {c : Constraint} (h : ofJson? j = some c)
    (hj : j.stored = j) : c.WellFormed := by
  unfold ofJson? at h
  simp only [Option.bind_eq_bind] at h
  split at h
  · rcases Option.bind_eq_some_iff.1 h with ⟨kind, _, hread⟩
    exact wellFormed_of_ofMembers? hread (stored_object_iff.1 hj)
  · next first rest =>
    rcases Option.bind_eq_some_iff.1 h with ⟨kind, _, hread⟩
    split at hread
    · -- The values of the array are those of the members.
      refine wellFormed_of_ofMembers? hread ?_
      intro member hmember
      have hrest : member.2 ∈ rest := (List.of_mem_zip hmember).2
      exact stored_array_iff.1 hj member.2 (List.mem_cons_of_mem _ hrest)
    · cases hread
  · cases h

end Constraint

end TableDdl
