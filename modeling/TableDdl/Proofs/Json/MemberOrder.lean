import TableDdl.Proofs.Json.RoundTrip
import TableDdl.Proofs.Traversal

/-!
# Documents that differ in the order of members

Two documents may differ only in the order in which some of their objects list their members.  Which
objects these are depends on where they stand, so the comparison is put together from small ones:

* `Draft.Shuffled`: an object with its members in another order;
* `Draft.EachMember` and `Draft.EachItem`: the values in an object or array are compared one by one;
* `Draft.Parts`: an object with its members in another order and the values under some keys compared,
  or an array that gives the values under these keys;
* `Json.Shuffled`, `Json.EachMember` and `Json.EachItem` for documents that were read.

Reading keeps these relations: it fails on both documents, or gives two documents related in the
same way.  Objects that are printed with their members in another order have drafts so related.
-/

namespace TableDdl

/-! ## Drafts -/

namespace Draft

/-- The same draft, or an object with its members in another order, none of them repeated. -/
inductive Shuffled : Draft → Draft → Prop where
  | refl (d : Draft) : Shuffled d d
  | object {members members' : List (DraftString × Draft)} (order : members.Perm members')
      (distinct : (members.filterMap fun member => member.1.text?).Nodup) :
      Shuffled (.object members) (.object members')

/-- The same draft, or an object with the same keys in the same order and related values. -/
inductive EachMember (R : Draft → Draft → Prop) : Draft → Draft → Prop where
  | refl (d : Draft) : EachMember R d d
  | object {members members' : List (DraftString × Draft)}
      (values : List.Forall₂ (fun member member' => member.1 = member'.1 ∧ R member.2 member'.2)
        members members') : EachMember R (.object members) (.object members')

/-- The same draft, or an array of related items. -/
inductive EachItem (R : Draft → Draft → Prop) : Draft → Draft → Prop where
  | refl (d : Draft) : EachItem R d d
  | array {items items' : List Draft} (values : List.Forall₂ R items items') :
      EachItem R (.array items) (.array items')

/-- The same draft, or one that gives related values under the same keys: an object with its members
in another order, or an array whose items stand for the values under `keys`. -/
inductive Parts (keys : List String) (R : String → Draft → Draft → Prop) :
    Draft → Draft → Prop where
  | refl (d : Draft) : Parts keys R d d
  | object {members between members' : List (DraftString × Draft)}
      (values : List.Forall₂ (fun member member' =>
        member.1 = member'.1 ∧ ∀ key, member.1.text? = some key → R key member.2 member'.2)
        members between)
      (order : between.Perm members') : Parts keys R (.object members) (.object members')
  | array {items items' : List Draft} (length : items.length = items'.length)
      (values : List.Forall₂ (fun part part' => part.1 = part'.1 ∧ R part.1 part.2 part'.2)
        (keys.zip items) (keys.zip items')) : Parts keys R (.array items) (.array items')

end Draft

/-! ## Documents that were read -/

namespace Json

/-- The same document, or an object with its members in another order, none of them repeated. -/
inductive Shuffled : Json → Json → Prop where
  | refl (j : Json) : Shuffled j j
  | object {members members' : List (String × Json)} (order : members.Perm members')
      (distinct : (members.map Prod.fst).Nodup) : Shuffled (.object members) (.object members')

/-- The same document, or an object with the same keys in the same order and related values. -/
inductive EachMember (R : Json → Json → Prop) : Json → Json → Prop where
  | refl (j : Json) : EachMember R j j
  | object {members members' : List (String × Json)}
      (values : List.Forall₂ (fun member member' => member.1 = member'.1 ∧ R member.2 member'.2)
        members members') : EachMember R (.object members) (.object members')

/-- The same document, or an array of related items. -/
inductive EachItem (R : Json → Json → Prop) : Json → Json → Prop where
  | refl (j : Json) : EachItem R j j
  | array {items items' : List Json} (values : List.Forall₂ R items items') :
      EachItem R (.array items) (.array items')

end Json

/-! ## Reading -/

namespace Draft

/-- Reads a member of an object. -/
def readMember? (budget : Nat) (member : DraftString × Draft) : Option (String × Json) :=
  member.1.text?.bind fun key => (read? budget member.2).map fun value => (key, value)

theorem readItems?_eq_mapM (budget : Nat) (items : List Draft) :
    readItems? budget items = items.mapM (read? budget) := by
  induction items with
  | nil => rfl
  | cons item items ih => rw [readItems?, List.mapM_cons, ih]

theorem readMembers?_eq_mapM (budget : Nat) (members : List (DraftString × Draft)) :
    readMembers? budget members = members.mapM (readMember? budget) := by
  induction members with
  | nil => rfl
  | cons member members ih =>
    rcases member with ⟨key, value⟩
    rw [readMembers?, List.mapM_cons, ih]
    unfold readMember?
    cases key.text? with
    | none => rfl
    | some name => cases read? budget value <;> rfl

/-- The keys of an object that was read are those of its draft. -/
theorem map_fst_of_readMembers? {budget : Nat} {members : List (DraftString × Draft)}
    {given : List (String × Json)} (h : members.mapM (readMember? budget) = some given) :
    given.map Prod.fst = members.filterMap fun member => member.1.text? := by
  have hread := mapM_eq_some_iff.1 h
  clear h
  induction hread with
  | nil => rfl
  | cons hmember _ ih =>
    rcases Option.bind_eq_some_iff.1 hmember with ⟨key, hkey, hvalue⟩
    rcases Option.map_eq_some_iff.1 hvalue with ⟨value, _, rfl⟩
    simp only [List.map_cons, List.filterMap_cons, hkey, ih]

/-- Objects in another order are read alike, up to that order. -/
theorem Shuffled.read? {d d' : Draft} (h : Shuffled d d') (budget : Nat) :
    Option.Rel Json.Shuffled (read? budget d) (read? budget d') := by
  cases h with
  | refl => exact rel_refl Json.Shuffled.refl _
  | @object members members' order distinct =>
    cases budget with
    | zero => exact .none
    | succ rest =>
      simp only [Draft.read?, readMembers?_eq_mapM]
      have hkeys : ∀ given, members.mapM (readMember? rest) = some given →
          (given.map Prod.fst).Nodup := by
        intro given hgiven
        rw [map_fst_of_readMembers? hgiven]
        exact distinct
      exact rel_map (rel_and_left (perm_mapM order) hkeys) fun given given' h => .object h.1 h.2

/-- Objects whose members are read alike are read alike. -/
theorem EachMember.read? {R : Draft → Draft → Prop} {S : Json → Json → Prop} {d d' : Draft}
    (h : EachMember R d d') (budget : Nat)
    (hR : ∀ budget d d', R d d' → Option.Rel S (Draft.read? budget d) (Draft.read? budget d')) :
    Option.Rel (Json.EachMember S) (Draft.read? budget d) (Draft.read? budget d') := by
  cases h with
  | refl => exact rel_refl Json.EachMember.refl _
  | object values =>
    cases budget with
    | zero => exact .none
    | succ rest =>
      simp only [Draft.read?, readMembers?_eq_mapM]
      refine rel_map (rel_mapM (values.imp ?_)) fun _ _ => .object
      rintro ⟨key, value⟩ ⟨_, value'⟩ ⟨rfl, hvalue⟩
      refine rel_bind (rel_refl (fun _ => rfl) _) ?_
      rintro name _ rfl
      exact rel_map (hR rest value value' hvalue) fun _ _ hrel => ⟨rfl, hrel⟩

/-- Arrays whose items are read alike are read alike. -/
theorem EachItem.read? {R : Draft → Draft → Prop} {S : Json → Json → Prop} {d d' : Draft}
    (h : EachItem R d d') (budget : Nat)
    (hR : ∀ budget d d', R d d' → Option.Rel S (Draft.read? budget d) (Draft.read? budget d')) :
    Option.Rel (Json.EachItem S) (Draft.read? budget d) (Draft.read? budget d') := by
  cases h with
  | refl => exact rel_refl Json.EachItem.refl _
  | array values =>
    cases budget with
    | zero => exact .none
    | succ rest =>
      simp only [Draft.read?, readItems?_eq_mapM]
      exact rel_map (rel_mapM (values.imp fun d d' hrel => hR rest d d' hrel)) fun _ _ => .array

/-! ## Printing -/

/-- Printing keeps the order of an object's members. -/
theorem Shuffled.of_object {members members' : List (String × Json)}
    (order : members.Perm members') (distinct : (members.map Prod.fst).Nodup) :
    Shuffled (Json.object members).draft (Json.object members').draft := by
  simp only [Json.draft, Json.memberDrafts_eq_map]
  refine .object (order.map _) ?_
  rw [List.filterMap_map]
  simpa [Function.comp_def, DraftString.text?_unitsOf] using distinct

/-- Printing keeps what holds of an object's members one by one. -/
theorem EachMember.of_object {R : Draft → Draft → Prop} {members members' : List (String × Json)}
    (values : List.Forall₂ (fun member member' =>
      member.1 = member'.1 ∧ R member.2.draft member'.2.draft) members members') :
    EachMember R (Json.object members).draft (Json.object members').draft := by
  simp only [Json.draft, Json.memberDrafts_eq_map]
  refine .object (List.forall₂_map_left_iff.2 (List.forall₂_map_right_iff.2 (values.imp ?_)))
  rintro ⟨key, value⟩ ⟨_, value'⟩ ⟨rfl, hvalue⟩
  exact ⟨rfl, hvalue⟩

/-- Members may change their order after each was replaced by a related one. -/
theorem Parts.of_object {keys : List String} {R : String → Draft → Draft → Prop}
    {members between members' : List (String × Json)}
    (values : List.Forall₂ (fun member member' =>
      member.1 = member'.1 ∧ R member.1 member.2.draft member'.2.draft) members between)
    (order : between.Perm members') :
    Parts keys R (Json.object members).draft (Json.object members').draft := by
  simp only [Json.draft, Json.memberDrafts_eq_map]
  refine .object (List.forall₂_map_left_iff.2 (List.forall₂_map_right_iff.2 (values.imp ?_)))
    (order.map _)
  rintro ⟨key, value⟩ ⟨_, value'⟩ ⟨rfl, hvalue⟩
  refine ⟨rfl, fun name hname => ?_⟩
  rw [DraftString.text?_unitsOf] at hname
  cases hname
  exact hvalue

end Draft

end TableDdl
