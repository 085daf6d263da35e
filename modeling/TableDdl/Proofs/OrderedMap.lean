import TableDdl.Proofs.Traversal
import TableDdl.Schema.OfJson

/-!
# Maps from lists of pairs

* `OrderedMap.get?_eq_some_iff`: looking up is finding the entry, since no key occurs twice;
* `OrderedMap.entries_ofList`: pairs without a repeated key become the entries as they stand;
* `OrderedMap.exists_of_ofMembers?`: every entry of a map that was read comes from a member;
* `OrderedMap.ofMembers?_map`: a map is read back from what was written for its entries;
* `OrderedMap.rel_ofMembers?` and `OrderedMap.perm_ofMembers?`: what related members, and members in
  another order, give.
-/

namespace TableDdl

namespace OrderedMap

variable {α β : Type}

theorem eq_of_entries_eq {m m' : OrderedMap α} (h : m.entries = m'.entries) : m = m' := by
  cases m
  cases m'
  cases h
  rfl

/-- What is found under a key is the value of its entry. -/
theorem get?_eq_some_iff {m : OrderedMap α} {key : String} {value : α} :
    m.get? key = some value ↔ (key, value) ∈ m.entries := by
  have hnodup := m.nodup_keys
  unfold get?
  revert hnodup
  induction m.entries with
  | nil => simp
  | cons entry entries ih =>
    rcases entry with ⟨name, old⟩
    intro hnodup
    rw [List.map_cons, List.nodup_cons] at hnodup
    by_cases h : key = name
    · -- The other entries have other keys, so the value is that of this one.
      subst h
      have hrest : (key, value) ∉ entries := fun hmem => hnodup.1 (List.mem_map.2 ⟨_, hmem, rfl⟩)
      simp [hrest, eq_comm]
    · have hbeq : (key == name) = false := by simp [h]
      simp [List.lookup_cons, hbeq, h, ih hnodup.2]

/-! ## Insertion in order -/

/-- A new key goes to the end. -/
theorem insertEntry_of_not_mem {key : String} {value : α} {entries : List (String × α)}
    (h : key ∉ entries.map Prod.fst) :
    insertEntry key value entries = entries ++ [(key, value)] := by
  induction entries with
  | nil => rfl
  | cons entry entries ih =>
    rw [List.map_cons, List.mem_cons, not_or] at h
    rw [insertEntry, if_neg (Ne.symm h.1), ih h.2]
    rfl

/-- No entry appears but the inserted one. -/
theorem mem_of_mem_insertEntry {key : String} {value : α} {entries : List (String × α)}
    {entry : String × α} (h : entry ∈ insertEntry key value entries) :
    entry = (key, value) ∨ entry ∈ entries := by
  induction entries with
  | nil => exact Or.inl (List.mem_singleton.1 h)
  | cons first entries ih =>
    unfold insertEntry at h
    split at h
    · rcases List.mem_cons.1 h with hfirst | hrest
      · exact Or.inl hfirst
      · exact Or.inr (List.mem_cons_of_mem _ hrest)
    · rcases List.mem_cons.1 h with hfirst | hrest
      · exact Or.inr (hfirst ▸ List.mem_cons_self)
      · rcases ih hrest with hnew | hold
        · exact Or.inl hnew
        · exact Or.inr (List.mem_cons_of_mem _ hold)

/-- New keys that are pairwise different go to the end one by one. -/
theorem entries_foldl_insert (pairs : List (String × α)) :
    ∀ m : OrderedMap α, (m.keys ++ pairs.map Prod.fst).Nodup →
      (pairs.foldl (fun m pair => m.insert pair.1 pair.2) m).entries = m.entries ++ pairs := by
  induction pairs with
  | nil => simp
  | cons pair pairs ih =>
    intro m hnodup
    have hnew : pair.1 ∉ m.keys := by
      intro hmem
      exact (List.nodup_append.1 hnodup).2.2 _ hmem _ List.mem_cons_self rfl
    have hinsert : (m.insert pair.1 pair.2).entries = m.entries ++ [pair] :=
      insertEntry_of_not_mem hnew
    have hkeys : (m.insert pair.1 pair.2).keys = m.keys ++ [pair.1] := by
      simp [keys, hinsert]
    -- The keys of the map and of the pairs that are left are the same list as before.
    have hrest := ih (m.insert pair.1 pair.2) (by simpa [hkeys] using hnodup)
    rw [List.foldl_cons, hrest, hinsert]
    simp

/-- A list without a repeated key is the entries of its map. -/
theorem entries_ofList {pairs : List (String × α)} (h : (pairs.map Prod.fst).Nodup) :
    (ofList pairs).entries = pairs :=
  entries_foldl_insert pairs empty h

/-- What a map holds was in the list that it was made from. -/
theorem mem_of_mem_ofList {pairs : List (String × α)} {entry : String × α}
    (h : entry ∈ (ofList pairs).entries) : entry ∈ pairs := by
  -- Insertion starts from the empty map; the induction needs any map to start from.
  have hfold : ∀ (pairs : List (String × α)) (m : OrderedMap α),
      entry ∈ (pairs.foldl (fun m pair => m.insert pair.1 pair.2) m).entries →
      entry ∈ m.entries ∨ entry ∈ pairs := by
    intro pairs
    induction pairs with
    | nil => exact fun m hm => Or.inl hm
    | cons pair pairs ih =>
      intro m hm
      rcases ih _ hm with hinsert | hrest
      · rcases mem_of_mem_insertEntry hinsert with hnew | hold
        · exact Or.inr (hnew ▸ List.mem_cons_self)
        · exact Or.inl hold
      · exact Or.inr (List.mem_cons_of_mem _ hrest)
  rcases hfold pairs empty h with hempty | hmem
  · cases hempty
  · exact hmem

/-! ## Reading maps -/

/-- Every entry of a map that was read comes from a member. -/
theorem exists_of_ofMembers? {read : α → Option β} {members : List (String × α)}
    {m : OrderedMap β} (h : ofMembers? read members = some m) {entry : String × β}
    (hentry : entry ∈ m.entries) :
    ∃ member ∈ members, member.1 = entry.1 ∧ read member.2 = some entry.2 := by
  unfold ofMembers? at h
  rcases Option.map_eq_some_iff.1 h with ⟨pairs, hpairs, rfl⟩
  have hmem := mem_of_mem_ofList hentry
  rcases exists_of_forall₂_of_mem (mapM_eq_some_iff.1 hpairs) hmem with ⟨member, hmember, hread⟩
  rcases Option.map_eq_some_iff.1 hread with ⟨value, hvalue, rfl⟩
  exact ⟨member, hmember, rfl, hvalue⟩

/-- Members that give the entries of a map one by one are read as this map. -/
theorem ofMembers?_of_forall₂ {read : α → Option β} {members : List (String × α)} {m : OrderedMap β}
    (h : List.Forall₂ (fun member entry => member.1 = entry.1 ∧ read member.2 = some entry.2)
      members m.entries) : ofMembers? read members = some m := by
  have hread : members.mapM (fun member => (read member.2).map fun value => (member.1, value)) =
      some m.entries := by
    refine mapM_eq_some_iff.2 (h.imp ?_)
    rintro member entry ⟨hkey, hvalue⟩
    rw [hvalue, hkey]
    rfl
  unfold ofMembers?
  rw [hread, Option.map_some]
  exact congrArg some (eq_of_entries_eq (entries_ofList m.nodup_keys))

/-- A map is read back from what was written for its entries. -/
theorem ofMembers?_map (read : α → Option β) (write : β → α) (m : OrderedMap β)
    (h : ∀ entry ∈ m.entries, read (write entry.2) = some entry.2) :
    ofMembers? read (m.entries.map fun entry => (entry.1, write entry.2)) = some m := by
  refine ofMembers?_of_forall₂ (List.forall₂_map_left_iff.2 (List.forall₂_same.2 ?_))
  exact fun entry hentry => ⟨rfl, h entry hentry⟩

/-! ## Reading two maps -/

section Rel

variable {γ δ : Type} {S : γ → δ → Prop}

/-- Inserting related values under one key keeps entries related. -/
theorem forall₂_insertEntry {key : String} {value : γ} {value' : δ} (hvalue : S value value')
    {entries : List (String × γ)} {entries' : List (String × δ)}
    (h : List.Forall₂ (fun entry entry' => entry.1 = entry'.1 ∧ S entry.2 entry'.2)
      entries entries') :
    List.Forall₂ (fun entry entry' => entry.1 = entry'.1 ∧ S entry.2 entry'.2)
      (insertEntry key value entries) (insertEntry key value' entries') := by
  induction h with
  | nil => exact .cons ⟨rfl, hvalue⟩ .nil
  | @cons entry entry' _ _ hentry hrest ih =>
    unfold insertEntry
    rw [← hentry.1]
    split
    · exact .cons ⟨rfl, hvalue⟩ hrest
    · exact .cons hentry ih

/-- Lists of related values under the same keys give related entries. -/
theorem forall₂_ofList {pairs : List (String × γ)} {pairs' : List (String × δ)}
    (h : List.Forall₂ (fun pair pair' => pair.1 = pair'.1 ∧ S pair.2 pair'.2) pairs pairs') :
    List.Forall₂ (fun entry entry' => entry.1 = entry'.1 ∧ S entry.2 entry'.2)
      (ofList pairs).entries (ofList pairs').entries := by
  -- The pairs are inserted one by one, so the induction is for any two maps to start from.
  have hfold : ∀ (m : OrderedMap γ) (m' : OrderedMap δ),
      List.Forall₂ (fun entry entry' => entry.1 = entry'.1 ∧ S entry.2 entry'.2)
        m.entries m'.entries →
      List.Forall₂ (fun entry entry' => entry.1 = entry'.1 ∧ S entry.2 entry'.2)
        (pairs.foldl (fun m pair => m.insert pair.1 pair.2) m).entries
        (pairs'.foldl (fun m pair => m.insert pair.1 pair.2) m').entries := by
    induction h with
    | nil => exact fun m m' hm => hm
    | @cons pair pair' _ _ hpair _ ih =>
      intro m m' hm
      have hinsert : List.Forall₂ (fun entry entry' => entry.1 = entry'.1 ∧ S entry.2 entry'.2)
          (m.insert pair.1 pair.2).entries (m'.insert pair'.1 pair'.2).entries := by
        rw [← hpair.1]
        exact forall₂_insertEntry hpair.2 hm
      exact ih _ _ hinsert
  exact hfold empty empty .nil

/-- Members with the same keys, whose values give related results, give related maps. -/
theorem rel_ofMembers? {read : α → Option γ} {read' : β → Option δ} {members : List (String × α)}
    {members' : List (String × β)}
    (h : List.Forall₂
      (fun member member' =>
        member.1 = member'.1 ∧ Option.Rel S (read member.2) (read' member'.2))
      members members') :
    Option.Rel
      (fun m m' => List.Forall₂ (fun entry entry' => entry.1 = entry'.1 ∧ S entry.2 entry'.2)
        m.entries m'.entries)
      (ofMembers? read members) (ofMembers? read' members') := by
  unfold ofMembers?
  refine rel_map (rel_mapM (h.imp ?_)) fun _ _ => forall₂_ofList
  rintro member member' ⟨hkey, hvalue⟩
  exact rel_map hvalue fun _ _ hrel => ⟨hkey, hrel⟩

end Rel

/-- Members that are read alike give the same map. -/
theorem ofMembers?_congr {γ : Type} {read : α → Option γ} {read' : β → Option γ}
    {members : List (String × α)} {members' : List (String × β)}
    (h : List.Forall₂
      (fun member member' => member.1 = member'.1 ∧ read member.2 = read' member'.2)
      members members') : ofMembers? read members = ofMembers? read' members' := by
  unfold ofMembers?
  congr 1
  induction h with
  | nil => rfl
  | cons hmember _ ih => rw [List.mapM_cons, List.mapM_cons, hmember.1, hmember.2, ih]

/-- Members in another order give the same entries in another order, if no key is repeated. -/
theorem perm_ofMembers? {read : α → Option β} {members members' : List (String × α)}
    (h : members.Perm members') (hnodup : (members.map Prod.fst).Nodup) :
    Option.Rel (fun m m' => m.entries.Perm m'.entries) (ofMembers? read members)
      (ofMembers? read members') := by
  have hkeys : ∀ pairs, members.mapM
      (fun member => (read member.2).map fun value => (member.1, value)) = some pairs →
      (pairs.map Prod.fst).Nodup := by
    intro pairs hpairs
    have hsame : pairs.map Prod.fst = members.map Prod.fst := by
      have hread := mapM_eq_some_iff.1 hpairs
      clear hpairs h hnodup
      induction hread with
      | nil => rfl
      | cons hpair _ ih =>
        rcases Option.map_eq_some_iff.1 hpair with ⟨value, _, rfl⟩
        rw [List.map_cons, List.map_cons, ih]
    rw [hsame]
    exact hnodup
  unfold ofMembers?
  refine rel_map (rel_and_left (perm_mapM h) hkeys) ?_
  rintro pairs pairs' ⟨hperm, hnodup⟩
  rw [entries_ofList hnodup, entries_ofList ((hperm.map Prod.fst).nodup_iff.1 hnodup)]
  exact hperm

end OrderedMap
end TableDdl
