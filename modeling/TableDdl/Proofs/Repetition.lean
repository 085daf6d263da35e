import Mathlib.Data.List.Induction
import TableDdl.Proofs.OrderedMap

/-!
# Repeated keys

A list of pairs may give a key several times.  Then the last value counts, and it takes the place of
the first.

* `Resolves`: what a list of pairs comes to, said without a map;
* `OrderedMap.resolves_iff`: this is what a map that is made from the pairs holds, and nothing else;
* `OrderedMap.entries_ofList_filter`: keys may be selected before or after;
* `OrderedMap.single?_entries_ofList`: a member that has to stand alone is found in both.
-/

namespace TableDdl

variable {α β : Type}

/-- `IsLast key value pairs`: the last of the pairs under `key` has this value. -/
def IsLast (key : String) (value : α) (pairs : List (String × α)) : Prop :=
  ∃ front back, pairs = front ++ (key, value) :: back ∧ key ∉ back.map Prod.fst

/-- `Resolves pairs resolved`: the keys of `resolved` are those of `pairs`, each in the place where
it first stands, and with the value that it has where it last stands. -/
inductive Resolves : List (String × α) → List (String × α) → Prop where
  | nil : Resolves [] []
  | cons {key : String} {first last : α} {rest resolved : List (String × α)}
      (isLast : IsLast key last ((key, first) :: rest))
      (others : Resolves (rest.filter fun pair => pair.1 ≠ key) resolved) :
      Resolves ((key, first) :: rest) ((key, last) :: resolved)

namespace IsLast

variable {key : String} {value value' : α} {pairs : List (String × α)}

/-- The last pair is the first one from behind. -/
theorem iff_lookup_reverse : IsLast key value pairs ↔ pairs.reverse.lookup key = some value := by
  rw [List.lookup_eq_some_iff]
  constructor
  · rintro ⟨front, back, rfl, hback⟩
    refine ⟨back.reverse, front.reverse, by simp, ?_⟩
    intro pair hpair
    have hmem : pair.1 ∈ back.map Prod.fst := List.mem_map_of_mem (List.mem_reverse.1 hpair)
    simp only [bne_iff_ne]
    rintro rfl
    exact hback hmem
  · rintro ⟨back, front, hpairs, hback⟩
    refine ⟨front.reverse, back.reverse, ?_, ?_⟩
    · rw [← List.reverse_reverse pairs, hpairs]
      simp
    · intro hmem
      rcases List.mem_map.1 hmem with ⟨pair, hpair, hkey⟩
      have hne := hback pair (List.mem_reverse.1 hpair)
      simp [hkey] at hne

theorem unique (h : IsLast key value pairs) (h' : IsLast key value' pairs) : value = value' :=
  Option.some.inj ((iff_lookup_reverse.1 h).symm.trans (iff_lookup_reverse.1 h'))

theorem singleton (key : String) (value : α) : IsLast key value [(key, value)] :=
  ⟨[], [], rfl, List.not_mem_nil⟩

/-- What stands in front of the last occurrence does not matter. -/
theorem cons (h : IsLast key value pairs) (pair : String × α) :
    IsLast key value (pair :: pairs) := by
  rcases h with ⟨front, back, rfl, hback⟩
  exact ⟨pair :: front, back, rfl, hback⟩

/-- A pair under another key may stand in the second place. -/
theorem cons_cons_of_ne {first : α} {pair : String × α}
    (h : IsLast key value ((key, first) :: pairs)) (hne : pair.1 ≠ key) :
    IsLast key value ((key, first) :: pair :: pairs) := by
  rcases h with ⟨_ | ⟨_, front⟩, back, hpairs, hback⟩
  · cases hpairs
    exact ⟨[], pair :: pairs, rfl, by simpa [hback] using hne.symm⟩
  · cases hpairs
    exact ⟨(key, first) :: pair :: front, back, rfl, hback⟩

end IsLast

/-- What some pairs come to is determined. -/
theorem Resolves.unique {pairs resolved resolved' : List (String × α)} (h : Resolves pairs resolved)
    (h' : Resolves pairs resolved') : resolved = resolved' := by
  induction h generalizing resolved' with
  | nil =>
    cases h'
    rfl
  | cons isLast _ ih =>
    cases h' with
    | cons isLast' others' => rw [isLast.unique isLast', ih others']

namespace OrderedMap

/-! ## Repeated keys in maps -/

/-- Where a map begins with a key, inserting pairs changes its value to the last one; the other
pairs are inserted as if the key were not there. -/
theorem exists_isLast_of_foldl_insert {key : String} (pairs : List (String × α)) :
    ∀ {m m' : OrderedMap α} {first : α}, m.entries = (key, first) :: m'.entries →
      ∃ last, IsLast key last ((key, first) :: pairs) ∧
        (pairs.foldl (fun m pair => m.insert pair.1 pair.2) m).entries =
          (key, last) :: ((pairs.filter fun pair => pair.1 ≠ key).foldl
            (fun m pair => m.insert pair.1 pair.2) m').entries := by
  induction pairs with
  | nil => exact fun {m m' first} hm => ⟨first, .singleton key first, hm⟩
  | cons pair pairs ih =>
    intro m m' first hm
    by_cases hkey : pair.1 = key
    · -- The value of the first entry is replaced.
      have hinsert : (m.insert pair.1 pair.2).entries = (key, pair.2) :: m'.entries := by
        unfold insert
        simp only
        rw [hm, insertEntry, if_pos hkey.symm, hkey]
      rcases ih hinsert with ⟨last, hlast, hentries⟩
      refine ⟨last, ?_, ?_⟩
      · rw [← hkey]
        rw [← hkey] at hlast
        exact hlast.cons _
      · rw [List.foldl_cons, hentries, List.filter_cons_of_neg (by simpa using hkey)]
    · -- The pair is inserted behind it.
      have hinsert : (m.insert pair.1 pair.2).entries =
          (key, first) :: (m'.insert pair.1 pair.2).entries := by
        unfold insert
        simp only
        rw [hm, insertEntry, if_neg (Ne.symm hkey)]
      rcases ih hinsert with ⟨last, hlast, hentries⟩
      refine ⟨last, hlast.cons_cons_of_ne hkey, ?_⟩
      rw [List.foldl_cons, hentries, List.filter_cons_of_pos (by simpa using hkey), List.foldl_cons]

/-- The entries of a map are what the pairs that made it come to. -/
theorem resolves_ofList (pairs : List (String × α)) : Resolves pairs (ofList pairs).entries := by
  -- What is left behind the first pair may be shorter by more than one pair.
  induction hlength : pairs.length using Nat.strongRecOn generalizing pairs with
  | ind length ih =>
    cases pairs with
    | nil => exact .nil
    | cons pair rest =>
      rcases pair with ⟨key, first⟩
      have hshort : (rest.filter fun pair => pair.1 ≠ key).length < length := by
        rw [← hlength]
        exact Nat.lt_succ_of_le (List.length_filter_le _ _)
      have hone : (empty.insert key first).entries =
          (key, first) :: (empty : OrderedMap α).entries := rfl
      rcases exists_isLast_of_foldl_insert rest hone with ⟨last, hlast, hentries⟩
      unfold ofList
      rw [List.foldl_cons, hentries]
      exact .cons hlast (ih _ hshort _ rfl)

/-- A map that is made from pairs holds what they come to. -/
theorem resolves_iff {pairs resolved : List (String × α)} :
    Resolves pairs resolved ↔ resolved = (ofList pairs).entries := by
  refine ⟨fun h => h.unique (resolves_ofList pairs), ?_⟩
  rintro rfl
  exact resolves_ofList pairs

/-- The last value of a key is the one that is found in the map. -/
theorem isLast_iff_get? {key : String} {value : α} {pairs : List (String × α)} :
    IsLast key value pairs ↔ (ofList pairs).get? key = some value := by
  rw [IsLast.iff_lookup_reverse]
  have hget : (ofList pairs).get? key = pairs.reverse.lookup key := by
    -- The induction is from behind: the last pair is the one that is inserted last.
    induction pairs using List.reverseRecOn with
    | nil => rfl
    | append_singleton pairs pair ih =>
      have hinsert : ofList (pairs ++ [pair]) = (ofList pairs).insert pair.1 pair.2 := by
        unfold ofList
        rw [List.foldl_append]
        rfl
      rw [hinsert, get?_insert, ih, List.reverse_append, List.reverse_singleton,
        List.singleton_append, List.lookup_cons]
      by_cases hkey : key = pair.1
      · simp [hkey]
      · have hbeq : (key == pair.1) = false := by simp [hkey]
        rw [if_neg hkey, hbeq]
  rw [hget]

/-! ## Selected keys -/

theorem ofList_entries (m : OrderedMap α) : ofList m.entries = m :=
  eq_of_entries_eq (entries_ofList m.nodup_keys)

section Selection

variable {p : String → Bool} {key : String} {value : α}

/-- Keys that a filter keeps are inserted behind it as well as before. -/
theorem filter_insertEntry_of_pos (h : p key = true) (entries : List (String × α)) :
    (insertEntry key value entries).filter (fun entry => p entry.1) =
      insertEntry key value (entries.filter fun entry => p entry.1) := by
  induction entries with
  | nil => simp [insertEntry, h]
  | cons entry entries ih =>
    by_cases hkey : entry.1 = key
    · simp [insertEntry, hkey, h]
    · cases hentry : p entry.1 <;> simp [insertEntry, hkey, hentry, ih]

/-- Keys that it drops leave no trace. -/
theorem filter_insertEntry_of_neg (h : ¬p key = true) (entries : List (String × α)) :
    (insertEntry key value entries).filter (fun entry => p entry.1) =
      entries.filter fun entry => p entry.1 := by
  induction entries with
  | nil => simp [insertEntry, h]
  | cons entry entries ih =>
    by_cases hkey : entry.1 = key
    · simp [insertEntry, hkey, h]
    · cases hentry : p entry.1 <;> simp [insertEntry, hkey, hentry, ih]

end Selection

/-- Pairs may be selected by their keys before the map is made or afterwards. -/
theorem entries_ofList_filter (p : String → Bool) (pairs : List (String × α)) :
    (ofList (pairs.filter fun pair => p pair.1)).entries =
      (ofList pairs).entries.filter fun entry => p entry.1 := by
  -- The induction keeps a map beside the one that holds what is selected from it.
  have hfold : ∀ (pairs : List (String × α)) (m m' : OrderedMap α),
      m'.entries = m.entries.filter (fun entry => p entry.1) →
      ((pairs.filter fun pair => p pair.1).foldl
        (fun m pair => m.insert pair.1 pair.2) m').entries =
        (pairs.foldl (fun m pair => m.insert pair.1 pair.2) m).entries.filter
          fun entry => p entry.1 := by
    intro pairs
    induction pairs with
    | nil => exact fun m m' hm => hm
    | cons pair pairs ih =>
      intro m m' hm
      rw [List.filter_cons, List.foldl_cons]
      split
      · next hpair =>
        refine ih _ _ ?_
        unfold insert
        simp only
        rw [hm, filter_insertEntry_of_pos hpair]
      · next hpair =>
        refine ih _ _ ?_
        rw [hm]
        exact (filter_insertEntry_of_neg hpair _).symm
  exact hfold pairs empty empty rfl

/-- A part that is there once is found in the map as well. -/
theorem single?_entries_ofList {names : List String} {members : List (String × α)}
    {part : Option α} (h : single? names members = some part) :
    single? names (ofList members).entries = some part := by
  unfold single? at h ⊢
  rw [← entries_ofList_filter fun key => names.contains key]
  generalize (members.filter fun member => names.contains member.1) = found at h ⊢
  -- One member at most was found, so there is nothing to resolve.
  cases found with
  | nil => exact h
  | cons first rest =>
    cases rest with
    | nil => exact h
    | cons second rest => cases h

/-- A map that was read has the value of the last member of each key. -/
theorem forall₂_of_ofMembers? {read : α → Option β} {members : List (String × α)} {m : OrderedMap β}
    (h : ofMembers? read members = some m) :
    List.Forall₂ (fun member entry => member.1 = entry.1 ∧ read member.2 = some entry.2)
      (ofList members).entries m.entries := by
  rcases Option.map_eq_some_iff.1 h with ⟨pairs, hpairs, rfl⟩
  refine forall₂_ofList (S := fun given value => read given = some value)
    ((mapM_eq_some_iff.1 hpairs).imp ?_)
  rintro member pair hpair
  rcases Option.map_eq_some_iff.1 hpair with ⟨value, hvalue, rfl⟩
  exact ⟨rfl, hvalue⟩

/-- What is found under a key was read from its last member. -/
theorem get?_of_ofMembers? {read : α → Option β} {members : List (String × α)} {m : OrderedMap β}
    (h : ofMembers? read members = some m) {key : String} {given : α}
    (hlast : IsLast key given members) :
    ∃ value, m.get? key = some value ∧ read given = some value := by
  have hmem : (key, given) ∈ (ofList members).entries :=
    get?_eq_some_iff.1 (isLast_iff_get?.1 hlast)
  rcases exists_of_forall₂_of_mem (forall₂_of_ofMembers? h).flip hmem with
    ⟨⟨_, value⟩, hentry, rfl, hvalue⟩
  exact ⟨value, get?_eq_some_iff.2 hentry, hvalue⟩

end OrderedMap
end TableDdl
