/-!
# Maps that remember the order of arrival

`OrderedMap α` maps texts to values of `α` and keeps its entries in the order in which their keys
first arrived: `insert` puts a new key at the end and gives a present key a new value in its place.
That no key occurs twice is part of the type.
-/

namespace TableDdl

/-- A map from texts that keeps its entries in the order in which their keys first arrived. -/
structure OrderedMap (α : Type) where
  /-- The entries, oldest first. -/
  entries : List (String × α)
  /-- No key occurs twice. -/
  nodup_keys : (entries.map Prod.fst).Nodup
deriving DecidableEq

namespace OrderedMap

variable {α β : Type}

def empty : OrderedMap α :=
  ⟨[], List.nodup_nil⟩

instance : EmptyCollection (OrderedMap α) := ⟨empty⟩

instance : Inhabited (OrderedMap α) := ⟨empty⟩

def keys (m : OrderedMap α) : List String :=
  m.entries.map Prod.fst

def isEmpty (m : OrderedMap α) : Bool :=
  m.entries.isEmpty

def get? (m : OrderedMap α) (key : String) : Option α :=
  m.entries.lookup key

def contains (m : OrderedMap α) (key : String) : Bool :=
  m.keys.contains key

/-! ## Insertion -/

/-- Gives a key its value: in place where the key stands, at the end where it does not. -/
def insertEntry (key : String) (value : α) : List (String × α) → List (String × α)
  | [] => [(key, value)]
  | entry :: rest =>
      if entry.1 = key then (key, value) :: rest else entry :: insertEntry key value rest

/-- A key that is there keeps its place, and a new one goes to the end. -/
theorem keys_insertEntry (key : String) (value : α) (entries : List (String × α)) :
    (insertEntry key value entries).map Prod.fst =
      if key ∈ entries.map Prod.fst then entries.map Prod.fst
      else entries.map Prod.fst ++ [key] := by
  induction entries with
  | nil => simp [insertEntry]
  | cons entry rest ih =>
      by_cases h : entry.1 = key
      · simp [insertEntry, h]
      · by_cases hmem : key ∈ rest.map Prod.fst
        · rw [if_pos hmem] at ih
          rw [if_pos (by simp [hmem]), insertEntry, if_neg h]
          simp [ih]
        · rw [if_neg hmem] at ih
          rw [if_neg (by simp only [List.map_cons, List.mem_cons, not_or]
                         exact ⟨fun e => h e.symm, hmem⟩), insertEntry, if_neg h]
          simp [ih]

/-- Keys that are pairwise different stay so. -/
theorem nodup_insertEntry {key : String} {value : α} {entries : List (String × α)}
    (h : (entries.map Prod.fst).Nodup) :
    ((insertEntry key value entries).map Prod.fst).Nodup := by
  rw [keys_insertEntry]
  split
  · exact h
  · next hmem =>
      rw [List.nodup_append]
      refine ⟨h, by simp, fun a ha b hb e => hmem ?_⟩
      rw [List.mem_singleton] at hb
      rw [← hb, ← e]
      exact ha

/-- Gives a key its value; a key that is present keeps its place. -/
def insert (m : OrderedMap α) (key : String) (value : α) : OrderedMap α :=
  ⟨insertEntry key value m.entries, nodup_insertEntry m.nodup_keys⟩

/-- The map that results from inserting the pairs one after the other: of a repeated key the last
value stays, in the first place. -/
def ofList (pairs : List (String × α)) : OrderedMap α :=
  pairs.foldl (fun m pair => m.insert pair.1 pair.2) empty

@[simp] theorem keys_insert (m : OrderedMap α) (key : String) (value : α) :
    (m.insert key value).keys = if key ∈ m.keys then m.keys else m.keys ++ [key] :=
  keys_insertEntry key value m.entries

/-- Only what is found under the inserted key changes. -/
theorem lookup_insertEntry (key other : String) (value : α) (entries : List (String × α)) :
    (insertEntry key value entries).lookup other =
      if other = key then some value else entries.lookup other := by
  induction entries with
  | nil =>
      by_cases h : other = key
      · simp [insertEntry, h]
      · have hbeq : (other == key) = false := by simp [h]
        simp [insertEntry, List.lookup_cons, hbeq, h]
  | cons entry rest ih =>
      obtain ⟨name, old⟩ := entry
      by_cases h : name = key
      · subst h
        by_cases ho : other = name
        · simp [insertEntry, ho]
        · have hbeq : (other == name) = false := by simp [ho]
          simp [insertEntry, List.lookup_cons, hbeq, ho]
      · rw [insertEntry, if_neg h, List.lookup_cons, List.lookup_cons, ih]
        by_cases ho : other = key
        · subst ho
          have hbeq : (other == name) = false := by simp [Ne.symm h]
          simp [hbeq]
        · simp [ho]

@[simp] theorem get?_insert (m : OrderedMap α) (key other : String) (value : α) :
    (m.insert key value).get? other = if other = key then some value else m.get? other :=
  lookup_insertEntry key other value m.entries

/-! ## Selection -/

/-- The keys that survive a selection are some of the keys, in the same order. -/
theorem keys_filterMap_sublist (f : α → Option β) (entries : List (String × α)) :
    ((entries.filterMap fun entry => (f entry.2).map fun value => (entry.1, value)).map
      Prod.fst).Sublist (entries.map Prod.fst) := by
  induction entries with
  | nil => simp
  | cons entry rest ih =>
      cases h : f entry.2 with
      | none => simpa [h] using ih.cons _
      | some value => simpa [h] using List.Sublist.cons_cons entry.1 ih

/-- The entries whose value has an image under `f`, with that image. -/
def filterMap (m : OrderedMap α) (f : α → Option β) : OrderedMap β :=
  ⟨m.entries.filterMap fun entry => (f entry.2).map fun value => (entry.1, value),
    m.nodup_keys.sublist (keys_filterMap_sublist f m.entries)⟩

example : (ofList [("b", 1), ("a", 2), ("b", 3)]).entries = [("b", 3), ("a", 2)] := by decide

end OrderedMap

end TableDdl
