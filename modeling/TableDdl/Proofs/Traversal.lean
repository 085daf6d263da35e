import Mathlib.Data.List.Forall2

/-!
# Passes over lists that may fail

A pass that may stop succeeds where every single step does, and gives one result for each item.
Stated with `List.Forall₂`, so that what is known of the steps can be followed from item to item:

* `mapM_eq_some_iff` for steps that only say that they failed;
* `mapM_eq_ok_iff` for steps that say why;
* `mapM_eq_error_iff` says which step a failure comes from;
* `rel_mapM` and `perm_mapM` compare two passes, which fail together or give related results;
* `foldlM_cons_of_eq_some` and `foldlM_append_of_eq_some` follow a pass that keeps a state.
-/

namespace TableDdl

variable {α β ε : Type} {xs : List α} {ys : List β}

/-- A list is mapped if all its items are. -/
theorem mapM_eq_some_iff {f : α → Option β} :
    xs.mapM f = some ys ↔ List.Forall₂ (fun x y => f x = some y) xs ys := by
  constructor
  · intro h
    induction xs generalizing ys with
    | nil =>
      cases h
      exact .nil
    | cons x xs ih =>
      rw [List.mapM_cons, Option.bind_eq_bind, Option.bind_eq_some_iff] at h
      rcases h with ⟨y, hy, hrest⟩
      rw [Option.bind_eq_bind, Option.bind_eq_some_iff] at hrest
      rcases hrest with ⟨rest, hxs, hys⟩
      cases hys
      exact .cons hy (ih hxs)
  · intro h
    induction h with
    | nil => rfl
    | cons hx _ ih => simp [List.mapM_cons, hx, ih]

theorem mapM_eq_ok_iff {f : α → Except ε β} :
    xs.mapM f = .ok ys ↔ List.Forall₂ (fun x y => f x = .ok y) xs ys := by
  constructor
  · intro h
    induction xs generalizing ys with
    | nil =>
      cases h
      exact .nil
    | cons x xs ih =>
      rw [List.mapM_cons] at h
      -- The pass stops at the first step that fails, or at a later one.
      cases hx : f x with
      | error e => simp [hx, bind, Except.bind] at h
      | ok y =>
        cases hxs : xs.mapM f with
        | error e => simp [hx, hxs, bind, Except.bind] at h
        | ok rest =>
          have hys : y :: rest = ys := by
            simpa [hx, hxs, bind, Except.bind, pure, Except.pure] using h
          rw [← hys]
          exact .cons hx (ih hxs)
  · intro h
    induction h with
    | nil => rfl
    | cons hx _ ih =>
      rw [List.mapM_cons, hx, ih]
      rfl

/-- A pass fails with the first step that does. -/
theorem mapM_eq_error_iff {f : α → Except ε β} {e : ε} :
    xs.mapM f = .error e ↔
      ∃ before x after, xs = before ++ x :: after ∧ (∀ y ∈ before, ∃ z, f y = .ok z) ∧
        f x = .error e := by
  constructor
  · intro h
    induction xs with
    | nil => cases h
    | cons x xs ih =>
      rw [List.mapM_cons] at h
      cases hx : f x with
      | error e' =>
        have he : e' = e := by simpa [hx, bind, Except.bind] using h
        exact ⟨[], x, xs, rfl, by simp, he ▸ hx⟩
      | ok y =>
        -- The first step went well, so the failure is one of the rest.
        cases hxs : xs.mapM f with
        | ok rest => simp [hx, hxs, bind, Except.bind, pure, Except.pure] at h
        | error e' =>
          have he : e' = e := by simpa [hx, hxs, bind, Except.bind] using h
          rcases ih (he ▸ hxs) with ⟨before, x', after, rfl, hbefore, hfail⟩
          refine ⟨x :: before, x', after, rfl, ?_, hfail⟩
          intro y' hy'
          rcases List.mem_cons.1 hy' with rfl | hmem
          · exact ⟨y, hx⟩
          · exact hbefore y' hmem
  · rintro ⟨before, x, after, rfl, hbefore, hfail⟩
    induction before with
    | nil =>
      rw [List.nil_append, List.mapM_cons, hfail]
      rfl
    | cons y before ih =>
      rcases hbefore y List.mem_cons_self with ⟨z, hz⟩
      have hrest := ih fun y' hy' => hbefore y' (List.mem_cons_of_mem _ hy')
      rw [List.cons_append, List.mapM_cons, hz, hrest]
      rfl

/-- Two passes that agree on partners give the same. -/
theorem mapM_congr {γ : Type} {zs : List γ} {f : α → Except ε β} {g : γ → Except ε β}
    (h : List.Forall₂ (fun x z => f x = g z) xs zs) : xs.mapM f = zs.mapM g := by
  induction h with
  | nil => rfl
  | cons hx _ ih => rw [List.mapM_cons, List.mapM_cons, hx, ih]

/-! ## Two passes side by side -/

section Rel

variable {γ δ : Type} {R : α → β → Prop} {S : γ → δ → Prop}

theorem rel_refl {R : α → α → Prop} (h : ∀ a, R a a) (x : Option α) : Option.Rel R x x := by
  cases x with
  | none => exact .none
  | some a => exact .some (h a)

theorem rel_imp {T : α → β → Prop} {x : Option α} {y : Option β} (h : Option.Rel R x y)
    (hT : ∀ a b, R a b → T a b) : Option.Rel T x y := by
  cases h with
  | none => exact .none
  | some hab => exact .some (hT _ _ hab)

/-- Related results stay related under what is done to them next. -/
theorem rel_bind {x : Option α} {y : Option β} {f : α → Option γ} {g : β → Option δ}
    (h : Option.Rel R x y) (hfg : ∀ a b, R a b → Option.Rel S (f a) (g b)) :
    Option.Rel S (x.bind f) (y.bind g) := by
  cases h with
  | none => exact .none
  | some hab => exact hfg _ _ hab

/-- If that is the same for related results, so is the outcome. -/
theorem bind_eq_of_rel {x : Option α} {y : Option β} {f : α → Option γ} {g : β → Option γ}
    (h : Option.Rel R x y) (hfg : ∀ a b, R a b → f a = g b) : x.bind f = y.bind g := by
  cases h with
  | none => rfl
  | some hab => exact hfg _ _ hab

theorem rel_map {x : Option α} {y : Option β} {f : α → γ} {g : β → δ} (h : Option.Rel R x y)
    (hfg : ∀ a b, R a b → S (f a) (g b)) : Option.Rel S (x.map f) (y.map g) := by
  cases h with
  | none => exact .none
  | some hab => exact .some (hfg _ _ hab)

/-- What is known of the first result may be used along with the relation. -/
theorem rel_and_left {P : α → Prop} {x : Option α} {y : Option β} (h : Option.Rel R x y)
    (hP : ∀ a, x = some a → P a) : Option.Rel (fun a b => R a b ∧ P a) x y := by
  cases h with
  | none => exact .none
  | some hab => exact .some ⟨hab, hP _ rfl⟩

/-- Lists whose items are mapped alike are mapped alike. -/
theorem rel_mapM {zs : List β} {f : α → Option γ} {g : β → Option δ}
    (h : List.Forall₂ (fun x z => Option.Rel S (f x) (g z)) xs zs) :
    Option.Rel (List.Forall₂ S) (xs.mapM f) (zs.mapM g) := by
  induction h with
  | nil => exact .some .nil
  | cons hx _ ih =>
    rw [List.mapM_cons, List.mapM_cons]
    refine rel_bind hx fun y z hyz => rel_bind ih fun ys zs hyzs => .some (.cons hyz hyzs)

/-- Results that are related over a third are related. -/
theorem rel_trans {T : β → γ → Prop} {U : α → γ → Prop} {x : Option α} {y : Option β}
    {z : Option γ} (h : ∀ a b c, R a b → T b c → U a c) (hxy : Option.Rel R x y)
    (hyz : Option.Rel T y z) : Option.Rel U x z := by
  cases hxy with
  | none =>
    cases hyz with
    | none => exact .none
  | some hab =>
    cases hyz with
    | some hbc => exact .some (h _ _ _ hab hbc)

/-- Passing through a list in another order gives the results in another order. -/
theorem perm_mapM {f : α → Option β} {zs : List α} (h : xs.Perm zs) :
    Option.Rel List.Perm (xs.mapM f) (zs.mapM f) := by
  induction h with
  | nil => exact .some .nil
  | cons x _ ih =>
    rw [List.mapM_cons, List.mapM_cons]
    refine rel_bind (rel_refl (fun _ => rfl) (f x)) ?_
    rintro y _ rfl
    exact rel_bind ih fun ys zs hyzs => .some (hyzs.cons y)
  | swap x y zs =>
    simp only [List.mapM_cons]
    -- If one of the two steps fails, both passes do.
    cases f x with
    | none => cases f y <;> exact .none
    | some a =>
      cases f y with
      | none => exact .none
      | some b =>
        cases zs.mapM f with
        | none => exact .none
        | some rest => exact .some (.swap a b rest)
  | trans _ _ ih₁ ih₂ => exact rel_trans (fun _ _ _ h₁ h₂ => h₁.trans h₂) ih₁ ih₂

end Rel

/-- What stands in the second list has a partner in the first. -/
theorem exists_of_forall₂_of_mem {R : α → β → Prop} (h : List.Forall₂ R xs ys) {y : β}
    (hy : y ∈ ys) : ∃ x ∈ xs, R x y := by
  induction h with
  | nil => cases hy
  | cons hr _ ih =>
    rcases List.mem_cons.1 hy with rfl | hrest
    · exact ⟨_, List.mem_cons_self, hr⟩
    · rcases ih hrest with ⟨x, hx, hxy⟩
      exact ⟨x, List.mem_cons_of_mem _ hx, hxy⟩

/-- Partners of partners, one by one. -/
theorem exists_forall₂_of_forall₂_exists {α β γ : Type} {R : α → β → Prop} {S : β → γ → Prop}
    {xs : List α} {zs : List γ} (h : List.Forall₂ (fun x z => ∃ y, R x y ∧ S y z) xs zs) :
    ∃ ys, List.Forall₂ R xs ys ∧ List.Forall₂ S ys zs := by
  induction h with
  | nil => exact ⟨[], .nil, .nil⟩
  | cons hx _ ih =>
    rcases hx with ⟨y, hxy, hyz⟩
    rcases ih with ⟨ys, hxs, hzs⟩
    exact ⟨y :: ys, .cons hxy hxs, .cons hyz hzs⟩

/-! ## Passes that keep a state -/

section Run

variable {σ : Type} {step? : σ → α → Option σ} {state next : σ}

/-- After a step that succeeds the pass goes on from where it led. -/
theorem foldlM_cons_of_eq_some {x : α} (h : step? state x = some next) (xs : List α) :
    (x :: xs).foldlM step? state = xs.foldlM step? next := by
  rw [List.foldlM_cons, h]
  rfl

/-- Behind items that were passed over it goes on from there. -/
theorem foldlM_append_of_eq_some (h : xs.foldlM step? state = some next) (rest : List α) :
    (xs ++ rest).foldlM step? state = rest.foldlM step? next := by
  rw [List.foldlM_append, h]
  rfl

end Run

end TableDdl
