/-!
# Joined lists

Ways to reason about `List.intercalate`: by what holds of the parts and of what stands between them,
by the first part and what each further one adds, and by the one part in which two lists differ.
-/

namespace TableDdl
namespace Text

variable {α : Type} {sep : List α}

/-- What holds of some parts and of what stands between them, and is kept by putting lists together,
holds of the parts joined. -/
theorem intercalate_induction {P : List α → Prop} {parts : List (List α)} (hnil : P [])
    (happend : ∀ {as bs}, P as → P bs → P (as ++ bs)) (hsep : P sep)
    (hparts : ∀ part ∈ parts, P part) : P (sep.intercalate parts) := by
  induction parts with
  | nil => exact hnil
  | cons part parts ih =>
    have hpart := hparts part List.mem_cons_self
    have hrest := ih fun x hx => hparts x (List.mem_cons_of_mem _ hx)
    cases parts with
    | nil => simpa using hpart
    | cons next parts =>
      rw [List.intercalate_cons_cons]
      exact happend (happend hpart hsep) hrest

/-- Behind the first part, each further one comes with what stands between them. -/
theorem intercalate_cons_eq_append_flatMap (sep first : List α) (parts : List (List α)) :
    sep.intercalate (first :: parts) = first ++ parts.flatMap (sep ++ ·) := by
  induction parts generalizing first with
  | nil => simp
  | cons part parts ih =>
    rw [List.intercalate_cons_cons, ih]
    simp

/-- Where only one part differs, the joined lists are equal if this part is. -/
theorem intercalate_append_cons_inj {α : Type} (sep : List α) (front back : List (List α))
    (x y : List α) :
    sep.intercalate (front ++ x :: back) = sep.intercalate (front ++ y :: back) ↔ x = y := by
  refine ⟨fun h => ?_, fun h => by rw [h]⟩
  -- What stands in front of the part and behind it is the same on both sides.
  cases front with
  | nil =>
    simp only [List.nil_append, intercalate_cons_eq_append_flatMap] at h
    exact List.append_cancel_right h
  | cons first front =>
    simp only [List.cons_append, intercalate_cons_eq_append_flatMap, List.flatMap_append,
      List.flatMap_cons, ← List.append_assoc] at h
    exact List.append_cancel_left (List.append_cancel_right h)

end Text
end TableDdl
