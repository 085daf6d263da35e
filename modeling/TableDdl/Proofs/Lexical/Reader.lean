import Mathlib.Data.List.Basic
import TableDdl.Proofs.Lexical.Identifier
import TableDdl.Statement.Constraint

/-!
# Reading lists

Items with a separator between them read back one by one, as long as each of them ends where the
separator or the text behind the list begins.

* `readList?`: the items at the front of a text and what follows, and `readList?_intercalate`;
* `readColumns?`: the identifiers in parentheses at the front of a text and what follows, and
  `readColumns?_sql`.
-/

namespace TableDdl
namespace Lexical

/-! ## Items with a separator between them -/

def readList? {α : Type} (item? : List Char → Option (α × List Char)) (sep cs : List Char) :
    Option (List α × List Char) :=
  match item? cs with
  | none => none
  | some (x, rest) =>
      match rest.dropPrefix? sep with
      | none => some ([x], rest)
      | some next =>
          -- Only items and separators without characters could leave as much as there was.
          if next.length < cs.length then
            (readList? item? sep next).map fun read => (x :: read.1, read.2)
          else none
termination_by cs.length

@[simp] theorem dropPrefix?_append (word rest : List Char) :
    (word ++ rest).dropPrefix? word = some rest :=
  List.dropPrefix?_append_of_beq rest (beq_self_eq_true word)

theorem readList?_nil {α : Type} {item? : List Char → Option (α × List Char)} (sep : List Char)
    (h : item? [] = none) : readList? item? sep [] = none := by
  rw [readList?, h]

section ReadList

variable {α β : Type} {item? : List Char → Option (α × List Char)} {print : β → List Char}
  {value : β → α} {follows : List Char → Prop} {sep rest : List Char} {ys : List β}

/-- The items that were put together are read if each of them is in front of everything that
`follows` allows, which has to allow the separator and the text behind the list. -/
theorem readList?_intercalate (hne : ys ≠ []) (hsep : sep ≠ [])
    (hitem : ∀ y ∈ ys, ∀ more, follows more → item? (print y ++ more) = some (value y, more))
    (hmore : ∀ more, follows (sep ++ more)) (hrest : follows rest)
    (hend : rest.dropPrefix? sep = none) :
    readList? item? sep (sep.intercalate (ys.map print) ++ rest) = some (ys.map value, rest) := by
  induction ys with
  | nil => exact absurd rfl hne
  | cons y ys ih =>
    have hy := hitem y List.mem_cons_self
    -- Behind the last item comes the text behind the list, behind any other one a separator.
    cases ys with
    | nil =>
      rw [List.map_singleton, List.intercalate_singleton, readList?, hy rest hrest]
      simp only [hend, List.map_singleton]
    | cons next ys =>
      have hothers := ih (List.cons_ne_nil next ys) fun x hx =>
        hitem x (List.mem_cons_of_mem _ hx)
      have hpos : 0 < sep.length := List.length_pos_iff.2 hsep
      rw [List.map_cons, List.map_cons, List.intercalate_cons_cons, ← List.map_cons,
        List.append_assoc, List.append_assoc, readList?, hy _ (hmore _)]
      simp only [dropPrefix?_append]
      rw [if_pos (by simp only [List.length_append]; omega), hothers]
      rfl

end ReadList

/-! ## Names in parentheses -/

def AreNames (names : List String) : Prop :=
  names ≠ [] ∧ ∀ name ∈ names, name ≠ ""

/-- Reads names with commas between them, in parentheses. -/
def readColumns? (style : QuoteStyle) (cs : List Char) : Option (List String × List Char) := do
  let cs ← cs.dropPrefix? "(".toList
  let (names, cs) ← readList? (readName? style) ", ".toList cs
  let cs ← cs.dropPrefix? ")".toList
  return (names.map String.ofList, cs)

variable {style : QuoteStyle}

/-- Names with commas between them read back. -/
theorem readList?_names (hstyle : Usual style) {columns : ColumnNames}
    (h : AreNames columns.toList) (rest : List Char) :
    readList? (readName? style) ", ".toList
        ((columns.sql style.quoter).toList ++ (")".toList ++ rest)) =
      some (columns.toList.map String.toList, ")".toList ++ rest) := by
  have hname : ∀ name ∈ columns.toList, ∀ more, EndsName style more →
      readName? style ((style.name name).toList ++ more) = some (name.toList, more) :=
    fun name hmem more hmore => readName?_name hstyle.closing_ne.2 hmore (h.2 name hmem)
  have hsql : (columns.sql style.quoter).toList =
      ", ".toList.intercalate (columns.toList.map fun name => (style.name name).toList) := by
    unfold ColumnNames.sql
    rw [String.toList_intercalate, List.map_map]
    rfl
  rw [hsql]
  exact readList?_intercalate h.1 (by decide) hname
    (fun more => hstyle.endsName (c := ',') (by simp) (' ' :: more))
    (hstyle.endsName (c := ')') (by simp) rest) rfl

/-- Columns in parentheses read back, whatever their names hold. -/
theorem readColumns?_sql (hstyle : Usual style) {columns : ColumnNames}
    (h : AreNames columns.toList) (rest : List Char) :
    readColumns? style ("(".toList ++ ((columns.sql style.quoter).toList ++ (")".toList ++ rest))) =
      some (columns.toList, rest) := by
  have hnames := readList?_names hstyle h rest
  unfold readColumns?
  simp only [Option.bind_eq_bind, Option.bind_some, dropPrefix?_append, hnames, List.map_map]
  simp [Function.comp_def]

end Lexical
end TableDdl
