import TableDdl.Dialect.Known

/-!
# The provided dialects as a list

Statements about every provided dialect range over `Dialect.provided`.
-/

namespace TableDdl
namespace Dialect

def provided : List Dialect :=
  [mysql, postgres, sqlite]

theorem mem_provided_iff {d : Dialect} :
    d ∈ provided ↔ d = mysql ∨ d = postgres ∨ d = sqlite := by
  simp [provided]

theorem mysql_mem_provided : mysql ∈ provided :=
  mem_provided_iff.2 (.inl rfl)

theorem postgres_mem_provided : postgres ∈ provided :=
  mem_provided_iff.2 (.inr (.inl rfl))

theorem sqlite_mem_provided : sqlite ∈ provided :=
  mem_provided_iff.2 (.inr (.inr rfl))

/-- All of them have the same template for primary keys. -/
theorem primary_eq_of_mem_provided {d : Dialect} (h : d ∈ provided) :
    d.constraints.primary = some { template := primaryTemplate } := by
  rcases mem_provided_iff.1 h with rfl | rfl | rfl <;> rfl

/-- All of them have the same template for references. -/
theorem foreignKey_eq_of_mem_provided {d : Dialect} (h : d ∈ provided) :
    d.constraints.foreignKey = some { template := foreignKeyTemplate } := by
  rcases mem_provided_iff.1 h with rfl | rfl | rfl <;> rfl

end Dialect
end TableDdl
