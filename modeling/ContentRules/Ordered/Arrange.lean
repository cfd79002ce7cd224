/-!
Sorting by a key that has few values: the members with the first value, then those with the second,
and so on. Members with the same key keep their order.
-/

namespace ContentRules

variable {κ α : Type} [BEq κ]

/-- The members of a list in the order of their keys. -/
def arrange (keys : List κ) (key : α → κ) (l : List α) : List α :=
  keys.flatMap fun k => l.filter (key · == k)

theorem mem_arrange [LawfulBEq κ] {keys : List κ} {key : α → κ} {l : List α} {a : α} :
    a ∈ arrange keys key l ↔ a ∈ l ∧ key a ∈ keys := by
  simp only [arrange, List.mem_flatMap, List.mem_filter, beq_iff_eq]
  exact ⟨fun ⟨_, hk, ha, h⟩ => ⟨ha, h ▸ hk⟩, fun ⟨ha, hk⟩ => ⟨_, hk, ha, rfl⟩⟩

end ContentRules
