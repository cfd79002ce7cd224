/-!
Union of lists that keeps the order in which members came. Main statement: the members of the union
are those of both lists.
-/

namespace ContentRules

variable {α : Type} [BEq α]

/-- The first list, and after it the members of the second that it lacks. -/
def addMissing (l m : List α) : List α :=
  m.foldl (fun l a => if l.contains a then l else l ++ [a]) l

theorem mem_addMissing [LawfulBEq α] {l m : List α} {a : α} :
    a ∈ addMissing l m ↔ a ∈ l ∨ a ∈ m := by
  induction m generalizing l with
  | nil => simp [addMissing]
  | cons b m ih =>
    rw [addMissing, List.foldl_cons, ← addMissing, ih]
    by_cases h : b ∈ l
    · simp only [List.contains_iff_mem, h, if_true, List.mem_cons]
      exact ⟨fun h' => h'.imp_right .inr, fun h' => h'.elim .inl fun h' =>
        h'.elim (fun e => .inl (e ▸ h)) .inr⟩
    · simp [h, or_assoc]

end ContentRules
