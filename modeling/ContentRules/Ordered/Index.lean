import Std.Data.HashMap

/-!
Indexes: the members of a list under their keys. Main statement: what an index finds under a key are
the members of the list with that key, in their order.
-/

namespace ContentRules

/-- The members of a list under their keys; a member need not have one. -/
structure Index (κ α : Type) [BEq κ] [Hashable κ] where
  buckets : Std.HashMap κ (List α)

namespace Index

variable {κ α : Type} [BEq κ] [Hashable κ]

def ofList (key : α → Option κ) (l : List α) : Index κ α :=
  ⟨l.foldr (fun a m => match key a with
    | none => m
    | some k => m.insert k (a :: m.getD k [])) ∅⟩

/-- The members under a key, in the order of the list. -/
def find (i : Index κ α) (k : κ) : List α := i.buckets.getD k []

theorem find_ofList [LawfulBEq κ] (key : α → Option κ) (l : List α) (k : κ) :
    (ofList key l).find k = l.filter fun a => key a == some k := by
  simp only [find, ofList]
  induction l with
  | nil => simp
  | cons a l ih =>
    rw [List.foldr_cons, List.filter_cons]
    cases h : key a with
    | none => simpa using ih
    | some k' =>
      by_cases hk : k' = k
      · subst hk
        simp [ih]
      · simp [Std.HashMap.getD_insert, hk, ih]

end Index

end ContentRules
