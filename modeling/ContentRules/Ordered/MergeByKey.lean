import ContentRules.Ordered.Index

/-!
Joining the members of a list that share a key. The joined member stands where the first of them
stood; members without a key stay as they are.
-/

namespace ContentRules

variable {κ α : Type} [BEq κ] [Hashable κ]

/-- The member at its place in the list, joined with the later ones of its key; `none` for those. -/
def joinAt (key : α → Option κ) (join : α → α → α) (index : Index κ (α × Nat)) (a : α × Nat) :
    Option α :=
  match key a.1 with
  | none => some a.1
  | some k =>
    match index.find k with
    | first :: rest => if first.2 = a.2 then some ((rest.map (·.1)).foldl join first.1) else none
    | [] => none

/-- The list with the members of each key joined from first to last. -/
def mergeByKey (key : α → Option κ) (join : α → α → α) (l : List α) : List α :=
  let index := Index.ofList (fun a => key a.1) l.zipIdx
  l.zipIdx.filterMap (joinAt key join index)

end ContentRules
