import ContentRules.Json.Pretty
import Mathlib.Data.String.Basic

/-!
Objects as maps. Two objects stand for the same map if they hold the same members after sorting,
where of equal keys the last one counts. `sorted` brings all objects of a value into this form. Main
statements: sorting keeps what is found under a key (`lookup_sortMembers`), and a sorted value stays
as it is (`sorted_sorted`).
-/

namespace ContentRules.Json

/-- Induction on values, with the items of an array and the values of an object at once. -/
@[elab_as_elim]
theorem induction {motive : Json → Prop} (null : motive .null) (bool : ∀ b, motive (.bool b))
    (str : ∀ s, motive (.str s)) (arr : ∀ items, (∀ v ∈ items, motive v) → motive (.arr items))
    (obj : ∀ members, (∀ m ∈ members, motive m.2) → motive (.obj members)) : ∀ v, motive v
  | .null => null
  | .bool b => bool b
  | .str s => str s
  | .arr items => arr items fun v _ => induction null bool str arr obj v
  | .obj members => obj members fun m _ => induction null bool str arr obj m.2
  termination_by v => sizeOf v
  decreasing_by
    · rename_i h
      have := List.sizeOf_lt_of_mem h
      simp only [Json.arr.sizeOf_spec]
      omega
    · rename_i h
      have := List.sizeOf_lt_of_mem h
      have : sizeOf m = 1 + sizeOf m.1 + sizeOf m.2 := by cases m; simp
      simp only [Json.obj.sizeOf_spec]
      omega

section

variable {α β : Type}

/-- The keys stand in ascending order, and none stands there twice. -/
def IsAscending (members : List (String × α)) : Prop := members.Pairwise fun m n => m.1 < n.1

theorem mem_insertMember {k : String} {v : α} {m : String × α} {members : List (String × α)}
    (hm : m ∈ insertMember k v members) : m = (k, v) ∨ m ∈ members := by
  induction members with
  | nil => exact .inl (by simpa [insertMember] using hm)
  | cons n rest ih =>
    simp only [insertMember] at hm
    split at hm
    · simpa using hm
    · split at hm
      · rcases List.mem_cons.1 hm with h | h
        · exact .inl h
        · exact .inr (.tail _ h)
      · rcases List.mem_cons.1 hm with h | h
        · exact .inr (h ▸ .head _)
        · exact (ih h).imp_right (.tail _)

theorem isAscending_insertMember {members : List (String × α)} (h : IsAscending members)
    (k : String) (v : α) : IsAscending (insertMember k v members) := by
  induction members with
  | nil => simp [IsAscending, insertMember]
  | cons n rest ih =>
    obtain ⟨hn, hrest⟩ := List.pairwise_cons.1 h
    simp only [insertMember]
    split
    · rename_i hk
      refine List.pairwise_cons.2 ⟨fun m hm => ?_, h⟩
      rcases List.mem_cons.1 hm with rfl | hm
      · exact hk
      · exact lt_trans hk (hn m hm)
    · rename_i hk
      split
      · rename_i he
        exact List.pairwise_cons.2 ⟨fun m hm => he ▸ hn m hm, hrest⟩
      · rename_i he
        refine List.pairwise_cons.2 ⟨fun m hm => ?_, ih hrest⟩
        rcases mem_insertMember hm with rfl | hm
        · exact lt_of_le_of_ne (not_lt.1 hk) (Ne.symm he)
        · exact hn m hm

/-- A key above all others goes to the end. -/
theorem insertMember_of_forall_lt {members : List (String × α)} {k : String}
    (h : ∀ m ∈ members, m.1 < k) (v : α) : insertMember k v members = members ++ [(k, v)] := by
  induction members with
  | nil => rfl
  | cons n rest ih =>
    have hn : n.1 < k := h n (.head _)
    simp [insertMember, lt_asymm hn, (ne_of_lt hn).symm, ih fun m hm => h m (.tail _ hm)]

theorem insertMember_map (f : α → β) (k : String) (v : α) (members : List (String × α)) :
    insertMember k (f v) (members.map (Prod.map id f)) =
      (insertMember k v members).map (Prod.map id f) := by
  induction members with
  | nil => rfl
  | cons n rest ih =>
    simp only [List.map_cons, insertMember, Prod.map_fst, Prod.map_snd, id_eq]
    split
    · rfl
    · split
      · rfl
      · exact congrArg _ ih

theorem lookup_cons_ite (k k' : String) (v : α) (members : List (String × α)) :
    List.lookup k' ((k, v) :: members) = if k' = k then some v else members.lookup k' := by
  by_cases h : k' = k
  · simp [h]
  · have hk : (k' == k) = false := by simpa using h
    simp [List.lookup_cons, h, hk]

theorem lookup_insertMember (k k' : String) (v : α) (members : List (String × α)) :
    (insertMember k v members).lookup k' = if k' = k then some v else members.lookup k' := by
  induction members with
  | nil => exact lookup_cons_ite k k' v []
  | cons n rest ih =>
    obtain ⟨l, w⟩ := n
    simp only [insertMember]
    split
    · exact lookup_cons_ite k k' v _
    · split
      · rename_i he
        subst he
        rw [lookup_cons_ite, lookup_cons_ite]
        split <;> rfl
      · rename_i he
        rw [lookup_cons_ite, lookup_cons_ite, ih]
        grind

theorem sortMembers_eq_foldl (members : List (String × α)) :
    sortMembers members = members.foldl (fun sorted m => insertMember m.1 m.2 sorted) [] := rfl

/-- Sorting keeps what is found under a key, where the last member with the key counts. -/
theorem lookup_sortMembers (k : String) (members : List (String × α)) :
    (sortMembers members).lookup k = members.reverse.lookup k := by
  have hfold : ∀ acc : List (String × α),
      (members.foldl (fun sorted m => insertMember m.1 m.2 sorted) acc).lookup k =
        (members.reverse ++ acc).lookup k := by
    induction members with
    | nil => simp
    | cons m rest ih =>
      intro acc
      have hm : (insertMember m.1 m.2 acc).lookup k = ([m] ++ acc).lookup k := by
        rw [lookup_insertMember, List.singleton_append, ← lookup_cons_ite]
      simp only [List.foldl_cons, ih, List.lookup_append, hm, List.reverse_cons, List.append_assoc]
  simpa [sortMembers_eq_foldl] using hfold []

theorem isAscending_sortMembers (members : List (String × α)) : IsAscending (sortMembers members) :=
  List.foldlRecOn (motive := IsAscending) members _ .nil
    fun _ h m _ => isAscending_insertMember h m.1 m.2

theorem mem_of_mem_sortMembers {m : String × α} {members : List (String × α)}
    (hm : m ∈ sortMembers members) : m ∈ members := by
  have hfold : sortMembers members ⊆ members := by
    refine List.foldlRecOn (motive := (· ⊆ members)) members _ (List.nil_subset _) ?_
    intro acc h n hn l hl
    rcases mem_insertMember hl with rfl | hl
    · exact hn
    · exact h hl
  exact hfold hm

/-- Members in ascending order stay as they are. -/
theorem IsAscending.sortMembers_eq {members : List (String × α)} (h : IsAscending members) :
    sortMembers members = members := by
  have hfold : ∀ acc : List (String × α), IsAscending (acc ++ members) →
      members.foldl (fun sorted m => insertMember m.1 m.2 sorted) acc = acc ++ members := by
    clear h
    induction members with
    | nil => simp
    | cons m rest ih =>
      intro acc h
      have hlast : ∀ n ∈ acc, n.1 < m.1 := fun n hn =>
        (List.pairwise_append.1 h).2.2 n hn m (.head _)
      rw [List.foldl_cons, insertMember_of_forall_lt hlast, ih _ (by simpa using h)]
      simp
  exact hfold [] h

theorem sortMembers_map (f : α → β) (members : List (String × α)) :
    sortMembers (members.map (Prod.map id f)) = (sortMembers members).map (Prod.map id f) := by
  have hfold : ∀ acc : List (String × α),
      (members.map (Prod.map id f)).foldl (fun sorted m => insertMember m.1 m.2 sorted)
          (acc.map (Prod.map id f)) =
        (members.foldl (fun sorted m => insertMember m.1 m.2 sorted) acc).map (Prod.map id f) := by
    induction members with
    | nil => simp
    | cons m rest ih =>
      intro acc
      simp only [List.map_cons, List.foldl_cons, Prod.map_fst, Prod.map_snd, id_eq]
      rw [insertMember_map, ih]
  exact hfold []

end

mutual
/-- The value with the members of all its objects in ascending order of their keys; of equal keys
the last one counts. -/
def sorted : Json → Json
  | arr items => arr (sortedItems items)
  | obj members => obj (sortMembers (sortedMembers members))
  | v => v

def sortedItems : List Json → List Json
  | [] => []
  | v :: rest => sorted v :: sortedItems rest

def sortedMembers : List (String × Json) → List (String × Json)
  | [] => []
  | (k, v) :: rest => (k, sorted v) :: sortedMembers rest
end

theorem sorted_arr (items : List Json) : (arr items).sorted = arr (items.map sorted) := by
  have h : ∀ items, sortedItems items = items.map sorted := fun items => by
    induction items with
    | nil => rfl
    | cons v rest ih => simp [sortedItems, ih]
  rw [sorted, h]

theorem sorted_obj (members : List (String × Json)) :
    (obj members).sorted = obj ((sortMembers members).map (Prod.map id sorted)) := by
  have h : ∀ members, sortedMembers members = members.map (Prod.map id sorted) := fun members => by
    induction members with
    | nil => rfl
    | cons m rest ih => exact congrArg (_ :: ·) ih
  rw [sorted, h, sortMembers_map]

/-- A sorted value stays as it is. -/
theorem sorted_sorted (v : Json) : v.sorted.sorted = v.sorted := by
  induction v using induction with
  | null => rfl
  | bool b => rfl
  | str s => rfl
  | arr items ih =>
    rw [sorted_arr, sorted_arr, List.map_map]
    exact congrArg arr (List.map_congr_left ih)
  | obj members ih =>
    -- sorting what is sorted keeps it, so only the values of the members are sorted once more
    rw [sorted_obj, sorted_obj, sortMembers_map, (isAscending_sortMembers members).sortMembers_eq,
      List.map_map]
    refine congrArg obj (List.map_congr_left fun m hm => ?_)
    exact Prod.ext rfl (ih m (mem_of_mem_sortMembers hm))

end ContentRules.Json
