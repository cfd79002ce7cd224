/-!
Binary search for a key in an array whose keys ascend. The part in which the key can stand is halved
until one place is left, and only then is the key there compared. Main statement: where keys ascend,
the search finds the member of every key that is there (`search?_eq_some_iff`).
-/

namespace ContentRules

variable {α : Type} (key : α → Nat) (items : Array α) (k : Nat)

/-- The place that is left of `size` places from `base` on, after halving. -/
def searchFrom (base size : Nat) (h : base + size ≤ items.size) : Nat :=
  if hsize : 1 < size then
    if k < key items[base + size / 2] then searchFrom base (size - size / 2) (by omega)
    else searchFrom (base + size / 2) (size - size / 2) (by omega)
  else base
termination_by size

/-- The member with the key. -/
def search? : Option α :=
  (items[searchFrom key items k 0 items.size (by omega)]?).filter (key · == k)

variable {key items k}

/-- A found member has the key, whatever the order of the keys is. -/
theorem key_of_search? {a : α} (h : search? key items k = some a) : a ∈ items ∧ key a = k := by
  obtain ⟨hfound, hkey⟩ := Option.filter_eq_some_iff.1 h
  exact ⟨Array.mem_of_getElem? hfound, beq_iff_eq.1 hkey⟩

/-- Halving does not lose the place of the key. -/
theorem searchFrom_eq (hkeys : items.toList.Pairwise fun a b => key a < key b) {i : Nat}
    (hi : i < items.size) (hk : key items[i] = k) {base size : Nat}
    (h : base + size ≤ items.size) (hbase : base ≤ i) (hsize : i < base + size) :
    searchFrom key items k base size h = i := by
  have hlt {m n : Nat} (hm : m < items.size) (hn : n < items.size) (hmn : m < n) :
      key items[m] < key items[n] :=
    List.pairwise_iff_getElem.1 hkeys m n hm hn hmn
  fun_induction searchFrom key items k base size h with
  | case1 base size h hone hbelow ih =>
    -- the middle has a greater key, so the key stands before it
    have hupper : i < base + size / 2 := Nat.lt_of_not_le fun hle => by
      obtain heq | hlt' := Nat.eq_or_lt_of_le hle
      · subst heq
        exact Nat.lt_irrefl _ (hk ▸ hbelow)
      · exact Nat.lt_asymm (hk ▸ hbelow) (hlt _ hi hlt')
    exact ih hbase (by omega)
  | case2 base size h hone hnot ih =>
    have hlower : base + size / 2 ≤ i := Nat.le_of_not_lt fun hlt' => hnot (hk ▸ hlt hi _ hlt')
    exact ih hlower (by omega)
  | case3 base size h hone => omega

/-- Where keys ascend, the search finds exactly the members. -/
theorem search?_eq_some_iff (hkeys : items.toList.Pairwise fun a b => key a < key b) {a : α} :
    search? key items k = some a ↔ a ∈ items ∧ key a = k := by
  refine ⟨key_of_search?, fun ⟨ha, hk⟩ => ?_⟩
  obtain ⟨i, hi, rfl⟩ := Array.mem_iff_getElem.1 ha
  have hplace :=
    searchFrom_eq hkeys hi hk (Nat.le_of_eq (Nat.zero_add _)) (Nat.zero_le i) (by omega)
  rw [search?, hplace, Array.getElem?_eq_getElem hi]
  exact Option.filter_eq_some_iff.2 ⟨rfl, beq_iff_eq.2 hk⟩

end ContentRules
