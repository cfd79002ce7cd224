import ContentRules.Ordered.MergeByKey
import Mathlib.Data.List.Induction
import Mathlib.Data.List.Nodup

/-!
Joining by key, step by step: the first member of a list is joined with all later ones of its key,
and the rest is joined without them. Main statement: `mergeByKey_cons_some`; the other facts follow
from it by induction. What is joined away is counted by `length_mergeByKey`.
-/

namespace ContentRules

section
variable {κ α : Type} [BEq κ] (key : α → Option κ) (join : α → α → α)

/-! ## Members with labels -/

/-- What becomes of a member of a list whose members have labels: it stays if none with its
key stands before it. -/
def joinLabelled (l : List (α × Nat)) (a : α × Nat) : Option α :=
  match key a.1 with
  | none => some a.1
  | some k =>
    match l.filter fun b => key b.1 == some k with
    | first :: rest => if first.2 = a.2 then some ((rest.map (·.1)).foldl join first.1) else none
    | [] => none

theorem mergeByKey_eq_joinLabelled [LawfulBEq κ] [Hashable κ] (l : List α) :
    mergeByKey key join l = l.zipIdx.filterMap (joinLabelled key join l.zipIdx) := by
  refine List.filterMap_congr fun a _ => ?_
  cases h : key a.1 with
  | none => simp only [joinAt, joinLabelled, h]
  | some k =>
    cases hl : l.zipIdx.filter fun b => key b.1 == some k with
    | nil => simp only [joinAt, joinLabelled, h, Index.find_ofList, hl]
    | cons first rest => simp only [joinAt, joinLabelled, h, Index.find_ofList, hl]

section
variable {key} {a : α} {n : Nat} {l : List (α × Nat)}

theorem filterMap_joinLabelled_cons_none (ha : key a = none) :
    ((a, n) :: l).filterMap (joinLabelled key join ((a, n) :: l)) =
      a :: l.filterMap (joinLabelled key join l) := by
  rw [List.filterMap_cons_some (b := a) (by simp only [joinLabelled, ha])]
  congr 1
  refine List.filterMap_congr fun b _ => ?_
  cases hb : key b.1 with
  | none => simp only [joinLabelled, hb]
  | some k => simp [joinLabelled, hb, ha]

theorem filterMap_joinLabelled_cons_some [LawfulBEq κ] {k : κ} (ha : key a = some k)
    (hn : n ∉ l.map (·.2)) :
    ((a, n) :: l).filterMap (joinLabelled key join ((a, n) :: l)) =
      ((l.filter fun b => key b.1 == some k).map (·.1)).foldl join a ::
        (l.filter fun b => key b.1 != some k).filterMap
          (joinLabelled key join (l.filter fun b => key b.1 != some k)) := by
  rw [List.filterMap_cons_some
    (b := ((l.filter fun b => key b.1 == some k).map (·.1)).foldl join a)
    (by simp [joinLabelled, ha])]
  congr 1
  rw [List.filterMap_filter]
  refine List.filterMap_congr fun b hb => ?_
  have hne : n ≠ b.2 := fun h => hn (h ▸ List.mem_map_of_mem hb)
  cases hkey : key b.1 with
  | none => simp [joinLabelled, hkey]
  | some k' =>
    by_cases hk : k' = k
    · simp [joinLabelled, hkey, hk, ha, hne]
    · have hk' : ¬k = k' := fun h => hk h.symm
      have hfilter : (l.filter fun b => key b.1 != some k).filter (fun b => key b.1 == some k') =
          l.filter fun b => key b.1 == some k' := by
        rw [List.filter_filter]
        refine List.filter_congr fun c _ => ?_
        by_cases hc : key c.1 = some k' <;> simp [hc, hk]
      simp [joinLabelled, hkey, hk, hk', ha, hfilter]

variable [LawfulBEq κ]

/-- The labels do not matter as long as they differ. -/
theorem filterMap_joinLabelled_congr {l m : List (α × Nat)} (h : l.map (·.1) = m.map (·.1))
    (hl : (l.map (·.2)).Nodup) (hm : (m.map (·.2)).Nodup) :
    l.filterMap (joinLabelled key join l) = m.filterMap (joinLabelled key join m) := by
  induction hlen : l.length using Nat.strongRecOn generalizing l m with
  | ind len ih =>
    cases l with
    | nil =>
      cases m with
      | nil => rfl
      | cons b m => cases h
    | cons a l =>
      cases m with
      | nil => cases h
      | cons b m =>
        obtain ⟨a, i⟩ := a
        obtain ⟨b, j⟩ := b
        rw [List.map_cons, List.map_cons, List.cons.injEq] at h
        obtain ⟨hab, h⟩ := h
        dsimp only at hab
        subst hab
        obtain ⟨hi, hl⟩ := List.nodup_cons.1 hl
        obtain ⟨hj, hm⟩ := List.nodup_cons.1 hm
        cases hkey : key a with
        | none =>
          rw [filterMap_joinLabelled_cons_none join hkey,
            filterMap_joinLabelled_cons_none join hkey]
          exact congrArg _ (ih l.length (by simp [← hlen]) h hl hm rfl)
        | some k =>
          -- the members of the key and the others, labels aside
          have hfilter (p : α → Bool) :
              (l.filter fun c => p c.1).map (·.1) = (m.filter fun c => p c.1).map (·.1) := by
            have := congrArg (List.filter p) h
            rwa [List.filter_map, List.filter_map] at this
          rw [filterMap_joinLabelled_cons_some join hkey hi,
            filterMap_joinLabelled_cons_some join hkey hj, hfilter fun c => key c == some k]
          refine congrArg _ (ih _ ?_ (hfilter fun c => key c != some k) ?_ ?_ rfl)
          · rw [← hlen, List.length_cons]
            exact Nat.lt_succ_of_le (List.length_filter_le _ _)
          · exact hl.sublist (List.filter_sublist.map _)
          · exact hm.sublist (List.filter_sublist.map _)

end

/-! ## Lists -/

theorem nodup_snd_zipIdx (l : List α) (n : Nat) : ((l.zipIdx n).map (·.2)).Nodup := by
  rw [List.zipIdx_map_snd]
  exact List.nodup_range' _

variable [LawfulBEq κ] [Hashable κ] {key} {a : α} {l : List α}

omit [LawfulBEq κ] in
@[simp]
theorem mergeByKey_nil : mergeByKey key join [] = [] := rfl

theorem mergeByKey_cons_none (ha : key a = none) :
    mergeByKey key join (a :: l) = a :: mergeByKey key join l := by
  rw [mergeByKey_eq_joinLabelled, mergeByKey_eq_joinLabelled, List.zipIdx_cons,
    filterMap_joinLabelled_cons_none join ha]
  exact congrArg _ (filterMap_joinLabelled_congr join (by simp) (nodup_snd_zipIdx _ _)
    (nodup_snd_zipIdx _ _))

/-- The first member of a key is joined with the later ones, and the rest without them. -/
theorem mergeByKey_cons_some {k : κ} (ha : key a = some k) :
    mergeByKey key join (a :: l) = (l.filter fun b => key b == some k).foldl join a ::
      mergeByKey key join (l.filter fun b => key b != some k) := by
  have hnodup := nodup_snd_zipIdx (a :: l) 0
  rw [List.zipIdx_cons, List.map_cons, List.nodup_cons] at hnodup
  have hfilter (p : α → Bool) :
      ((l.zipIdx 1).filter fun b => p b.1).map (·.1) = l.filter p := by
    have : (l.filter p) = ((l.zipIdx 1).map (·.1)).filter p := by rw [List.zipIdx_map_fst]
    rw [this, List.filter_map]
    rfl
  rw [mergeByKey_eq_joinLabelled, mergeByKey_eq_joinLabelled, List.zipIdx_cons,
    filterMap_joinLabelled_cons_some join ha hnodup.1, hfilter fun b => key b == some k]
  refine congrArg _ (filterMap_joinLabelled_congr join ?_ ?_ (nodup_snd_zipIdx _ _))
  · rw [hfilter fun b => key b != some k]
    exact (List.zipIdx_map_fst _ _).symm
  · exact hnodup.2.sublist (List.filter_sublist.map _)

/-- Without equal keys there is nothing to join. -/
theorem mergeByKey_eq_self (hl : (l.filterMap key).Nodup) : mergeByKey key join l = l := by
  induction l with
  | nil => rfl
  | cons a l ih =>
    cases ha : key a with
    | none =>
      rw [List.filterMap_cons_none ha] at hl
      rw [mergeByKey_cons_none join ha, ih hl]
    | some k =>
      rw [List.filterMap_cons_some ha, List.nodup_cons] at hl
      have hne (b : α) (hb : b ∈ l) : key b ≠ some k := fun h =>
        hl.1 (List.mem_filterMap.2 ⟨b, hb, h⟩)
      have hgroup : l.filter (fun b => key b == some k) = [] :=
        List.filter_eq_nil_iff.2 fun b hb h => hne b hb (beq_iff_eq.1 h)
      have hothers : l.filter (fun b => key b != some k) = l :=
        List.filter_eq_self.2 fun b hb => bne_iff_ne.2 (hne b hb)
      rw [mergeByKey_cons_some join ha, hgroup, hothers, List.foldl_nil, ih hl.2]

/-- In a list with less than two members there is nothing to join. -/
theorem mergeByKey_short (hl : l.length < 2) : mergeByKey key join l = l := by
  refine mergeByKey_eq_self join ?_
  have hlength := Nat.lt_of_le_of_lt (List.length_filterMap_le key l) hl
  match l.filterMap key, hlength with
  | [], _ => exact List.nodup_nil
  | [k], _ => exact List.nodup_singleton k

omit [LawfulBEq κ] [Hashable κ] in
/-- What a join keeps of its first member, it keeps of the first of many. -/
theorem foldl_keeps {β : Type} {f : α → β} {join : α → α → α} (hjoin : ∀ a b, f (join a b) = f a)
    (a : α) (l : List α) : f (l.foldl join a) = f a := by
  induction l generalizing a with
  | nil => rfl
  | cons b l ih => exact (ih _).trans (hjoin a b)

omit [LawfulBEq κ] [Hashable κ] in
/-- Induction along the recursion of `mergeByKey`. -/
theorem mergeByKey_induction (key : α → Option κ) {P : List α → Prop} (nil : P [])
    (none : ∀ a l, key a = none → P l → P (a :: l))
    (some : ∀ a l k, key a = some k → P (l.filter fun b => key b != .some k) → P (a :: l))
    (l : List α) : P l := by
  induction hlen : l.length using Nat.strongRecOn generalizing l with
  | ind n ih =>
    cases l with
    | nil => exact nil
    | cons a l =>
      cases ha : key a with
      | none => exact none a l ha (ih l.length (by simp [← hlen]) l rfl)
      | some k =>
        refine some a l k ha (ih _ ?_ _ rfl)
        rw [← hlen, List.length_cons]
        exact Nat.lt_succ_of_le (List.length_filter_le _ _)

omit [Hashable κ] in
/-- The members of a key. -/
theorem mem_group {k : κ} {first : α} {rest : List α}
    (h : (l.filter fun b => key b == some k) = first :: rest) (b : α) :
    b ∈ first :: rest ↔ b ∈ l ∧ key b = some k := by
  rw [← h, List.mem_filter, beq_iff_eq]

omit [Hashable κ] in
theorem exists_group {k : κ} (ha : a ∈ l) (hk : key a = some k) :
    ∃ first rest, (l.filter fun b => key b == some k) = first :: rest := by
  cases h : l.filter fun b => key b == some k with
  | nil => exact absurd (List.mem_filter.2 ⟨ha, by simp [hk]⟩) (h ▸ List.not_mem_nil)
  | cons first rest => exact ⟨first, rest, rfl⟩

omit [LawfulBEq κ] in
/-- Joining makes no list longer. -/
theorem length_mergeByKey_le : (mergeByKey key join l).length ≤ l.length := by
  have hlength := List.length_filterMap_le
    (joinAt key join (Index.ofList (fun a => key a.1) l.zipIdx)) l.zipIdx
  rwa [List.length_zipIdx] at hlength

/-- The members of a joined list: those without a key, and for each key the first of its members
joined with the others. -/
theorem mem_mergeByKey {c : α} :
    c ∈ mergeByKey key join l ↔ (c ∈ l ∧ key c = none) ∨
      ∃ k first rest, (l.filter fun b => key b == some k) = first :: rest ∧
        c = rest.foldl join first := by
  induction l using mergeByKey_induction key with
  | nil => simp
  | none a l ha ih =>
    rw [mergeByKey_cons_none join ha, List.mem_cons, ih]
    have hfilter (k : κ) : (a :: l).filter (fun b => key b == some k) =
        l.filter fun b => key b == some k := List.filter_cons_of_neg (by simp [ha])
    simp only [hfilter, List.mem_cons, or_and_right, or_assoc]
    exact or_congr_left ⟨fun h => ⟨h, h ▸ ha⟩, And.left⟩
  | some a l k ha ih =>
    rw [mergeByKey_cons_some join ha, List.mem_cons, ih]
    have hother {k' : κ} (hk : k' ≠ k) :
        ((l.filter fun b => key b != some k).filter fun b => key b == some k') =
          (a :: l).filter fun b => key b == some k' := by
      rw [List.filter_cons_of_neg (by simpa [ha] using fun h => hk h.symm), List.filter_filter]
      refine List.filter_congr fun b _ => ?_
      by_cases hb : key b = some k' <;> simp [hb, hk]
    have hown : ((a :: l).filter fun b => key b == some k) =
        a :: l.filter fun b => key b == some k := List.filter_cons_of_pos (by simp [ha])
    have hnone : ((l.filter fun b => key b != some k).filter fun b => key b == some k) = [] := by
      simp [List.filter_eq_nil_iff]
    constructor
    · rintro (rfl | ⟨hc, hkey⟩ | ⟨k', first, rest, hk', rfl⟩)
      · exact .inr ⟨k, a, _, hown, rfl⟩
      · exact .inl ⟨.tail _ (List.mem_filter.1 hc).1, hkey⟩
      · have hne : k' ≠ k := by
          rintro rfl
          rw [hnone] at hk'
          cases hk'
        exact .inr ⟨k', first, rest, hother hne ▸ hk', rfl⟩
    · rintro (⟨hc, hkey⟩ | ⟨k', first, rest, hk', rfl⟩)
      · rcases List.mem_cons.1 hc with rfl | hc
        · cases hkey.symm.trans ha
        · exact .inr (.inl ⟨List.mem_filter.2 ⟨hc, by simp [hkey]⟩, hkey⟩)
      · by_cases hne : k' = k
        · subst hne
          rw [hown] at hk'
          cases hk'
          exact .inl rfl
        · exact .inr (.inr ⟨k', first, rest, hother hne ▸ hk', rfl⟩)

/-- If a joined member has a property just when one of the members has it that it comes from, then
some member of the joined list has it just when some member of the list has. -/
theorem exists_mem_mergeByKey {p : α → Prop}
    (hjoin : ∀ k first rest, (∀ b ∈ first :: rest, b ∈ l ∧ key b = some k) →
      (p (rest.foldl join first) ↔ ∃ b ∈ first :: rest, p b)) :
    (∃ c ∈ mergeByKey key join l, p c) ↔ ∃ a ∈ l, p a := by
  constructor
  · rintro ⟨c, hc, hp⟩
    obtain ⟨hc, -⟩ | ⟨k, first, rest, hgroup, rfl⟩ := (mem_mergeByKey join).1 hc
    · exact ⟨c, hc, hp⟩
    · have hmem := fun b hb => (mem_group hgroup b).1 hb
      obtain ⟨b, hb, hp⟩ := (hjoin k first rest hmem).1 hp
      exact ⟨b, (hmem b hb).1, hp⟩
  · rintro ⟨a, ha, hp⟩
    cases hkey : key a with
    | none => exact ⟨a, (mem_mergeByKey join).2 (.inl ⟨ha, hkey⟩), hp⟩
    | some k =>
      obtain ⟨first, rest, hgroup⟩ := exists_group ha hkey
      refine ⟨rest.foldl join first,
        (mem_mergeByKey join).2 (.inr ⟨k, first, rest, hgroup, rfl⟩), ?_⟩
      exact (hjoin k first rest fun b hb => (mem_group hgroup b).1 hb).2
        ⟨a, (mem_group hgroup a).2 ⟨ha, hkey⟩, hp⟩

/-- Joining leaves alone what it does not see. -/
theorem filter_mergeByKey {p : α → Bool} (hkey : ∀ a b, key a ≠ none → key a = key b → p a = p b)
    (hjoin : ∀ a b, p (join a b) = p a) :
    (mergeByKey key join l).filter p = mergeByKey key join (l.filter p) := by
  induction l using mergeByKey_induction key with
  | nil => rfl
  | none a l ha ih =>
    rw [mergeByKey_cons_none join ha, List.filter_cons, List.filter_cons, ih]
    split
    · exact (mergeByKey_cons_none join ha).symm
    · rfl
  | some a l k ha ih =>
    have hgroup (b : α) (hb : key b = some k) : p b = p a :=
      (hkey a b (by simp [ha]) (ha.trans hb.symm)).symm
    rw [mergeByKey_cons_some join ha, List.filter_cons, List.filter_cons, foldl_keeps hjoin,
      ih]
    split
    · rename_i hp
      rw [mergeByKey_cons_some join ha, List.filter_filter, List.filter_filter, List.filter_filter]
      congr 2
      · refine List.filter_congr fun b _ => ?_
        by_cases hb : key b = some k <;> simp [hb, hgroup, hp]
      · exact List.filter_congr fun b _ => Bool.and_comm _ _
    · rename_i hp
      rw [List.filter_filter]
      congr 1
      refine List.filter_congr fun b _ => ?_
      by_cases hb : key b = some k <;> simp [hb, hgroup, hp]

/-- Joining commutes with maps that keep keys. -/
theorem map_mergeByKey {β : Type} {key' : β → Option κ} {join' : β → β → β} {f : α → β}
    (hkey : ∀ a, key' (f a) = key a) (hjoin : ∀ a b, f (join a b) = join' (f a) (f b)) :
    (mergeByKey key join l).map f = mergeByKey key' join' (l.map f) := by
  have hfold (a : α) (l : List α) : f (l.foldl join a) = (l.map f).foldl join' (f a) := by
    induction l generalizing a with
    | nil => rfl
    | cons b l ih => rw [List.foldl_cons, ih, hjoin]; rfl
  induction l using mergeByKey_induction key with
  | nil => rfl
  | none a l ha ih =>
    rw [mergeByKey_cons_none join ha, List.map_cons, List.map_cons,
      mergeByKey_cons_none join' ((hkey a).trans ha), ih]
  | some a l k ha ih =>
    rw [mergeByKey_cons_some join ha, List.map_cons, List.map_cons,
      mergeByKey_cons_some join' ((hkey a).trans ha), hfold, ih, List.filter_map, List.filter_map]
    simp only [Function.comp_def, hkey]

/-- No key is left twice. -/
theorem nodup_keys_mergeByKey (hjoin : ∀ a b, key (join a b) = key a) :
    ((mergeByKey key join l).filterMap key).Nodup := by
  induction l using mergeByKey_induction key with
  | nil => exact List.nodup_nil
  | none a l ha ih => rwa [mergeByKey_cons_none join ha, List.filterMap_cons_none ha]
  | some a l k ha ih =>
    rw [mergeByKey_cons_some join ha, List.filterMap_cons_some ((foldl_keeps hjoin _ _).trans ha),
      List.nodup_cons]
    refine ⟨fun h => ?_, ih⟩
    obtain ⟨b, hb, hkey⟩ := List.mem_filterMap.1 h
    rcases (mem_mergeByKey join).1 hb with ⟨_, hnone⟩ | ⟨k', first, rest, hgroup, rfl⟩
    · cases hnone.symm.trans hkey
    · have hfirst : first ∈ (l.filter fun b => key b != some k).filter fun b => key b == some k' :=
        hgroup ▸ .head _
      simp only [List.mem_filter, bne_iff_ne, beq_iff_eq] at hfirst
      rw [foldl_keeps hjoin] at hkey
      exact hfirst.1.2 hkey

/-- No key is lost. -/
theorem mem_keys_mergeByKey (hjoin : ∀ a b, key (join a b) = key a) {k : κ} :
    k ∈ (mergeByKey key join l).filterMap key ↔ k ∈ l.filterMap key := by
  simp only [List.mem_filterMap]
  constructor
  · rintro ⟨b, hb, hkey⟩
    rcases (mem_mergeByKey join).1 hb with ⟨hb, -⟩ | ⟨k', first, rest, hgroup, rfl⟩
    · exact ⟨b, hb, hkey⟩
    · exact ⟨first, ((mem_group hgroup first).1 (.head _)).1,
        (foldl_keeps hjoin first rest).symm.trans hkey⟩
  · rintro ⟨b, hb, hkey⟩
    obtain ⟨first, rest, hgroup⟩ := exists_group hb hkey
    refine ⟨rest.foldl join first, (mem_mergeByKey join).2 (.inr ⟨k, first, rest, hgroup, rfl⟩), ?_⟩
    rw [foldl_keeps hjoin]
    exact ((mem_group hgroup first).1 (.head _)).2

/-- If members that agree in some respect have one key, members of a list that all differ in it
still do so when they are joined. -/
theorem nodup_map_mergeByKey {β : Type} {f : α → β} (hkey : ∀ a b, f a = f b → key a = key b)
    (hjoin : ∀ a b, key (join a b) = key a) (hl : (l.map f).Nodup) :
    ((mergeByKey key join l).map f).Nodup := by
  have hnone {b : α} {l : List α} (hb : b ∈ mergeByKey key join l) (h : key b = none) : b ∈ l := by
    obtain ⟨hb, -⟩ | ⟨k, first, rest, hgroup, rfl⟩ := (mem_mergeByKey join).1 hb
    · exact hb
    · rw [foldl_keeps hjoin, ((mem_group hgroup first).1 (.head _)).2] at h
      cases h
  induction l using mergeByKey_induction key with
  | nil => exact List.nodup_nil
  | none a l ha ih =>
    obtain ⟨hfirst, hl⟩ := List.nodup_cons.1 hl
    rw [mergeByKey_cons_none join ha, List.map_cons, List.nodup_cons]
    refine ⟨fun h => ?_, ih hl⟩
    obtain ⟨b, hb, hfb⟩ := List.mem_map.1 h
    exact hfirst (hfb ▸ List.mem_map_of_mem (hnone hb ((hkey b a hfb).trans ha)))
  | some a l k ha ih =>
    obtain ⟨-, hl⟩ := List.nodup_cons.1 hl
    rw [mergeByKey_cons_some join ha, List.map_cons, List.nodup_cons]
    refine ⟨fun h => ?_, ih (hl.sublist (List.filter_sublist.map f))⟩
    -- the key of the first member is not among those of the rest
    obtain ⟨b, hb, hfb⟩ := List.mem_map.1 h
    have hb' : key b = some k := by rw [hkey _ _ hfb, foldl_keeps hjoin, ha]
    have hk := (mem_keys_mergeByKey join hjoin).1 (List.mem_filterMap.2 ⟨b, hb, hb'⟩)
    obtain ⟨c, hc, hck⟩ := List.mem_filterMap.1 hk
    exact bne_iff_ne.1 (List.mem_filter.1 hc).2 hck

/-! ## The number of members that are joined to others -/

/-- The number of members of a list that stand behind one with their key. -/
def repeats (key : α → Option κ) (l : List α) : Nat :=
  l.zipIdx.countP fun a => (key a.1).any fun k => (l.take a.2).any fun b => key b == some k

omit [Hashable κ] [LawfulBEq κ] in
/-- One member more at the end. -/
theorem repeats_concat (l : List α) (a : α) :
    repeats key (l ++ [a]) =
      repeats key l + if (key a).any fun k => l.any fun b => key b == some k then 1 else 0 := by
  have hbefore (c : α × Nat) (hc : c ∈ l.zipIdx) : (l ++ [a]).take c.2 = l.take c.2 :=
    List.take_append_of_le_length (Nat.le_of_lt (List.snd_lt_of_mem_zipIdx hc))
  rw [repeats, List.zipIdx_append, List.countP_append, Nat.zero_add, List.zipIdx_singleton,
    List.countP_singleton, List.take_left, repeats]
  congr 1
  refine List.countP_congr fun c hc => ?_
  rw [hbefore c hc]

/-- One member more at the end is one more in the joined list, unless its key was there before. -/
theorem length_mergeByKey_concat (l : List α) (a : α) :
    (mergeByKey key join (l ++ [a])).length = (mergeByKey key join l).length +
      if (key a).any fun k => l.any fun b => key b == some k then 0 else 1 := by
  induction l using mergeByKey_induction key with
  | nil =>
    have hnone : ((key a).any fun _ => false) = false := by cases key a <;> rfl
    rw [List.nil_append, mergeByKey_short join (by simp)]
    simp [hnone]
  | none b l hb ih =>
    rw [List.cons_append, mergeByKey_cons_none join hb, mergeByKey_cons_none join hb,
      List.length_cons, List.length_cons, ih, Nat.add_right_comm]
    simp [hb]
  | some b l k hb ih =>
    rw [List.cons_append, mergeByKey_cons_some join hb, mergeByKey_cons_some join hb,
      List.length_cons, List.length_cons, List.filter_append]
    by_cases ha : key a = some k
    · simp [ha, hb]
    · have hothers (k' : κ) (hk' : key a = some k') :
          ((l.filter fun b => key b != some k).any fun b => key b == some k') =
            (b :: l).any fun b => key b == some k' := by
        have hne : k ≠ k' := fun h => ha (h ▸ hk')
        rw [Bool.eq_iff_iff]
        simp only [List.any_eq_true, List.mem_filter, bne_iff_ne, beq_iff_eq, List.mem_cons]
        constructor
        · rintro ⟨c, ⟨hc, -⟩, hkey⟩
          exact ⟨c, .inr hc, hkey⟩
        · rintro ⟨c, rfl | hc, hkey⟩
          · exact absurd (Option.some.inj (hb.symm.trans hkey)) hne
          · exact ⟨c, ⟨hc, fun h => hne (Option.some.inj (h.symm.trans hkey))⟩, hkey⟩
      have hstays : [a].filter (fun b => key b != some k) = [a] := by simp [ha]
      rw [hstays, ih, Nat.add_right_comm]
      cases hkey : key a with
      | none => rfl
      | some k' => rw [Option.any_some, Option.any_some, hothers k' hkey]

/-- Every member is left or counted as one that stands behind another with its key. -/
theorem length_mergeByKey (l : List α) :
    (mergeByKey key join l).length + repeats key l = l.length := by
  induction l using List.reverseRecOn with
  | nil => rfl
  | append_singleton l a ih =>
    rw [length_mergeByKey_concat, repeats_concat, List.length_append, List.length_singleton]
    split <;> omega

end
end ContentRules
