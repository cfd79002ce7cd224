import ContentRules.Ordered.Arrange
import Mathlib.Data.List.Sort

/-!
Lists up to the order of their members, and numbers of members.
-/

namespace ContentRules

/-- The members with the first key come first, and the others are arranged by the other keys. -/
theorem arrange_cons {κ α : Type} [DecidableEq κ] {key : α → κ} {k : κ} {keys : List κ}
    (hk : k ∉ keys) (l : List α) :
    arrange (k :: keys) key l =
      l.filter (key · == k) ++ arrange keys key (l.filter fun a => !(key a == k)) := by
  have hrest : arrange keys key l = arrange keys key (l.filter fun a => !(key a == k)) := by
    rw [arrange, arrange]
    refine List.flatMap_congr fun k' hk' => ?_
    rw [List.filter_filter]
    refine List.filter_congr fun a _ => ?_
    have hne : k' ≠ k := fun h => hk (h ▸ hk')
    by_cases h : key a = k' <;> simp [h, hne]
  rw [← hrest, arrange, List.flatMap_cons, arrange]

/-- Arranging a list changes its order only, if it knows all keys. -/
theorem perm_arrange {κ α : Type} [DecidableEq κ] {key : α → κ} {keys : List κ} (hkeys : keys.Nodup)
    {l : List α} (hl : ∀ a ∈ l, key a ∈ keys) : (arrange keys key l).Perm l := by
  induction keys generalizing l with
  | nil =>
    cases l with
    | nil => exact .refl _
    | cons a l => cases hl a (.head _)
  | cons k keys ih =>
    obtain ⟨hk, hkeys⟩ := List.nodup_cons.1 hkeys
    have htail := ih hkeys (l := l.filter fun a => !(key a == k)) fun a ha => by
      obtain ⟨ha, hne⟩ := List.mem_filter.1 ha
      have hne : key a ≠ k := by simpa using hne
      exact (List.mem_cons.1 (hl a ha)).resolve_left hne
    rw [arrange_cons hk]
    exact (htail.append_left _).trans (List.filter_append_perm (key · == k) l)

theorem filter_flatMap_key {κ α : Type} [BEq κ] [LawfulBEq κ] {key : α → κ} {f : κ → List α}
    (h : ∀ k, ∀ a ∈ f k, key a = k) {keys : List κ} (hkeys : keys.Nodup) {k : κ} (hk : k ∈ keys) :
    (keys.flatMap f).filter (key · == k) = f k := by
  have hown : (f k).filter (key · == k) = f k :=
    List.filter_eq_self.2 fun a ha => beq_iff_eq.2 (h k a ha)
  have hother {k' : κ} (hne : k' ≠ k) : (f k').filter (key · == k) = [] := by
    rw [List.filter_eq_nil_iff]
    intro a ha hkey
    exact hne ((h k' a ha).symm.trans (beq_iff_eq.1 hkey))
  induction keys with
  | nil => cases hk
  | cons k' keys ih =>
    obtain ⟨hk', hkeys⟩ := List.nodup_cons.1 hkeys
    rw [List.flatMap_cons, List.filter_append]
    by_cases hne : k' = k
    · subst hne
      have hrest : (keys.flatMap f).filter (key · == k') = [] := by
        rw [List.filter_eq_nil_iff]
        intro a ha hkey
        obtain ⟨k, hmem, ha⟩ := List.mem_flatMap.1 ha
        rw [h k a ha, beq_iff_eq] at hkey
        exact hk' (hkey ▸ hmem)
      rw [hown, hrest, List.append_nil]
    · rw [hother hne, List.nil_append]
      exact ih hkeys ((List.mem_cons.1 hk).resolve_left (Ne.symm hne))

/-- A list that is made key by key is arranged. -/
theorem arrange_flatMap {κ α : Type} [BEq κ] [LawfulBEq κ] {key : α → κ} {f : κ → List α}
    (h : ∀ k, ∀ a ∈ f k, key a = k) {keys : List κ} (hkeys : keys.Nodup) :
    arrange keys key (keys.flatMap f) = keys.flatMap f :=
  List.flatMap_congr fun _ hk => filter_flatMap_key h hkeys hk

/-- If no member that meets a condition stands behind one that does not, those that meet it come
first. -/
theorem filter_append_filter_not {α : Type} {p : α → Bool} {l : List α}
    (h : l.Pairwise fun a b => p b = true → p a = true) :
    l.filter p ++ l.filter (fun a => !p a) = l := by
  induction l with
  | nil => rfl
  | cons a l ih =>
    obtain ⟨ha, hl⟩ := List.pairwise_cons.1 h
    cases hp : p a with
    | true => simp [hp, ih hl]
    | false =>
      have hnone : ∀ b ∈ l, p b = false := fun b hb =>
        Bool.eq_false_iff.2 fun hpb => Bool.false_ne_true (hp.symm.trans (ha b hb hpb))
      rw [List.filter_eq_nil_iff.2 (by simpa [hp] using hnone), List.nil_append,
        List.filter_eq_self.2 (by simpa [hp] using hnone)]

/-- Arranging leaves a list that is arranged already. -/
theorem arrange_eq_self {κ α : Type} [DecidableEq κ] {key : α → κ} {keys : List κ}
    (hkeys : keys.Nodup) {l : List α} (hl : ∀ a ∈ l, key a ∈ keys)
    (h : l.Pairwise fun a b => keys.idxOf (key a) ≤ keys.idxOf (key b)) :
    arrange keys key l = l := by
  induction keys generalizing l with
  | nil =>
    cases l with
    | nil => rfl
    | cons a l => cases hl a (.head _)
  | cons k keys ih =>
    obtain ⟨hk, hkeys⟩ := List.nodup_cons.1 hkeys
    have hfirst : l.filter (key · == k) ++ l.filter (fun a => !(key a == k)) = l := by
      refine filter_append_filter_not (h.imp fun {a b} hle hb => ?_)
      rw [beq_iff_eq.1 hb, List.idxOf_cons_self, Nat.le_zero] at hle
      exact beq_iff_eq.2 (List.idxOf_eq_zero_iff_head_eq (List.cons_ne_nil _ _) |>.1 hle).symm
    have hrest : arrange keys key (l.filter fun a => !(key a == k)) =
        l.filter fun a => !(key a == k) := by
      refine ih hkeys (fun a ha => ?_) ?_
      · obtain ⟨ha, hne⟩ := List.mem_filter.1 ha
        exact (List.mem_cons.1 (hl a ha)).resolve_left (by simpa using hne)
      · have hne {a : α} (ha : a ∈ l.filter fun a => !(key a == k)) : k ≠ key a := by
          rintro rfl
          simp at ha
        refine List.Pairwise.imp_of_mem (fun ha hb hle => ?_) (h.sublist List.filter_sublist)
        rw [List.idxOf_cons_ne _ (hne ha), List.idxOf_cons_ne _ (hne hb)] at hle
        exact Nat.le_of_succ_le_succ hle
    rw [arrange_cons hk, hrest, hfirst]

/-- Of two conditions, one that fewer members meet is met fewer times. -/
theorem countP_lt_countP {α : Type} {p q : α → Bool} {l : List α}
    (h : ∀ a ∈ l, p a = true → q a = true) (hlt : ∃ a ∈ l, p a = false ∧ q a = true) :
    l.countP p < l.countP q := by
  obtain ⟨a, ha, hp, hq⟩ := hlt
  obtain ⟨before, after, rfl⟩ := List.append_of_mem ha
  have hbefore := List.countP_mono_left (l := before) fun b hb => h b (by simp [hb])
  have hafter := List.countP_mono_left (l := after) fun b hb => h b (by simp [hb])
  rw [List.countP_append, List.countP_append, List.countP_cons_of_neg (by simp [hp]),
    List.countP_cons_of_pos hq]
  omega

theorem eraseReps_cons_cons {α : Type} [BEq α] (a b : α) (l : List α) :
    (a :: b :: l).eraseReps = if a == b then (a :: l).eraseReps else a :: (b :: l).eraseReps := by
  have hloop (c : α) (l acc : List α) : List.eraseRepsBy.loop (· == ·) c l acc =
      acc.reverse ++ List.eraseRepsBy.loop (· == ·) c l [] := by
    induction l generalizing c acc with
    | nil => simp [List.eraseRepsBy.loop]
    | cons d l ih =>
      rw [List.eraseRepsBy.loop, List.eraseRepsBy.loop]
      split
      · exact ih c acc
      · rw [ih d (c :: acc), ih d [c], List.reverse_cons, List.append_assoc]
        rfl
  change List.eraseRepsBy.loop (· == ·) a (b :: l) [] = _
  rw [List.eraseRepsBy.loop]
  cases a == b with
  | true => rfl
  | false => exact hloop b l [a]

/-- Leaving out repetitions loses no member. -/
theorem mem_eraseReps {α : Type} [BEq α] [LawfulBEq α] {l : List α} {a : α} :
    a ∈ l.eraseReps ↔ a ∈ l := by
  cases l with
  | nil => exact .rfl
  | cons b l =>
    induction l generalizing b with
    | nil => exact .rfl
    | cons c l ih =>
      rw [eraseReps_cons_cons]
      split
      case isTrue h =>
        rw [ih, ← beq_iff_eq.1 h]
        simp only [List.mem_cons, ← or_assoc, or_self]
      case isFalse => rw [List.mem_cons, ih, ← List.mem_cons]

/-- If a list is in order and members with one key are equal, no key is left twice. -/
theorem pairwise_eraseReps {α : Type} [BEq α] [LawfulBEq α] {key : α → Nat} {l : List α}
    (hl : l.Pairwise fun a b => key a ≤ key b)
    (hkey : ∀ a ∈ l, ∀ b ∈ l, key a = key b → a = b) :
    l.eraseReps.Pairwise fun a b => key a < key b := by
  cases l with
  | nil => exact .nil
  | cons a l =>
    induction l generalizing a with
    | nil => exact List.pairwise_singleton _ a
    | cons b l ih =>
      obtain ⟨ha, hrest⟩ := List.pairwise_cons.1 hl
      rw [eraseReps_cons_cons]
      split
      case isTrue h =>
        obtain rfl := beq_iff_eq.1 h
        exact ih a hrest fun c hc d hd => hkey c (.tail _ hc) d (.tail _ hd)
      case isFalse h =>
        refine List.pairwise_cons.2 ⟨fun c hc => ?_, ?_⟩
        · have hc := mem_eraseReps.1 hc
          -- a key like that of the first member would be its own
          have hab : key a ≠ key b := fun hab =>
            h (beq_iff_eq.2 (hkey a (.head _) b (.tail _ (.head _)) hab))
          have hlt : key a < key b := Nat.lt_of_le_of_ne (ha b (.head _)) hab
          obtain rfl | hc := List.mem_cons.1 hc
          · exact hlt
          · exact Nat.lt_of_lt_of_le hlt ((List.pairwise_cons.1 hrest).1 c hc)
        · exact ih b hrest fun c hc d hd => hkey c (.tail _ hc) d (.tail _ hd)

/-- Lists in the order of their keys, none of which is there twice, are equal if their members
are. -/
theorem eq_of_pairwise_key {α : Type} (key : α → Nat) {l m : List α}
    (hl : l.Pairwise fun a b => key a < key b) (hm : m.Pairwise fun a b => key a < key b)
    (h : ∀ a, a ∈ l ↔ a ∈ m) : l = m := by
  have hirrefl : Std.Irrefl fun a b : α => key a < key b := ⟨fun _ => Nat.lt_irrefl _⟩
  have hantisymm : Std.Antisymm fun a b : α => key a < key b :=
    ⟨fun _ _ hab hba => absurd hab (Nat.lt_asymm hba)⟩
  exact hl.eq_of_mem_iff hm h

/-- A list without repeated keys comes to what another that is in order comes to if both have the
same pairs of keys and values. -/
theorem map_mergeSort_eq {α β : Type} {key : α → Nat} {f : α → β} {l m : List α}
    (hl : (l.map key).Nodup) (hm : m.Pairwise fun a b => key a < key b)
    (h : ∀ x, (∃ a, a ∈ l ∧ (key a, f a) = x) ↔ ∃ a, a ∈ m ∧ (key a, f a) = x) :
    (l.mergeSort fun a b => decide (key a ≤ key b)).map f = m.map f := by
  have hpairs : (l.mergeSort fun a b => decide (key a ≤ key b)).map (fun a => (key a, f a)) =
      m.map fun a => (key a, f a) := by
    apply eq_of_pairwise_key (·.1)
    · have hne :=
        (((List.mergeSort_perm l fun a b => decide (key a ≤ key b)).map key).nodup_iff).2 hl
      have hle := List.pairwise_mergeSort' (fun a b => key a ≤ key b) l
      exact List.pairwise_map.2 ((hle.and (List.pairwise_map.1 hne)).imp fun h =>
        Nat.lt_of_le_of_ne h.1 h.2)
    · exact List.pairwise_map.2 hm
    · intro x
      simp only [List.mem_map, List.mem_mergeSort]
      exact h x
  have hvalues := congrArg (List.map (·.2)) hpairs
  rwa [List.map_map, List.map_map] at hvalues

theorem length_flatMap_le {α β : Type} {f g : α → List β} {l : List α}
    (h : ∀ a ∈ l, (f a).length ≤ (g a).length) : (l.flatMap f).length ≤ (l.flatMap g).length := by
  induction l with
  | nil => exact Nat.le_refl _
  | cons a l ih =>
    have hrest := ih fun b hb => h b (.tail _ hb)
    have hfirst := h a (.head _)
    rw [List.flatMap_cons, List.flatMap_cons, List.length_append, List.length_append]
    omega

/-- What members come to without those left out. -/
theorem flatMap_filter {α β : Type} (p : α → Bool) (f : α → List β) (l : List α) :
    (l.filter p).flatMap f = l.flatMap fun a => if p a then f a else [] := by
  induction l with
  | nil => rfl
  | cons a l ih =>
    rw [List.filter_cons, List.flatMap_cons, ← ih]
    split <;> rfl

theorem flatMap_filterMap {α β γ : Type} (f : α → Option β) (g : β → List γ) (l : List α) :
    (l.filterMap f).flatMap g = l.flatMap fun a => ((f a).map g).getD [] := by
  induction l with
  | nil => rfl
  | cons a l ih =>
    cases h : f a with
    | none =>
      rw [List.filterMap_cons_none h, List.flatMap_cons, ih, h]
      rfl
    | some b =>
      rw [List.filterMap_cons_some h, List.flatMap_cons, List.flatMap_cons, ih, h]
      rfl

/-- If members keep their marks, those that remain have some of the marks, in order. -/
theorem map_filterMap_sublist {α β γ : Type} {f : α → Option β} {g : β → γ} {h : α → γ}
    (hf : ∀ a b, f a = some b → g b = h a) (l : List α) :
    ((l.filterMap f).map g).Sublist (l.map h) := by
  induction l with
  | nil => exact .slnil
  | cons a l ih =>
    cases ha : f a with
    | none =>
      rw [List.filterMap_cons_none ha]
      exact ih.cons _
    | some b =>
      rw [List.filterMap_cons_some ha, List.map_cons, List.map_cons, hf a b ha]
      exact ih.cons_cons _

end ContentRules
