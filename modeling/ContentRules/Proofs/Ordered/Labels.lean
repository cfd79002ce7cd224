import ContentRules.Proofs.Ordered.Counting

/-!
Members with labels. What a list becomes when it is arranged by its labels and the labels are
dropped still tells its members apart, if it is known which labels there were and in which order.
Main statement: `arrange_flatMap_eq_iff`.
-/

namespace ContentRules

variable {α κ β : Type}

/-- Two lists are equal if their keys are the same in order and the members of each key are. -/
theorem eq_of_filter_key [BEq κ] [LawfulBEq κ] {key : β → κ} {l m : List β}
    (hkeys : l.map key = m.map key) (h : ∀ k, l.filter (key · == k) = m.filter (key · == k)) :
    l = m := by
  induction l generalizing m with
  | nil => exact (List.map_eq_nil_iff.1 hkeys.symm).symm
  | cons a l ih =>
    cases m with
    | nil => cases hkeys
    | cons b m =>
      obtain ⟨hkey, hrestKeys⟩ := List.cons.inj hkeys
      have hfirst := h (key a)
      simp only [List.filter_cons, ← hkey, beq_self_eq_true, if_true] at hfirst
      obtain ⟨rfl, hrest⟩ := List.cons.inj hfirst
      refine congrArg _ (ih hrestKeys fun k => ?_)
      by_cases hk : key a = k
      · exact hk ▸ hrest
      · have hother := h k
        simpa only [List.filter_cons, beq_eq_false_iff_ne.2 hk, Bool.false_eq_true, if_false]
          using hother

theorem map_fst_arrange [BEq κ] (keys : List κ) (l : List (κ × β)) :
    (arrange keys (·.1) l).map (·.1) = arrange keys id (l.map (·.1)) := by
  rw [arrange, arrange, List.map_flatMap]
  refine List.flatMap_congr fun k _ => ?_
  rw [List.filter_map]
  rfl

/-- Labels can be dropped if their order before is known. -/
theorem eq_of_arrange [DecidableEq κ] {keys : List κ} (hkeys : keys.Nodup) (hall : ∀ k, k ∈ keys)
    {l m : List (κ × β)} (hlabels : l.map (·.1) = m.map (·.1))
    (h : (arrange keys (·.1) l).map (·.2) = (arrange keys (·.1) m).map (·.2)) : l = m := by
  have harrange : arrange keys (·.1) l = arrange keys (·.1) m := by
    have hfst : (arrange keys (·.1) l).map (·.1) = (arrange keys (·.1) m).map (·.1) := by
      rw [map_fst_arrange, map_fst_arrange, hlabels]
    exact (List.zip_of_prod hfst h).trans (List.zip_of_prod rfl rfl).symm
  apply eq_of_filter_key hlabels
  intro k
  have hfilter (l : List (κ × β)) :
      (arrange keys (·.1) l).filter (·.1 == k) = l.filter (·.1 == k) :=
    filter_flatMap_key (fun k x hx => beq_iff_eq.1 (List.mem_filter.1 hx).2) hkeys (hall k)
  rw [← hfilter l, harrange, hfilter m]

/-- If no part is longer than its counterpart and all are together as long, each is as long. -/
theorem length_eq_of_flatMap {f g : α → List β} {l : List α}
    (hle : ∀ a ∈ l, (g a).length ≤ (f a).length)
    (h : (l.flatMap f).length = (l.flatMap g).length) : ∀ a ∈ l, (g a).length = (f a).length := by
  induction l with
  | nil => exact nofun
  | cons a l ih =>
    have hrest : ∀ b ∈ l, (g b).length ≤ (f b).length := fun b hb => hle b (.tail _ hb)
    have hfirst := hle a (.head _)
    have htotal := length_flatMap_le hrest
    rw [List.flatMap_cons, List.flatMap_cons, List.length_append, List.length_append] at h
    intro b hb
    obtain rfl | hb := List.mem_cons.1 hb
    · omega
    · exact ih hrest (by omega) b hb

/-- Lists that are equal as a whole have equal parts if these are as long. -/
theorem eq_of_flatMap {f g : α → List β} {l : List α}
    (hlength : ∀ a ∈ l, (g a).length = (f a).length) (h : l.flatMap f = l.flatMap g) :
    ∀ a ∈ l, f a = g a := by
  induction l with
  | nil => exact nofun
  | cons a l ih =>
    rw [List.flatMap_cons, List.flatMap_cons] at h
    obtain ⟨hfirst, hrest⟩ := List.append_inj h (hlength a (.head _)).symm
    intro b hb
    obtain rfl | hb := List.mem_cons.1 hb
    · exact hfirst
    · exact ih (fun c hc => hlength c (.tail _ hc)) hrest b hb

/-- What members come to, arranged by labels that are then dropped, is the same only if each member
comes to the same: provided that none comes to more than before, and that those that come to as much
keep the labels. -/
theorem arrange_flatMap_eq_iff [DecidableEq κ] {keys : List κ} (hkeys : keys.Nodup)
    (hall : ∀ k, k ∈ keys) {f g : α → List (κ × β)} {l : List α}
    (hle : ∀ a ∈ l, (g a).length ≤ (f a).length)
    (hlabels : ∀ a ∈ l, (g a).length = (f a).length → (f a).map (·.1) = (g a).map (·.1)) :
    (arrange keys (·.1) (l.flatMap f)).map (·.2) = (arrange keys (·.1) (l.flatMap g)).map (·.2) ↔
      ∀ a ∈ l, f a = g a := by
  constructor
  · intro h
    have hperm (l : List (κ × β)) : (arrange keys (·.1) l).length = l.length :=
      (perm_arrange hkeys fun x _ => hall x.1).length_eq
    have htotal := congrArg List.length h
    rw [List.length_map, List.length_map, hperm, hperm] at htotal
    have hlength := length_eq_of_flatMap hle htotal
    apply eq_of_flatMap hlength
    apply eq_of_arrange hkeys hall _ h
    rw [List.map_flatMap, List.map_flatMap]
    exact List.flatMap_congr fun a ha => hlabels a ha (hlength a ha)
  · intro h
    rw [List.flatMap_congr h]

end ContentRules
