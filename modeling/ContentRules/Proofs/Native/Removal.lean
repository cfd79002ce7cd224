import ContentRules.Native.Covering
import ContentRules.Proofs.Native.Cover
import ContentRules.Proofs.Ordered.Counting
import Mathlib.Logic.Relation

/-!
Which entries are left out as needless, and which stand for them. An entry that is left out has a
link to one that subsumes it. If in each circle of entries that subsume the next one neighbours
subsume each other, then every chain of links ends at an entry that stays, and the sources of the
entries on the way are kept there. Main statements: `exists_heir` and `mem_removeSubsumed`.
-/

namespace ContentRules.CompiledEntry

section
variable (entries : List CompiledEntry)

/-- The place that an entry of a list has a link to. -/
def link? (c : CompiledEntry × Nat) : Option Nat :=
  coveredBy? (Candidates.ofList entries.zipIdx) c

/-- The links of a list, by the places of its entries. -/
def links : Array (Option Nat) := (entries.zipIdx.map (link? entries)).toArray

/-- The place at the end of the links. -/
def heir (place : Nat) : Nat := followLinks (links entries) ((links entries).size + 1) place

theorem size_links : (links entries).size = entries.length := by simp [links]

variable {entries}

theorem links_getElem? {c : CompiledEntry × Nat} (hc : c ∈ entries.zipIdx) :
    (links entries)[c.2]?.join = link? entries c := by
  have h : entries.zipIdx[c.2]? = some c := by
    rw [List.getElem?_zipIdx, List.mem_zipIdx_iff_getElem?.1 hc]
    simp
  rw [links, List.getElem?_toArray, List.getElem?_map, h]
  rfl

theorem eq_of_place {c d : CompiledEntry × Nat} (hc : c ∈ entries.zipIdx) (hd : d ∈ entries.zipIdx)
    (h : c.2 = d.2) : c = d := by
  have hc := List.mem_zipIdx_iff_getElem?.1 hc
  have hd := List.mem_zipIdx_iff_getElem?.1 hd
  rw [h, hd] at hc
  exact Prod.ext (Option.some.inj hc).symm h

/-- Only entries of the list are tried. -/
theorem mem_of_mem_forEntry {placed : List (CompiledEntry × Nat)} {c : CompiledEntry}
    {d : CompiledEntry × Nat} (h : d ∈ (Candidates.ofList placed).forEntry c) : d ∈ placed := by
  simp only [Candidates.forEntry, Candidates.ofList, Index.find_ofList, List.mem_append,
    List.mem_filter, List.mem_flatMap] at h
  obtain (h | h) | ⟨_, _, h⟩ := h <;> exact h.1

/-- A link leads to an entry that its entry yields to. -/
theorem yieldsTo_of_link? {c : CompiledEntry × Nat} {j : Nat} (h : link? entries c = some j) :
    ∃ d, (d, j) ∈ entries.zipIdx ∧ yieldsTo c (d, j) = true := by
  obtain ⟨⟨d, j⟩, hd, rfl⟩ := Option.map_eq_some_iff.1 h
  exact ⟨d, mem_of_mem_forEntry (List.mem_of_find?_eq_some hd),
    List.find?_some (p := yieldsTo c) hd⟩

theorem yieldsTo_iff {c d : CompiledEntry × Nat} :
    yieldsTo c d = true ↔ d.2 ≠ c.2 ∧ subsumes d.1 c.1 = true ∧
      (c.2 < d.2 → subsumes c.1 d.1 = false) := by
  simp only [yieldsTo, Bool.and_eq_true, bne_iff_ne, Bool.not_eq_true', Bool.and_eq_false_imp,
    decide_eq_true_eq, and_assoc]

/-- The link of the first entry leads to the second. -/
def IsLinked (entries : List CompiledEntry) (c d : CompiledEntry × Nat) : Prop :=
  d ∈ entries.zipIdx ∧ link? entries c = some d.2

theorem yieldsTo_of_isLinked {c d : CompiledEntry × Nat} (h : IsLinked entries c d) :
    yieldsTo c d = true := by
  obtain ⟨hd, hlink⟩ := h
  obtain ⟨b, hb, hyields⟩ := yieldsTo_of_link? hlink
  rwa [eq_of_place hd hb rfl]

/-- If all entries are tried that make an entry needless, then it stays if it yields to none. -/
theorem link?_eq_none_iff {c : CompiledEntry × Nat}
    (htried : ∀ d ∈ entries.zipIdx, subsumes d.1 c.1 = true →
      d ∈ (Candidates.ofList entries.zipIdx).forEntry c.1) :
    link? entries c = none ↔ ∀ d ∈ entries.zipIdx, yieldsTo c d = false := by
  rw [link?, coveredBy?, Option.map_eq_none_iff, List.find?_eq_none]
  constructor
  · intro h d hd
    rw [Bool.eq_false_iff]
    intro hyields
    exact h d (htried d hd (yieldsTo_iff.1 hyields).2.1) hyields
  · intro h d hd
    rw [h d (mem_of_mem_forEntry hd)]
    exact Bool.false_ne_true

/-! ## The ends of links -/

/-- Links that lead downwards end. -/
theorem followLinks_eq_of_rank {table : Array (Option Nat)} {rank : Nat → Nat} {P : Nat → Prop}
    (hstep : ∀ i j, P i → table[i]?.join = some j → P j ∧ rank j < rank i) {fuel i : Nat} (hi : P i)
    (hfuel : rank i < fuel) :
    P (followLinks table fuel i) ∧ table[followLinks table fuel i]?.join = none := by
  induction fuel generalizing i with
  | zero => exact absurd hfuel (Nat.not_lt_zero _)
  | succ fuel ih =>
    rw [followLinks]
    split
    · rename_i j hj
      obtain ⟨hPj, hlt⟩ := hstep i j hi hj
      exact ih hPj (by omega)
    · exact ⟨hi, ‹_›⟩

/-- If the entries of a kind only have links to better entries of the kind, then one of the kind
stays for each of them. -/
theorem exists_heir_of_order {P : CompiledEntry × Nat → Prop}
    {better : CompiledEntry × Nat → CompiledEntry × Nat → Prop}
    (hstep : ∀ c ∈ entries.zipIdx, ∀ d ∈ entries.zipIdx, P c → link? entries c = some d.2 →
      P d ∧ better d c)
    (htrans : ∀ a b c, P a → P b → P c → better a b → better b c → better a c)
    (hirrefl : ∀ c, P c → ¬better c c) {c : CompiledEntry × Nat} (hc : c ∈ entries.zipIdx)
    (hPc : P c) :
    ∃ d ∈ entries.zipIdx, P d ∧ link? entries d = none ∧ heir entries c.2 = d.2 := by
  classical
  -- an entry has fewer better ones than any entry with a link to it
  let rank (i : Nat) : Nat :=
    entries.zipIdx.countP fun e => decide (P e ∧ ∃ d ∈ entries.zipIdx, d.2 = i ∧ better e d)
  have hrank {d : CompiledEntry × Nat} (hd : d ∈ entries.zipIdx) (e : CompiledEntry × Nat) :
      (∃ d' ∈ entries.zipIdx, d'.2 = d.2 ∧ better e d') ↔ better e d :=
    ⟨fun ⟨_, hd', h, hbetter⟩ => eq_of_place hd' hd h ▸ hbetter, fun h => ⟨d, hd, rfl, h⟩⟩
  have hfollow := @followLinks_eq_of_rank (links entries) rank
    (fun i => ∃ d ∈ entries.zipIdx, d.2 = i ∧ P d) ?_ ((links entries).size + 1) c.2
    ⟨c, hc, rfl, hPc⟩ ?_
  · obtain ⟨⟨d, hd, hplace, hPd⟩, hend⟩ := hfollow
    refine ⟨d, hd, hPd, ?_, hplace.symm⟩
    rw [← links_getElem? hd, hplace]
    exact hend
  · rintro _ j ⟨a, ha, rfl, hPa⟩ hlink
    rw [links_getElem? ha] at hlink
    obtain ⟨b, hb, -⟩ := yieldsTo_of_link? hlink
    obtain ⟨hPb, hbetter⟩ := hstep a ha (b, j) hb hPa hlink
    refine ⟨⟨(b, j), hb, rfl, hPb⟩, countP_lt_countP ?_ ⟨(b, j), hb, ?_, ?_⟩⟩
    · intro e _ he
      rw [decide_eq_true_eq] at he ⊢
      rw [hrank hb] at he
      rw [hrank ha]
      exact ⟨he.1, htrans e (b, j) a he.1 hPb hPa he.2 hbetter⟩
    · rw [decide_eq_false_iff_not, hrank hb]
      exact fun h => hirrefl _ h.1 h.2
    · rw [decide_eq_true_eq, hrank ha]
      exact ⟨hPb, hbetter⟩
  · have := List.countP_le_length (l := entries.zipIdx)
      (p := fun e => decide (P e ∧ ∃ d ∈ entries.zipIdx, d.2 = c.2 ∧ better e d))
    rw [size_links]
    rw [List.length_zipIdx] at this
    exact Nat.lt_succ_of_le this

/-- Some entries of a kind lead from the first entry to the second, each of which makes the next one
needless. -/
def Leads (P : CompiledEntry → Prop) : CompiledEntry → CompiledEntry → Prop :=
  Relation.ReflTransGen fun a b => P a ∧ P b ∧ subsumes a b = true

/-- If needless entries of a kind are made so by others of the kind, and in each circle neighbours
make each other needless, then one of the kind stays for each of them. -/
theorem exists_heir {P : CompiledEntry → Prop}
    (hstep : ∀ c ∈ entries, ∀ d ∈ entries, P c → subsumes d c = true → P d)
    (hcircle : ∀ x y, P x → P y → subsumes x y = true → Leads P y x → subsumes y x = true)
    {c : CompiledEntry × Nat} (hc : c ∈ entries.zipIdx) (hPc : P c.1) :
    ∃ d ∈ entries.zipIdx, P d.1 ∧ link? entries d = none ∧ heir entries c.2 = d.2 := by
  have hmem {d : CompiledEntry × Nat} (hd : d ∈ entries.zipIdx) : d.1 ∈ entries :=
    List.fst_mem_of_mem_zipIdx hd
  refine @exists_heir_of_order entries (fun d => P d.1)
    (fun d e => Leads P d.1 e.1 ∧ (Leads P e.1 d.1 → d.2 < e.2)) ?_ ?_
    (fun d _ h => Nat.lt_irrefl _ (h.2 h.1)) c hc hPc
  · intro a ha d hd hPa hlink
    obtain ⟨hne, hsub, hfirst⟩ := yieldsTo_iff.1 (yieldsTo_of_isLinked ⟨hd, hlink⟩)
    have hPd := hstep a.1 (hmem ha) d.1 (hmem hd) hPa hsub
    refine ⟨hPd, .single ⟨hPd, hPa, hsub⟩, fun hback => ?_⟩
    refine Nat.lt_of_le_of_ne (Nat.le_of_not_lt fun hlt => ?_) hne
    cases (hfirst hlt).symm.trans (hcircle d.1 a.1 hPd hPa hsub hback)
  · -- where the last leads back to the first, all three lead to each other
    rintro x y z - - - ⟨hxy, hxy'⟩ ⟨hyz, hyz'⟩
    exact ⟨hxy.trans hyz, fun hzx => Nat.lt_trans (hxy' (hyz.trans hzx)) (hyz' (hzx.trans hxy))⟩

/-! ## What stays -/

variable (entries) in
/-- The entries for which the one at a place stands. -/
def wards (place : Nat) : List CompiledEntry :=
  (entries.zipIdx.filter fun d => (link? entries d).map (heir entries) == some place).map (·.1)

variable (entries) in
/-- The entry at a place with the sources of those for which it stands. -/
def withWards (c : CompiledEntry × Nat) : CompiledEntry :=
  { c.1 with sources := addMissing c.1.sources ((wards entries c.2).flatMap (·.sources)) }

/-- The entries without a link stay. -/
theorem removeSubsumed_eq :
    removeSubsumed entries =
      (entries.zipIdx.filter fun c => (link? entries c).isNone).map (withWards entries) := by
  have hright : (entries.zipIdx.filter fun c => (link? entries c).isNone).map (withWards entries) =
      entries.zipIdx.filterMap fun c =>
        if (link? entries c).isNone then some (withWards entries c) else none := by
    rw [← List.filterMap_eq_map, List.filterMap_filter]
    rfl
  rw [hright]
  unfold removeSubsumed
  simp only [Index.find_ofList, List.map_map, List.filterMap_map, List.filter_map, List.flatMap_map]
  refine List.filterMap_congr fun c _ => ?_
  cases hlink : coveredBy? (Candidates.ofList entries.zipIdx) c with
  | some j =>
    simp only [Function.comp_apply, link?, hlink, Option.isNone_some, Bool.false_eq_true, if_false]
  | none =>
    simp only [Function.comp_apply, hlink]
    rw [link?, hlink, Option.isNone_none, if_pos rfl, withWards, wards, List.flatMap_map]
    rfl

theorem mem_removeSubsumed {e : CompiledEntry} :
    e ∈ removeSubsumed entries ↔
      ∃ c ∈ entries.zipIdx, link? entries c = none ∧ withWards entries c = e := by
  simp only [removeSubsumed_eq, List.mem_map, List.mem_filter, Option.isNone_iff_eq_none, and_assoc]

theorem mem_wards {place : Nat} {d : CompiledEntry} :
    d ∈ wards entries place ↔
      ∃ j k, (d, j) ∈ entries.zipIdx ∧ link? entries (d, j) = some k ∧ heir entries k = place := by
  simp only [wards, List.mem_map, List.mem_filter, beq_iff_eq, Option.map_eq_some_iff]
  constructor
  · rintro ⟨⟨d, j⟩, ⟨hd, k, hk, hplace⟩, rfl⟩
    exact ⟨j, k, hd, hk, hplace⟩
  · rintro ⟨j, k, hd, hk, hplace⟩
    exact ⟨(d, j), ⟨hd, k, hk, hplace⟩, rfl⟩

/-- The sources of an entry that stays are its own and those of the entries for which it stands. -/
theorem mem_sources_withWards {c : CompiledEntry × Nat} {line : Nat} :
    line ∈ (withWards entries c).sources ↔
      line ∈ c.1.sources ∨ ∃ d ∈ wards entries c.2, line ∈ d.sources := by
  rw [withWards, mem_addMissing, List.mem_flatMap]

theorem action_of_subsumes {c d : CompiledEntry} (h : subsumes d c = true) :
    d.entry.action = c.entry.action := by
  simp only [subsumes, Bool.and_eq_true, beq_iff_eq] at h
  exact h.1.1.1.1

theorem action_of_yieldsTo {c d : CompiledEntry × Nat} (h : yieldsTo c d = true) :
    d.1.entry.action = c.1.entry.action := action_of_subsumes (yieldsTo_iff.1 h).2.1

/-- What links keep, their ends have. -/
theorem followLinks_of_step {table : Array (Option Nat)} {P : Nat → Prop}
    (hstep : ∀ i j, P i → table[i]?.join = some j → P j) {fuel i : Nat} (hi : P i) :
    P (followLinks table fuel i) := by
  induction fuel generalizing i with
  | zero => exact hi
  | succ fuel ih =>
    rw [followLinks]
    split
    · exact ih (hstep _ _ hi ‹_›)
    · exact hi

/-- An entry stands for entries with its own action only. -/
theorem action_of_mem_wards {c : CompiledEntry × Nat} (hc : c ∈ entries.zipIdx) {d : CompiledEntry}
    (hd : d ∈ wards entries c.2) : d.entry.action = c.1.entry.action := by
  obtain ⟨j, k, hmem, hlink, hheir⟩ := mem_wards.1 hd
  obtain ⟨b, hb, hyields⟩ := yieldsTo_of_link? hlink
  have hend : ∃ e ∈ entries.zipIdx, e.2 = heir entries k ∧ e.1.entry.action = d.entry.action := by
    refine followLinks_of_step (P := fun i => ∃ e ∈ entries.zipIdx, e.2 = i ∧
      e.1.entry.action = d.entry.action) ?_ ⟨(b, k), hb, rfl, action_of_yieldsTo hyields⟩
    rintro _ j ⟨a, ha, rfl, haction⟩ hlink
    rw [links_getElem? ha] at hlink
    obtain ⟨b, hb, hyields⟩ := yieldsTo_of_link? hlink
    exact ⟨(b, j), hb, rfl, (action_of_yieldsTo hyields).trans haction⟩
  obtain ⟨e, he, hplace, haction⟩ := hend
  rw [eq_of_place hc he (hheir.symm.trans hplace.symm)]
  exact haction.symm

end

end ContentRules.CompiledEntry
