import ContentRules.Proofs.Native.Exactness

/-!
Which rules are still stood for after making a list shorter. An entry that is left out passes its
sources on along the links to entries that make others needless, and they arrive unless the links
run in a circle. Links only do so where there are three entries each of which makes the next one
needless, while the second does not make the first one so; any such three are lost when nothing else
is in the list. Main statement: `optimized_sources`.
-/

namespace ContentRules

open Relation

namespace CompiledEntry

/-! ## Chains of links -/

section
variable {entries : List CompiledEntry}

variable (entries) in
/-- The links from an entry run into a circle. -/
def RunsInCircle (c : CompiledEntry × Nat) : Prop :=
  ∃ d, ReflTransGen (IsLinked entries) c d ∧ TransGen (IsLinked entries) d d

/-- An entry has one link at most. -/
theorem rightUnique_isLinked : Relator.RightUnique (IsLinked entries) := by
  rintro c d e ⟨hd, hlink⟩ ⟨he, hlink'⟩
  exact eq_of_place hd he (Option.some.inj (hlink.symm.trans hlink'))

/-- Links do not leave a circle. -/
theorem transGen_self_of_reflTransGen {c d : CompiledEntry × Nat}
    (h : TransGen (IsLinked entries) c c) (hchain : ReflTransGen (IsLinked entries) c d) :
    TransGen (IsLinked entries) d d := by
  induction hchain with
  | refl => exact h
  | tail _ hlink ih =>
    obtain ⟨b, hlink', hback⟩ := TransGen.head'_iff.1 ih
    rw [rightUnique_isLinked hlink' hlink] at hback
    exact .tail' hback hlink

/-- Links that come to an end do not run in a circle. -/
theorem not_runsInCircle {c d : CompiledEntry × Nat}
    (hchain : ReflTransGen (IsLinked entries) c d) (hend : link? entries d = none) :
    ¬RunsInCircle entries c := by
  rintro ⟨e, hchain', hcircle⟩
  have hde : ∀ {e}, ReflTransGen (IsLinked entries) d e → d = e := by
    intro e h
    obtain h | ⟨_, ⟨-, hlink⟩, -⟩ := h.cases_head
    · exact h
    · cases hend.symm.trans hlink
  have hcircle : TransGen (IsLinked entries) d d := by
    obtain h | h := hchain.total_of_right_unique rightUnique_isLinked hchain'
    · rwa [hde h]
    · exact transGen_self_of_reflTransGen hcircle h
  obtain ⟨_, ⟨-, hlink⟩, -⟩ := TransGen.head'_iff.1 hcircle
  cases hend.symm.trans hlink

/-- Links that do not run in a circle come to an end, at the entry that stands for those before. -/
theorem exists_heir_of_not_runsInCircle {c : CompiledEntry × Nat} (hc : c ∈ entries.zipIdx)
    (h : ¬RunsInCircle entries c) :
    ∃ d ∈ entries.zipIdx, ReflTransGen (IsLinked entries) c d ∧ link? entries d = none ∧
      heir entries c.2 = d.2 := by
  refine @exists_heir_of_order entries (ReflTransGen (IsLinked entries) c)
    (fun d e => TransGen (IsLinked entries) e d) ?_ ?_ ?_ c hc .refl
  · intro a _ d hd hchain hlink
    exact ⟨hchain.tail ⟨hd, hlink⟩, .single ⟨hd, hlink⟩⟩
  · intro a b c _ _ _ hba hcb
    exact hcb.trans hba
  · intro d hchain hcircle
    exact h ⟨d, hchain, hcircle⟩

/-- The entry that stands for another is reached by its links. -/
theorem exists_chain_heir {c : CompiledEntry × Nat} (hc : c ∈ entries.zipIdx) :
    ∃ d ∈ entries.zipIdx, d.2 = heir entries c.2 ∧ ReflTransGen (IsLinked entries) c d := by
  refine followLinks_of_step (P := fun i => ∃ d ∈ entries.zipIdx, d.2 = i ∧
    ReflTransGen (IsLinked entries) c d) ?_ ⟨c, hc, rfl, .refl⟩
  rintro _ j ⟨a, ha, rfl, hchain⟩ hlink
  rw [links_getElem? ha] at hlink
  obtain ⟨b, hb, -⟩ := yieldsTo_of_link? hlink
  exact ⟨(b, j), hb, rfl, hchain.tail ⟨hb, hlink⟩⟩

/-- If its links do not run in a circle, the sources of an entry arrive at one that stays. -/
theorem exists_withWards {c : CompiledEntry × Nat} (hc : c ∈ entries.zipIdx)
    (h : ¬RunsInCircle entries c) :
    ∃ d ∈ entries.zipIdx, ReflTransGen (IsLinked entries) c d ∧
      withWards entries d ∈ removeSubsumed entries ∧
      ∀ line ∈ c.1.sources, line ∈ (withWards entries d).sources := by
  cases hlink : link? entries c with
  | none =>
    exact ⟨c, hc, .refl, mem_removeSubsumed.2 ⟨c, hc, hlink, rfl⟩, fun line hline =>
      mem_sources_withWards.2 (.inl hline)⟩
  | some k =>
    obtain ⟨b, hb, -⟩ := yieldsTo_of_link? hlink
    have hfirst : IsLinked entries c (b, k) := ⟨hb, hlink⟩
    have hcircle : ¬RunsInCircle entries (b, k) := by
      rintro ⟨d, hchain, hcircle⟩
      exact h ⟨d, .head hfirst hchain, hcircle⟩
    obtain ⟨d, hd, hchain, hend, hheir⟩ := exists_heir_of_not_runsInCircle hb hcircle
    have hward : c.1 ∈ wards entries d.2 := mem_wards.2 ⟨c.2, k, hc, hlink, hheir⟩
    exact ⟨d, hd, .head hfirst hchain, mem_removeSubsumed.2 ⟨d, hd, hend, rfl⟩, fun line hline =>
      mem_sources_withWards.2 (.inr ⟨c.1, hward, hline⟩)⟩

/-- The sources that are left are those of the entries whose links do not run in a circle. -/
theorem mem_sources_removeSubsumed {line : Nat} :
    (∃ e ∈ removeSubsumed entries, line ∈ e.sources) ↔
      ∃ c ∈ entries.zipIdx, line ∈ c.1.sources ∧ ¬RunsInCircle entries c := by
  constructor
  · rintro ⟨_, he, hline⟩
    obtain ⟨d, hd, hend, rfl⟩ := mem_removeSubsumed.1 he
    obtain hline | ⟨c, hc, hline⟩ := mem_sources_withWards.1 hline
    · exact ⟨d, hd, hline, not_runsInCircle .refl hend⟩
    · obtain ⟨i, k, hc, hlink, hheir⟩ := mem_wards.1 hc
      obtain ⟨b, hb, -⟩ := yieldsTo_of_link? hlink
      obtain ⟨d', hd', hplace, hchain⟩ := exists_chain_heir hb
      rw [eq_of_place hd' hd (hplace.trans hheir)] at hchain
      exact ⟨(c, i), hc, hline, not_runsInCircle (.head ⟨hb, hlink⟩ hchain) hend⟩
  · rintro ⟨c, hc, hline, hcircle⟩
    obtain ⟨d, -, -, hmem, hsources⟩ := exists_withWards hc hcircle
    exact ⟨_, hmem, hsources line hline⟩

end

/-! ## Circles of three -/

/-- Each of three different entries makes the next one needless, and the second does not
make the first one so. -/
def HasCircle (run : List CompiledEntry) : Prop :=
  ∃ x ∈ run, ∃ y ∈ run, ∃ w ∈ run, (x.entry ≠ y.entry ∧ y.entry ≠ w.entry ∧ w.entry ≠ x.entry) ∧
    (subsumes x y = true ∧ subsumes y w = true ∧ subsumes w x = true) ∧ subsumes y x = false

theorem HasCircle.mono {run run' : List CompiledEntry} (h : HasCircle run) (hsub : run ⊆ run') :
    HasCircle run' := by
  obtain ⟨x, hx, y, hy, w, hw, h⟩ := h
  exact ⟨x, hsub hx, y, hsub hy, w, hsub hw, h⟩

theorem leads_of_reflTransGen {entries : List CompiledEntry} {c d : CompiledEntry × Nat}
    (hc : c ∈ entries.zipIdx) (h : ReflTransGen (IsLinked entries) c d) :
    Leads (· ∈ entries) d.1 c.1 := by
  induction h using ReflTransGen.head_induction_on with
  | refl => exact .refl
  | head hlink _ ih =>
    have hsub := (yieldsTo_iff.1 (yieldsTo_of_isLinked hlink)).2.1
    exact .tail (ih hlink.1)
      ⟨List.fst_mem_of_mem_zipIdx hlink.1, List.fst_mem_of_mem_zipIdx hc, hsub⟩

section
variable {entries : List CompiledEntry} (hpatterns : ∀ c ∈ entries, c.IsOfPattern)
  (hdistinct : ∀ c ∈ entries, ∀ d ∈ entries, c.entry = d.entry → c = d) (h : ¬HasCircle entries)
include hpatterns hdistinct h

/-- Without circles of three, a link that others lead back from goes to an earlier entry. -/
theorem lt_of_isLinked {c d : CompiledEntry × Nat} (hc : c ∈ entries.zipIdx)
    (hlink : IsLinked entries c d) (hback : ReflTransGen (IsLinked entries) d c) : d.2 < c.2 := by
  have hcmem := List.fst_mem_of_mem_zipIdx hc
  have hdmem := List.fst_mem_of_mem_zipIdx hlink.1
  obtain ⟨hne, hsub, hfirst⟩ := yieldsTo_iff.1 (yieldsTo_of_isLinked hlink)
  have hmutual : subsumes c.1 d.1 = true := by
    refine subsumes_of_reaches hpatterns (fun x hx w hw hxy hyw hwx => ?_) hdmem hsub
      (.of_leads hpatterns (fun _ => id) (leads_of_reflTransGen hlink.1 hback))
    refine circle_of_distinct hdistinct hx hcmem hw hxy hyw hwx fun hne hne' hne'' => ?_
    by_contra hnot
    exact h ⟨x, hx, c.1, hcmem, w, hw, ⟨hne, hne', hne''⟩, ⟨hxy, hyw, hwx⟩,
      Bool.eq_false_iff.2 hnot⟩
  refine Nat.lt_of_le_of_ne (Nat.le_of_not_lt fun hlt => ?_) hne
  cases (hfirst hlt).symm.trans hmutual

/-- Without circles of three, no links run in a circle. -/
theorem not_runsInCircle_of_not_hasCircle (c : CompiledEntry × Nat) : ¬RunsInCircle entries c := by
  have hdown : ∀ {d e : CompiledEntry × Nat}, d ∈ entries.zipIdx → TransGen (IsLinked entries) d e →
      ReflTransGen (IsLinked entries) e d → e.2 < d.2 := by
    intro d e hd hchain
    induction hchain with
    | single hlink => exact lt_of_isLinked hpatterns hdistinct h hd hlink
    | tail hchain hlink ih =>
      intro hback
      obtain ⟨_, _, hlink'⟩ := TransGen.tail'_iff.1 hchain
      have hlt := lt_of_isLinked hpatterns hdistinct h hlink'.1 hlink
        (hback.trans hchain.to_reflTransGen)
      exact Nat.lt_trans hlt (ih (.head hlink hback))
  rintro ⟨d, hchain, hcircle⟩
  obtain ⟨_, _, hlink⟩ := TransGen.tail'_iff.1 hcircle
  exact Nat.lt_irrefl _ (hdown hlink.1 hcircle .refl)

end

end CompiledEntry

/-! ## Optimized lists -/

namespace Optimized

open CompiledEntry

/-- Making the list shorter neither loses nor brings in a rule that some entry stands for. -/
def KeepsSources (entries : List CompiledEntry) : Prop :=
  ∀ line, (∃ e ∈ (ofEntries entries).entries, line ∈ e.sources) ↔ ∃ c ∈ entries, line ∈ c.sources

/-- The distinct entries of a group. -/
def distinctOf (entries : List CompiledEntry) (g : EntryGroup) : List CompiledEntry :=
  mergeEqual (entries.filter (·.group == g))

theorem mem_distinctOf {entries : List CompiledEntry} {g : EntryGroup} {e : CompiledEntry}
    (he : e ∈ distinctOf entries g) :
    ∃ c ∈ entries.filter (·.group == g), e.bare = c.bare :=
  exists_mem_of_mem_mergeEqual he

/-- A list of one entry at most is made shorter like any other: no entry has a link. -/
theorem not_runsInCircle_of_length {run : List CompiledEntry} (h : run.length < 2)
    (c : CompiledEntry × Nat) : ¬RunsInCircle run c := by
  rintro ⟨d, -, hcircle⟩
  obtain ⟨e, hlink, hback⟩ := TransGen.head'_iff.1 hcircle
  have hd : d ∈ run.zipIdx := by
    obtain ⟨_, -, hlink'⟩ := TransGen.tail'_iff.1 hcircle
    exact hlink'.1
  have hne := (yieldsTo_iff.1 (yieldsTo_of_isLinked hlink)).1
  have hlt := List.snd_lt_of_mem_zipIdx hd
  have hlt' := List.snd_lt_of_mem_zipIdx hlink.1
  omega

theorem mergeEqual_of_length {run : List CompiledEntry} (h : run.length < 2) :
    mergeEqual run = run := by
  refine mergeEqual_eq_self ?_
  rcases run with _ | ⟨c, _ | ⟨d, run⟩⟩
  · exact List.nodup_nil
  · exact List.nodup_singleton _
  · simp only [List.length_cons] at h
    omega

/-- The places of members do not matter where only the members are spoken of. -/
theorem exists_mem_zipIdx_fst {l : List CompiledEntry} {p : CompiledEntry → Prop} :
    (∃ c ∈ l.zipIdx, p c.1) ↔ ∃ c ∈ l, p c := by
  constructor
  · rintro ⟨c, hc, h⟩
    exact ⟨c.1, List.fst_mem_of_mem_zipIdx hc, h⟩
  · rintro ⟨c, hc, h⟩
    obtain ⟨i, hi⟩ := List.mem_iff_getElem?.1 hc
    exact ⟨(c, i), List.mem_zipIdx_iff_getElem?.2 hi, h⟩

/-- The sources that are left of a run. -/
theorem mem_sources_ofRun {run : List CompiledEntry} {line : Nat} :
    (∃ e ∈ (ofRun run).entries, line ∈ e.sources) ↔
      ∃ c ∈ (mergeEqual run).zipIdx, line ∈ c.1.sources ∧ ¬RunsInCircle (mergeEqual run) c := by
  rw [entries_ofRun]
  split
  · rename_i hlength
    rw [mergeEqual_of_length hlength]
    simp only [not_runsInCircle_of_length hlength, not_false_eq_true, and_true]
    exact (exists_mem_zipIdx_fst (p := fun c => line ∈ c.sources)).symm
  · rw [← mem_sources_removeSubsumed]
    exact isJoin_joinDomains.exists_source_mergeByKey keepsActions_withoutDomains

/-- The sources that are left of a list are those of the entries whose links do not run in a
circle. -/
theorem mem_sources_ofEntries {entries : List CompiledEntry}
    (hsorted : sortByGroup entries = entries) {line : Nat} :
    (∃ e ∈ (ofEntries entries).entries, line ∈ e.sources) ↔
      ∃ g, ∃ c ∈ (distinctOf entries g).zipIdx, line ∈ c.1.sources ∧
        ¬RunsInCircle (distinctOf entries g) c := by
  rw [← hsorted, entries_ofEntries_sortByGroup, hsorted]
  simp only [List.mem_flatMap, EntryGroup.mem_all, true_and]
  constructor
  · rintro ⟨e, ⟨g, he⟩, hline⟩
    exact ⟨g, mem_sources_ofRun.1 ⟨e, he, hline⟩⟩
  · rintro ⟨g, h⟩
    obtain ⟨e, he, hline⟩ := mem_sources_ofRun.2 h
    exact ⟨e, ⟨g, he⟩, hline⟩

/-- The sources of the distinct entries are those of all entries. -/
theorem mem_sources_distinctOf {entries : List CompiledEntry} {line : Nat} :
    (∃ g, ∃ c ∈ distinctOf entries g, line ∈ c.sources) ↔ ∃ c ∈ entries, line ∈ c.sources := by
  have hgroup (g : EntryGroup) : (∃ c ∈ distinctOf entries g, line ∈ c.sources) ↔
      ∃ c ∈ entries.filter (·.group == g), line ∈ c.sources :=
    isJoin_joinSources.exists_source_mergeByKey keepsActions_entry
  simp only [hgroup, List.mem_filter, beq_iff_eq]
  constructor
  · rintro ⟨_, c, ⟨hc, -⟩, hline⟩
    exact ⟨c, hc, hline⟩
  · rintro ⟨c, hc, hline⟩
    exact ⟨c.group, c, ⟨hc, rfl⟩, hline⟩

section
variable {entries : List CompiledEntry} (hpatterns : ∀ c ∈ entries, c.IsOfPattern)

/-- Circles of distinct entries are circles of the entries before. -/
theorem not_hasCircle_distinctOf {g : EntryGroup} (h : ¬HasCircle (entries.filter (·.group == g))) :
    ¬HasCircle (distinctOf entries g) := by
  rintro ⟨x, hx, y, hy, w, hw, hne, hsub, hnot⟩
  obtain ⟨x', hx', hxeq⟩ := mem_distinctOf hx
  obtain ⟨y', hy', hyeq⟩ := mem_distinctOf hy
  obtain ⟨w', hw', hweq⟩ := mem_distinctOf hw
  rw [eq_of_bare hxeq, eq_of_bare hyeq, eq_of_bare hweq] at hne hsub
  rw [eq_of_bare hxeq, eq_of_bare hyeq] at hnot
  exact h ⟨x', hx', y', hy', w', hw', hne, hsub, hnot⟩

include hpatterns in
/-- Without circles of three, no links of the distinct entries of a group run in a circle. -/
theorem not_runsInCircle_distinctOf {g : EntryGroup}
    (h : ¬HasCircle (entries.filter (·.group == g))) (c : CompiledEntry × Nat) :
    ¬RunsInCircle (distinctOf entries g) c := by
  exact not_runsInCircle_of_not_hasCircle
    (isOfPattern_mergeEqual fun d hd => hpatterns d (List.mem_filter.1 hd).1) eq_of_mem_mergeEqual
    (not_hasCircle_distinctOf h) c

include hpatterns in
/-- Without circles of three, making a list shorter keeps the sources. -/
theorem keepsSources_of_not_hasCircle (hsorted : sortByGroup entries = entries)
    (h : ∀ g, ¬HasCircle (entries.filter (·.group == g))) : KeepsSources entries := by
  intro line
  rw [mem_sources_ofEntries hsorted, ← mem_sources_distinctOf]
  simp only [not_runsInCircle_distinctOf hpatterns (h _), not_false_eq_true, and_true]
  exact exists_congr fun g => exists_mem_zipIdx_fst (p := fun c => line ∈ c.sources)

end

/-- Nothing is left of three entries in a circle. -/
theorem entries_ofRun_circle {x y w : CompiledEntry} (hpatterns : ∀ c ∈ [y, w, x], c.IsOfPattern)
    (hne : x.entry ≠ y.entry) (hne' : y.entry ≠ w.entry) (hne'' : w.entry ≠ x.entry)
    (hxy : subsumes x y = true) (hyw : subsumes y w = true) (hwx : subsumes w x = true)
    (hyx : subsumes y x = false) : (ofRun [y, w, x]).entries = [] := by
  have hnodup : ([y, w, x].map (·.entry)).Nodup := by simp [hne', hne'', hne.symm]
  have hnone : removeSubsumed [y, w, x] = [] := by
    refine List.eq_nil_iff_forall_not_mem.2 fun e he => ?_
    obtain ⟨c, hc, hlink, -⟩ := mem_removeSubsumed.1 he
    obtain ⟨d, hd, hyields⟩ := exists_yieldsTo_of_circle hxy hyw hwx hyx hc
    cases ((link?_eq_none hpatterns hc).1 hlink d hd).symm.trans hyields
  rw [entries_ofRun, if_neg (by simp), mergeEqual_eq_self hnodup, hnone]
  rfl

end Optimized

open CompiledEntry Optimized

theorem sortByGroup_nativeEntries (rules : List Rule) :
    sortByGroup (nativeEntries rules) = nativeEntries rules :=
  sortByGroup_idem _

theorem isOfPattern_of_mem_nativeEntries {rules : List Rule} :
    ∀ c ∈ nativeEntries rules, c.IsOfPattern := by
  intro c hc
  obtain ⟨r, -, hyields⟩ := mem_nativeEntries.1 hc
  exact isOfPattern_of_yields hyields

/-- Three rules whose entries are in a circle are lost when they come alone, in some order. -/
theorem not_hasCircle_of_keepsSources {rules : List Rule}
    (h : ∀ l, l ⊆ rules → KeepsSources (nativeEntries l)) (g : EntryGroup) :
    ¬HasCircle ((nativeEntries rules).filter (·.group == g)) := by
  rintro ⟨x, hx, y, hy, w, hw, ⟨hne, hne', hne''⟩, ⟨hxy, hyw, hwx⟩, hyx⟩
  obtain ⟨hx, hgx⟩ := List.mem_filter.1 hx
  obtain ⟨hy, hgy⟩ := List.mem_filter.1 hy
  obtain ⟨hw, hgw⟩ := List.mem_filter.1 hw
  obtain ⟨rx, hrx, hyieldsx⟩ := mem_nativeEntries.1 hx
  obtain ⟨ry, hry, hyieldsy⟩ := mem_nativeEntries.1 hy
  obtain ⟨rw', hrw, hyieldsw⟩ := mem_nativeEntries.1 hw
  have hpatterns : ∀ c ∈ [y, w, x], c.IsOfPattern := by
    simp [isOfPattern_of_yields hyieldsx, isOfPattern_of_yields hyieldsy,
      isOfPattern_of_yields hyieldsw]
  have hempty : (ofEntries (nativeEntries [ry, rw', rx])).entries = [] := by
    have hentries : [ry, rw', rx].flatMap (fun r => r.compile.toOption.getD []) = [y, w, x] := by
      simp [Rule.mem_compile_of_yields hyieldsx, Rule.mem_compile_of_yields hyieldsy,
        Rule.mem_compile_of_yields hyieldsw, Except.toOption]
    rw [nativeEntries, hentries, entries_ofEntries_sortByGroup, List.flatMap_eq_nil_iff]
    intro g' _
    by_cases hg : g = g'
    · rw [List.filter_eq_self.2 (by simp_all)]
      exact entries_ofRun_circle hpatterns hne hne' hne'' hxy hyw hwx hyx
    · rw [List.filter_eq_nil_iff.2 (by simp_all)]
      rfl
  have hline := (h [ry, rw', rx] (by simp [hrx, hry, hrw]) ry.line).2
    ⟨y, mem_nativeEntries.2 ⟨ry, .head _, hyieldsy⟩, by simp [hyieldsy.sources]⟩
  rw [hempty] at hline
  obtain ⟨_, hmem, -⟩ := hline
  cases hmem

/-- After making the entries of rules shorter, the lines remain that some entry has whose links do
not run in a circle, and no others. All remain, whichever of the rules are taken and in whichever
order, if and only if there are no circles of three in any group; then the links of each entry lead
to one that stays and has its sources. -/
theorem optimized_sources (rules : List Rule) :
    (∀ e ∈ (ofEntries (nativeEntries rules)).entries, ∀ line ∈ e.sources,
      ∃ c ∈ nativeEntries rules, line ∈ c.sources) ∧
    (∀ line, (∃ e ∈ (ofEntries (nativeEntries rules)).entries, line ∈ e.sources) ↔
      ∃ g, ∃ c ∈ (distinctOf (nativeEntries rules) g).zipIdx, line ∈ c.1.sources ∧
        ¬RunsInCircle (distinctOf (nativeEntries rules) g) c) ∧
    ((∀ l, l ⊆ rules → KeepsSources (nativeEntries l)) ↔
      ∀ g, ¬HasCircle ((nativeEntries rules).filter (·.group == g))) ∧
    (∀ g, ¬HasCircle ((nativeEntries rules).filter (·.group == g)) →
      ∀ c ∈ (distinctOf (nativeEntries rules) g).zipIdx,
        ∃ d, ReflTransGen (IsLinked (distinctOf (nativeEntries rules) g)) c d ∧
          withWards (distinctOf (nativeEntries rules) g) d ∈
            removeSubsumed (distinctOf (nativeEntries rules) g) ∧
          ∀ line ∈ c.1.sources,
            line ∈ (withWards (distinctOf (nativeEntries rules) g) d).sources) := by
  have hsorted := sortByGroup_nativeEntries
  have hpatterns := fun rules => @isOfPattern_of_mem_nativeEntries rules
  refine ⟨?_, fun line => mem_sources_ofEntries (hsorted rules), ⟨?_, ?_⟩, ?_⟩
  · intro e he line hline
    obtain ⟨g, c, hc, hline, -⟩ := (mem_sources_ofEntries (hsorted rules)).1 ⟨e, he, hline⟩
    exact mem_sources_distinctOf.1 ⟨g, c.1, List.fst_mem_of_mem_zipIdx hc, hline⟩
  · exact not_hasCircle_of_keepsSources
  · intro h l hl
    refine keepsSources_of_not_hasCircle (hpatterns l) (hsorted l) fun g hcircle => ?_
    refine h g (hcircle.mono fun c hc => ?_)
    obtain ⟨hc, hg⟩ := List.mem_filter.1 hc
    obtain ⟨r, hr, hyields⟩ := mem_nativeEntries.1 hc
    exact List.mem_filter.2 ⟨mem_nativeEntries.2 ⟨r, hl hr, hyields⟩, hg⟩
  · intro g h c hc
    obtain ⟨d, -, hchain, hmem, hsources⟩ :=
      exists_withWards hc (not_runsInCircle_distinctOf (hpatterns rules) h c)
    exact ⟨d, hchain, hmem, hsources⟩

/-- Three spellings of one host, of which the first pattern is not just the host, and
the sites in two orders. -/
theorem optimized_sources_spellings :
    let rules : List Rule :=
      [⟨0, "||ads.com^*$domain=a.com|b.com", { permitted := ["a.com", "b.com"] },
          .network false "||ads.com^*" {}⟩,
        ⟨1, "||ads.com^$domain=b.com|a.com", { permitted := ["b.com", "a.com"] },
          .network false "||ads.com^" {}⟩,
        ⟨2, "||ADS.com^$domain=a.com|b.com", { permitted := ["a.com", "b.com"] },
          .network false "||ADS.com^" {}⟩]
    (nativeEntries rules).length = 3 ∧ ∃ l, l ⊆ rules ∧ ¬KeepsSources (nativeEntries l) := by
  intro rules
  have hcircle : HasCircle ((nativeEntries rules).filter (·.group == .urlBlocking)) := by
    unfold HasCircle
    decide +kernel
  obtain ⟨-, -, hkeeps, -⟩ := optimized_sources rules
  refine ⟨by decide +kernel, ?_⟩
  by_contra hnone
  refine hkeeps.1 (fun l hl => ?_) .urlBlocking hcircle
  by_contra hlost
  exact hnone ⟨l, hl, hlost⟩

end ContentRules
