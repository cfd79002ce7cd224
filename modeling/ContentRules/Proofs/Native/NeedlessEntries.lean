import ContentRules.Proofs.Native.Exactness

/-!
Looking up the entries that can make another needless finds the same needless entries as comparing
every entry with every other. Of the entries that stay none makes another needless. Main statement:
`removeSubsumed_exact`.
-/

namespace ContentRules.CompiledEntry

/-! ## Comparing every entry with every other -/

/-- Another entry of the list makes the one at its place needless, unless it stands behind that one
and each makes the other needless. -/
def isNeedless (entries : List CompiledEntry) (c : CompiledEntry × Nat) : Bool :=
  entries.zipIdx.any (yieldsTo c)

/-- The entries that are not needless, each with its place. -/
def neededEntries (entries : List CompiledEntry) : List (CompiledEntry × Nat) :=
  entries.zipIdx.filter fun c => !isNeedless entries c

section
variable {entries : List CompiledEntry}

theorem isNeedless_eq_false {c : CompiledEntry × Nat} :
    isNeedless entries c = false ↔ ∀ d ∈ entries.zipIdx, yieldsTo c d = false := by
  simp only [isNeedless, List.any_eq_false, Bool.not_eq_true]

theorem mem_neededEntries {c : CompiledEntry × Nat} :
    c ∈ neededEntries entries ↔
      c ∈ entries.zipIdx ∧ ∀ d ∈ entries.zipIdx, yieldsTo c d = false := by
  rw [neededEntries, List.mem_filter, Bool.not_eq_true', isNeedless_eq_false]

theorem getElem_of_mem_zipIdx {c : CompiledEntry} {i : Nat} (h : (c, i) ∈ entries.zipIdx) :
    ∃ hi : i < entries.length, entries[i] = c :=
  List.getElem?_eq_some_iff.1 (List.mem_zipIdx_iff_getElem?.1 h)

theorem mem_zipIdx_getElem {i : Nat} (hi : i < entries.length) : (entries[i], i) ∈ entries.zipIdx :=
  List.mem_zipIdx_iff_getElem?.2 (List.getElem?_eq_getElem hi)

/-- The entry at a place is needless if and only if some other place has an entry that subsumes it,
and not each subsumes the other where that place is later. -/
theorem isNeedless_iff {i : Nat} (hi : i < entries.length) :
    isNeedless entries (entries[i], i) = true ↔
      ∃ j, ∃ hj : j < entries.length, j ≠ i ∧ subsumes entries[j] entries[i] = true ∧
        ¬(j > i ∧ subsumes entries[i] entries[j] = true) := by
  rw [isNeedless, List.any_eq_true]
  constructor
  · rintro ⟨⟨d, j⟩, hd, hyields⟩
    obtain ⟨hj, rfl⟩ := getElem_of_mem_zipIdx hd
    obtain ⟨hne, hsub, hfirst⟩ := yieldsTo_iff.1 hyields
    exact ⟨j, hj, hne, hsub, fun ⟨hlt, hback⟩ => absurd hback (by simp [hfirst hlt])⟩
  · rintro ⟨j, hj, hne, hsub, hfirst⟩
    refine ⟨(entries[j], j), mem_zipIdx_getElem hj, yieldsTo_iff.2 ⟨hne, hsub, fun hlt => ?_⟩⟩
    rw [Bool.eq_false_iff]
    exact fun hback => hfirst ⟨hlt, hback⟩

/-- Of two entries at different places that are not needless the first does not subsume the second:
the first would have to stand behind the second and be subsumed by it, and so yield to it. -/
theorem subsumes_eq_false_of_needed {c d : CompiledEntry × Nat} (hc : c ∈ neededEntries entries)
    (hd : d ∈ neededEntries entries) (hne : c.2 ≠ d.2) : subsumes c.1 d.1 = false := by
  obtain ⟨hc, hcstays⟩ := mem_neededEntries.1 hc
  obtain ⟨hd, hdstays⟩ := mem_neededEntries.1 hd
  rw [Bool.eq_false_iff]
  intro hsub
  have hback : d.2 < c.2 ∧ subsumes d.1 c.1 = true := by
    by_contra hnot
    refine Bool.eq_false_iff.1 (hdstays c hc) (yieldsTo_iff.2 ⟨hne, hsub, fun hlt => ?_⟩)
    rw [Bool.eq_false_iff]
    exact fun hback => hnot ⟨hlt, hback⟩
  exact Bool.eq_false_iff.1 (hcstays d hd) (yieldsTo_of_lt hback.1 hback.2)

theorem pairwise_neededEntries :
    (neededEntries entries).Pairwise fun c d =>
      subsumes c.1 d.1 = false ∧ subsumes d.1 c.1 = false := by
  have hplaces : (neededEntries entries).Pairwise fun c d => c.2 ≠ d.2 := by
    have hnodup := (nodup_snd_zipIdx entries 0).sublist
      ((List.filter_sublist (p := fun c => !isNeedless entries c)).map (·.2))
    exact List.pairwise_map.1 hnodup
  refine List.Pairwise.imp_of_mem (fun hc hd hne => ?_) hplaces
  exact ⟨subsumes_eq_false_of_needed hc hd hne, subsumes_eq_false_of_needed hd hc hne.symm⟩

/-! ## What is left out -/

theorem bare_withWards (c : CompiledEntry × Nat) : (withWards entries c).bare = c.1.bare := rfl

theorem subsumes_withWards (c d : CompiledEntry × Nat) :
    subsumes (withWards entries c) (withWards entries d) = subsumes c.1 d.1 := rfl

/-- Comparing with the entries that are looked up leaves the same entries as comparing with all. -/
theorem removeSubsumed_eq_neededEntries (hpatterns : ∀ c ∈ entries, c.IsOfPattern) :
    removeSubsumed entries = (neededEntries entries).map (withWards entries) := by
  rw [removeSubsumed_eq, neededEntries]
  congr 1
  refine List.filter_congr fun c hc => ?_
  rw [Bool.eq_iff_iff, Option.isNone_iff_eq_none, link?_eq_none hpatterns hc, Bool.not_eq_true',
    isNeedless_eq_false]

/-- If no entry is there twice, an entry of a place is left if and only if it is not needless. -/
theorem exists_entry_removeSubsumed (hpatterns : ∀ c ∈ entries, c.IsOfPattern)
    (hdistinct : (entries.map (·.entry)).Nodup) {i : Nat} (hi : i < entries.length) :
    (∃ e ∈ removeSubsumed entries, e.entry = entries[i].entry) ↔
      isNeedless entries (entries[i], i) = false := by
  rw [isNeedless_eq_false, removeSubsumed_eq_neededEntries hpatterns]
  constructor
  · rintro ⟨_, he, hentry⟩
    obtain ⟨⟨c, j⟩, hc, rfl⟩ := List.mem_map.1 he
    obtain ⟨hc, hstays⟩ := mem_neededEntries.1 hc
    obtain ⟨hj, rfl⟩ := getElem_of_mem_zipIdx hc
    have hentry : entries[j].entry = entries[i].entry := hentry
    have hj' : j < (entries.map (·.entry)).length := by rwa [List.length_map]
    have hi' : i < (entries.map (·.entry)).length := by rwa [List.length_map]
    obtain rfl : j = i :=
      (@List.Nodup.getElem_inj_iff _ _ hdistinct j hj' i hi').1 (by simpa using hentry)
    exact hstays
  · intro hstays
    exact ⟨_, List.mem_map_of_mem (mem_neededEntries.2 ⟨mem_zipIdx_getElem hi, hstays⟩), rfl⟩

end

/-- Of the distinct entries of rules those are left out that a comparison of each with each finds
needless: the entry at a place goes if and only if another place has an entry that subsumes it,
unless that place is later and each subsumes the other. The others stay as they are but for their
sources, in their order, and none of them subsumes another. -/
theorem removeSubsumed_exact {run : List CompiledEntry}
    (hrules : ∀ c ∈ run, ∃ r : Rule, ∃ cs, r.compile = .ok cs ∧ c ∈ cs) :
    (∀ (i : Nat) (hi : i < (mergeEqual run).length),
      (¬∃ e ∈ removeSubsumed (mergeEqual run), e.entry = (mergeEqual run)[i].entry) ↔
        ∃ j, ∃ hj : j < (mergeEqual run).length, j ≠ i ∧
          subsumes (mergeEqual run)[j] (mergeEqual run)[i] = true ∧
            ¬(j > i ∧ subsumes (mergeEqual run)[i] (mergeEqual run)[j] = true)) ∧
    (removeSubsumed (mergeEqual run)).map bare =
      (neededEntries (mergeEqual run)).map (·.1.bare) ∧
    (removeSubsumed (mergeEqual run)).Pairwise fun c d =>
      subsumes c d = false ∧ subsumes d c = false := by
  have hpatterns : ∀ c ∈ mergeEqual run, c.IsOfPattern :=
    isOfPattern_mergeEqual fun c hc => by
      obtain ⟨r, cs, hcs, hmem⟩ := hrules c hc
      exact isOfPattern_of_yields (Rule.yields_of_mem_compile hcs hmem)
  refine ⟨fun i hi => ?_, ?_, ?_⟩
  · rw [exists_entry_removeSubsumed hpatterns (nodup_entry_mergeEqual run) hi, Bool.not_eq_false,
      isNeedless_iff hi]
  · rw [removeSubsumed_eq_neededEntries hpatterns, List.map_map]
    exact List.map_congr_left fun c _ => bare_withWards c
  · rw [removeSubsumed_eq_neededEntries hpatterns, List.pairwise_map]
    simp only [subsumes_withWards]
    exact pairwise_neededEntries

/-- Of three patterns, two of which name one host and differ in the case of letters, the first of
these two stays alone. -/
theorem removeSubsumed_exact_hosts :
    let run := nativeEntries (FilterList.read ["||cdn.ads.com^", "||ads.com^", "||ADS.com^"]).rules
    (∀ c ∈ run, ∃ r : Rule, ∃ cs, r.compile = .ok cs ∧ c ∈ cs) ∧
      run.map (·.sources) = [[0], [1], [2]] ∧
      (removeSubsumed (mergeEqual run)).map bare =
        (run.filter fun c => c.sources == [1]).map bare := by
  intro run
  have hrules : ∀ c ∈ run, ∃ r : Rule, ∃ cs, r.compile = .ok cs ∧ c ∈ cs := by
    intro c hc
    obtain ⟨r, -, hyields⟩ := mem_nativeEntries.1 hc
    exact ⟨r, Rule.yields_iff.1 hyields⟩
  have hdistinct : mergeEqual run = run := mergeEqual_eq_self (by decide +kernel)
  have hneeded : (neededEntries run).map (·.1.bare) =
      (run.filter fun c => c.sources == [1]).map bare := by decide +kernel
  have hleft := (removeSubsumed_exact hrules).2.1
  rw [hdistinct, hneeded] at hleft
  refine ⟨hrules, by decide +kernel, ?_⟩
  rw [hdistinct]
  exact hleft

end ContentRules.CompiledEntry
