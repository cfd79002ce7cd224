import ContentRules.Native.Optimization
import Mathlib.Data.List.SplitBy

/-!
The runs of a list in the order of groups are its groups, so making such a list shorter is making
each group shorter.
-/

namespace ContentRules.Optimized

open CompiledEntry

/-- What is left of the entries of one group. -/
theorem entries_ofRun (run : List CompiledEntry) :
    (ofRun run).entries =
      if run.length < 2 then run else mergeDomains (removeSubsumed (mergeEqual run)) := by
  unfold ofRun
  split <;> rfl

theorem entries_foldr (runs : List (List CompiledEntry)) :
    (runs.foldr (fun run o => (ofRun run).append o) (unchanged [])).entries =
      runs.flatMap fun run => (ofRun run).entries := by
  induction runs with
  | nil => rfl
  | cons run runs ih =>
    rw [List.foldr_cons, append, List.flatMap_cons]
    exact congrArg _ ih

/-- Entries of one group make one run. -/
theorem splitBy_of_group {run : List CompiledEntry} {g : EntryGroup} (hne : run ≠ [])
    (h : ∀ c ∈ run, c.group = g) : run.splitBy (fun c d => c.group == d.group) = [run] := by
  refine List.splitBy_of_isChain hne (List.Pairwise.isChain ?_)
  rw [List.pairwise_iff_forall_sublist]
  intro c d hsub
  have hc := h c (hsub.subset (by simp))
  have hd := h d (hsub.subset (by simp))
  simp [hc, hd]

theorem nil_append (o : Optimized) : (ofRun []).append o = o := by
  obtain ⟨entries, before, deduped, subsumed, merged⟩ := o
  simp [ofRun, unchanged, append]

/-- A list in the order of groups is made shorter group by group. -/
theorem ofEntries_arrange {groups : List EntryGroup} (hgroups : groups.Nodup)
    (l : List CompiledEntry) :
    ofEntries (arrange groups (·.group) l) =
      (groups.map fun g => l.filter (·.group == g)).foldr (fun run o => (ofRun run).append o)
        (unchanged []) := by
  rw [ofEntries]
  induction groups with
  | nil => rfl
  | cons g groups ih =>
    obtain ⟨hg, hgroups⟩ := List.nodup_cons.1 hgroups
    have hsplit : arrange (g :: groups) (·.group) l =
        l.filter (·.group == g) ++ arrange groups (·.group) l := by
      rw [arrange, List.flatMap_cons]
      rfl
    rw [hsplit, List.splitBy_append, List.foldr_append, ih hgroups, List.map_cons, List.foldr_cons]
    · by_cases hne : l.filter (·.group == g) = []
      · rw [hne, nil_append]
        rfl
      · rw [splitBy_of_group hne fun c hc => beq_iff_eq.1 (List.mem_filter.1 hc).2]
        rfl
    · intro c hc d hd
      have hc := List.mem_of_getLast? hc
      have hd := List.mem_of_head? hd
      have hc := beq_iff_eq.1 (List.mem_filter.1 hc).2
      have hd := (mem_arrange.1 hd).2
      rw [hc, beq_eq_false_iff_ne]
      exact fun h => hg (h ▸ hd)

/-- The optimized list of entries in order is that of its groups. -/
theorem entries_ofEntries_sortByGroup (l : List CompiledEntry) :
    (ofEntries (sortByGroup l)).entries =
      EntryGroup.all.flatMap fun g => (ofRun (l.filter (·.group == g))).entries := by
  rw [sortByGroup, ofEntries_arrange EntryGroup.nodup_all, entries_foldr, List.flatMap_map]

end ContentRules.Optimized
