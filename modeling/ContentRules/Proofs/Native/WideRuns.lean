import ContentRules.Proofs.Native.Joining
import ContentRules.Proofs.Native.Removal
import ContentRules.Proofs.Native.Runs

/-!
Making a list shorter looks at each action by itself: the entries with one action come out as if no
others were there. For entries that count for all URLs, as those that hide do, this holds of the
whole pass, and no source is lost. Main statements: `filter_entries_ofRun` and
`exists_mem_entries_ofRun`.
-/

namespace ContentRules.CompiledEntry

/-- Every entry counts for all URLs. -/
def IsWide (entries : List CompiledEntry) : Prop :=
  ∀ c ∈ entries, c.entry.trigger.matchesAllUrls = true

theorem subsumes_bare (c d : CompiledEntry) : subsumes c.bare d.bare = subsumes c d := rfl

/-- Among entries for all URLs, one subsumes another if it has the same action
and wider conditions. -/
theorem subsumes_wide {c : CompiledEntry} (hc : c.entry.trigger.matchesAllUrls = true)
    (d : CompiledEntry) :
    subsumes c d = (c.entry.action == d.entry.action &&
      WordSet.covers c.entry.trigger.resourceTypes d.entry.trigger.resourceTypes &&
      WordSet.covers c.entry.trigger.loadTypes d.entry.trigger.loadTypes &&
      DomainCondition.covers c.entry.trigger.domains d.entry.trigger.domains) := by
  simp [subsumes, coversUrl, hc]

theorem subsumes_wide_trans {a b c : CompiledEntry} (ha : a.entry.trigger.matchesAllUrls = true)
    (hb : b.entry.trigger.matchesAllUrls = true) (h : subsumes a b = true)
    (h' : subsumes b c = true) : subsumes a c = true := by
  rw [subsumes_wide ha] at h ⊢
  rw [subsumes_wide hb] at h'
  simp only [Bool.and_eq_true, beq_iff_eq, and_assoc] at h h' ⊢
  exact ⟨h.1.trans h'.1, WordSet.covers_trans h.2.1 h'.2.1, WordSet.covers_trans h.2.2.1 h'.2.2.1,
    DomainCondition.covers_trans h.2.2.2 h'.2.2.2⟩

/-- Entries for all URLs that lead to an entry make it needless. -/
theorem subsumes_of_leads {P : CompiledEntry → Prop}
    (hP : ∀ c, P c → c.entry.trigger.matchesAllUrls = true) {a b : CompiledEntry}
    (ha : a.entry.trigger.matchesAllUrls = true) (h : Leads P a b) : subsumes a b = true := by
  induction h with
  | refl =>
    simp [subsumes_wide ha, WordSet.covers_refl, DomainCondition.covers_refl]
  | tail _ hstep ih =>
    obtain ⟨hb, -, hsub⟩ := hstep
    exact subsumes_wide_trans ha (hP _ hb) ih hsub

/-- In a list of entries for all URLs, all entries are tried that make another needless. -/
theorem link?_wide {entries : List CompiledEntry} (hwide : IsWide entries)
    {c : CompiledEntry × Nat} :
    link? entries c = none ↔ ∀ d ∈ entries.zipIdx, yieldsTo c d = false := by
  refine link?_eq_none_iff fun d hd h => ?_
  have hall := hwide d.1 (List.fst_mem_of_mem_zipIdx hd)
  simp only [Candidates.forEntry, Candidates.ofList, Index.find_ofList, List.mem_append,
    List.mem_filter]
  exact .inl (.inl ⟨hd, by simp [hall, action_of_subsumes h]⟩)

/-! ## Removal by places before and after -/

/-- The entry stays between the entries before and after it. -/
def staysBetween (before after : List CompiledEntry) (c : CompiledEntry) : Bool :=
  !before.any (subsumes · c) && !after.any fun d => subsumes d c && !subsumes c d

/-- The entries that stay of those after the given ones. -/
def prune : (before after : List CompiledEntry) → List CompiledEntry
  | _, [] => []
  | before, c :: after =>
    if staysBetween before after c then c :: prune (before ++ [c]) after
    else prune (before ++ [c]) after

theorem prune_short {after : List CompiledEntry} (h : after.length < 2) :
    prune [] after = after := by
  cases after with
  | nil => rfl
  | cons c after =>
    rw [List.length_cons] at h
    obtain rfl : after = [] := List.eq_nil_of_length_eq_zero (by omega)
    rfl

theorem all_zipIdx {l : List CompiledEntry} {n : Nat} {p : CompiledEntry × Nat → Bool}
    {q : CompiledEntry → Bool} (h : ∀ a ∈ l.zipIdx n, p a = q a.1) :
    (l.zipIdx n).all p = l.all q := by
  rw [Bool.eq_iff_iff, List.all_eq_true, List.all_eq_true]
  constructor
  · intro hp a ha
    rw [← List.zipIdx_map_fst n l] at ha
    obtain ⟨b, hb, rfl⟩ := List.mem_map.1 ha
    rw [← h b hb]
    exact hp b hb
  · intro hq a ha
    rw [h a ha]
    exact hq a.1 (List.fst_mem_of_mem_zipIdx ha)

/-- An entry yields to none of a list if it stays between those before and after it. -/
theorem all_not_yieldsTo (before after : List CompiledEntry) (c : CompiledEntry) :
    ((before ++ c :: after).zipIdx.all fun d => !yieldsTo (c, before.length) d) =
      staysBetween before after c := by
  have hbefore : (before.zipIdx.all fun d => !yieldsTo (c, before.length) d) =
      before.all fun d => !subsumes d c := by
    refine all_zipIdx fun d hd => ?_
    have hplace := List.snd_lt_of_mem_zipIdx hd
    have hne : (d.2 != before.length) = true := bne_iff_ne.2 (by omega)
    have hnot : ¬before.length < d.2 := by omega
    simp [yieldsTo, hne, hnot]
  have hafter : ((after.zipIdx (before.length + 1)).all fun d => !yieldsTo (c, before.length) d) =
      after.all fun d => !(subsumes d c && !subsumes c d) := by
    refine all_zipIdx fun d hd => ?_
    have hplace := List.le_snd_of_mem_zipIdx hd
    have hne : (d.2 != before.length) = true := bne_iff_ne.2 (by omega)
    have hlt : before.length < d.2 := by omega
    simp [yieldsTo, hne, hlt]
  have hself : yieldsTo (c, before.length) (c, before.length) = false := by simp [yieldsTo]
  rw [List.zipIdx_append, List.zipIdx_cons, Nat.zero_add, List.all_append, List.all_cons, hbefore,
    hafter, hself, staysBetween, List.not_any_eq_all_not, List.not_any_eq_all_not]
  rfl

theorem prune_eq (before after : List CompiledEntry) :
    ((after.zipIdx before.length).filter fun c =>
      ((before ++ after).zipIdx).all fun d => !yieldsTo c d).map (·.1) = prune before after := by
  induction after generalizing before with
  | nil => rfl
  | cons c after ih =>
    have ih := ih (before ++ [c])
    rw [List.append_assoc, List.singleton_append, List.length_append, List.length_singleton] at ih
    rw [List.zipIdx_cons, List.filter_cons, all_not_yieldsTo, prune]
    split
    · rw [List.map_cons, ih]
    · exact ih

/-- What stays does not depend on sources. -/
theorem map_bare_prune (before after : List CompiledEntry) :
    (prune before after).map bare = prune (before.map bare) (after.map bare) := by
  induction after generalizing before with
  | nil => rfl
  | cons c after ih =>
    have hstays : staysBetween (before.map bare) (after.map bare) c.bare =
        staysBetween before after c := by
      simp only [staysBetween, List.any_map, Function.comp_def, subsumes_bare]
    have hbefore : before.map bare ++ [c.bare] = (before ++ [c]).map bare := by simp
    rw [prune, List.map_cons, prune, hstays, hbefore, ← ih]
    split <;> rfl

/-- What stays of the entries with some actions does not depend on the others. -/
theorem filter_prune {p : CompiledEntry → Bool} (hp : ByAction p)
    (before after : List CompiledEntry) :
    (prune before after).filter p = prune (before.filter p) (after.filter p) := by
  induction after generalizing before with
  | nil => rfl
  | cons c after ih =>
    have ih := ih (before ++ [c])
    rw [prune, List.filter_cons]
    cases hc : p c with
    | false =>
      rw [List.filter_append, List.filter_cons_of_neg (by simp [hc]), List.filter_nil,
        List.append_nil] at ih
      rw [if_neg Bool.false_ne_true, ← ih]
      split
      · rw [List.filter_cons_of_neg (by simp [hc])]
      · rfl
    | true =>
      have hstays :
          staysBetween (before.filter p) (after.filter p) c = staysBetween before after c := by
        have hsame (d : CompiledEntry) : (p d && subsumes d c) = subsumes d c := by
          cases hsub : subsumes d c with
          | false => rw [Bool.and_false]
          | true => rw [hp d c (action_of_subsumes hsub), hc, Bool.and_true]
        simp only [staysBetween, List.any_filter, hsame, ← Bool.and_assoc]
      rw [List.filter_append, List.filter_cons_of_pos hc, List.filter_nil] at ih
      rw [if_pos rfl, prune, hstays, ← ih]
      split
      · rw [List.filter_cons_of_pos hc]
      · rfl

/-- Leaving out needless entries, without a look at sources. -/
theorem map_bare_removeSubsumed {entries : List CompiledEntry} (hwide : IsWide entries) :
    (removeSubsumed entries).map bare = prune [] (entries.map bare) := by
  have hlink (c : CompiledEntry × Nat) : (link? entries c).isNone =
      entries.zipIdx.all fun d => !yieldsTo c d := by
    rw [Bool.eq_iff_iff, Option.isNone_iff_eq_none, link?_wide hwide]
    simp
  have hprune := prune_eq [] entries
  rw [removeSubsumed_eq, ← List.map_nil (f := bare), ← map_bare_prune, ← hprune, List.map_map,
    List.map_map]
  simp only [hlink]
  rfl

/-! ## Joining -/

theorem bare_joinDomains (c d : CompiledEntry) :
    (joinDomains c d).bare = joinDomains c.bare d.bare := by
  have hc : c.bare.onlyDomains? = c.onlyDomains? := rfl
  have hd : d.bare.onlyDomains? = d.onlyDomains? := rfl
  rw [joinDomains, joinDomains, hc, hd]
  cases c.onlyDomains? with
  | none => rfl
  | some => cases d.onlyDomains? <;> rfl

theorem map_bare_mergeEqual (entries : List CompiledEntry) :
    (mergeEqual entries).map bare = mergeEqual (entries.map bare) :=
  map_mergeByKey joinSources (fun _ => rfl) fun _ _ => rfl

theorem map_bare_mergeDomains (entries : List CompiledEntry) :
    (mergeDomains entries).map bare = mergeDomains (entries.map bare) :=
  map_mergeByKey joinDomains (fun _ => rfl) bare_joinDomains

theorem filter_mergeEqual {p : CompiledEntry → Bool} (hp : ByAction p)
    (entries : List CompiledEntry) :
    (mergeEqual entries).filter p = mergeEqual (entries.filter p) :=
  isJoin_joinSources.filter_mergeByKey keepsActions_entry hp

theorem filter_mergeDomains {p : CompiledEntry → Bool} (hp : ByAction p)
    (entries : List CompiledEntry) :
    (mergeDomains entries).filter p = mergeDomains (entries.filter p) :=
  isJoin_joinDomains.filter_mergeByKey keepsActions_withoutDomains hp

theorem IsWide.mergeEqual {entries : List CompiledEntry} (hwide : IsWide entries) :
    IsWide (mergeEqual entries) := by
  intro e he
  obtain ⟨c, hc, h⟩ := exists_mem_of_mem_mergeEqual he
  rw [entry_eq_of_bare h]
  exact hwide c hc

/-! ## The whole pass -/

open Optimized

/-- Making a list for all URLs shorter, without a look at sources. -/
theorem map_bare_entries_ofRun {run : List CompiledEntry} (hwide : IsWide run) :
    (ofRun run).entries.map bare = mergeDomains (prune [] (mergeEqual (run.map bare))) := by
  rw [entries_ofRun]
  split
  · rename_i hshort
    have hlength : (run.map bare).length < 2 := by
      rw [List.length_map]
      exact hshort
    have hequal : mergeEqual (run.map bare) = run.map bare := mergeByKey_short _ hlength
    have hprune : prune [] (run.map bare) = run.map bare := prune_short hlength
    rw [hequal, hprune, mergeDomains, mergeByKey_short _ hlength]
  · rw [map_bare_mergeDomains, map_bare_removeSubsumed hwide.mergeEqual, map_bare_mergeEqual]

/-- The entries with some actions come out as if no others were there. -/
theorem filter_entries_ofRun {run : List CompiledEntry} (hwide : IsWide run)
    {p : CompiledEntry → Bool} (hp : ByAction p) :
    ((ofRun run).entries.filter p).map bare = (ofRun (run.filter p)).entries.map bare := by
  have hbare (l : List CompiledEntry) : (l.filter p).map bare = (l.map bare).filter p := by
    rw [List.filter_map]
    exact congrArg _ (List.filter_congr fun c _ => hp c c.bare rfl)
  rw [hbare, map_bare_entries_ofRun hwide, filter_mergeDomains hp, filter_prune hp,
    filter_mergeEqual hp, ← hbare, List.filter_nil, ← map_bare_entries_ofRun]
  exact fun c hc => hwide c (List.mem_filter.1 hc).1

/-! ## Sources -/

/-- An entry that stays stands for rules whose entries have its action. -/
theorem exists_source_of_mem_removeSubsumed {entries : List CompiledEntry} {e : CompiledEntry}
    (he : e ∈ removeSubsumed entries) {line : Nat} (hline : line ∈ e.sources) :
    ∃ c ∈ entries, line ∈ c.sources ∧ c.entry.action = e.entry.action := by
  obtain ⟨c, hc, -, rfl⟩ := mem_removeSubsumed.1 he
  obtain hline | ⟨d, hd, hline⟩ := mem_sources_withWards.1 hline
  · exact ⟨c.1, List.fst_mem_of_mem_zipIdx hc, hline, rfl⟩
  · obtain ⟨j, k, hmem, -, -⟩ := mem_wards.1 hd
    exact ⟨d, List.fst_mem_of_mem_zipIdx hmem, hline, action_of_mem_wards hc hd⟩

/-- Of entries for all URLs each has one that stays and stands for its rules. -/
theorem exists_mem_removeSubsumed {entries : List CompiledEntry} (hwide : IsWide entries)
    {c : CompiledEntry} (hc : c ∈ entries) {line : Nat} (hline : line ∈ c.sources) :
    ∃ e ∈ removeSubsumed entries, line ∈ e.sources ∧ e.entry.action = c.entry.action := by
  obtain ⟨i, hi⟩ := List.mem_iff_getElem?.1 hc
  have hmem : (c, i) ∈ entries.zipIdx := List.mem_zipIdx_iff_getElem?.2 hi
  cases hlink : link? entries (c, i) with
  | none =>
    exact ⟨_, mem_removeSubsumed.2 ⟨(c, i), hmem, hlink, rfl⟩,
      mem_sources_withWards.2 (.inl hline), rfl⟩
  | some k =>
    obtain ⟨b, hb, hyields⟩ := yieldsTo_of_link? hlink
    have hkind := @exists_heir entries
      (fun e => e.entry.trigger.matchesAllUrls = true ∧ e.entry.action = c.entry.action) ?_ ?_
        (b, k) hb
      ⟨hwide b (List.fst_mem_of_mem_zipIdx hb), action_of_yieldsTo hyields⟩
    · obtain ⟨d, hd, ⟨-, haction⟩, hend, hheir⟩ := hkind
      have hward : c ∈ wards entries d.2 := mem_wards.2 ⟨i, k, hmem, hlink, hheir⟩
      exact ⟨_, mem_removeSubsumed.2 ⟨d, hd, hend, rfl⟩,
        mem_sources_withWards.2 (.inr ⟨c, hward, hline⟩), haction⟩
    · rintro a - d hd ⟨-, haction⟩ hsub
      exact ⟨hwide d hd, (action_of_subsumes hsub).trans haction⟩
    · rintro x y - ⟨hy, -⟩ - hleads
      exact subsumes_of_leads (fun _ => And.left) hy hleads

/-- The entries of a shorter list stand for rules whose entries have their actions. -/
theorem exists_source_of_mem_ofRun {run : List CompiledEntry} {e : CompiledEntry}
    (he : e ∈ (ofRun run).entries) {line : Nat} (hline : line ∈ e.sources) :
    ∃ c ∈ run, line ∈ c.sources ∧ c.entry.action = e.entry.action := by
  rw [entries_ofRun] at he
  split at he
  · exact ⟨e, he, hline, rfl⟩
  · obtain ⟨d, hd, hline, haction⟩ :=
      (isJoin_joinDomains.mem_sources_mergeByKey keepsActions_withoutDomains).1 ⟨e, he, hline, rfl⟩
    obtain ⟨c, hc, hline, haction'⟩ := exists_source_of_mem_removeSubsumed hd hline
    rw [← haction, ← haction']
    exact (isJoin_joinSources.mem_sources_mergeByKey keepsActions_entry).1 ⟨c, hc, hline, rfl⟩

/-- The rules of entries for all URLs remain when their list is made shorter. -/
theorem exists_mem_entries_ofRun {run : List CompiledEntry} (hwide : IsWide run) {c : CompiledEntry}
    (hc : c ∈ run) {line : Nat} (hline : line ∈ c.sources) :
    ∃ e ∈ (ofRun run).entries, line ∈ e.sources ∧ e.entry.action = c.entry.action := by
  rw [entries_ofRun]
  split
  · exact ⟨c, hc, hline, rfl⟩
  · obtain ⟨d, hd, hline, haction⟩ :=
      (isJoin_joinSources.mem_sources_mergeByKey keepsActions_entry).2 ⟨c, hc, hline, rfl⟩
    obtain ⟨e, he, hline, haction'⟩ := exists_mem_removeSubsumed hwide.mergeEqual hd hline
    rw [← haction, ← haction']
    exact (isJoin_joinDomains.mem_sources_mergeByKey keepsActions_withoutDomains).2
      ⟨e, he, hline, rfl⟩

/-- Every entry of a shorter list stands for the rules of some entry before. -/
theorem exists_subset_sources_ofRun {run : List CompiledEntry} {e : CompiledEntry}
    (he : e ∈ (ofRun run).entries) : ∃ c ∈ run, ∀ line ∈ c.sources, line ∈ e.sources := by
  rw [entries_ofRun] at he
  split at he
  · exact ⟨e, he, fun _ => id⟩
  · obtain ⟨d, hd, hsub⟩ := isJoin_joinDomains.exists_subset_sources he
    obtain ⟨⟨b, i⟩, hb, -, rfl⟩ := mem_removeSubsumed.1 hd
    obtain ⟨c, hc, hsub'⟩ :=
      isJoin_joinSources.exists_subset_sources (List.fst_mem_of_mem_zipIdx hb)
    exact ⟨c, hc, fun line hline =>
      hsub line (mem_sources_withWards.2 (.inl (hsub' line hline)))⟩

end ContentRules.CompiledEntry
