import ContentRules.Proofs.Native.KeptSources
import Mathlib.Algebra.GroupWithZero.Nat

/-!
The form of an optimized list and its counters. The list is in the order of groups, no entry of a
group is there twice, and no two entries of a group that are limited to pages differ in these pages
only. The counters count what was left out: the entries behind an equal one, those that have a link
to another, and those behind one that differs in its pages only. Joining entries for their pages
admits neither more hosts nor fewer. Main statement: `optimized_form`.
-/

namespace ContentRules

/-- The place of a group in the order of groups. -/
def EntryGroup.place (g : EntryGroup) : Nat := all.idxOf g

namespace CompiledEntry

/-! ## The order of groups -/

/-- The entries are in the order of their groups. -/
def InGroupOrder (entries : List CompiledEntry) : Prop :=
  entries.Pairwise fun c d => c.group.place ≤ d.group.place

instance (entries : List CompiledEntry) : Decidable (InGroupOrder entries) :=
  inferInstanceAs (Decidable (entries.Pairwise _))

section
variable {f : EntryGroup → List CompiledEntry} (h : ∀ g, ∀ c ∈ f g, c.group = g)
include h

theorem inGroupOrder_flatMap : InGroupOrder (EntryGroup.all.flatMap f) := by
  have hplaces : EntryGroup.all.Pairwise fun g k => g.place ≤ k.place := by decide
  refine List.pairwise_flatMap.2 ⟨fun g _ => ?_, hplaces.imp fun {g k} hle c hc d hd => ?_⟩
  · exact List.pairwise_of_forall_mem_list fun c hc d hd => by rw [h g c hc, h g d hd]
  · rwa [h g c hc, h k d hd]

/-- What holds of any two members of a group holds of any two of the list that have one group. -/
theorem pairwise_flatMap_group {R : CompiledEntry → CompiledEntry → Prop}
    (hR : ∀ g, (f g).Pairwise R) :
    (EntryGroup.all.flatMap f).Pairwise fun c d => c.group = d.group → R c d := by
  refine List.pairwise_flatMap.2 ⟨fun g _ => (hR g).imp ?_, EntryGroup.nodup_all.imp ?_⟩
  · intro c d hcd _
    exact hcd
  · intro g k hne c hc d hd heq
    exact absurd ((h g c hc).symm.trans (heq.trans (h k d hd))) hne

end

/-- Sorting by groups leaves the lists that are in the order of groups, and no others. -/
theorem sortByGroup_eq_self_iff {entries : List CompiledEntry} :
    sortByGroup entries = entries ↔ InGroupOrder entries := by
  constructor
  · intro h
    rw [← h]
    exact inGroupOrder_flatMap fun _ _ hc => beq_iff_eq.1 (List.mem_filter.1 hc).2
  · exact arrange_eq_self EntryGroup.nodup_all fun c _ => EntryGroup.mem_all c.group

/-! ## Lists of one entry at most -/

theorem removeSubsumed_of_length {run : List CompiledEntry} (h : run.length < 2) :
    removeSubsumed run = run := by
  have hlink (c : CompiledEntry × Nat) (hc : c ∈ run.zipIdx) : link? run c = none := by
    refine Option.eq_none_iff_forall_ne_some.2 fun j hj => ?_
    obtain ⟨d, hd, hyields⟩ := yieldsTo_of_link? hj
    have hne := (yieldsTo_iff.1 hyields).1
    have hplace := List.snd_lt_of_mem_zipIdx hc
    have hplace' := List.snd_lt_of_mem_zipIdx hd
    dsimp only at hne hplace'
    omega
  have hwards (c : CompiledEntry × Nat) : withWards run c = c.1 := by
    have hnone : wards run c.2 = [] := by
      refine List.eq_nil_iff_forall_not_mem.2 fun d hd => ?_
      obtain ⟨j, k, hmem, hk, -⟩ := mem_wards.1 hd
      cases (hlink _ hmem).symm.trans hk
    rw [withWards, hnone]
    rfl
  rw [removeSubsumed_eq, List.filter_eq_self.2 fun c hc => by rw [hlink c hc]; rfl]
  exact (List.map_congr_left fun c _ => hwards c).trans (List.zipIdx_map_fst _ _)

/-! ## Numbers of entries -/

/-- Every entry is left or counted as one behind an equal one. -/
theorem length_mergeEqual (entries : List CompiledEntry) :
    (mergeEqual entries).length + repeats (fun c => some c.entry) entries = entries.length :=
  length_mergeByKey joinSources entries

/-- Every entry is left or counted as one behind another that differs in its pages only. -/
theorem length_mergeDomains (entries : List CompiledEntry) :
    (mergeDomains entries).length + repeats pagesKey entries = entries.length :=
  length_mergeByKey joinDomains entries

/-- Every entry is left or counted as one that has a link. -/
theorem length_removeSubsumed (entries : List CompiledEntry) :
    (removeSubsumed entries).length + entries.zipIdx.countP (fun c => (link? entries c).isSome) =
      entries.length := by
  have hlength := List.length_eq_countP_add_countP (l := entries.zipIdx)
    fun c => (link? entries c).isNone
  rw [List.length_zipIdx] at hlength
  rw [removeSubsumed_eq, List.length_map, ← List.countP_eq_length_filter, hlength]
  congr 1
  refine List.countP_congr fun c _ => ?_
  cases link? entries c <;> simp

/-! ## Hosts that entries admit -/

/-- Some entry that is limited to pages, and says the given thing apart from
that, admits the host. -/
def AdmitsUnder (entries : List CompiledEntry) (key : Entry) (host : List Char) : Prop :=
  ∃ c ∈ entries, c.pagesKey = some key ∧ c.AdmitsHost host

/-- Joining entries for their pages admits the same hosts. -/
theorem admitsUnder_mergeDomains {entries : List CompiledEntry} {key : Entry} {host : List Char} :
    AdmitsUnder (mergeDomains entries) key host ↔ AdmitsUnder entries key host := by
  rw [mergeDomains_eq]
  refine exists_mem_mergeByKey joinDomains fun k first rest hmem => ?_
  have hkeys := fun d hd => (hmem d hd).2
  rw [foldl_keeps pagesKey_joinDomains, hkeys first (.head _), admitsHost_foldl_joinDomains hkeys]
  constructor
  · rintro ⟨hkey, d, hd, hadmits⟩
    exact ⟨d, hd, (hkeys d hd).trans hkey, hadmits⟩
  · rintro ⟨d, hd, hkey, hadmits⟩
    exact ⟨(hkeys d hd).symm.trans hkey, d, hd, hadmits⟩

/-! ## Entries that differ -/

theorem nodup_entry_removeSubsumed {entries : List CompiledEntry}
    (h : (entries.map (·.entry)).Nodup) : ((removeSubsumed entries).map (·.entry)).Nodup := by
  have hsub : (removeSubsumed entries).map (·.entry) =
      (entries.zipIdx.filter fun c => (link? entries c).isNone).map (·.1.entry) := by
    rw [removeSubsumed_eq, List.map_map]
    rfl
  have hall : entries.zipIdx.map (·.1.entry) = entries.map (·.entry) := by
    conv_rhs => rw [← List.zipIdx_map_fst 0 entries, List.map_map]
    rfl
  rw [hsub]
  exact (hall ▸ h).sublist (List.filter_sublist.map _)

theorem nodup_entry_mergeDomains {entries : List CompiledEntry}
    (h : (entries.map (·.entry)).Nodup) : ((mergeDomains entries).map (·.entry)).Nodup := by
  refine nodup_map_mergeByKey joinDomains (fun c d hcd => ?_) pagesKey_joinDomains h
  simp only [onlyDomains?, withoutDomains, hcd]

theorem pairwise_withoutDomains_mergeDomains (entries : List CompiledEntry) :
    (mergeDomains entries).Pairwise fun c d => c.onlyDomains? ≠ none → d.onlyDomains? ≠ none →
      c.withoutDomains ≠ d.withoutDomains := by
  have hkeys := nodup_keys_mergeByKey joinDomains pagesKey_joinDomains (l := entries)
  refine (List.pairwise_filterMap.1 hkeys).imp fun {c d} hne hc hd heq => ?_
  obtain ⟨own, hown⟩ := Option.ne_none_iff_exists'.1 hc
  obtain ⟨own', hown'⟩ := Option.ne_none_iff_exists'.1 hd
  exact hne _ (pagesKey_eq_some.2 ⟨⟨own, hown⟩, rfl⟩) _
    (pagesKey_eq_some.2 ⟨⟨own', hown'⟩, rfl⟩) heq

end CompiledEntry

namespace Optimized

open CompiledEntry

/-! ## One group -/

/-- The entries of a group that are not left out as equal to others or as needless. -/
def neededOf (entries : List CompiledEntry) (g : EntryGroup) : List CompiledEntry :=
  removeSubsumed (distinctOf entries g)

/-- The number of entries of a group that have a link to another. -/
def linkedOf (entries : List CompiledEntry) (g : EntryGroup) : Nat :=
  (distinctOf entries g).zipIdx.countP fun c => (link? (distinctOf entries g) c).isSome

/-- The passes leave a list of one entry at most as it is. -/
theorem passes_eq_self {run : List CompiledEntry} (h : run.length < 2) :
    mergeDomains (removeSubsumed (mergeEqual run)) = run := by
  rw [mergeEqual_of_length h, removeSubsumed_of_length h]
  exact mergeByKey_short joinDomains h

theorem entries_ofRun_eq (run : List CompiledEntry) :
    (ofRun run).entries = mergeDomains (removeSubsumed (mergeEqual run)) := by
  rw [entries_ofRun]
  split
  · rename_i h
    exact (passes_eq_self h).symm
  · rfl

/-- What the counters of a list of one group count. -/
theorem counters_ofRun (run : List CompiledEntry) :
    (ofRun run).before = run.length ∧
      (ofRun run).deduped = repeats (fun c => some c.entry) run ∧
      (ofRun run).subsumed =
        (mergeEqual run).zipIdx.countP (fun c => (link? (mergeEqual run) c).isSome) ∧
      (ofRun run).merged = repeats pagesKey (removeSubsumed (mergeEqual run)) := by
  have hequal := length_mergeEqual run
  have hneedless := length_removeSubsumed (mergeEqual run)
  have hjoined := length_mergeDomains (removeSubsumed (mergeEqual run))
  unfold ofRun
  split
  · rename_i h
    rw [passes_eq_self h] at hjoined
    refine ⟨rfl, ?_, ?_, ?_⟩ <;> dsimp only [unchanged] <;> omega
  · refine ⟨rfl, ?_, ?_, ?_⟩ <;> dsimp only <;> omega

theorem balance_ofRun (run : List CompiledEntry) :
    (ofRun run).before =
      (ofRun run).after + (ofRun run).deduped + (ofRun run).subsumed + (ofRun run).merged := by
  obtain ⟨hbefore, hdeduped, hsubsumed, hmerged⟩ := counters_ofRun run
  have hequal := length_mergeEqual run
  have hneedless := length_removeSubsumed (mergeEqual run)
  have hjoined := length_mergeDomains (removeSubsumed (mergeEqual run))
  rw [after, entries_ofRun_eq, hbefore, hdeduped, hsubsumed, hmerged]
  omega

/-! ## All groups -/

/-- A counter that adds up over groups. -/
structure IsCounter (count : Optimized → Nat) : Prop where
  nil : count (unchanged []) = 0
  append : ∀ o p, count (o.append p) = count o + count p

theorem IsCounter.foldr {count : Optimized → Nat} (h : IsCounter count)
    (runs : List (List CompiledEntry)) :
    count (runs.foldr (fun run o => (ofRun run).append o) (unchanged [])) =
      (runs.map fun run => count (ofRun run)).sum := by
  induction runs with
  | nil => exact h.nil
  | cons run runs ih => rw [List.foldr_cons, h.append, ih, List.map_cons, List.sum_cons]

/-- For entries in the order of groups a counter adds up what it counts in each group. -/
theorem IsCounter.ofEntries {count : Optimized → Nat} (h : IsCounter count)
    {entries : List CompiledEntry} (horder : InGroupOrder entries) :
    count (ofEntries entries) =
      (EntryGroup.all.map fun g => count (ofRun (entries.filter (·.group == g)))).sum := by
  conv_lhs => rw [← sortByGroup_eq_self_iff.2 horder, sortByGroup]
  rw [ofEntries_arrange EntryGroup.nodup_all, h.foldr, List.map_map]
  rfl

theorem isCounter_before : IsCounter before := ⟨rfl, fun _ _ => rfl⟩

theorem isCounter_after : IsCounter after := ⟨rfl, fun _ _ => List.length_append⟩

theorem isCounter_deduped : IsCounter deduped := ⟨rfl, fun _ _ => rfl⟩

theorem isCounter_subsumed : IsCounter subsumed := ⟨rfl, fun _ _ => rfl⟩

theorem isCounter_merged : IsCounter merged := ⟨rfl, fun _ _ => rfl⟩

/-- No entry is lost that is not counted, whatever the order of the entries. -/
theorem balance_ofEntries (entries : List CompiledEntry) :
    (ofEntries entries).before = (ofEntries entries).after + (ofEntries entries).deduped +
      (ofEntries entries).subsumed + (ofEntries entries).merged := by
  rw [ofEntries]
  generalize entries.splitBy _ = runs
  induction runs with
  | nil => rfl
  | cons run runs ih =>
    have hrun := balance_ofRun run
    rw [List.foldr_cons, isCounter_before.append, isCounter_after.append, isCounter_deduped.append,
      isCounter_subsumed.append, isCounter_merged.append]
    omega

theorem before_ofEntries (entries : List CompiledEntry) :
    (ofEntries entries).before = entries.length := by
  rw [ofEntries, isCounter_before.foldr]
  conv_rhs => rw [← List.flatten_splitBy (fun c d : CompiledEntry => c.group == d.group) entries,
    List.length_flatten]
  exact congrArg _ (List.map_congr_left fun run _ => (counters_ofRun run).1)

/-- The form of an optimized list. -/
structure IsNormal (entries : List CompiledEntry) : Prop where
  inOrder : InGroupOrder entries
  distinct : entries.Pairwise fun c d => c.group = d.group → c.entry ≠ d.entry
  joined : entries.Pairwise fun c d => c.group = d.group →
    c.onlyDomains? ≠ none → d.onlyDomains? ≠ none → c.withoutDomains ≠ d.withoutDomains

/-- What the counters of an optimized list say of the list before. -/
structure Accounts (o : Optimized) (entries : List CompiledEntry) : Prop where
  before : o.before = entries.length
  balance : o.before = o.after + o.deduped + o.subsumed + o.merged
  deduped : o.deduped = (EntryGroup.all.map fun g =>
    repeats (fun c => some c.entry) (entries.filter (·.group == g))).sum
  subsumed : o.subsumed = (EntryGroup.all.map fun g => linkedOf entries g).sum
  merged : o.merged = (EntryGroup.all.map fun g => repeats pagesKey (neededOf entries g)).sum

section
variable {entries : List CompiledEntry}

theorem group_of_mem_ofRun {g : EntryGroup} {e : CompiledEntry}
    (he : e ∈ (ofRun (entries.filter (·.group == g))).entries) : e.group = g := by
  obtain ⟨c, hc, -, hgroup⟩ := exists_mem_of_mem_ofRun he
  exact hgroup.trans (beq_iff_eq.1 (List.mem_filter.1 hc).2)

variable (horder : InGroupOrder entries)
include horder

theorem entries_ofEntries_of_inGroupOrder :
    (ofEntries entries).entries =
      EntryGroup.all.flatMap fun g => (ofRun (entries.filter (·.group == g))).entries := by
  conv_lhs => rw [← sortByGroup_eq_self_iff.2 horder]
  exact entries_ofEntries_sortByGroup entries

/-- The entries of a group are what is left of the group. -/
theorem filter_group_ofEntries (g : EntryGroup) :
    (ofEntries entries).entries.filter (·.group == g) = mergeDomains (neededOf entries g) := by
  rw [entries_ofEntries_of_inGroupOrder horder, filter_flatMap_key (fun _ _ => group_of_mem_ofRun)
    EntryGroup.nodup_all (EntryGroup.mem_all g), entries_ofRun_eq]
  rfl

theorem isNormal_ofEntries : IsNormal (ofEntries entries).entries := by
  rw [entries_ofEntries_of_inGroupOrder horder]
  refine ⟨inGroupOrder_flatMap fun _ _ => group_of_mem_ofRun,
    pairwise_flatMap_group (fun _ _ => group_of_mem_ofRun) fun g => ?_,
    pairwise_flatMap_group (fun _ _ => group_of_mem_ofRun) fun g => ?_⟩
  · rw [entries_ofRun_eq]
    exact List.pairwise_map.1
      (nodup_entry_mergeDomains (nodup_entry_removeSubsumed (nodup_entry_mergeEqual _)))
  · rw [entries_ofRun_eq]
    exact pairwise_withoutDomains_mergeDomains _

theorem accounts_ofEntries : Accounts (ofEntries entries) entries where
  before := before_ofEntries entries
  balance := balance_ofEntries entries
  deduped := by
    rw [isCounter_deduped.ofEntries horder]
    exact congrArg _ (List.map_congr_left fun g _ => (counters_ofRun _).2.1)
  subsumed := by
    rw [isCounter_subsumed.ofEntries horder]
    exact congrArg _ (List.map_congr_left fun g _ => (counters_ofRun _).2.2.1)
  merged := by
    rw [isCounter_merged.ofEntries horder]
    exact congrArg _ (List.map_congr_left fun g _ => (counters_ofRun _).2.2.2)

/-- Optimizing entries in the order of their groups gives a list in normal form, with counters that
account for every entry. In each group the pages of the needed entries are joined, and for all that
an entry can say apart from its pages, some entry limited to pages admits a host after that if and
only if one did before. -/
theorem optimized_form :
    IsNormal (ofEntries entries).entries ∧ Accounts (ofEntries entries) entries ∧
      ∀ g, (ofEntries entries).entries.filter (·.group == g) = mergeDomains (neededOf entries g) ∧
        ∀ key host, AdmitsUnder (mergeDomains (neededOf entries g)) key host ↔
          AdmitsUnder (neededOf entries g) key host :=
  ⟨isNormal_ofEntries horder, accounts_ofEntries horder, fun g =>
    ⟨filter_group_ofEntries horder g, fun _ _ => admitsUnder_mergeDomains⟩⟩

end

/-- Of six entries of two groups one is counted as equal to another. -/
theorem optimized_form_repeated :
    let entries := nativeEntries (FilterList.read
      ["||ads.com^", "||cdn.ads.com^", "##.ad", "||ads.com^", "||t.net^$domain=a.com",
        "||t.net^$domain=b.com"]).rules
    InGroupOrder entries ∧ (ofEntries entries).before = 6 ∧ (ofEntries entries).deduped = 1 ∧
      (ofEntries entries).after + (ofEntries entries).subsumed +
      (ofEntries entries).merged = 5 := by
  intro entries
  have horder : InGroupOrder entries := sortByGroup_eq_self_iff.1 (sortByGroup_nativeEntries _)
  obtain ⟨-, haccounts, -⟩ := optimized_form horder
  have hbefore : (ofEntries entries).before = 6 := haccounts.before.trans (by decide +kernel)
  have hdeduped : (ofEntries entries).deduped = 1 := haccounts.deduped.trans (by decide +kernel)
  have hbalance := haccounts.balance
  exact ⟨horder, hbefore, hdeduped, by omega⟩

end Optimized

end ContentRules
