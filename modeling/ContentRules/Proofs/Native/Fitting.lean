import ContentRules.Native.VersionFit
import ContentRules.Proofs.Native.WideRuns
import ContentRules.Proofs.Ordered.Counting

/-!
Fitting entries to a version, made shorter or not. The lines that are reported are those of the
entries that the version cannot carry, and what is left is what would come of the other entries
alone. Main statements: `mem_errored` and `map_entry_entries`.
-/

namespace ContentRules

open CompiledEntry

/-- Entries in order and made shorter if this is wanted. -/
def CompiledEntry.inOrder (optimize : Bool) (entries : List CompiledEntry) : List CompiledEntry :=
  if optimize then (Optimized.ofEntries (sortByGroup entries)).entries else sortByGroup entries

/-- The version can carry the entry. -/
def CompiledEntry.isCarried (version : Version) (c : CompiledEntry) : Bool :=
  (c.entry.unsupportedReason? version).isNone

theorem CompiledEntry.byAction_isCarried (version : Version) : ByAction (isCarried version) := by
  intro c d h
  rw [isCarried, isCarried, Entry.unsupportedReason?, Entry.unsupportedReason?, h]

/-! ## One version -/

namespace VersionFit

variable {version : Version} {entries : List CompiledEntry}

theorem mem_errored_ofEntries {line : Nat} :
    line ∈ (ofEntries version entries).errored.map (·.1) ↔
      ∃ c ∈ entries, c.isCarried version = false ∧ line ∈ c.sources := by
  have hmem (x : Nat × UnsupportedReason) : x ∈ (ofEntries version entries).errored ↔
      ∃ c ∈ entries, c.entry.unsupportedReason? version = some x.2 ∧ x.1 ∈ c.sources := by
    simp only [ofEntries, erroredLines, mem_eraseReps, List.mem_mergeSort, List.mem_flatMap]
    refine exists_congr fun c => and_congr_right fun _ => ?_
    cases c.entry.unsupportedReason? version with
    | none => simp
    | some reason => simp [Prod.ext_iff, eq_comm, and_comm]
  simp only [List.mem_map, hmem, isCarried]
  constructor
  · rintro ⟨⟨_, reason⟩, ⟨c, hc, hreason, hline⟩, rfl⟩
    exact ⟨c, hc, by rw [hreason]; rfl, hline⟩
  · rintro ⟨c, hc, hcarried, hline⟩
    obtain ⟨reason, hreason⟩ := Option.isSome_iff_exists.1 (by simpa using hcarried)
    exact ⟨(line, reason), ⟨c, hc, hreason, hline⟩, rfl⟩

/-- There is one reason only, so no line is reported twice. -/
theorem mem_map_fst {errored : List (Nat × UnsupportedReason)} {x : Nat × UnsupportedReason} :
    x.1 ∈ errored.map (·.1) ↔ x ∈ errored := by
  constructor
  · intro hx
    obtain ⟨⟨line, reason⟩, hmem, hline⟩ := List.mem_map.1 hx
    obtain rfl : (line, reason) = x := Prod.ext hline rfl
    exact hmem
  · exact List.mem_map_of_mem

theorem pairwise_errored (entries : List CompiledEntry) :
    (ofEntries version entries).errored.Pairwise fun x y => x.1 < y.1 := by
  apply pairwise_eraseReps
  · exact List.pairwise_mergeSort' (fun x y : Nat × UnsupportedReason => x.1 ≤ y.1) _
  · exact fun _ _ _ _ hline => Prod.ext hline rfl

/-- The entry in the words of the version. -/
def adapted (version : Version) (c : CompiledEntry) : CompiledEntry :=
  (c.downgraded? version).getD c

/-- Nothing but the resource types changes. -/
theorem exists_adapted (version : Version) (c : CompiledEntry) :
    ∃ types, adapted version c =
      { c with entry.trigger := { c.entry.trigger with resourceTypes := types } } := by
  unfold adapted
  cases h : c.downgraded? version with
  | none => exact ⟨c.entry.trigger.resourceTypes, rfl⟩
  | some d =>
    obtain ⟨types, -, h⟩ := Option.bind_eq_some_iff.1 h
    obtain ⟨types', -, h⟩ := Option.bind_eq_some_iff.1 h
    cases h
    exact ⟨types', rfl⟩

theorem sources_adapted (c : CompiledEntry) : (adapted version c).sources = c.sources := by
  obtain ⟨types, h⟩ := exists_adapted version c
  rw [h]

/-- What is left are entries of the list in the words of the version. -/
theorem exists_mem_of_mem_entries {d : CompiledEntry}
    (hd : d ∈ (ofEntries version entries).entries) :
    ∃ c ∈ entries, d = adapted version c := by
  obtain ⟨c, hc, rfl⟩ := List.mem_map.1 (List.mem_filter.1 hd).1
  exact ⟨c, (List.mem_filter.1 hc).1, rfl⟩

theorem entry_adapted_bare (c : CompiledEntry) :
    (adapted version c.bare).entry = (adapted version c).entry := by
  have h : c.bare.downgraded? version = (c.downgraded? version).map bare := by
    unfold downgraded?
    change (c.entry.trigger.resourceTypes.bind _) = _
    cases c.entry.trigger.resourceTypes with
    | none => rfl
    | some types => cases h : types.downgraded? version <;> simp [h, bare]
  unfold adapted
  rw [h]
  cases c.downgraded? version <;> rfl

/-- If each entry that can be carried has a source none of whose entries is reported, the entries
that can be carried are those that are left. -/
theorem entries_ofEntries
    (h : ∀ c ∈ entries, c.isCarried version = true →
      ∃ line ∈ c.sources, line ∉ (ofEntries version entries).errored.map (·.1)) :
    (ofEntries version entries).entries =
      (entries.filter (isCarried version)).map (adapted version) := by
  refine List.filter_eq_self.2 fun c hc => ?_
  obtain ⟨d, hd, rfl⟩ := List.mem_map.1 hc
  obtain ⟨hd, hcarried⟩ := List.mem_filter.1 hd
  obtain ⟨line, hline, hnot⟩ := h d hd hcarried
  have hsources : ((d.downgraded? version).getD d).sources = d.sources := sources_adapted d
  rw [hsources, Bool.not_eq_true', List.all_eq_false]
  refine ⟨line, hline, ?_⟩
  rw [Std.HashSet.contains_ofList, List.contains_iff_mem]
  exact hnot

end VersionFit

/-! ## Entries in order -/

namespace CompiledEntry

/-- Entries of one group, made shorter if this is wanted. -/
def shortened (optimize : Bool) (run : List CompiledEntry) : List CompiledEntry :=
  if optimize then (Optimized.ofRun run).entries else run

theorem inOrder_eq (optimize : Bool) (entries : List CompiledEntry) :
    inOrder optimize entries =
      EntryGroup.all.flatMap fun g => shortened optimize (entries.filter (·.group == g)) := by
  unfold inOrder shortened
  cases optimize with
  | false => rfl
  | true => exact Optimized.entries_ofEntries_sortByGroup entries

theorem length_shortened_le (run : List CompiledEntry) :
    (shortened true run).length ≤ (shortened false run).length := by
  change (Optimized.ofRun run).entries.length ≤ run.length
  rw [Optimized.entries_ofRun]
  split
  · exact Nat.le_refl _
  · calc (mergeDomains (removeSubsumed (mergeEqual run))).length
        ≤ (removeSubsumed (mergeEqual run)).length := length_mergeByKey_le _
      _ ≤ (mergeEqual run).zipIdx.length := by
          rw [removeSubsumed_eq, List.length_map]
          exact List.length_filter_le _ _
      _ = (mergeEqual run).length := List.length_zipIdx
      _ ≤ run.length := length_mergeByKey_le _

/-- Making entries in order shorter does so. -/
theorem length_inOrder_le (entries : List CompiledEntry) :
    (inOrder true entries).length ≤ (inOrder false entries).length := by
  rw [inOrder_eq, inOrder_eq]
  apply length_flatMap_le
  intro g _
  exact length_shortened_le _

/-- Entries as rules have them: each has a source, those with a common source have one action, and
where the version cannot carry an entry, all entries of its group are for all URLs. -/
structure AreOfRules (version : Version) (entries : List CompiledEntry) : Prop where
  sourced : ∀ c ∈ entries, c.sources ≠ []
  action_eq : ∀ c ∈ entries, ∀ d ∈ entries, ∀ line ∈ c.sources, line ∈ d.sources →
    c.entry.action = d.entry.action
  wide : ∀ c ∈ entries, c.isCarried version = false → IsWide (entries.filter (·.group == c.group))

variable {version : Version} {entries : List CompiledEntry} {optimize : Bool}

theorem AreOfRules.filter (h : AreOfRules version entries) (p : CompiledEntry → Bool) :
    AreOfRules version (entries.filter p) := by
  refine ⟨fun c hc => h.sourced c (List.mem_filter.1 hc).1, fun c hc d hd =>
    h.action_eq c (List.mem_filter.1 hc).1 d (List.mem_filter.1 hd).1, fun c hc hcarried d hd => ?_⟩
  obtain ⟨hd, hgroup⟩ := List.mem_filter.1 hd
  exact h.wide c (List.mem_filter.1 hc).1 hcarried d
    (List.mem_filter.2 ⟨(List.mem_filter.1 hd).1, hgroup⟩)

theorem exists_source_of_mem_inOrder {e : CompiledEntry} (he : e ∈ inOrder optimize entries)
    {line : Nat} (hline : line ∈ e.sources) :
    ∃ c ∈ entries, line ∈ c.sources ∧ c.entry.action = e.entry.action := by
  rw [inOrder_eq] at he
  obtain ⟨g, -, he⟩ := List.mem_flatMap.1 he
  suffices h : ∃ c ∈ entries.filter (·.group == g), line ∈ c.sources ∧
      c.entry.action = e.entry.action by
    obtain ⟨c, hc, h⟩ := h
    exact ⟨c, (List.mem_filter.1 hc).1, h⟩
  cases optimize with
  | false => exact ⟨e, he, hline, rfl⟩
  | true => exact exists_source_of_mem_ofRun he hline

theorem exists_subset_sources_inOrder {e : CompiledEntry} (he : e ∈ inOrder optimize entries) :
    ∃ c ∈ entries, ∀ line ∈ c.sources, line ∈ e.sources := by
  rw [inOrder_eq] at he
  obtain ⟨g, -, he⟩ := List.mem_flatMap.1 he
  suffices h : ∃ c ∈ entries.filter (·.group == g), ∀ line ∈ c.sources, line ∈ e.sources by
    obtain ⟨c, hc, h⟩ := h
    exact ⟨c, (List.mem_filter.1 hc).1, h⟩
  cases optimize with
  | false => exact ⟨e, he, fun _ => id⟩
  | true => exact exists_subset_sources_ofRun he

theorem AreOfRules.exists_mem_inOrder (h : AreOfRules version entries) {c : CompiledEntry}
    (hc : c ∈ entries) (hcarried : c.isCarried version = false) {line : Nat}
    (hline : line ∈ c.sources) :
    ∃ e ∈ inOrder optimize entries, line ∈ e.sources ∧ e.entry.action = c.entry.action := by
  have hgroup : c ∈ entries.filter (·.group == c.group) :=
    List.mem_filter.2 ⟨hc, beq_self_eq_true _⟩
  suffices h : ∃ e ∈ shortened optimize (entries.filter (·.group == c.group)), line ∈ e.sources ∧
      e.entry.action = c.entry.action by
    obtain ⟨e, he, h⟩ := h
    rw [inOrder_eq]
    exact ⟨e, List.mem_flatMap.2 ⟨c.group, EntryGroup.mem_all _, he⟩, h⟩
  cases optimize with
  | false => exact ⟨c, hgroup, hline, rfl⟩
  | true => exact exists_mem_entries_ofRun (h.wide c hc hcarried) hgroup hline

/-- The entries that the version can carry come out as if the others were not there. -/
theorem AreOfRules.filter_inOrder (h : AreOfRules version entries) :
    ((inOrder optimize entries).filter (isCarried version)).map bare =
      (inOrder optimize (entries.filter (isCarried version))).map bare := by
  rw [inOrder_eq, inOrder_eq, List.filter_flatMap, List.map_flatMap, List.map_flatMap]
  refine List.flatMap_congr fun g _ => ?_
  rw [List.filter_filter, List.filter_congr fun c _ => Bool.and_comm _ _, ← List.filter_filter]
  cases optimize with
  | false => rfl
  | true =>
    by_cases hall : ∀ c ∈ entries.filter (·.group == g), c.isCarried version = true
    · -- nothing is left out of this group
      rw [List.filter_eq_self.2 hall]
      refine congrArg _ (List.filter_eq_self.2 fun e he => ?_)
      obtain ⟨c, hc, hsub⟩ := exists_subset_sources_ofRun he
      obtain ⟨line, hline⟩ :=
        List.exists_mem_of_ne_nil _ (h.sourced c (List.mem_filter.1 hc).1)
      obtain ⟨d, hd, -, haction⟩ := exists_source_of_mem_ofRun he (hsub line hline)
      rw [← byAction_isCarried version d e haction]
      exact hall d hd
    · push Not at hall
      obtain ⟨c, hc, hcarried⟩ := hall
      obtain ⟨hc, hgroup⟩ := List.mem_filter.1 hc
      have hwide := h.wide c hc (by simpa using hcarried)
      rw [beq_iff_eq.1 hgroup] at hwide
      exact filter_entries_ofRun hwide (byAction_isCarried version)

end CompiledEntry

/-! ## Fitting entries in order -/

namespace VersionFit

variable {version : Version} {entries : List CompiledEntry} {optimize : Bool}
  (h : AreOfRules version entries)
include h

/-- The lines that are reported are those of the entries that the version cannot carry. -/
theorem mem_errored {line : Nat} :
    line ∈ (ofEntries version (inOrder optimize entries)).errored.map (·.1) ↔
      ∃ c ∈ entries, c.isCarried version = false ∧ line ∈ c.sources := by
  rw [mem_errored_ofEntries]
  constructor
  · rintro ⟨e, he, hcarried, hline⟩
    obtain ⟨c, hc, hline, haction⟩ := exists_source_of_mem_inOrder he hline
    exact ⟨c, hc, byAction_isCarried version c e haction ▸ hcarried, hline⟩
  · rintro ⟨c, hc, hcarried, hline⟩
    obtain ⟨e, he, hline, haction⟩ := h.exists_mem_inOrder hc hcarried hline
    exact ⟨e, he, byAction_isCarried version e c haction ▸ hcarried, hline⟩

/-- Making the entries shorter does not change what is reported. -/
theorem errored_inOrder :
    (ofEntries version (inOrder true entries)).errored =
      (ofEntries version (inOrder false entries)).errored := by
  have hmem (optimize : Bool) (x : Nat × UnsupportedReason) :
      x ∈ (ofEntries version (inOrder optimize entries)).errored ↔
        ∃ c ∈ entries, c.isCarried version = false ∧ x.1 ∈ c.sources := by
    rw [← mem_errored h, ← mem_map_fst]
  apply eq_of_pairwise_key (·.1) (pairwise_errored _) (pairwise_errored _)
  intro x
  rw [hmem, hmem]

theorem entries_inOrder :
    (ofEntries version (inOrder optimize entries)).entries =
      ((inOrder optimize entries).filter (isCarried version)).map (adapted version) := by
  refine entries_ofEntries fun e he hcarried => ?_
  obtain ⟨c, hc, hsub⟩ := exists_subset_sources_inOrder he
  obtain ⟨line, hline⟩ := List.exists_mem_of_ne_nil _ (h.sourced c hc)
  refine ⟨line, hsub line hline, fun herrored => ?_⟩
  -- an entry with the same source has the same action, so the version can carry it as well
  obtain ⟨d, hd, hdcarried, hdline⟩ := (mem_errored h).1 herrored
  obtain ⟨b, hb, hbline, haction⟩ := exists_source_of_mem_inOrder he (hsub line hline)
  rw [byAction_isCarried version d b (h.action_eq d hd b hb line hdline hbline),
    byAction_isCarried version b e haction, hcarried] at hdcarried
  cases hdcarried

/-- No more entries are left where the entries are made shorter. -/
theorem length_entries_inOrder_le :
    (ofEntries version (inOrder true entries)).entries.length ≤
      (ofEntries version (inOrder false entries)).entries.length := by
  have hlength (optimize : Bool) :
      (ofEntries version (inOrder optimize entries)).entries.length =
        (inOrder optimize (entries.filter (isCarried version))).length := by
    have hbare := congrArg List.length (@AreOfRules.filter_inOrder version entries optimize h)
    rw [List.length_map, List.length_map] at hbare
    rw [entries_inOrder h, List.length_map, hbare]
  rw [hlength, hlength]
  exact length_inOrder_le _

/-- What is left is what comes of the entries that the version can carry. -/
theorem map_entry_entries :
    (ofEntries version (inOrder optimize entries)).entries.map (·.entry) =
      (ofEntries version (inOrder optimize (entries.filter (isCarried version)))).entries.map
        (·.entry) := by
  have hfilter := h.filter (isCarried version)
  have hcarried (optimize : Bool) :
      (inOrder optimize (entries.filter (isCarried version))).filter (isCarried version) =
        inOrder optimize (entries.filter (isCarried version)) := by
    refine List.filter_eq_self.2 fun e he => ?_
    obtain ⟨c, hc, hsub⟩ := exists_subset_sources_inOrder he
    obtain ⟨line, hline⟩ := List.exists_mem_of_ne_nil _ (hfilter.sourced c hc)
    obtain ⟨d, hd, -, haction⟩ := exists_source_of_mem_inOrder he (hsub line hline)
    rw [← byAction_isCarried version d e haction]
    exact (List.mem_filter.1 hd).2
  have hbare (l : List CompiledEntry) : (l.map (adapted version)).map (·.entry) =
      (l.map bare).map fun c => (adapted version c).entry := by
    rw [List.map_map, List.map_map]
    exact List.map_congr_left fun c _ => (entry_adapted_bare c).symm
  rw [entries_inOrder h, entries_inOrder hfilter, hcarried, hbare, hbare, h.filter_inOrder]

end VersionFit

end ContentRules
