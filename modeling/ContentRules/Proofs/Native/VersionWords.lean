import ContentRules.Proofs.Matching.Verdict
import ContentRules.Proofs.Native.Fitting
import Mathlib.Data.List.Forall2

/-!
What fitting entries to a version leaves. An entry that the version can carry is kept unless all of
its lines are reported, and it counts for every request for which it counted before: the types that
become `raw` are among those that `raw` stands for. What is left needs no further change, so fitting
it again does nothing. Main statements: `ofEntries_eq_self_iff` and `ofEntries_fits`.
-/

namespace ContentRules

/-! ## Resource types -/

namespace ResourceTypes

variable {version : Version} {types types' : ResourceTypes} {a : ResourceType}

theorem mem_foldedInto : a ∈ foldedInto version ↔
    version.knowsFineTypes = false ∧ a ∈ [.fetch, .websocket, .other] ∨
      version.knowsPing = false ∧ a = .ping := by
  rw [foldedInto, WordSet.mem_union]
  cases version.knowsFineTypes <;> cases version.knowsPing <;>
    simp [WordSet.mem_ofList, WordSet.mem_single, WordSet.not_mem_empty]

/-- What becomes `raw` is among what `raw` stands for. -/
theorem mem_insideRaw_of_mem_foldedInto (h : a ∈ foldedInto version) : a ∈ insideRaw := by
  rw [insideRaw, WordSet.mem_ofList]
  obtain ⟨-, h⟩ | ⟨-, rfl⟩ := mem_foldedInto.1 h
  · exact List.mem_append_left [.ping] h
  · decide

theorem raw_not_mem_foldedInto : ¬.raw ∈ foldedInto version := fun h => by
  have hraw := mem_insideRaw_of_mem_foldedInto h
  revert hraw
  decide

theorem downgraded?_eq_none_iff :
    types.downgraded? version = none ↔ ∀ a ∈ types, ¬a ∈ foldedInto version := by
  have hempty := WordSet.isEmpty_iff (s := types ∩ foldedInto version)
  simp only [WordSet.mem_inter, not_and] at hempty
  rw [downgraded?, ← hempty]
  simp

theorem mem_of_downgraded? (h : types.downgraded? version = some types') :
    a ∈ types' ↔ a ∈ types ∧ ¬a ∈ foldedInto version ∨ a = .raw := by
  unfold downgraded? at h
  dsimp only at h
  split at h
  · cases h
  · cases h
    rw [WordSet.mem_union, WordSet.mem_sdiff, WordSet.mem_inter, WordSet.mem_single]
    tauto

theorem mem_expanded : a ∈ types.expanded ↔ a ∈ types ∨ .raw ∈ types ∧ a ∈ insideRaw := by
  change a ∈ (if types.contains .raw then _ else _) ↔ a ∈ types ∨ types.contains .raw = true ∧ _
  split
  · rename_i hraw
    rw [WordSet.mem_union, hraw]
    simp
  · rename_i hraw
    simp [hraw]

/-- The types in the words of the version reach what they reached before. -/
theorem mem_expanded_of_downgraded? (h : types.downgraded? version = some types')
    (ha : a ∈ types.expanded) : a ∈ types'.expanded := by
  have hraw : .raw ∈ types' := (mem_of_downgraded? h).2 (.inr rfl)
  rw [mem_expanded] at ha ⊢
  obtain ha | ⟨-, ha⟩ := ha
  · by_cases hfolded : a ∈ foldedInto version
    · exact .inr ⟨hraw, mem_insideRaw_of_mem_foldedInto hfolded⟩
    · exact .inl ((mem_of_downgraded? h).2 (.inl ⟨ha, hfolded⟩))
  · exact .inr ⟨hraw, ha⟩

end ResourceTypes

/-! ## Entries -/

namespace CompiledEntry

/-- The version has a word for each resource type of the entry. -/
def InWords (version : Version) (c : CompiledEntry) : Prop :=
  ∀ types, c.entry.trigger.resourceTypes = some types →
    ∀ a ∈ types, ¬a ∈ ResourceTypes.foldedInto version

/-- The entry is the other one except for its resource types, and counts whenever the other does. -/
structure IsWidened (c d : CompiledEntry) : Prop where
  eq : ∃ types, d = { c with entry.trigger := { c.entry.trigger with resourceTypes := types } }
  counts : ∀ q, c.entry.counts q = true → d.entry.counts q = true

variable {version : Version} {c d : CompiledEntry}

/-- An entry that has to change has types, and only these change. -/
theorem downgraded?_eq_some : c.downgraded? version = some d ↔
    ∃ types types', c.entry.trigger.resourceTypes = some types ∧
      types.downgraded? version = some types' ∧
      d = { c with entry.trigger := { c.entry.trigger with resourceTypes := some types' } } := by
  simp only [downgraded?, Option.bind_eq_bind, Option.bind_eq_some_iff, Option.pure_def,
    Option.some.injEq]
  constructor
  · rintro ⟨types, htypes, types', htypes', rfl⟩
    exact ⟨types, types', htypes, htypes', rfl⟩
  · rintro ⟨types, types', htypes, htypes', rfl⟩
    exact ⟨types, htypes, types', htypes', rfl⟩

/-- Nothing has to change where the version has all the words. -/
theorem downgraded?_eq_none_iff : c.downgraded? version = none ↔ c.InWords version := by
  rw [downgraded?, InWords]
  cases c.entry.trigger.resourceTypes with
  | none => simp
  | some types =>
    simp only [Option.bind_eq_bind, Option.bind_some, Option.some.injEq, forall_eq']
    rw [← ResourceTypes.downgraded?_eq_none_iff]
    cases types.downgraded? version <;> simp

end CompiledEntry

/-! ## Lists of entries -/

namespace VersionFit

open CompiledEntry

variable {version : Version} {entries : List CompiledEntry} {c d : CompiledEntry}

theorem inWords_adapted (version : Version) (c : CompiledEntry) :
    (adapted version c).InWords version := by
  unfold adapted
  cases h : c.downgraded? version with
  | none => exact downgraded?_eq_none_iff.1 h
  | some d =>
    obtain ⟨types, types', -, htypes', rfl⟩ := downgraded?_eq_some.1 h
    intro known hknown a ha
    cases hknown
    obtain ⟨-, hknown⟩ | rfl := (ResourceTypes.mem_of_downgraded? htypes').1 ha
    · exact hknown
    · exact ResourceTypes.raw_not_mem_foldedInto

theorem adapted_of_inWords (h : c.InWords version) : adapted version c = c := by
  rw [adapted, downgraded?_eq_none_iff.2 h, Option.getD_none]

theorem counts_adapted {q : Request} (h : c.entry.counts q = true) :
    (adapted version c).entry.counts q = true := by
  unfold adapted
  cases hd : c.downgraded? version with
  | none => exact h
  | some d =>
    obtain ⟨types, types', htypes, htypes', rfl⟩ := downgraded?_eq_some.1 hd
    rw [Entry.counts_eq, Bool.and_eq_true, Bool.and_eq_true] at h
    obtain ⟨⟨hpage, hkinds⟩, hurl⟩ := h
    have hkinds' : Trigger.matchesKinds
        { c.entry.trigger with resourceTypes := some types' } q = true := by
      rw [Trigger.matchesKinds, htypes, Bool.and_eq_true] at hkinds
      obtain ⟨a, ha, haq⟩ := WordSet.meets_iff.1 hkinds.1
      rw [Trigger.matchesKinds, Bool.and_eq_true]
      exact ⟨WordSet.meets_iff.2 ⟨a, ResourceTypes.mem_expanded_of_downgraded? htypes' ha, haq⟩,
        hkinds.2⟩
    rw [Entry.counts_eq, Option.getD_some]
    simp only [hpage, hkinds', Bool.true_and]
    exact hurl

theorem isWidened_adapted (version : Version) (c : CompiledEntry) :
    c.IsWidened (adapted version c) where
  eq := exists_adapted version c
  counts _ := counts_adapted

theorem isCarried_adapted (c : CompiledEntry) :
    (adapted version c).isCarried version = c.isCarried version := by
  apply byAction_isCarried
  obtain ⟨types, h⟩ := exists_adapted version c
  rw [h]

/-- The version can carry the entry, and one of its lines is of no entry that it cannot carry. -/
def isKept (version : Version) (entries : List CompiledEntry) (c : CompiledEntry) : Bool :=
  c.isCarried version &&
    c.sources.any fun line => entries.all fun d => d.isCarried version || !d.sources.contains line

/-- The entries that are kept, as they were. -/
def kept (version : Version) (entries : List CompiledEntry) : List CompiledEntry :=
  entries.filter (isKept version entries)

theorem isKept_iff : isKept version entries c = true ↔ c.isCarried version = true ∧
    ∃ line ∈ c.sources, line ∉ (ofEntries version entries).errored.map (·.1) := by
  simp only [mem_errored_ofEntries, not_exists, not_and]
  simp [isKept, or_iff_not_imp_left]

/-- What is left are the entries that are kept, in the words of the version. -/
theorem entries_eq : (ofEntries version entries).entries =
    (kept version entries).map (adapted version) := by
  let lines := Std.HashSet.ofList ((ofEntries version entries).errored.map (·.1))
  have hkept (c : CompiledEntry) : isKept version entries c =
      (!(adapted version c).sources.all lines.contains && c.isCarried version) := by
    rw [Bool.eq_iff_iff, isKept_iff, Bool.and_eq_true, Bool.not_eq_true', List.all_eq_false,
      sources_adapted, and_comm]
    simp only [lines, Std.HashSet.contains_ofList, List.contains_iff_mem]
  change ((entries.filter (isCarried version)).map (adapted version)).filter
    (fun c => !c.sources.all lines.contains) = _
  rw [List.filter_map, List.filter_filter, kept, List.filter_congr fun c _ => hkept c]
  rfl

/-- The second entry is kept for its own line, the third has none but that of the first. -/
example :
    let hides : CompiledEntry :=
      { entry := ⟨{}, .cssDisplayNone (some "a:has(b)")⟩, group := .cssWide, sources := [0] }
    let blocks (types : ResourceTypes) (lines : List Nat) : CompiledEntry :=
      { entry := ⟨{ resourceTypes := some types }, .block⟩, group := .urlBlocking,
        sources := lines }
    let entries := [hides, blocks (.ofList [.script, .fetch]) [0, 1], blocks (.single .ping) [0]]
    (kept .standard entries).map (adapted .standard) =
      [blocks (.ofList [.script, .raw]) [0, 1]] := by
  decide +kernel

/-- Whatever is left can be carried, is in the words of the version and has a line. -/
theorem of_mem_entries (hd : d ∈ (ofEntries version entries).entries) :
    d.isCarried version = true ∧ d.InWords version ∧ d.sources ≠ [] := by
  rw [entries_eq] at hd
  obtain ⟨c, hc, rfl⟩ := List.mem_map.1 hd
  obtain ⟨hcarried, line, hline, -⟩ := isKept_iff.1 (List.mem_filter.1 hc).2
  exact ⟨(isCarried_adapted c).trans hcarried, inWords_adapted version c,
    List.ne_nil_of_mem (sources_adapted c ▸ hline)⟩

/-- A list needs no change if and only if the version can carry each entry, has the words for it,
and each entry has a line. -/
theorem ofEntries_eq_self_iff : ofEntries version entries = ⟨entries, [], 0⟩ ↔
    ∀ c ∈ entries, c.isCarried version = true ∧ c.InWords version ∧ c.sources ≠ [] := by
  constructor
  · intro h c hc
    have hentries : (ofEntries version entries).entries = entries := congrArg VersionFit.entries h
    exact of_mem_entries (hentries ▸ hc)
  · intro h
    have herrored (line : Nat) : line ∉ (ofEntries version entries).errored.map (·.1) := by
      rw [mem_errored_ofEntries]
      rintro ⟨c, hc, hcarried, -⟩
      exact absurd (h c hc).1 (by simp [hcarried])
    have hkept : kept version entries = entries := List.filter_eq_self.2 fun c hc => by
      obtain ⟨line, hline⟩ := List.exists_mem_of_ne_nil _ (h c hc).2.2
      exact isKept_iff.2 ⟨(h c hc).1, line, hline, herrored line⟩
    have hadapted : entries.map (adapted version) = entries :=
      (List.map_congr_left fun c hc => adapted_of_inWords (h c hc).2.1).trans (List.map_id' entries)
    have hcount : (ofEntries version entries).downgraded = 0 := by
      refine List.countP_eq_zero.2 fun c hc => ?_
      rw [downgraded?_eq_none_iff.2 (h c (List.mem_filter.1 hc).1).2.1]
      exact Bool.false_ne_true
    have hentries := @entries_eq version entries
    rw [hkept, hadapted] at hentries
    have hnone := List.map_eq_nil_iff.1 (List.eq_nil_iff_forall_not_mem.2 herrored)
    change VersionFit.mk (ofEntries version entries).entries (ofEntries version entries).errored
      (ofEntries version entries).downgraded = _
    rw [hentries, hnone, hcount]

end VersionFit

/-- The version has a word for each resource type of the entry and can apply its selector. -/
structure Entry.IsWrittenFor (version : Version) (e : Entry) : Prop where
  fineTypes : version.units < (Version.major 15 (by decide)).units →
    ∀ types, e.trigger.resourceTypes = some types → ∀ a ∈ [.fetch, .websocket, .other], ¬a ∈ types
  ping : version.units < (Version.major 14 (by decide)).units →
    ∀ types, e.trigger.resourceTypes = some types → ¬.ping ∈ types
  selector : version.units < Version.with16Point4.units →
    ∀ s, e.action = .cssDisplayNone (some s) → usesHas s = false

namespace VersionFit

open CompiledEntry

theorem isWrittenFor {version : Version} {c : CompiledEntry} (hcarried : c.isCarried version = true)
    (hwords : c.InWords version) : c.entry.IsWrittenFor version where
  fineTypes hversion types htypes a ha hmem := by
    have hunknown : version.knowsFineTypes = false := decide_eq_false (Nat.not_le.2 hversion)
    exact hwords types htypes a hmem (ResourceTypes.mem_foldedInto.2 (.inl ⟨hunknown, ha⟩))
  ping hversion types htypes hmem := by
    have hunknown : version.knowsPing = false := decide_eq_false (Nat.not_le.2 hversion)
    exact hwords types htypes .ping hmem (ResourceTypes.mem_foldedInto.2 (.inr ⟨hunknown, rfl⟩))
  selector hversion s haction := by
    have hunknown : version.knowsHas = false := decide_eq_false (Nat.not_le.2 hversion)
    rw [isCarried, Entry.unsupportedReason?, haction, hunknown] at hcarried
    cases hhas : usesHas s with
    | false => rfl
    | true => simp [hhas] at hcarried

/-- Fitting leaves entries that are written for the version: those that are kept, in order, each
widened at most in its resource types. The lines that are reported are those of the entries that the
version cannot carry, every other line still has an entry, and fitting what is left again changes
and reports nothing. -/
theorem ofEntries_fits (version : Version) (entries : List CompiledEntry) :
    let fit := ofEntries version entries
    (∀ d ∈ fit.entries, d.entry.IsWrittenFor version) ∧
      (kept version entries).Sublist entries ∧
      List.Forall₂ IsWidened (kept version entries) fit.entries ∧
      (∀ line, line ∈ fit.errored.map (·.1) ↔
        ∃ c ∈ entries, c.isCarried version = false ∧ line ∈ c.sources) ∧
      (∀ c ∈ entries, ∀ line ∈ c.sources,
        line ∈ fit.errored.map (·.1) ∨ ∃ d ∈ fit.entries, line ∈ d.sources) ∧
      ofEntries version fit.entries = ⟨fit.entries, [], 0⟩ := by
  intro fit
  have hentries : fit.entries = (kept version entries).map (adapted version) := entries_eq
  refine ⟨fun d hd => ?_, List.filter_sublist, ?_, fun line => mem_errored_ofEntries,
    fun c hc line hline => ?_, ofEntries_eq_self_iff.2 fun d hd => of_mem_entries hd⟩
  · obtain ⟨hcarried, hwords, -⟩ := of_mem_entries hd
    exact isWrittenFor hcarried hwords
  · rw [hentries, List.forall₂_map_right_iff, List.forall₂_same]
    exact fun c _ => isWidened_adapted version c
  · by_cases herrored : line ∈ fit.errored.map (·.1)
    · exact .inl herrored
    · have hcarried : c.isCarried version = true := by
        by_contra hnot
        exact herrored (mem_errored_ofEntries.2 ⟨c, hc, by simpa using hnot, hline⟩)
      refine .inr ⟨adapted version c, ?_, by rwa [sources_adapted]⟩
      rw [hentries]
      exact List.mem_map_of_mem
        (List.mem_filter.2 ⟨hc, isKept_iff.2 ⟨hcarried, line, hline, herrored⟩⟩)

end VersionFit

end ContentRules
