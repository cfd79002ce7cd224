import ContentRules.Native.CompiledEntry
import ContentRules.Proofs.Matching.Verdict
import ContentRules.Proofs.Ordered.Counting

/-!
What a list of entries in the order of their groups does to a request. All entries of a group have
one kind of action, so what an entry does is only taken back by exceptions of later groups, wherever
in their groups they stand. Main statement: `mem_effects_of_sorted`.
-/

namespace ContentRules

/-- The kind of action that all entries of a group have. -/
def EntryGroup.kind : EntryGroup → ActionKind
  | cssWide | cssGenericDomainSensitive | cssDomainSensitive => .cssDisplayNone
  | urlBlocking | important => .block
  | genericHideExceptions | elemhideExceptions | otherExceptions | importantExceptions
  | documentExceptions => .ignorePreviousRules

/-- The groups of exceptions that follow a group. -/
def EntryGroup.overriding (g : EntryGroup) : List EntryGroup :=
  all.filter fun h => h.kind == .ignorePreviousRules && decide ([g, h].Sublist all)

theorem EntryGroup.mem_overriding {g h : EntryGroup} :
    h ∈ g.overriding ↔ h.kind = .ignorePreviousRules ∧ [g, h].Sublist all := by
  simp [overriding, mem_all]

theorem Action.kind_eq_ignorePreviousRules {a : Action} :
    a.kind = .ignorePreviousRules ↔ a = .ignorePreviousRules := by
  cases a <;> simp [Action.kind]

/-- Some entry of a kind counts for the request. -/
def SomeEntryCounts (entries : List CompiledEntry) (q : Request) (kind : CompiledEntry → Prop) :
    Prop :=
  ∃ c ∈ entries, kind c ∧ c.entry.counts q = true

namespace CompiledEntry

/-- An entry with the action counts for the request. -/
def ActionCounts (entries : List CompiledEntry) (q : Request) (a : Action) : Prop :=
  ∃ c ∈ entries, c.entry.counts q = true ∧ c.entry.action = a

/-- Entries that stand group by group are in order. -/
theorem sortByGroup_flatMap {f : EntryGroup → List CompiledEntry}
    (h : ∀ g, ∀ c ∈ f g, c.group = g) :
    sortByGroup (EntryGroup.all.flatMap f) = EntryGroup.all.flatMap f :=
  arrange_flatMap h EntryGroup.nodup_all

theorem sortByGroup_idem (entries : List CompiledEntry) :
    sortByGroup (sortByGroup entries) = sortByGroup entries :=
  sortByGroup_flatMap fun _ _ hc => beq_iff_eq.1 (List.mem_filter.1 hc).2

end CompiledEntry

/-- Every entry has the kind of action of its group. -/
def HaveKinds (entries : List CompiledEntry) : Prop :=
  ∀ c ∈ entries, c.entry.action.kind = c.group.kind

/-- An action is in effect after entries in the order of their groups if an entry with it counts and
none of the exceptions in later groups does. -/
theorem mem_effects_of_sorted {entries : List CompiledEntry} (hkinds : HaveKinds entries)
    (hsorted : CompiledEntry.sortByGroup entries = entries) {q : Request} {a : Action}
    (ha : a ≠ .ignorePreviousRules) :
    a ∈ Matcher.effects (entries.map (·.entry)) q ↔
      ∃ g, SomeEntryCounts entries q (fun c => c.group = g ∧ c.entry.action = a) ∧
        ∀ h ∈ g.overriding, ¬SomeEntryCounts entries q (·.group = h) := by
  have hignores {d : CompiledEntry} (hd : d ∈ entries) :
      d.entry.action = .ignorePreviousRules ↔ d.group.kind = .ignorePreviousRules := by
    rw [← Action.kind_eq_ignorePreviousRules, hkinds d hd]
  have hgroups : ∀ c ∈ entries, ∀ d ∈ entries, c.group = d.group →
      c.entry.action = .ignorePreviousRules → d.entry.action = .ignorePreviousRules := by
    intro c hc d hd hgroup
    rw [hignores hc, hignores hd, hgroup]
    exact id
  have heffects := Matcher.mem_effects_arrange hgroups EntryGroup.nodup_all q a
  rw [show arrange EntryGroup.all (·.group) entries = entries from hsorted] at heffects
  rw [heffects]
  simp only [Matcher.isInEffect_iff]
  constructor
  · rintro ⟨c, hc, -, hact, hcounts, -, hlater⟩
    refine ⟨c.group, ⟨c, hc, ⟨rfl, hact⟩, hcounts⟩, ?_⟩
    rintro _ hoverriding ⟨d, hd, rfl, hdcounts⟩
    obtain ⟨hkind, hsub⟩ := EntryGroup.mem_overriding.1 hoverriding
    exact hlater d hd hdcounts ((hignores hd).2 hkind) hsub
  · rintro ⟨_, ⟨c, hc, ⟨rfl, hact⟩, hcounts⟩, hlater⟩
    refine ⟨c, hc, EntryGroup.mem_all _, hact, hcounts, hact ▸ ha, fun d hd hdcounts hd' hsub => ?_⟩
    exact hlater d.group (EntryGroup.mem_overriding.2 ⟨(hignores hd).1 hd', hsub⟩)
      ⟨d, hd, rfl, hdcounts⟩

/-- An action is in effect after groups in which actions count: it counts in one of them, and no
exception counts in a later one. -/
def IsEffective (counts : EntryGroup → Action → Prop) (a : Action) : Prop :=
  ∃ g, counts g a ∧ ∀ h ∈ g.overriding, ¬counts h .ignorePreviousRules

/-- What is in effect after entries in the order of their groups, group by group. -/
theorem mem_effects_iff {entries : List CompiledEntry} (hkinds : HaveKinds entries)
    (hsorted : CompiledEntry.sortByGroup entries = entries) {q : Request} {a : Action}
    (ha : a ≠ .ignorePreviousRules) :
    a ∈ Matcher.effects (entries.map (·.entry)) q ↔
      IsEffective (fun g => CompiledEntry.ActionCounts (entries.filter (·.group == g)) q) a := by
  have hcounts (g : EntryGroup) (b : Action) :
      SomeEntryCounts entries q (fun c => c.group = g ∧ c.entry.action = b) ↔
        CompiledEntry.ActionCounts (entries.filter (·.group == g)) q b := by
    simp only [SomeEntryCounts, CompiledEntry.ActionCounts, List.mem_filter, beq_iff_eq, and_assoc]
    exact exists_congr fun c => and_congr_right fun _ => and_congr_right fun _ => and_comm
  have hexcepts {g h : EntryGroup} (hover : h ∈ g.overriding) :
      SomeEntryCounts entries q (·.group = h) ↔
        SomeEntryCounts entries q fun c => c.group = h ∧ c.entry.action = .ignorePreviousRules := by
    refine exists_congr fun c => and_congr_right fun hc => and_congr_left fun _ => ?_
    rw [iff_self_and]
    rintro rfl
    rw [← Action.kind_eq_ignorePreviousRules, hkinds c hc]
    exact (EntryGroup.mem_overriding.1 hover).1
  rw [mem_effects_of_sorted hkinds hsorted ha]
  refine exists_congr fun g => and_congr (hcounts g a) (forall₂_congr fun h hover => ?_)
  rw [hexcepts hover, hcounts]

end ContentRules
