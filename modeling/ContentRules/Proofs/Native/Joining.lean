import ContentRules.Native.Merging
import ContentRules.Proofs.Ordered.MergeByKey

/-!
What joining entries keeps. A joined entry has the action of the entries that it comes from and
stands for the rules of all of them. Main statement: `mem_sources_mergeByKey`.
-/

namespace ContentRules.CompiledEntry

/-- The entry without its sources. -/
def bare (c : CompiledEntry) : CompiledEntry := { c with sources := [] }

theorem eq_of_bare {c d : CompiledEntry} (h : c.bare = d.bare) :
    c = { d with sources := c.sources } := by
  obtain ⟨⟩ := c
  obtain ⟨⟩ := d
  cases h
  rfl

theorem entry_eq_of_bare {c d : CompiledEntry} (h : c.bare = d.bare) : c.entry = d.entry := by
  have := congrArg CompiledEntry.entry h
  exact this

/-- Joined entries stand for the rules of both and keep the action of the first. -/
structure IsJoin (join : CompiledEntry → CompiledEntry → CompiledEntry) : Prop where
  sources : ∀ c d, (join c d).sources = addMissing c.sources d.sources
  action : ∀ c d, (join c d).entry.action = c.entry.action

theorem isJoin_joinSources : IsJoin joinSources := ⟨fun _ _ => rfl, fun _ _ => rfl⟩

/-- What joining for the pages of both does to the domains. -/
theorem joinDomains_cases (c d : CompiledEntry) :
    (∃ left right, c.onlyDomains? = some left ∧ d.onlyDomains? = some right ∧
      joinDomains c d = { c.joinSources d with
        entry := { c.entry with
          trigger := { c.entry.trigger with domains := some (.only (addMissing left right)) } } }) ∨
    joinDomains c d = c.joinSources d := by
  unfold joinDomains
  split
  · exact .inl ⟨_, _, ‹_›, ‹_›, rfl⟩
  · exact .inr rfl

theorem isJoin_joinDomains : IsJoin joinDomains := by
  constructor <;> intro c d <;> obtain ⟨_, _, _, _, h⟩ | h :=
    joinDomains_cases c d <;> rw [h] <;> rfl

/-- Only entries with the same action share a key. -/
def KeepsActions {κ : Type} (key : CompiledEntry → Option κ) : Prop :=
  ∀ c d, key c ≠ none → key c = key d → c.entry.action = d.entry.action

theorem keepsActions_entry : KeepsActions fun c => some c.entry := by
  intro c d _ h
  rw [Option.some.inj h]

theorem keepsActions_withoutDomains :
    KeepsActions fun c => c.onlyDomains?.map fun _ => c.withoutDomains := by
  intro c d hne h
  obtain ⟨k, hk⟩ := Option.ne_none_iff_exists'.1 hne
  obtain ⟨_, -, hc⟩ := Option.map_eq_some_iff.1 hk
  obtain ⟨_, -, hd⟩ := Option.map_eq_some_iff.1 (h ▸ hk)
  have h := congrArg Entry.action (hc.trans hd.symm)
  exact h

/-- A property of entries that only their actions decide. -/
def ByAction (p : CompiledEntry → Bool) : Prop :=
  ∀ c d, c.entry.action = d.entry.action → p c = p d

section
variable {join : CompiledEntry → CompiledEntry → CompiledEntry} (hjoin : IsJoin join)
include hjoin

theorem IsJoin.action_foldl (c : CompiledEntry) (l : List CompiledEntry) :
    (l.foldl join c).entry.action = c.entry.action :=
  foldl_keeps (f := fun c => c.entry.action) hjoin.action c l

theorem IsJoin.mem_sources_foldl {c : CompiledEntry} {l : List CompiledEntry} {line : Nat} :
    line ∈ (l.foldl join c).sources ↔ ∃ d ∈ c :: l, line ∈ d.sources := by
  induction l generalizing c with
  | nil => simp
  | cons d l ih =>
    rw [List.foldl_cons, ih]
    simp only [List.mem_cons, exists_eq_or_imp, hjoin.sources, mem_addMissing, or_assoc]

variable {κ : Type} [BEq κ] [LawfulBEq κ] [Hashable κ] {key : CompiledEntry → Option κ}
  (hkey : KeepsActions key) {entries : List CompiledEntry}
include hkey

/-- The sources of joined entries are those of the entries before, with the same actions. -/
theorem IsJoin.mem_sources_mergeByKey {line : Nat} {a : Action} :
    (∃ e ∈ mergeByKey key join entries, line ∈ e.sources ∧ e.entry.action = a) ↔
      ∃ c ∈ entries, line ∈ c.sources ∧ c.entry.action = a := by
  refine exists_mem_mergeByKey join fun k first rest hmem => ?_
  have haction : ∀ d ∈ first :: rest, d.entry.action = first.entry.action := fun d hd =>
    hkey d first (by simp [(hmem d hd).2]) ((hmem d hd).2.trans (hmem first (.head _)).2.symm)
  rw [hjoin.action_foldl, hjoin.mem_sources_foldl]
  constructor
  · rintro ⟨⟨d, hd, hline⟩, rfl⟩
    exact ⟨d, hd, hline, haction d hd⟩
  · rintro ⟨d, hd, hline, rfl⟩
    exact ⟨⟨d, hd, hline⟩, (haction d hd).symm⟩

/-- Joining entries neither loses nor brings in a source. -/
theorem IsJoin.exists_source_mergeByKey {line : Nat} :
    (∃ e ∈ mergeByKey key join entries, line ∈ e.sources) ↔ ∃ c ∈ entries, line ∈ c.sources := by
  constructor
  · rintro ⟨e, he, hline⟩
    obtain ⟨c, hc, hline, -⟩ := (hjoin.mem_sources_mergeByKey hkey).1 ⟨e, he, hline, rfl⟩
    exact ⟨c, hc, hline⟩
  · rintro ⟨c, hc, hline⟩
    obtain ⟨e, he, hline, -⟩ := (hjoin.mem_sources_mergeByKey hkey).2 ⟨c, hc, hline, rfl⟩
    exact ⟨e, he, hline⟩

omit hkey in
/-- A joined entry stands for the rules of some entry before. -/
theorem IsJoin.exists_subset_sources {e : CompiledEntry} (he : e ∈ mergeByKey key join entries) :
    ∃ c ∈ entries, ∀ line ∈ c.sources, line ∈ e.sources := by
  obtain ⟨he, -⟩ | ⟨k, first, rest, h, rfl⟩ := (mem_mergeByKey join).1 he
  · exact ⟨e, he, fun _ => id⟩
  · exact ⟨first, ((mem_group h first).1 (.head _)).1, fun line hline =>
      hjoin.mem_sources_foldl.2 ⟨first, .head _, hline⟩⟩

/-- Joining looks at each action by itself. -/
theorem IsJoin.filter_mergeByKey {p : CompiledEntry → Bool} (hp : ByAction p) :
    (mergeByKey key join entries).filter p = mergeByKey key join (entries.filter p) :=
  ContentRules.filter_mergeByKey join (fun c d hne h => hp c d (hkey c d hne h))
    fun c d => hp _ c (hjoin.action c d)

end

/-! ## Equal entries -/

theorem bare_foldl_joinSources (c : CompiledEntry) (l : List CompiledEntry) :
    (l.foldl joinSources c).bare = c.bare :=
  foldl_keeps (f := bare) (fun c d => (rfl : (c.joinSources d).bare = c.bare)) c l

/-- The distinct entries are entries of the list, but for their sources. -/
theorem exists_mem_of_mem_mergeEqual {entries : List CompiledEntry} {e : CompiledEntry}
    (he : e ∈ mergeEqual entries) : ∃ c ∈ entries, e.bare = c.bare := by
  obtain ⟨-, hkey⟩ | ⟨k, first, rest, h, rfl⟩ := (mem_mergeByKey joinSources).1 he
  · cases hkey
  · exact ⟨first, ((mem_group h first).1 (.head _)).1, bare_foldl_joinSources first rest⟩

/-- Each entry of the list is among the distinct ones. -/
theorem exists_mem_mergeEqual {entries : List CompiledEntry} {c : CompiledEntry}
    (hc : c ∈ entries) :
    ∃ e ∈ mergeEqual entries, e.entry = c.entry := by
  have hkey : c.entry ∈ (mergeEqual entries).filterMap fun c => some c.entry :=
    (mem_keys_mergeByKey joinSources fun _ _ => rfl).2 (List.mem_filterMap.2 ⟨c, hc, rfl⟩)
  obtain ⟨e, he, hentry⟩ := List.mem_filterMap.1 hkey
  exact ⟨e, he, Option.some.inj hentry⟩

/-- The distinct entries are distinct. -/
theorem nodup_entry_mergeEqual (entries : List CompiledEntry) :
    ((mergeEqual entries).map (·.entry)).Nodup := by
  have hnodup : ((mergeEqual entries).filterMap fun c => some c.entry).Nodup :=
    nodup_keys_mergeByKey joinSources fun _ _ => rfl
  rwa [List.filterMap_eq_map'] at hnodup

theorem eq_of_mem_mergeEqual {entries : List CompiledEntry} :
    ∀ c ∈ mergeEqual entries, ∀ d ∈ mergeEqual entries, c.entry = d.entry → c = d :=
  fun _ hc _ hd h => List.inj_on_of_nodup_map (nodup_entry_mergeEqual entries) hc hd h

/-- A list without equal entries stays as it is. -/
theorem mergeEqual_eq_self {entries : List CompiledEntry}
    (h : (entries.map (·.entry)).Nodup) : mergeEqual entries = entries := by
  refine mergeByKey_eq_self joinSources ?_
  rw [List.filterMap_eq_map']
  exact h

end ContentRules.CompiledEntry
