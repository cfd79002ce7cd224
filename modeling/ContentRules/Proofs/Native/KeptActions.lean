import ContentRules.Proofs.Native.Chains
import ContentRules.Proofs.Native.Groups
import ContentRules.Proofs.Native.Runs

/-!
What making the entries of one group shorter keeps. No pass brings in an action that did not count
before. Joining equal entries and joining the pages of entries lose none, and leaving out needless
entries loses none where the test that finds them is sound. Main statement:
`keepsActions_of_hasSoundTest`.
-/

namespace ContentRules

namespace CompiledEntry

section
variable {entries : List CompiledEntry} {q : Request} {a : Action}

/-! ## Joining equal entries -/

theorem actionCounts_mergeEqual :
    ActionCounts (mergeEqual entries) q a ↔ ActionCounts entries q a := by
  constructor
  · rintro ⟨e, he, hcounts, haction⟩
    obtain ⟨c, hc, h⟩ := exists_mem_of_mem_mergeEqual he
    rw [entry_eq_of_bare h] at hcounts haction
    exact ⟨c, hc, hcounts, haction⟩
  · rintro ⟨c, hc, hcounts, haction⟩
    obtain ⟨e, he, h⟩ := exists_mem_mergeEqual hc
    rw [← h] at hcounts haction
    exact ⟨e, he, hcounts, haction⟩

theorem isOfPattern_mergeEqual (hpatterns : ∀ c ∈ entries, c.IsOfPattern) :
    ∀ e ∈ mergeEqual entries, e.IsOfPattern := by
  intro e he
  obtain ⟨c, hc, hbare⟩ := exists_mem_of_mem_mergeEqual he
  exact .of_bare hbare (hpatterns c hc)

theorem HasSoundTest.of_bare {entries' : List CompiledEntry} (hsound : HasSoundTest entries q)
    (h : ∀ e ∈ entries', ∃ c ∈ entries, e.bare = c.bare) : HasSoundTest entries' q := by
  have heq (e : CompiledEntry) (he : e ∈ entries') :
      ∃ c ∈ entries, e = { c with sources := e.sources } := by
    obtain ⟨c, hc, hbare⟩ := h e he
    exact ⟨c, hc, eq_of_bare hbare⟩
  constructor
  · intro b hb n hn
    obtain ⟨b', hb', hbeq⟩ := heq b hb
    obtain ⟨n', hn', hneq⟩ := heq n hn
    rw [hbeq, hneq]
    exact hsound.caseless b' hb' n' hn'
  · intro b hb n hn
    obtain ⟨b', hb', hbeq⟩ := heq b hb
    obtain ⟨n', hn', hneq⟩ := heq n hn
    rw [hbeq, hneq]
    exact hsound.pages b' hb' n' hn'
  · intro x hx y hy w hw
    obtain ⟨x', hx', hxeq⟩ := heq x hx
    obtain ⟨y', hy', hyeq⟩ := heq y hy
    obtain ⟨w', hw', hweq⟩ := heq w hw
    rw [hxeq, hyeq, hweq]
    exact hsound.circles x' hx' y' hy' w' hw'

/-! ## Leaving out needless entries -/

theorem exists_mem_of_mem_removeSubsumed {e : CompiledEntry} (he : e ∈ removeSubsumed entries) :
    ∃ c ∈ entries, e.bare = c.bare := by
  obtain ⟨⟨c, i⟩, hc, -, rfl⟩ := mem_removeSubsumed.1 he
  exact ⟨c, List.fst_mem_of_mem_zipIdx hc, rfl⟩

theorem actionCounts_removeSubsumed (hpatterns : ∀ c ∈ entries, c.IsOfPattern)
    (hdistinct : ∀ c ∈ entries, ∀ d ∈ entries, c.entry = d.entry → c = d)
    (hsound : HasSoundTest entries q) (hline : '\n' ∉ q.url.toList) :
    ActionCounts (removeSubsumed entries) q a ↔ ActionCounts entries q a := by
  constructor
  · rintro ⟨e, he, hcounts, haction⟩
    obtain ⟨c, hc, h⟩ := exists_mem_of_mem_removeSubsumed he
    rw [entry_eq_of_bare h] at hcounts haction
    exact ⟨c, hc, hcounts, haction⟩
  · rintro ⟨c, hc, hcounts, rfl⟩
    exact exists_counts_removeSubsumed hpatterns hsound hdistinct hline hc hcounts

/-! ## Joining pages -/

theorem onlyDomains?_eq_some {c : CompiledEntry} {values : List DomainValue} :
    c.onlyDomains? = some values ↔ c.entry.trigger.domains = some (.only values) := by
  unfold onlyDomains?
  split
  · rename_i h
    rw [h]
    simp
  · rename_i h
    exact iff_of_false nofun (h values)

/-- The condition of an entry admits pages of the host. -/
def AdmitsHost (c : CompiledEntry) (host : List Char) : Prop :=
  DomainCondition.admits? c.entry.trigger.domains host = true

/-- An entry that is limited to pages admits a host that one of its values admits. -/
theorem admitsHost_of_onlyDomains {c : CompiledEntry} {values : List DomainValue}
    (h : c.onlyDomains? = some values) {host : List Char} :
    c.AdmitsHost host ↔ ∃ v ∈ values, v.admits host = true := by
  rw [AdmitsHost, onlyDomains?_eq_some.1 h, DomainCondition.admits?, Option.map_some,
    Option.getD_some, DomainCondition.admits, List.any_eq_true]

/-- An entry counts if its condition admits the page and the rest of its trigger is for the
request. -/
theorem counts_iff_admitsHost {c : CompiledEntry} :
    c.entry.counts q = true ↔ c.AdmitsHost q.pageHost.toList ∧
      c.withoutDomains.trigger.matchesKinds q = true ∧
      c.withoutDomains.trigger.matchesUrl q.url.toList = true := by
  rw [Entry.counts_eq, Bool.and_eq_true, Bool.and_eq_true, and_assoc]
  exact Iff.rfl

/-- Entries that are limited to pages and say the same apart from that, joined. -/
theorem joinDomains_of_only {c d : CompiledEntry} {left right : List DomainValue}
    (hc : c.onlyDomains? = some left) (hd : d.onlyDomains? = some right) :
    (joinDomains c d).onlyDomains? = some (addMissing left right) ∧
      (joinDomains c d).withoutDomains = c.withoutDomains := by
  unfold joinDomains
  rw [hc, hd]
  exact ⟨rfl, rfl⟩

theorem foldl_joinDomains (c : CompiledEntry) (l : List CompiledEntry) :
    (l.foldl joinDomains c).withoutDomains = c.withoutDomains ∧
      (l.foldl joinDomains c).group = c.group := by
  induction l generalizing c with
  | nil => exact ⟨rfl, rfl⟩
  | cons d l ih =>
    obtain ⟨hwithout, hgroup⟩ := ih (joinDomains c d)
    rw [List.foldl_cons, hwithout, hgroup]
    obtain ⟨_, _, -, -, h⟩ | h := joinDomains_cases c d <;> rw [h] <;> exact ⟨rfl, rfl⟩

/-- What entries have in common that are joined for their pages. -/
def pagesKey (c : CompiledEntry) : Option Entry := c.onlyDomains?.map fun _ => c.withoutDomains

theorem pagesKey_eq_some {c : CompiledEntry} {k : Entry} :
    c.pagesKey = some k ↔ (∃ values, c.onlyDomains? = some values) ∧ c.withoutDomains = k := by
  rw [pagesKey, Option.map_eq_some_iff]
  simp

theorem pagesKey_joinDomains (c d : CompiledEntry) : (joinDomains c d).pagesKey = c.pagesKey := by
  obtain ⟨left, right, hleft, hright, -⟩ | h := joinDomains_cases c d
  · obtain ⟨honly, hwithout⟩ := joinDomains_of_only hleft hright
    rw [pagesKey, pagesKey, honly, hleft, hwithout]
    rfl
  · rw [h]
    rfl

/-- A joined entry is limited to the pages of the entries that it comes from. -/
theorem onlyDomains?_foldl_joinDomains {first : CompiledEntry} {rest : List CompiledEntry}
    (h : ∀ d ∈ first :: rest, d.onlyDomains? ≠ none) :
    ∃ values, (rest.foldl joinDomains first).onlyDomains? = some values ∧
      ∀ v, v ∈ values ↔ ∃ d ∈ first :: rest, ∃ own, d.onlyDomains? = some own ∧ v ∈ own := by
  induction rest generalizing first with
  | nil =>
    obtain ⟨values, hvalues⟩ := Option.ne_none_iff_exists'.1 (h first (.head _))
    exact ⟨values, hvalues, fun v => by simp [hvalues]⟩
  | cons d rest ih =>
    obtain ⟨left, hleft⟩ := Option.ne_none_iff_exists'.1 (h first (.head _))
    obtain ⟨right, hright⟩ := Option.ne_none_iff_exists'.1 (h d (.tail _ (.head _)))
    obtain ⟨honly, -⟩ := joinDomains_of_only hleft hright
    have hlimited : ∀ e ∈ joinDomains first d :: rest, e.onlyDomains? ≠ none := by
      intro e he
      rcases List.mem_cons.1 he with rfl | he
      · simp [honly]
      · exact h e (.tail _ (.tail _ he))
    obtain ⟨values, hvalues, hmem⟩ := ih hlimited
    refine ⟨values, hvalues, fun v => ?_⟩
    rw [hmem]
    simp [honly, hleft, hright, mem_addMissing, or_assoc]

/-- A joined entry admits a host if one of the entries does that it comes from. -/
theorem admitsHost_foldl_joinDomains {k : Entry} {first : CompiledEntry} {rest : List CompiledEntry}
    (h : ∀ d ∈ first :: rest, d.pagesKey = some k) {host : List Char} :
    (rest.foldl joinDomains first).AdmitsHost host ↔ ∃ d ∈ first :: rest, d.AdmitsHost host := by
  have honly (d) (hd : d ∈ first :: rest) : ∃ own, d.onlyDomains? = some own :=
    (pagesKey_eq_some.1 (h d hd)).1
  obtain ⟨values, hvalues, hmem⟩ :=
    onlyDomains?_foldl_joinDomains fun d hd => Option.ne_none_iff_exists'.2 (honly d hd)
  rw [admitsHost_of_onlyDomains hvalues]
  constructor
  · rintro ⟨v, hv, hadmits⟩
    obtain ⟨d, hd, own, hown, hv⟩ := (hmem v).1 hv
    exact ⟨d, hd, (admitsHost_of_onlyDomains hown).2 ⟨v, hv, hadmits⟩⟩
  · rintro ⟨d, hd, hadmits⟩
    obtain ⟨own, hown⟩ := honly d hd
    obtain ⟨v, hv, hadmits⟩ := (admitsHost_of_onlyDomains hown).1 hadmits
    exact ⟨v, (hmem v).2 ⟨d, hd, own, hown, hv⟩, hadmits⟩

/-- A joined entry counts if one of the entries does that it comes from. -/
theorem counts_foldl_joinDomains {k : Entry} {first : CompiledEntry} {rest : List CompiledEntry}
    (h : ∀ d ∈ first :: rest, d.pagesKey = some k) :
    (rest.foldl joinDomains first).entry.counts q = true ↔
      ∃ d ∈ first :: rest, d.entry.counts q = true := by
  have hwithout (d) (hd : d ∈ first :: rest) : d.withoutDomains = k :=
    (pagesKey_eq_some.1 (h d hd)).2
  rw [counts_iff_admitsHost, admitsHost_foldl_joinDomains h, (foldl_joinDomains first rest).1,
    hwithout first (.head _)]
  constructor
  · rintro ⟨⟨d, hd, hadmits⟩, hrest⟩
    refine ⟨d, hd, counts_iff_admitsHost.2 ⟨hadmits, ?_⟩⟩
    rwa [hwithout d hd]
  · rintro ⟨d, hd, hcounts⟩
    obtain ⟨hadmits, hrest⟩ := counts_iff_admitsHost.1 hcounts
    rw [hwithout d hd] at hrest
    exact ⟨⟨d, hd, hadmits⟩, hrest⟩

theorem mergeDomains_eq (entries : List CompiledEntry) :
    mergeDomains entries = mergeByKey pagesKey joinDomains entries := rfl

theorem exists_mem_of_mem_mergeDomains {e : CompiledEntry} (he : e ∈ mergeDomains entries) :
    ∃ c ∈ entries, e.withoutDomains = c.withoutDomains ∧ e.group = c.group := by
  rw [mergeDomains_eq] at he
  obtain ⟨he, -⟩ | ⟨k, first, rest, h, rfl⟩ := (mem_mergeByKey joinDomains).1 he
  · exact ⟨e, he, rfl, rfl⟩
  · exact ⟨first, ((mem_group h first).1 (.head _)).1, foldl_joinDomains first rest⟩

theorem actionCounts_mergeDomains :
    ActionCounts (mergeDomains entries) q a ↔ ActionCounts entries q a := by
  rw [ActionCounts, mergeDomains_eq]
  refine exists_mem_mergeByKey joinDomains fun k first rest hmem => ?_
  have hkeys := fun d hd => (hmem d hd).2
  have haction : ∀ d ∈ first :: rest, d.entry.action = first.entry.action := fun d hd =>
    keepsActions_withoutDomains d first (Option.ne_none_iff_exists'.2 ⟨k, hkeys d hd⟩)
      ((hkeys d hd).trans (hkeys first (.head _)).symm)
  rw [counts_foldl_joinDomains hkeys, isJoin_joinDomains.action_foldl]
  constructor
  · rintro ⟨⟨d, hd, hcounts⟩, rfl⟩
    exact ⟨d, hd, hcounts, haction d hd⟩
  · rintro ⟨d, hd, hcounts, rfl⟩
    exact ⟨⟨d, hd, hcounts⟩, (haction d hd).symm⟩

end

end CompiledEntry

/-! ## The whole pass -/

namespace Optimized

open CompiledEntry

/-- The entries of a shorter list are those of the list, but for the pages that they are limited
to. -/
theorem exists_mem_of_mem_ofRun {run : List CompiledEntry} {e : CompiledEntry}
    (he : e ∈ (ofRun run).entries) :
    ∃ c ∈ run, e.withoutDomains = c.withoutDomains ∧ e.group = c.group := by
  rw [entries_ofRun] at he
  split at he
  · exact ⟨e, he, rfl, rfl⟩
  · obtain ⟨d, hd, hwithout, hgroup⟩ := exists_mem_of_mem_mergeDomains he
    obtain ⟨c, hc, h⟩ := exists_mem_of_mem_removeSubsumed hd
    obtain ⟨b, hb, h'⟩ := exists_mem_of_mem_mergeEqual hc
    rw [hwithout, hgroup, eq_of_bare (h.trans h')]
    exact ⟨b, hb, rfl, rfl⟩

/-- Making a list shorter keeps the actions that count for the request. -/
def KeepsActions (run : List CompiledEntry) (q : Request) : Prop :=
  ∀ a, ActionCounts (ofRun run).entries q a ↔ ActionCounts run q a

/-- Making a list of one group shorter keeps the actions that count where the test is sound. -/
theorem keepsActions_of_hasSoundTest {run : List CompiledEntry} {q : Request}
    (hpatterns : ∀ c ∈ run, c.IsOfPattern) (hsound : HasSoundTest run q)
    (hline : '\n' ∉ q.url.toList) : KeepsActions run q := by
  intro a
  rw [entries_ofRun]
  split
  · exact Iff.rfl
  · rw [actionCounts_mergeDomains,
      actionCounts_removeSubsumed (isOfPattern_mergeEqual hpatterns) eq_of_mem_mergeEqual
        (hsound.of_bare fun _ => exists_mem_of_mem_mergeEqual) hline, actionCounts_mergeEqual]

end Optimized

end ContentRules
