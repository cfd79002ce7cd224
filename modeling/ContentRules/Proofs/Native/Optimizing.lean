import ContentRules.Proofs.Native.Exactness
import ContentRules.Proofs.Native.Fitting
import ContentRules.Proofs.Native.Precedence

/-!
What optimizing keeps. Each group of entries is made shorter by itself, so the optimized list does
to a request what the whole list does if the test that finds entries needless is sound in the groups
that matter. If it is not, then some of the entries make a list that is changed. Main statement:
`optimized_verdict`.
-/

namespace ContentRules

open CompiledEntry

/-! ## Group by group -/

section
variable {l : List CompiledEntry} {q : Request} {optimize : Bool}

theorem exists_mem_of_mem_shortened {e : CompiledEntry} (he : e ∈ shortened optimize l) :
    ∃ c ∈ l, e.withoutDomains = c.withoutDomains ∧ e.group = c.group := by
  cases optimize with
  | false => exact ⟨e, he, rfl, rfl⟩
  | true => exact Optimized.exists_mem_of_mem_ofRun he

theorem group_of_mem_shortened {g : EntryGroup} {e : CompiledEntry}
    (he : e ∈ shortened optimize (l.filter (·.group == g))) : e.group = g := by
  obtain ⟨c, hc, -, hgroup⟩ := exists_mem_of_mem_shortened he
  exact hgroup.trans (beq_iff_eq.1 (List.mem_filter.1 hc).2)

theorem exists_mem_of_mem_inOrder {e : CompiledEntry} (he : e ∈ inOrder optimize l) :
    ∃ c ∈ l, e.withoutDomains = c.withoutDomains ∧ e.group = c.group := by
  rw [inOrder_eq] at he
  obtain ⟨g, -, he⟩ := List.mem_flatMap.1 he
  obtain ⟨c, hc, h⟩ := exists_mem_of_mem_shortened he
  exact ⟨c, (List.mem_filter.1 hc).1, h⟩

theorem sortByGroup_inOrder : sortByGroup (inOrder optimize l) = inOrder optimize l := by
  rw [inOrder_eq]
  exact sortByGroup_flatMap fun _ _ => group_of_mem_shortened

theorem filter_group_inOrder (g : EntryGroup) :
    (inOrder optimize l).filter (·.group == g) = shortened optimize (l.filter (·.group == g)) := by
  rw [inOrder_eq]
  exact filter_flatMap_key (fun _ _ => group_of_mem_shortened) EntryGroup.nodup_all
    (EntryGroup.mem_all g)

theorem shortened_of_length (hl : l.length < 2) : shortened optimize l = l := by
  cases optimize with
  | false => rfl
  | true =>
    have h := Optimized.entries_ofRun l
    rwa [if_pos hl] at h

end

/-! ## Actions in effect -/

/-- The action counts in a group, after the group was made shorter if this is wanted. -/
def CountsInGroup (optimize : Bool) (l : List CompiledEntry) (q : Request) (g : EntryGroup)
    (a : Action) : Prop :=
  ActionCounts (shortened optimize (l.filter (·.group == g))) q a

section
variable {l : List CompiledEntry} {q : Request} {optimize : Bool} (hkinds : HaveKinds l)
include hkinds

theorem haveKinds_inOrder : HaveKinds (inOrder optimize l) := by
  intro e he
  obtain ⟨c, hc, hwithout, hgroup⟩ := exists_mem_of_mem_inOrder he
  have haction := congrArg (·.action.kind) hwithout
  rw [hgroup, ← hkinds c hc]
  exact haction

theorem kind_of_countsInGroup {g : EntryGroup} {a : Action}
    (h : CountsInGroup optimize l q g a) : a.kind = g.kind := by
  rw [CountsInGroup, ← filter_group_inOrder] at h
  obtain ⟨c, hc, -, rfl⟩ := h
  obtain ⟨hc, hgroup⟩ := List.mem_filter.1 hc
  rw [haveKinds_inOrder hkinds c hc, beq_iff_eq.1 hgroup]

/-- What is in effect after entries in order. -/
theorem mem_effects_inOrder {a : Action} (ha : a ≠ .ignorePreviousRules) :
    a ∈ Matcher.effects ((inOrder optimize l).map (·.entry)) q ↔
      IsEffective (CountsInGroup optimize l q) a := by
  rw [mem_effects_iff (haveKinds_inOrder hkinds) sortByGroup_inOrder ha]
  simp only [IsEffective, CountsInGroup, filter_group_inOrder]

end

/-! ## Groups that matter -/

/-- The entries of a group block or hide, or they except an entry that counts. -/
def EntryGroup.Matters (g : EntryGroup) (entries : List CompiledEntry) (q : Request) : Prop :=
  g.kind ≠ .ignorePreviousRules ∨
    ∃ c ∈ entries, c.entry.counts q = true ∧ c.group.kind ≠ .ignorePreviousRules ∧
      g ∈ c.group.overriding

/-- Making the list shorter keeps an action in effect or out of it. -/
def KeepsEffect (l : List CompiledEntry) (q : Request) (a : Action) : Prop :=
  a ∈ Matcher.effects ((inOrder true l).map (·.entry)) q ↔
    a ∈ Matcher.effects ((inOrder false l).map (·.entry)) q

section
variable {l : List CompiledEntry} {q : Request} {a : Action} (hkinds : HaveKinds l)
include hkinds

/-- Where the groups that matter keep their actions, the same actions are in effect. -/
theorem keepsEffect_of_keepsActions
    (hkeeps : ∀ g : EntryGroup, g.Matters l q → Optimized.KeepsActions (l.filter (·.group == g)) q)
    (ha : a ≠ .ignorePreviousRules) : KeepsEffect l q a := by
  have hkind {g : EntryGroup} (h : a.kind = g.kind) : g.kind ≠ .ignorePreviousRules := by
    rw [← h]
    exact mt Action.kind_eq_ignorePreviousRules.1 ha
  rw [KeepsEffect, mem_effects_inOrder hkinds ha, mem_effects_inOrder hkinds ha]
  refine exists_congr fun g => ?_
  have hcounts : CountsInGroup true l q g a ↔ CountsInGroup false l q g a := by
    by_cases h : a.kind = g.kind
    · exact hkeeps g (.inl (hkind h)) a
    · exact iff_of_false (mt (kind_of_countsInGroup hkinds) h) (mt (kind_of_countsInGroup hkinds) h)
  rw [hcounts]
  refine and_congr_right fun hcounts => forall₂_congr fun h hover => not_congr ?_
  -- an entry with the action counts, so the exceptions in later groups matter
  have hgroup := hkind (kind_of_countsInGroup hkinds hcounts)
  obtain ⟨c, hmem, hcq, -⟩ := hcounts
  obtain ⟨hc, rfl⟩ : c ∈ l ∧ c.group = g := by simpa [shortened] using hmem
  exact hkeeps h (.inr ⟨c, hc, hcq, hgroup, hover⟩) _

end

/-! ## Lists of one group, alone or behind an entry -/

section
variable {l : List CompiledEntry} {q : Request} {optimize : Bool} {g : EntryGroup}
  (hgroup : ∀ c ∈ l, c.group = g)
include hgroup

theorem filter_group_self : l.filter (·.group == g) = l :=
  List.filter_eq_self.2 fun c hc => beq_iff_eq.2 (hgroup c hc)

theorem filter_group_other {h : EntryGroup} (hne : h ≠ g) : l.filter (·.group == h) = [] :=
  List.filter_eq_nil_iff.2 fun c hc heq => hne ((beq_iff_eq.1 heq).symm.trans (hgroup c hc))

theorem not_countsInGroup {h : EntryGroup} (hne : h ≠ g) (a : Action) :
    ¬CountsInGroup optimize l q h a := by
  rw [CountsInGroup, filter_group_other hgroup hne, shortened_of_length (by simp)]
  rintro ⟨_, hc, -⟩
  cases hc

theorem countsInGroup_self {a : Action} :
    CountsInGroup optimize l q g a ↔ ActionCounts (shortened optimize l) q a := by
  rw [CountsInGroup, filter_group_self hgroup]

/-- Nothing takes back what entries of one group do that are no exceptions. -/
theorem isEffective_alone (hg : g.kind ≠ .ignorePreviousRules) (a : Action) :
    IsEffective (CountsInGroup optimize l q) a ↔ ActionCounts (shortened optimize l) q a := by
  constructor
  · rintro ⟨h, hcounts, -⟩
    by_cases hne : h = g
    · exact (countsInGroup_self hgroup).1 (hne ▸ hcounts)
    · exact absurd hcounts (not_countsInGroup hgroup hne a)
  · intro hcounts
    refine ⟨g, (countsInGroup_self hgroup).2 hcounts, fun h hover => not_countsInGroup hgroup ?_ _⟩
    rintro rfl
    exact hg (EntryGroup.mem_overriding.1 hover).1

/-- Exceptions of one group take back what an entry before them does if one of them counts. -/
theorem isEffective_behind {c : CompiledEntry} (hkinds : HaveKinds (c :: l))
    (hcounts : c.entry.counts q = true) (hkind : c.group.kind ≠ .ignorePreviousRules)
    (hover : g ∈ c.group.overriding) :
    IsEffective (CountsInGroup optimize (c :: l) q) c.entry.action ↔
      ¬ActionCounts (shortened optimize l) q .ignorePreviousRules := by
  have hg := (EntryGroup.mem_overriding.1 hover).1
  have hne : c.group ≠ g := fun h => hkind (h ▸ hg)
  have hlater {h : EntryGroup} (hh : c.group ≠ h) (a : Action) :
      CountsInGroup optimize (c :: l) q h a ↔ CountsInGroup optimize l q h a := by
    rw [CountsInGroup, List.filter_cons_of_neg (by simpa using hh)]
    exact Iff.rfl
  constructor
  · rintro ⟨h, hcounts, hno⟩
    have heq : h.kind = c.group.kind :=
      (kind_of_countsInGroup hkinds hcounts).symm.trans (hkinds c (.head _))
    have hown : c.group = h := by
      by_contra hother
      refine not_countsInGroup hgroup ?_ _ ((hlater hother _).1 hcounts)
      rintro rfl
      exact hkind (heq.symm.trans hg)
    subst hown
    have hno := hno g hover
    rwa [hlater hne, countsInGroup_self hgroup] at hno
  · intro hno
    refine ⟨c.group, ?_, fun h hover' => ?_⟩
    · have hown : (c :: l).filter (·.group == c.group) = [c] := by
        rw [List.filter_cons_of_pos (by simp), filter_group_other hgroup hne]
      rw [CountsInGroup, hown, shortened_of_length (by simp)]
      exact ⟨c, .head _, hcounts, rfl⟩
    · have hother : c.group ≠ h := by
        rintro rfl
        exact hkind (EntryGroup.mem_overriding.1 hover').1
      rw [hlater hother]
      by_cases hh : h = g
      · subst hh
        rwa [countsInGroup_self hgroup]
      · exact not_countsInGroup hgroup hh _

end

/-! ## Verdicts -/

/-- The test that finds entries needless is sound in the groups that matter. -/
def CompiledEntry.HasSoundTests (entries : List CompiledEntry) (q : Request) : Prop :=
  ∀ g : EntryGroup, g.Matters entries q → HasSoundTest (entries.filter (·.group == g)) q

/-- What is known of the entries of rules. -/
structure CompiledEntry.AreNative (entries : List CompiledEntry) : Prop where
  kinds : HaveKinds entries
  patterns : ∀ c ∈ entries, c.IsOfPattern
  readable : ∀ c ∈ entries, c.entry.trigger.isReadable = true
  selectors : ∀ c ∈ entries, c.entry.action ≠ .cssDisplayNone none

/-- The matchers say the same of the request. -/
structure Matcher.SameVerdict (m m' : Matcher) (q : Request) : Prop where
  blocked : m.isBlocked q = m'.isBlocked q
  hidden : ∀ s, s ∈ m.hiddenSelectors q ↔ s ∈ m'.hiddenSelectors q

theorem areNative_nativeEntries (lines : List String) :
    AreNative (nativeEntries (nativeRules lines)) where
  kinds := haveKinds_nativeEntries _
  patterns c hc := by
    obtain ⟨r, -, hyields⟩ := mem_nativeEntries.1 hc
    exact isOfPattern_of_yields hyields
  readable c hc := by
    obtain ⟨r, hr, hyields⟩ := mem_nativeEntries.1 hc
    exact hyields.isReadable (isReadable_of_mem_nativeRules hr)
  selectors c hc haction := by
    obtain ⟨r, -, hyields⟩ := mem_nativeEntries.1 hc
    cases hyields with
    | blocks _ h => obtain ⟨_, -, rfl⟩ := CompiledEntry.of_ofRequests h; cases haction
    | excepts _ _ h => obtain ⟨_, -, rfl⟩ := CompiledEntry.of_ofRequests h; cases haction
    | page => cases haction
    | hides => cases haction

section
variable {entries l : List CompiledEntry} {q : Request} (h : AreNative entries)
include h

theorem CompiledEntry.AreNative.mono (hl : l ⊆ entries) : AreNative l where
  kinds c hc := h.kinds c (hl hc)
  patterns c hc := h.patterns c (hl hc)
  readable c hc := h.readable c (hl hc)
  selectors c hc := h.selectors c (hl hc)

/-- Entries in order have a matcher. -/
theorem CompiledEntry.AreNative.exists_matcher (optimize : Bool) :
    ∃ m, Matcher.ofEntries? ((inOrder optimize entries).map (·.entry)) = some m := by
  refine Matcher.exists_ofEntries? fun e he => ?_
  obtain ⟨d, hd, rfl⟩ := List.mem_map.1 he
  obtain ⟨c, hc, hwithout, -⟩ := exists_mem_of_mem_inOrder hd
  have hreadable := h.readable c hc
  have hfilter := congrArg (·.trigger.urlFilter) hwithout
  have hcase := congrArg (·.trigger.caseSensitive) hwithout
  simp only [withoutDomains] at hfilter hcase
  rwa [Trigger.isReadable, hfilter, hcase]

/-- An entry that is no exception blocks, or hides what a selector selects. -/
theorem CompiledEntry.AreNative.action_cases {c : CompiledEntry} (hc : c ∈ entries)
    (hkind : c.group.kind ≠ .ignorePreviousRules) :
    c.entry.action = .block ∨ ∃ s, c.entry.action = .cssDisplayNone (some s) := by
  have hkinds := h.kinds c hc
  have hselectors := h.selectors c hc
  generalize hg : c.group.kind = k at hkinds hkind
  cases haction : c.entry.action with
  | block => exact .inl rfl
  | cssDisplayNone selector =>
    cases selector with
    | none => exact absurd haction hselectors
    | some s => exact .inr ⟨s, rfl⟩
  | ignorePreviousRules =>
    rw [haction] at hkinds
    exact absurd hkinds.symm hkind
  | _ =>
    rw [haction, ← hg] at hkinds
    revert hkinds
    cases c.group <;> simp [EntryGroup.kind, Action.kind]

/-- What blocks or hides in a list is in effect with and without optimizing if these are kept. -/
theorem CompiledEntry.AreNative.isEffective_iff (hl : AreNative l)
    (hkeeps : KeepsEffect l q .block ∧ ∀ s, KeepsEffect l q (.cssDisplayNone (some s)))
    {c : CompiledEntry} (hc : c ∈ entries) (hkind : c.group.kind ≠ .ignorePreviousRules) :
    IsEffective (CountsInGroup true l q) c.entry.action ↔
      IsEffective (CountsInGroup false l q) c.entry.action := by
  have hne : c.entry.action ≠ .ignorePreviousRules := by
    rw [ne_eq, ← Action.kind_eq_ignorePreviousRules, h.kinds c hc]
    exact hkind
  rw [← mem_effects_inOrder hl.kinds hne, ← mem_effects_inOrder hl.kinds hne]
  obtain ⟨hblock, hhides⟩ := hkeeps
  obtain haction | ⟨s, haction⟩ := h.action_cases hc hkind
  · rw [haction]
    exact hblock
  · rw [haction]
    exact hhides s

end

section
variable {l : List CompiledEntry} {q : Request} {m m' : Matcher}
  (hm : Matcher.ofEntries? ((inOrder false l).map (·.entry)) = some m)
  (hm' : Matcher.ofEntries? ((inOrder true l).map (·.entry)) = some m')
include hm hm'

/-- Verdicts are the same if blocking and hiding are kept in effect or out of it. -/
theorem Matcher.sameVerdict_iff : m'.SameVerdict m q ↔
    KeepsEffect l q .block ∧ ∀ s, KeepsEffect l q (.cssDisplayNone (some s)) := by
  have hblocked : m'.isBlocked q = m.isBlocked q ↔ KeepsEffect l q .block := by
    rw [Bool.eq_iff_iff, isBlocked_iff hm, isBlocked_iff hm']
    exact Iff.rfl
  have hhidden (s : String) : (s ∈ m'.hiddenSelectors q ↔ s ∈ m.hiddenSelectors q) ↔
      KeepsEffect l q (.cssDisplayNone (some s)) := by
    rw [mem_hiddenSelectors hm, mem_hiddenSelectors hm']
    exact Iff.rfl
  simp only [← hblocked, ← hhidden]
  exact ⟨fun h => ⟨h.blocked, h.hidden⟩, fun h => ⟨h.1, h.2⟩⟩

end

section
variable {entries : List CompiledEntry} {q : Request} (h : AreNative entries)
  (hline : '\n' ∉ q.url.toList)
include h hline

/-- Where the tests are sound, optimizing keeps what is in effect. -/
theorem keepsEffect_of_hasSoundTests (hsound : HasSoundTests entries q) {a : Action}
    (ha : a ≠ .ignorePreviousRules) : KeepsEffect entries q a :=
  keepsEffect_of_keepsActions h.kinds
    (fun g hg => Optimized.keepsActions_of_hasSoundTest
      (fun c hc => h.patterns c (List.mem_filter.1 hc).1) (hsound g hg) hline) ha

/-- If every list of the entries keeps blocking and hiding in effect or out of it, the tests are
sound. -/
theorem hasSoundTests_of_keepsEffect
    (hkeeps : ∀ l, l ⊆ entries →
      KeepsEffect l q .block ∧ ∀ s, KeepsEffect l q (.cssDisplayNone (some s))) :
    HasSoundTests entries q := by
  intro g hg
  rw [Optimized.hasSoundTest_iff (fun c hc => h.patterns c (List.mem_filter.1 hc).1) hline]
  intro l hl a
  have hsub : l ⊆ entries := fun c hc => (List.mem_filter.1 (hl hc)).1
  have hgroup : ∀ c ∈ l, c.group = g := fun c hc => beq_iff_eq.1 (List.mem_filter.1 (hl hc)).2
  -- an action of some entry of the group is the only one that can count
  have hentry (optimize : Bool) (hcounts : ActionCounts (shortened optimize l) q a) :
      ∃ c ∈ l, c.entry.action = a := by
    obtain ⟨e, he, -, rfl⟩ := hcounts
    obtain ⟨c, hc, hwithout, -⟩ := exists_mem_of_mem_shortened he
    exact ⟨c, hc, (congrArg Entry.action hwithout).symm⟩
  by_cases hhas : ∃ c ∈ l, c.entry.action = a
  swap
  · exact iff_of_false (mt (hentry true) hhas) (mt (hentry false) hhas)
  obtain ⟨c, hc, rfl⟩ := hhas
  by_cases hkind : g.kind = .ignorePreviousRules
  · -- an exception is seen by what it takes back
    obtain ⟨d, hd, hcounts, hdkind, hover⟩ := hg.resolve_left (by simp [hkind])
    have hbehindSub : d :: l ⊆ entries := List.cons_subset.2 ⟨hd, hsub⟩
    have hnative := h.mono hbehindSub
    have hbehind := h.isEffective_iff hnative (hkeeps _ hbehindSub) hd hdkind
    rw [isEffective_behind hgroup hnative.kinds hcounts hdkind hover,
      isEffective_behind hgroup hnative.kinds hcounts hdkind hover, not_iff_not] at hbehind
    have haction : c.entry.action = .ignorePreviousRules := by
      rw [← Action.kind_eq_ignorePreviousRules, h.kinds c (hsub hc), hgroup c hc, hkind]
    rw [haction]
    exact hbehind
  · have halone := h.isEffective_iff (h.mono hsub) (hkeeps l hsub) (hsub hc) (by rwa [hgroup c hc])
    rwa [isEffective_alone hgroup hkind, isEffective_alone hgroup hkind] at halone

end

/-- Optimizing changes neither whether a request is blocked nor which selectors are hidden if the
test that finds entries needless is sound in the groups that matter for the request. If it is not,
then some of the entries make a list for which optimizing does change it. -/
theorem optimized_verdict (lines : List String) {q : Request} (hline : '\n' ∉ q.url.toList) :
    ∃ m m', Matcher.ofEntries? ((nativeEntries (nativeRules lines)).map (·.entry)) = some m ∧
      Matcher.ofEntries?
        ((Optimized.ofEntries (nativeEntries (nativeRules lines))).entries.map (·.entry)) =
          some m' ∧
      (HasSoundTests (nativeEntries (nativeRules lines)) q → m'.SameVerdict m q) ∧
      (¬HasSoundTests (nativeEntries (nativeRules lines)) q →
        ∃ l, l ⊆ nativeEntries (nativeRules lines) ∧
          ∃ n n', Matcher.ofEntries? ((sortByGroup l).map (·.entry)) = some n ∧
            Matcher.ofEntries? ((Optimized.ofEntries (sortByGroup l)).entries.map (·.entry)) =
              some n' ∧ ¬n'.SameVerdict n q) := by
  have hnative := areNative_nativeEntries lines
  have hsorted :
      sortByGroup (nativeEntries (nativeRules lines)) = nativeEntries (nativeRules lines) :=
    sortByGroup_idem _
  generalize nativeEntries (nativeRules lines) = entries at hnative hsorted ⊢
  obtain ⟨m, hm⟩ := hnative.exists_matcher false
  obtain ⟨m', hm'⟩ := hnative.exists_matcher true
  simp only [inOrder, hsorted, if_true, Bool.false_eq_true, if_false] at hm hm'
  refine ⟨m, m', hm, hm', fun hsound => ?_, fun hunsound => ?_⟩
  · refine (Matcher.sameVerdict_iff (l := entries) ?_ ?_).2 ⟨?_, fun s => ?_⟩
    · simpa only [inOrder, hsorted, Bool.false_eq_true, if_false] using hm
    · simpa only [inOrder, hsorted, if_true] using hm'
    · exact keepsEffect_of_hasSoundTests hnative hline hsound nofun
    · exact keepsEffect_of_hasSoundTests hnative hline hsound nofun
  · by_contra hnone
    refine hunsound (hasSoundTests_of_keepsEffect hnative hline fun l hl => ?_)
    obtain ⟨n, hn⟩ := (hnative.mono hl).exists_matcher false
    obtain ⟨n', hn'⟩ := (hnative.mono hl).exists_matcher true
    rw [← Matcher.sameVerdict_iff hn hn']
    by_contra hchanged
    exact hnone ⟨l, hl, n, n', hn, hn', hchanged⟩

/-- A complemented class counts in one case only, so its filter with case need not imply the one
without. -/
theorem optimized_verdict_complement :
    let lines := ["/x[^a]y/$match-case", "/x[^a]y/"]
    let q := Request.ofPage "https://t.net/xAy" "b.com" (.single .script)
    '\n' ∉ q.url.toList ∧ ∃ l, l ⊆ nativeEntries (nativeRules lines) ∧
      ∃ n n', Matcher.ofEntries? ((sortByGroup l).map (·.entry)) = some n ∧
        Matcher.ofEntries? ((Optimized.ofEntries (sortByGroup l)).entries.map (·.entry)) = some n' ∧
          ¬n'.SameVerdict n q := by
  intro lines q
  have hline : '\n' ∉ q.url.toList := by decide +kernel
  obtain ⟨-, -, -, -, -, hchanged⟩ := optimized_verdict lines hline
  refine ⟨hline, hchanged fun hsound => ?_⟩
  have hfound : ∃ n ∈ nativeEntries (FilterList.read lines).rules,
      ∃ b ∈ nativeEntries (FilterList.read lines).rules,
        ((n.group == .urlBlocking) = true ∧ (b.group == .urlBlocking) = true) ∧
        subsumes b n = true ∧ n.entry.counts q = true ∧ b.entry.counts q = false := by
    decide +kernel
  rw [← nativeRules_of_none (by decide +kernel)] at hfound
  obtain ⟨n, hn, b, hb, ⟨hgn, hgb⟩, hsubsumes, hcounts, hnot⟩ := hfound
  have hsound := hsound .urlBlocking (.inl (by decide))
  have hpatterns := (areNative_nativeEntries lines).patterns
  exact Bool.eq_false_iff.1 hnot (counts_of_subsumes hsound
    (fun c hc => hpatterns c (List.mem_filter.1 hc).1) hline (List.mem_filter.2 ⟨hb, hgb⟩)
    (List.mem_filter.2 ⟨hn, hgn⟩) hsubsumes hcounts)

end ContentRules
