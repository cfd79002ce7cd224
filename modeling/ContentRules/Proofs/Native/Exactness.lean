import ContentRules.Proofs.Native.KeptActions

/-!
What making the entries of one group shorter takes for granted. No entry that makes another needless
is overlooked, so where the test that finds needless entries is not sound, two or three of the
entries can be found that lose an action when their list is made shorter. Main statement:
`hasSoundTest_iff`.
-/

namespace ContentRules

namespace CompiledEntry

/-! ## The entries that are tried -/

theorem mem_above {t s : List Char} : t ∈ parentDomains.above s ↔ '.' :: t <:+ s := by
  induction s with
  | nil => simp [parentDomains.above]
  | cons c r ih =>
    rw [List.suffix_cons_iff, parentDomains.above]
    split
    · rename_i hc
      rw [List.mem_cons, ih, hc, List.cons.injEq]
      simp
    · rename_i hc
      rw [ih, List.cons.injEq]
      simp [Ne.symm hc]

theorem mem_parentDomains {t s : List Char} : t ∈ parentDomains s ↔ t = s ∨ '.' :: t <:+ s := by
  rw [parentDomains, List.mem_cons, mem_above]

section
variable {entries : List CompiledEntry} (hpatterns : ∀ c ∈ entries, c.IsOfPattern)
include hpatterns

/-- An entry is compared with every entry that makes it needless. -/
theorem mem_forEntry_of_subsumes {d : CompiledEntry × Nat} (hd : d ∈ entries.zipIdx)
    {c : CompiledEntry} (hc : c ∈ entries) (h : subsumes d.1 c = true) :
    d ∈ (Candidates.ofList entries.zipIdx).forEntry c := by
  obtain ⟨-, hcovers⟩ := subsumes_iff.1 h
  simp only [Candidates.forEntry, Candidates.ofList, Index.find_ofList, List.mem_append,
    List.mem_filter]
  cases hall : d.1.entry.trigger.matchesAllUrls with
  | true => exact .inl (.inl ⟨hd, by simp [action_of_subsumes h]⟩)
  | false =>
    obtain ⟨-, -, hfilter | hleads⟩ := (coversUrl_iff.1 hcovers).resolve_left (by simp [hall])
    · exact .inl (.inr ⟨hd, by simp [hfilter]⟩)
    · obtain ⟨host, below, hhost, hbelow, hpure, -, hhosts⟩ := hleads
      have hd' := hpatterns d.1 (List.fst_mem_of_mem_zipIdx hd)
      rw [hostCovers, Bool.or_eq_true, Text.sameIgnoringCase_iff, Bool.and_eq_true,
        Domain.covers_iff, hd'.lower_host hhost, (hpatterns c hc).lower_host hbelow] at hhosts
      have hparent : host.toList ∈ parentDomains below.toList := by
        rw [mem_parentDomains]
        rcases hhosts with h | ⟨h | h, -⟩
        · exact .inl h.symm
        · exact .inl h.symm
        · exact .inr h
      refine .inr (List.mem_flatMap.2 ⟨host, ?_, ?_⟩)
      · rw [hbelow]
        exact List.mem_map.2 ⟨_, hparent, String.ofList_toList⟩
      · rw [Index.find_ofList]
        exact List.mem_filter.2 ⟨hd, by simp [hpure, hhost]⟩

/-- An entry stays if it yields to none. -/
theorem link?_eq_none {c : CompiledEntry × Nat} (hc : c ∈ entries.zipIdx) :
    link? entries c = none ↔ ∀ d ∈ entries.zipIdx, yieldsTo c d = false :=
  link?_eq_none_iff fun _ hd =>
    mem_forEntry_of_subsumes hpatterns hd (List.fst_mem_of_mem_zipIdx hc)

/-- What counts when needless entries are left out is an entry that yields to none. -/
theorem exists_of_actionCounts_removeSubsumed {q : Request} {a : Action}
    (h : ActionCounts (removeSubsumed entries) q a) :
    ∃ c ∈ entries.zipIdx, c.1.entry.counts q = true ∧
      ∀ d ∈ entries.zipIdx, yieldsTo c d = false := by
  obtain ⟨e, he, hcounts, -⟩ := h
  obtain ⟨c, hc, hlink, rfl⟩ := mem_removeSubsumed.1 he
  exact ⟨c, hc, hcounts, (link?_eq_none hpatterns hc).1 hlink⟩

end

/-- A later entry yields to an earlier one that makes it needless. -/
theorem yieldsTo_of_lt {c d : CompiledEntry} {i j : Nat} (hlt : j < i) (h : subsumes d c = true) :
    yieldsTo (c, i) (d, j) = true :=
  yieldsTo_iff.2 ⟨Nat.ne_of_lt hlt, h, fun hlt' => absurd hlt (Nat.lt_asymm hlt')⟩

/-- Of three entries in a circle that is not sound each yields to another. -/
theorem exists_yieldsTo_of_circle {x y w : CompiledEntry} (hxy : subsumes x y = true)
    (hyw : subsumes y w = true) (hwx : subsumes w x = true) (hyx : subsumes y x = false)
    {c : CompiledEntry × Nat} (hc : c ∈ [y, w, x].zipIdx) :
    ∃ d ∈ [y, w, x].zipIdx, yieldsTo c d = true := by
  have hplaces : [y, w, x].zipIdx = [(y, 0), (w, 1), (x, 2)] := rfl
  simp only [hplaces, List.mem_cons, List.not_mem_nil, or_false] at hc ⊢
  -- the second yields to the first, the third to the second, and so the first to the third
  rcases hc with rfl | rfl | rfl
  · exact ⟨(x, 2), .inr (.inr rfl), yieldsTo_iff.2 ⟨by simp, hxy, fun _ => hyx⟩⟩
  · exact ⟨(y, 0), .inl rfl, yieldsTo_of_lt Nat.zero_lt_one hyw⟩
  · exact ⟨(w, 1), .inr (.inl rfl), yieldsTo_of_lt (Nat.lt_succ_self 1) hwx⟩

end CompiledEntry

/-! ## Lists that lose an action -/

namespace Optimized

open CompiledEntry

/-- In a list without equal entries only leaving out needless entries can lose an action. -/
theorem actionCounts_of_nodup {l : List CompiledEntry} {q : Request} {a : Action}
    (hlength : ¬l.length < 2) (hnodup : (l.map (·.entry)).Nodup) :
    ActionCounts (ofRun l).entries q a ↔ ActionCounts (removeSubsumed l) q a := by
  rw [entries_ofRun, if_neg hlength, actionCounts_mergeDomains, mergeEqual_eq_self hnodup]

section
variable {run : List CompiledEntry} {q : Request} (hpatterns : ∀ c ∈ run, c.IsOfPattern)
  (hkeeps : ∀ l, l ⊆ run → KeepsActions l q)
include hpatterns hkeeps

/-- If lists of two keep their actions, then an entry that makes another needless counts with it. -/
theorem counts_of_keeps {b n : CompiledEntry} (hb : b ∈ run) (hn : n ∈ run)
    (h : subsumes b n = true) (hcounts : n.entry.counts q = true) : b.entry.counts q = true := by
  by_cases hentry : b.entry = n.entry
  · rwa [hentry]
  have hsub : [b, n] ⊆ run := by simp [hb, hn]
  have hnodup : ([b, n].map (·.entry)).Nodup := by simp [hentry]
  have hkept := (hkeeps [b, n] hsub n.entry.action).2 ⟨n, by simp, hcounts, rfl⟩
  rw [actionCounts_of_nodup (by simp) hnodup] at hkept
  obtain ⟨c, hc, hcounts, hnone⟩ :=
    exists_of_actionCounts_removeSubsumed (fun c hc => hpatterns c (hsub hc)) hkept
  have hplaces : [b, n].zipIdx = [(b, 0), (n, 1)] := rfl
  simp only [hplaces, List.mem_cons, List.not_mem_nil, or_false] at hc hnone
  rcases hc with rfl | rfl
  · exact hcounts
  · cases (hnone (b, 0) (.inl rfl)).symm.trans (yieldsTo_of_lt Nat.zero_lt_one h)

/-- If lists of three keep their actions, then circles of three are sound. -/
theorem circle_of_keeps {x y w : CompiledEntry} (hx : x ∈ run) (hy : y ∈ run) (hw : w ∈ run)
    (hne : x.entry ≠ y.entry) (hne' : y.entry ≠ w.entry) (hne'' : w.entry ≠ x.entry)
    (hcounts : y.entry.counts q = true) (hxy : subsumes x y = true) (hyw : subsumes y w = true)
    (hwx : subsumes w x = true) : subsumes y x = true := by
  have hsub : [y, w, x] ⊆ run := by simp [hx, hy, hw]
  have hnodup : ([y, w, x].map (·.entry)).Nodup := by simp [hne', hne'', hne.symm]
  have hkept := (hkeeps [y, w, x] hsub y.entry.action).2 ⟨y, by simp, hcounts, rfl⟩
  rw [actionCounts_of_nodup (by simp) hnodup] at hkept
  obtain ⟨c, hc, -, hnone⟩ :=
    exists_of_actionCounts_removeSubsumed (fun c hc => hpatterns c (hsub hc)) hkept
  by_contra hyx
  obtain ⟨d, hd, hyields⟩ := exists_yieldsTo_of_circle hxy hyw hwx (Bool.eq_false_iff.2 hyx) hc
  cases (hnone d hd).symm.trans hyields

end

/-- The test is sound for a request if and only if making a list of the entries shorter, whichever
they are and in whichever order, keeps the actions that count. -/
theorem hasSoundTest_iff {run : List CompiledEntry} {q : Request}
    (hpatterns : ∀ c ∈ run, c.IsOfPattern) (hline : '\n' ∉ q.url.toList) :
    HasSoundTest run q ↔ ∀ l, l ⊆ run → KeepsActions l q := by
  constructor
  · intro hsound l hl
    exact keepsActions_of_hasSoundTest (fun c hc => hpatterns c (hl hc))
      (hsound.of_bare fun c hc => ⟨c, hl hc, rfl⟩) hline
  · intro hkeeps
    have hurl {b n : CompiledEntry} (hb : b ∈ run) (hn : n ∈ run) (h : subsumes b n = true)
        (hcounts : n.entry.counts q = true) : b.entry.trigger.matchesUrl q.url.toList = true := by
      have hcounts := counts_of_keeps hpatterns hkeeps hb hn h hcounts
      rw [Entry.counts_eq, Bool.and_eq_true] at hcounts
      exact hcounts.2
    constructor
    · intro b hb n hn h hcounts _ _ _ _
      exact hurl hb hn h hcounts
    · intro b hb n hn h hcounts _
      exact hurl hb hn h hcounts
    · intro x hx y hy w hw
      exact circle_of_keeps hpatterns hkeeps hx hy hw

end Optimized

end ContentRules
