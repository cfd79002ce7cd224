import ContentRules.Proofs.Native.Removal
import ContentRules.Proofs.Native.Soundness

/-!
Why no entry that counts is lost in a circle of needless entries. The test that finds entries
needless is not transitive: a pattern for a host leads to every pattern with its filter, and an
entry for all URLs leads to every pattern. But what a chain of needless entries comes to is a matter
of three steps at most, so circles of three entries are all that has to be looked at. Main
statement: `exists_counts_removeSubsumed`.
-/

namespace ContentRules.CompiledEntry

open Pattern

/-! ## Steps with one filter -/

theorem shortcutContained_iff {a b : CompiledEntry} :
    shortcutContained a b = true ↔ ∀ needed, a.shortcut = some needed → ∃ literal,
      b.shortcut = some literal ∧
        needed.toList <:+:
          if a.entry.trigger.caseSensitive then literal.toList else Text.lower literal.toList := by
  unfold shortcutContained
  cases ha : a.shortcut with
  | none => simp
  | some needed =>
    cases hb : b.shortcut with
    | none => simp
    | some literal => simp [Text.occursIn_iff]

theorem shortcutContained_trans {a b c : CompiledEntry}
    (hcase : a.entry.trigger.caseSensitive = true → b.entry.trigger.caseSensitive = true)
    (h : shortcutContained a b = true) (h' : shortcutContained b c = true) :
    shortcutContained a c = true := by
  rw [shortcutContained_iff] at h h' ⊢
  intro needed hneeded
  obtain ⟨middle, hmiddle, hin⟩ := h needed hneeded
  obtain ⟨literal, hliteral, hin'⟩ := h' middle hmiddle
  refine ⟨literal, hliteral, ?_⟩
  cases ha : a.entry.trigger.caseSensitive with
  | true =>
    rw [if_pos ha] at hin
    rw [if_pos (hcase ha)] at hin'
    exact hin.trans hin'
  | false =>
    rw [ha, if_neg Bool.false_ne_true] at hin
    have hlower := hin'.map Char.toLower
    refine hin.trans ?_
    split at hlower
    · exact hlower
    · have hidem := Text.lower_lower literal.toList
      rw [Text.lower] at hidem
      rwa [hidem] at hlower

theorem matchesAllUrls_congr {a b : CompiledEntry}
    (h : a.entry.trigger.urlFilter = b.entry.trigger.urlFilter) :
    a.entry.trigger.matchesAllUrls = b.entry.trigger.matchesAllUrls := by
  rw [Trigger.matchesAllUrls, Trigger.matchesAllUrls, h]

/-- The entries are one, or the first makes the second needless, which has its filter. -/
def IsLike (a w : CompiledEntry) : Prop :=
  a = w ∨ a.entry.trigger.urlFilter = w.entry.trigger.urlFilter ∧ subsumes a w = true

section
variable {a b c : CompiledEntry}

theorem IsLike.urlFilter_eq (h : IsLike a b) :
    a.entry.trigger.urlFilter = b.entry.trigger.urlFilter := by
  rcases h with rfl | ⟨h, -⟩
  · rfl
  · exact h

theorem subsumes_of_filter (h : IsBroader a b)
    (hcase : a.entry.trigger.caseSensitive = true → b.entry.trigger.caseSensitive = true)
    (hshortcut : shortcutContained a b = true)
    (hfilter : a.entry.trigger.urlFilter = b.entry.trigger.urlFilter) : subsumes a b = true :=
  subsumes_iff.2 ⟨h, coversUrl_iff.2 (.inr ⟨hcase, hshortcut, .inl hfilter⟩)⟩

theorem subsumes_of_host (h : IsBroader a b) (hshortcut : shortcutContained a b = true)
    (hleads : LeadsByHost a b) : subsumes a b = true := by
  obtain ⟨_, _, -, -, -, hcase, -⟩ := id hleads
  exact subsumes_iff.2 ⟨h, coversUrl_iff.2 (.inr ⟨by simp [hcase], hshortcut, .inr hleads⟩)⟩

theorem subsumes_of_matchesAllUrls (hall : a.entry.trigger.matchesAllUrls = true)
    (h : IsBroader a b) : subsumes a b = true :=
  subsumes_iff.2 ⟨h, coversUrl_iff.2 (.inl hall)⟩

/-- A step from one filter to itself can be made at once with the step before. -/
theorem IsLike.tail (hall : a.entry.trigger.matchesAllUrls = false) (h : IsLike a b)
    (hsub : subsumes b c = true) (hfilter : b.entry.trigger.urlFilter = c.entry.trigger.urlFilter) :
    IsLike a c := by
  rcases h with rfl | ⟨hfilter', hsub'⟩
  · exact .inr ⟨hfilter, hsub⟩
  obtain ⟨hbroader', hcovers'⟩ := subsumes_iff.1 hsub'
  obtain ⟨hbroader, hcovers⟩ := subsumes_iff.1 hsub
  have hallb := (matchesAllUrls_congr hfilter').symm.trans hall
  obtain ⟨hcase', hshortcut', -⟩ := (coversUrl_iff.1 hcovers').resolve_left (by simp [hall])
  obtain ⟨hcase, hshortcut, -⟩ := (coversUrl_iff.1 hcovers).resolve_left (by simp [hallb])
  exact .inr ⟨hfilter'.trans hfilter, subsumes_of_filter (hbroader'.trans hbroader)
    (fun ha => hcase (hcase' ha)) (shortcutContained_trans hcase' hshortcut' hshortcut)
    (hfilter'.trans hfilter)⟩

end

/-! ## Chains -/

/-- What a chain of needless entries comes to, from its first entry to its last. -/
inductive Reaches (run : List CompiledEntry) (a : CompiledEntry) : CompiledEntry → Prop where
  /-- The first entry is for all URLs. -/
  | all {b : CompiledEntry} (hall : a.entry.trigger.matchesAllUrls = true) (h : IsBroader a b) :
    Reaches run a b
  /-- All entries have one filter. -/
  | filter {b : CompiledEntry} (hall : b.entry.trigger.matchesAllUrls = false) (h : IsLike a b) :
    Reaches run a b
  /-- An entry with the filter of the first leads to the host of one with the filter of the last. -/
  | host {b w v : CompiledEntry} (hall : b.entry.trigger.matchesAllUrls = false) (hw : w ∈ run)
    (hlike : IsLike a w) (hbroader : IsBroader w b) (hshortcut : shortcutContained w b = true)
    (hv : v ∈ run) (hfilter : v.entry.trigger.urlFilter = b.entry.trigger.urlFilter)
    (hleads : LeadsByHost w v) : Reaches run a b
  /-- An entry with the filter of the first makes one needless that is for all URLs. -/
  | page {b w n : CompiledEntry} (hw : w ∈ run) (hlike : IsLike a w) (hn : n ∈ run)
    (hsub : subsumes w n = true) (hall : n.entry.trigger.matchesAllUrls = true)
    (hbroader : IsBroader n b) : Reaches run a b

theorem Reaches.refl (run : List CompiledEntry) (a : CompiledEntry) : Reaches run a a := by
  cases hall : a.entry.trigger.matchesAllUrls with
  | true => exact .all hall (.refl a)
  | false => exact .filter hall (.inl rfl)

section
variable {run : List CompiledEntry} {a b c : CompiledEntry}

/-- From an entry with the filter of the first, a step by hosts leads to a pattern or to
an entry for all URLs. -/
theorem Reaches.of_leadsByHost {w : CompiledEntry} (hw : w ∈ run) (hlike : IsLike a w)
    (hc : c ∈ run) (hbroader : IsBroader w c) (hshortcut : shortcutContained w c = true)
    (hleads : LeadsByHost w c) : Reaches run a c := by
  cases hall : c.entry.trigger.matchesAllUrls with
  | true => exact .page hw hlike hc (subsumes_of_host hbroader hshortcut hleads) hall (.refl c)
  | false => exact .host hall hw hlike hbroader hshortcut hc rfl hleads

variable (hpatterns : ∀ c ∈ run, c.IsOfPattern)
include hpatterns

/-- One more needless entry. -/
theorem Reaches.tail (hb : b ∈ run) (hc : c ∈ run) (h : Reaches run a b)
    (hsub : subsumes b c = true) : Reaches run a c := by
  obtain ⟨hbroader, hcovers⟩ := subsumes_iff.1 hsub
  cases h with
  | all hall h => exact .all hall (h.trans hbroader)
  | page hw hlike hn hsub hall h => exact .page hw hlike hn hsub hall (h.trans hbroader)
  | filter hall hlike =>
    obtain ⟨-, hshortcut, hfilter | hleads⟩ :=
      (coversUrl_iff.1 hcovers).resolve_left (by simp [hall])
    · have halla := (matchesAllUrls_congr hlike.urlFilter_eq).trans hall
      exact .filter ((matchesAllUrls_congr hfilter).symm.trans hall) (hlike.tail halla hsub hfilter)
    · exact .of_leadsByHost hb hlike hc hbroader hshortcut hleads
  | @host w v hall hw hlike h hshortcut' hv hfilter' hleads' =>
    obtain ⟨hcase, hshortcut, hfilter | hleads⟩ :=
      (coversUrl_iff.1 hcovers).resolve_left (by simp [hall])
    all_goals
      obtain ⟨_, _, -, -, -, hcasew, -⟩ := id hleads'
      have hshortcut := shortcutContained_trans (by simp [hcasew]) hshortcut' hshortcut
    · exact .host ((matchesAllUrls_congr hfilter).symm.trans hall) hw hlike (h.trans hbroader)
        hshortcut hv (hfilter'.trans hfilter) hleads'
    · -- the last step but one led to the host of this entry
      have hhost : b.host.isSome = true := by
        obtain ⟨_, _, hhost, -⟩ := hleads
        rw [hhost, Option.isSome_some]
      have hmiddle := hleads'.congr (hpatterns v hv) (hpatterns b hb)
        ((matchesAllUrls_congr hfilter').trans hall) hfilter' hhost
      exact .of_leadsByHost hw hlike hc (h.trans hbroader) hshortcut
        (hmiddle.trans (hpatterns w hw) (hpatterns b hb) (hpatterns c hc) hleads)

theorem Reaches.of_leads {P : CompiledEntry → Prop} (hP : ∀ c, P c → c ∈ run) (h : Leads P a b) :
    Reaches run a b := by
  induction h with
  | refl => exact .refl run a
  | tail _ hstep ih =>
    obtain ⟨hb, hc, hsub⟩ := hstep
    exact ih.tail hpatterns (hP _ hb) (hP _ hc) hsub

/-- Where circles of three entries are sound, an entry that a chain leads back to makes
the first one needless. -/
theorem subsumes_of_reaches {x y : CompiledEntry}
    (hcircle : ∀ x ∈ run, ∀ w ∈ run, subsumes x y = true → subsumes y w = true →
      subsumes w x = true → subsumes y x = true)
    (hx : x ∈ run) (hsub : subsumes x y = true) (h : Reaches run y x) :
    subsumes y x = true := by
  obtain ⟨hbroader, hcovers⟩ := subsumes_iff.1 hsub
  have hlast {w : CompiledEntry} (hw : w ∈ run) (hlike : IsLike y w) {x : CompiledEntry}
      (hx : x ∈ run) (hsub : subsumes x y = true) (hback : subsumes w x = true) :
      subsumes y x = true := by
    rcases hlike with rfl | ⟨-, hsub'⟩
    · exact hback
    · exact hcircle x hx w hw hsub hsub' hback
  cases h with
  | all hall h => exact subsumes_of_matchesAllUrls hall h
  | filter hall hlike =>
    rcases hlike with rfl | ⟨-, hback⟩
    · exact hsub
    · exact hback
  | @page w n hw hlike hn hsub' hall h =>
    have hny := subsumes_of_matchesAllUrls hall (h.trans hbroader)
    exact hcircle x hx n hn hsub (hlast hw hlike hn hny hsub') (subsumes_of_matchesAllUrls hall h)
  | @host w v hall hw hlike h hshortcut hv hfilter hleads =>
    refine hlast hw hlike hx hsub ?_
    obtain ⟨-, -, hfilter' | hleads'⟩ := (coversUrl_iff.1 hcovers).resolve_left (by simp [hall])
    · obtain ⟨_, _, -, -, -, hcase, -⟩ := id hleads
      exact subsumes_of_filter h (by simp [hcase]) hshortcut
        (hlike.urlFilter_eq.symm.trans hfilter'.symm)
    · -- both entries name one host
      have hhost : x.host.isSome = true := by
        obtain ⟨_, _, hhost, -⟩ := hleads'
        rw [hhost, Option.isSome_some]
      exact subsumes_of_host h hshortcut (hleads.congr (hpatterns v hv) (hpatterns x hx)
        ((matchesAllUrls_congr hfilter).trans hall) hfilter hhost)

end

/-! ## Entries that count -/

/-- In a list without equal entries, each circle of three is one of three different entries. -/
theorem circle_of_distinct {run : List CompiledEntry}
    (hdistinct : ∀ c ∈ run, ∀ d ∈ run, c.entry = d.entry → c = d) {x y w : CompiledEntry}
    (hx : x ∈ run) (hy : y ∈ run) (hw : w ∈ run) (hxy : subsumes x y = true)
    (hyw : subsumes y w = true) (hwx : subsumes w x = true)
    (h : x.entry ≠ y.entry → y.entry ≠ w.entry → w.entry ≠ x.entry → subsumes y x = true) :
    subsumes y x = true := by
  by_cases hne : x.entry = y.entry
  · rwa [hdistinct x hx y hy hne] at hxy ⊢
  by_cases hne' : y.entry = w.entry
  · rwa [hdistinct y hy w hw hne']
  by_cases hne'' : w.entry = x.entry
  · rwa [← hdistinct w hw x hx hne'']
  exact h hne hne' hne''

/-- For each entry that counts one stays that counts and does the same. -/
theorem exists_counts_removeSubsumed {entries : List CompiledEntry} {q : Request}
    (hpatterns : ∀ c ∈ entries, c.IsOfPattern) (hsound : HasSoundTest entries q)
    (hdistinct : ∀ c ∈ entries, ∀ d ∈ entries, c.entry = d.entry → c = d)
    (hline : '\n' ∉ q.url.toList) {c : CompiledEntry} (hc : c ∈ entries)
    (hcounts : c.entry.counts q = true) :
    ∃ e ∈ removeSubsumed entries, e.entry.counts q = true ∧ e.entry.action = c.entry.action := by
  obtain ⟨i, hi⟩ := List.mem_iff_getElem?.1 hc
  have hplace : (c, i) ∈ entries.zipIdx := List.mem_zipIdx_iff_getElem?.2 hi
  have hheir := @exists_heir entries
    (fun d => d ∈ entries ∧ d.entry.counts q = true ∧ d.entry.action = c.entry.action)
    ?_ ?_ (c, i) hplace ⟨hc, hcounts, rfl⟩
  · obtain ⟨d, hd, ⟨-, hcounts, haction⟩, hend, -⟩ := hheir
    exact ⟨_, mem_removeSubsumed.2 ⟨d, hd, hend, rfl⟩, hcounts, haction⟩
  · rintro a ha d hd ⟨-, hca, haction⟩ hsub
    exact ⟨hd, counts_of_subsumes hsound hpatterns hline hd ha hsub hca,
      (action_of_subsumes hsub).trans haction⟩
  · rintro x y ⟨hx, -, -⟩ ⟨hy, hcy, -⟩ hsub hleads
    refine subsumes_of_reaches hpatterns (fun x hx w hw hxy hyw hwx => ?_) hx hsub
      (.of_leads hpatterns (fun _ => And.left) hleads)
    exact circle_of_distinct hdistinct hx hy hw hxy hyw hwx fun hne hne' hne'' =>
      hsound.circles x hx y hy w hw hne hne' hne'' hcy hxy hyw hwx

end ContentRules.CompiledEntry
