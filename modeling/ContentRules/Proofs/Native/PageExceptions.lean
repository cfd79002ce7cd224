import ContentRules.Proofs.Native.PlainRules
import ContentRules.Proofs.Pattern.Meaning

/-!
Exceptions for pages, by patterns that are no regular expressions. One that names a host and no
sites means the pages of the host, and its entry is for all URLs there; any other has an entry for
the URLs of its pattern. The test that finds an entry needless compares the hosts of both kinds
alike, so an exception for the pages of a host can give way to one that asks for the URL as well. In
all other cases the test is sound. Main statement: `counts_of_subsumes_page_iff`.
-/

namespace ContentRules

open Pattern

namespace Rule

/-- The rule is an exception for pages, by a pattern that is no regular expression. -/
def IsPageException (r : Rule) : Prop :=
  ∃ pattern o, r.body = .network true pattern o ∧ isRegex pattern.toList = false ∧
    o.scopes.pageGroup?.isSome = true

/-- The rule means the pages of a host: its pattern is the host and no more, and it names no
sites. -/
def IsForHost (r : Rule) : Prop :=
  r.domains.isEmpty = true ∧
    ∃ isException pattern o host, r.body = .network isException pattern o ∧
      host? pattern.toList = some (host, true)

end Rule

/-- Before the host that it reaches, a URL has a scheme with two slashes. -/
theorem Pattern.ReachesHost.slash_mem {host url : List Char} (h : ReachesHost host url) :
    '/' ∈ url := by
  obtain ⟨i, k, -, hstart, -⟩ := h
  obtain ⟨front, hadmits, hbetween⟩ := (exists_spansAll_start true .host).1 ⟨i, hstart⟩
  cases hadmits
  exact hbetween.mem (by simp)

namespace CompiledEntry

section
variable {r : Rule} {c : CompiledEntry} (hr : r.IsPageException) (h : r.Yields c)
include hr h

/-- The entry of an exception for pages, with what is known of its pattern. -/
theorem exists_ofPage : ∃ pattern o t, r.body = .network true pattern o ∧
    isRegex pattern.toList = false ∧ Trigger.ofPage pattern o r.domains = .ok t ∧
    c.entry.trigger = t ∧
    c.host = (host? pattern.toList).map fun (name, _) => String.ofList name := by
  obtain ⟨pattern, o, hbody, hpattern, hscope⟩ := hr
  refine ⟨pattern, o, ?_⟩
  cases h with
  | blocks hbody' => cases hbody.symm.trans hbody'
  | excepts hbody' hscopes =>
    cases hbody.symm.trans hbody'
    simp [Scopes.pageGroup?, Scopes.contains_of_isEmpty hscopes] at hscope
  | page hbody' _ _ ht =>
    cases hbody.symm.trans hbody'
    exact ⟨_, hbody, hpattern, ht, rfl, rfl⟩
  | hides hbody' => cases hbody.symm.trans hbody'

/-- An exception for the pages of a host has an entry for all URLs of these pages. -/
theorem trigger_of_isForHost (hhost : r.IsForHost) :
    ∃ host, c.entry.trigger = Trigger.ofHost host := by
  obtain ⟨pattern, o, t, hbody, -, ht, htrigger, -⟩ := exists_ofPage hr h
  obtain ⟨hempty, _, _, _, host, hbody', hname⟩ := hhost
  cases hbody.symm.trans hbody'
  rcases Trigger.ofPage_cases ht with ⟨-, host, -, rfl⟩ | ⟨hnone, -⟩
  · exact ⟨host, htrigger⟩
  · exact absurd hname (hnone hempty host)

/-- Any other exception for pages has the entry of its pattern. -/
theorem isPlain_of_not_isForHost (hhost : ¬r.IsForHost) : c.IsPlain := by
  obtain ⟨pattern, o, t, hbody, hpattern, ht, rfl, hnamed⟩ := exists_ofPage hr h
  refine ⟨isOfPattern_of_yields h, pattern.toList, ?_, by simp [hnamed]⟩
  rcases Trigger.ofPage_cases ht with ⟨hempty, host, hname, -⟩ | ⟨-, ht⟩
  · exact absurd ⟨hempty, true, pattern, o, host, hbody, hname⟩ hhost
  · exact urlFilter_of_ofPattern ht hpattern

end

section
variable {r s : Rule} {b n : CompiledEntry} (hs : s.IsPageException) (hb : r.Yields b)
  (hn : s.Yields n) (h : subsumes b n = true)
include hs hb hn h

/-- If the broader entry is for all URLs wherever the other means the pages of a host, it counts
where the other counts. -/
theorem counts_of_subsumes_of_isForHost (hr : r.IsPageException)
    (hhost : s.IsForHost → b.entry.trigger.matchesAllUrls = true) {q : Request}
    (hline : '\n' ∉ q.url.toList) (hcounts : n.entry.counts q = true) :
    b.entry.counts q = true := by
  cases hall : b.entry.trigger.matchesAllUrls with
  | true => exact (subsumes_iff.1 h).1.counts hcounts (matchesUrl_of_matchesAllUrls hall _)
  | false =>
    -- neither entry is for the pages of a host, so both are those of their patterns
    have hs' : ¬s.IsForHost := fun hs' => Bool.false_ne_true (hall.symm.trans (hhost hs'))
    have hr' : ¬r.IsForHost := by
      intro hr'
      obtain ⟨host, htrigger⟩ := trigger_of_isForHost hr hb hr'
      rw [htrigger] at hall
      cases hall
    have hb' := isPlain_of_not_isForHost hr hb hr'
    have hn' := isPlain_of_not_isForHost hs hn hs'
    refine counts_of_subsumes (hasSoundTest_pair hb' hn' q) ?_ hline (.head _) (.tail _ (.head _)) h
      hcounts
    simp [hb'.isOfPattern, hn'.isOfPattern]

/-- Otherwise a blank page of the host is one for which only the narrow entry counts. -/
theorem counts_blank (hhost : s.IsForHost) (hall : b.entry.trigger.matchesAllUrls = false) :
    ∃ pageHost, ∀ type,
      n.entry.counts (.ofPage "about:blank" pageHost (.single type)) = true ∧
      b.entry.counts (.ofPage "about:blank" pageHost (.single type)) = false := by
  obtain ⟨host, htrigger⟩ := trigger_of_isForHost hs hn hhost
  obtain ⟨-, -, hfilter | hleads⟩ :=
    (coversUrl_iff.1 (subsumes_iff.1 h).2).resolve_left (by simp [hall])
  · rw [Trigger.matchesAllUrls, hfilter, htrigger] at hall
    cases hall
  obtain ⟨host', -, hhost', -⟩ := hleads
  obtain ⟨p, hp, hpfilter⟩ := (isOfPattern_of_yields hb).pattern host' hhost'
  have hurl : b.entry.trigger.matchesUrl "about:blank".toList = false := by
    rw [Bool.eq_false_iff, ne_eq, matchesUrl_of_expr (hpfilter.resolve_left (by simp [hall]))]
    intro hfound
    exact absurd (ReachesHost.of_found hp hfound).slash_mem (by decide +kernel)
  refine ⟨String.ofList host, fun type => ⟨?_, ?_⟩⟩
  · rw [Entry.counts_eq, Bool.and_eq_true]
    refine ⟨?_, matchesUrl_of_matchesAllUrls (by rw [htrigger]; rfl) _⟩
    have hadmits := DomainValue.admits_self ⟨host, true⟩
    simp [Trigger.matchesKinds, htrigger, Trigger.ofHost, Request.ofPage, DomainCondition.admits?,
      DomainCondition.only?, DomainCondition.admits, hadmits]
  · rw [Entry.counts_eq]
    exact (congrArg _ hurl).trans (Bool.and_false _)

end

end CompiledEntry

open CompiledEntry

/-- Where the entry of an exception for pages makes that of another needless, it counts for
every request that the other counts for, if and only if it is for all URLs or the other does not
mean the pages of a host. -/
theorem counts_of_subsumes_page_iff {r s : Rule} (hr : r.IsPageException) (hs : s.IsPageException)
    {bs ns : List CompiledEntry} (hbs : r.compile = .ok bs) (hns : s.compile = .ok ns)
    {b n : CompiledEntry} (hb : b ∈ bs) (hn : n ∈ ns) (h : subsumes b n = true) :
    (∀ url pageHost type, '\n' ∉ url.toList →
        n.entry.counts (.ofPage url pageHost (.single type)) = true →
        b.entry.counts (.ofPage url pageHost (.single type)) = true) ↔
      (s.IsForHost → b.entry.trigger.matchesAllUrls = true) := by
  have hb := Rule.yields_of_mem_compile hbs hb
  have hn := Rule.yields_of_mem_compile hns hn
  constructor
  · intro hsound hhost
    by_contra hall
    obtain ⟨pageHost, hblank⟩ := counts_blank hs hb hn h hhost (Bool.eq_false_iff.2 hall)
    obtain ⟨hcounts, hnot⟩ := hblank .document
    cases hnot.symm.trans (hsound _ _ _ (by decide +kernel) hcounts)
  · intro hhost url pageHost type hline hcounts
    exact counts_of_subsumes_of_isForHost hs hb hn h hr hhost hline hcounts

/-- An exception for the pages of one host gives way to one for requests to a host above it, on all
sites but one. -/
theorem counts_of_subsumes_page_iff_above :
    let r : Rule := ⟨0, "@@||ads.com^$document,domain=~x.org", ⟨[], ["x.org"]⟩,
      .network true "||ads.com^" { scopes := .single .document }⟩
    let s : Rule := ⟨1, "@@||cdn.ads.com^$document", {},
      .network true "||cdn.ads.com^" { scopes := .single .document }⟩
    r.IsPageException ∧ s.IsPageException ∧ ∃ b n, r.compile = .ok [b] ∧ s.compile = .ok [n] ∧
      subsumes b n = true ∧
      ¬∀ url pageHost type, '\n' ∉ url.toList →
        n.entry.counts (.ofPage url pageHost (.single type)) = true →
        b.entry.counts (.ofPage url pageHost (.single type)) = true := by
  intro r s
  have hr : r.IsPageException := ⟨_, _, rfl, by decide +kernel, by decide⟩
  have hs : s.IsPageException := ⟨_, _, rfl, by decide +kernel, by decide⟩
  have hhost : s.IsForHost := by
    refine ⟨rfl, _, _, _, "cdn.ads.com".toList, rfl, ?_⟩
    decide +kernel
  have hfound : ∃ b ∈ r.compile.toOption.getD [], ∃ n ∈ s.compile.toOption.getD [],
      subsumes b n = true ∧ b.entry.trigger.matchesAllUrls = false := by
    decide +kernel
  obtain ⟨b, hb, n, hn, h, hall⟩ := hfound
  have hbs := Rule.mem_compile_of_yields (Rule.mem_toOption_compile.1 hb)
  have hns := Rule.mem_compile_of_yields (Rule.mem_toOption_compile.1 hn)
  refine ⟨hr, hs, b, n, hbs, hns, h, fun hsound => ?_⟩
  have hsound := (counts_of_subsumes_page_iff hr hs hbs hns (.head _) (.head _) h).1 hsound
  cases hall.symm.trans (hsound hhost)

end ContentRules
