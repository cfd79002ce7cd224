import ContentRules.Proofs.Native.Soundness

/-!
Rules for requests whose patterns are no regular expressions. Between their entries the test that
finds one of them needless is sound without further ado: where an entry makes another needless, it
counts for every request that the other counts for. Main statement: `counts_of_subsumes_plain`.
-/

namespace ContentRules

open Pattern

/-- The rule blocks or excepts requests, by a pattern that is no regular expression. An exception
has no scope that is a page. -/
def Rule.IsPlain (r : Rule) : Prop :=
  ∃ isException pattern o, r.body = .network isException pattern o ∧
    isRegex pattern.toList = false ∧ (isException = true → o.scopes.pageGroup? = none)

namespace CompiledEntry

/-- The url filter of the entry is that of a pattern, and what is known of a host was read off this
pattern. -/
structure IsPlain (c : CompiledEntry) : Prop where
  isOfPattern : c.IsOfPattern
  pattern : ∃ p, c.entry.trigger.urlFilter = String.ofList (expr p) ∧
    (c.host.isSome = true → (host? p).isSome = true)

theorem isPlain_ofRequests {line : Nat} {group : EntryGroup} {action : Action} {pattern : String}
    {o : Options} {domains : DomainList} {c : CompiledEntry}
    (h : ofRequests line group action pattern o domains = .ok c)
    (hpattern : isRegex pattern.toList = false) : c.IsPlain := by
  refine ⟨isOfPattern_ofRequests h, pattern.toList, ?_⟩
  obtain ⟨t, ht, rfl⟩ := of_ofRequests h
  obtain ⟨t', resources, ht', rfl⟩ := Trigger.of_ofRequest ht
  have hfilter := urlFilter_of_ofPattern ht' hpattern
  exact ⟨hfilter, by simp [ofLine]⟩

theorem isPlain_of_yields {r : Rule} (hr : r.IsPlain) {c : CompiledEntry} (h : r.Yields c) :
    c.IsPlain := by
  obtain ⟨isException, pattern, o, hbody, hpattern, hscopes⟩ := hr
  cases h with
  | blocks hbody' h =>
    cases hbody.symm.trans hbody'
    exact isPlain_ofRequests h hpattern
  | excepts hbody' _ h =>
    cases hbody.symm.trans hbody'
    exact isPlain_ofRequests h hpattern
  | page hbody' _ hscope _ =>
    cases hbody.symm.trans hbody'
    cases (hscopes rfl).symm.trans hscope
  | hides hbody' => cases hbody.symm.trans hbody'

/-- A pattern that names a host does not stand for all URLs: its expression starts with a scheme. -/
theorem expr_ne_of_isSome_host? {p : List Char} (h : (host? p).isSome = true) :
    expr p ≠ ".*".toList := by
  obtain ⟨⟨host, pure⟩, hhost⟩ := Option.isSome_iff_exists.1 h
  obtain ⟨name, stop, rest, hnames, -⟩ := host?_eq_some hhost
  have hstart : (parts p).start = .host := by
    rw [hnames.eq, parts_bars]
    split <;> rfl
  have hparts : parts p ≠ ⟨.anywhere, [], false⟩ := by
    intro hparts
    cases hstart.symm.trans (congrArg Parts.start hparts)
  have hanchor : hostAnchor = '^' :: hostAnchor.tail := by decide +kernel
  rw [expr, if_neg hparts, hstart, Start.expr, hanchor]
  simp

section
variable {b n : CompiledEntry}

theorem IsPlain.matchesAllUrls_of_coversUrl (hn : n.IsPlain)
    (hall : n.entry.trigger.matchesAllUrls = true)
    (h : coversUrl b n = true) : b.entry.trigger.matchesAllUrls = true := by
  rcases coversUrl_iff.1 h with hb | ⟨-, -, hfilter | ⟨-, host, -, hhost, -⟩⟩
  · exact hb
  · rwa [Trigger.matchesAllUrls, hfilter]
  · obtain ⟨p, hp, hnamed⟩ := hn.pattern
    rw [Trigger.matchesAllUrls, beq_iff_eq, hp] at hall
    exact absurd (String.ofList_injective (hall.trans String.ofList_toList.symm))
      (expr_ne_of_isSome_host? (hnamed (Option.isSome_of_eq_some hhost)))

/-- Two plain entries are too few for a circle, and have none of the filters that the test
misjudges. -/
theorem hasSoundTest_pair (hb : b.IsPlain) (hn : n.IsPlain) (q : Request) :
    HasSoundTest [b, n] q := by
  have hplain : ∀ c ∈ [b, n], c.IsPlain := by simp [hb, hn]
  refine ⟨?_, ?_, ?_⟩
  · intro c hc _ _ _ _ _ _ _ hpattern
    obtain ⟨p, hp, -⟩ := (hplain c hc).pattern
    exact absurd hp (hpattern p)
  · intro c _ d hd h _ hall
    exact matchesUrl_of_matchesAllUrls
      ((hplain d hd).matchesAllUrls_of_coversUrl hall (subsumes_iff.1 h).2) _
  · intro x hx y hy w hw hxy hyw hwx
    -- of three members of a pair two are the same
    simp only [List.mem_cons, List.not_mem_nil, or_false] at hx hy hw
    grind

end

end CompiledEntry

open CompiledEntry

/-- Where the entry of a plain rule makes that of another needless, it counts for every request that
the other counts for. -/
theorem counts_of_subsumes_plain {r s : Rule} (hr : r.IsPlain) (hs : s.IsPlain)
    {bs ns : List CompiledEntry} (hbs : r.compile = .ok bs) (hns : s.compile = .ok ns)
    {b n : CompiledEntry} (hb : b ∈ bs) (hn : n ∈ ns) (h : subsumes b n = true) {q : Request}
    (hline : '\n' ∉ q.url.toList) (hcounts : n.entry.counts q = true) :
    b.entry.counts q = true := by
  have hb := isPlain_of_yields hr (Rule.yields_of_mem_compile hbs hb)
  have hn := isPlain_of_yields hs (Rule.yields_of_mem_compile hns hn)
  refine counts_of_subsumes (hasSoundTest_pair hb hn q) ?_ hline (.head _) (.tail _ (.head _))
    h hcounts
  simp [hb.isOfPattern, hn.isOfPattern]

/-- The port and the path of the second pattern come after its host, which lies below that of the
first. -/
theorem counts_of_subsumes_plain_port :
    let r : Rule := ⟨0, "||ads.com^", {}, .network false "||ads.com^" {}⟩
    let s : Rule := ⟨1, "||CDN.ads.com:8080/x$match-case", {},
      .network false "||CDN.ads.com:8080/x" { matchCase := true }⟩
    let q := Request.ofPage "https://CDN.ads.com:8080/x" "b.com" (.single .script)
    r.IsPlain ∧ s.IsPlain ∧ '\n' ∉ q.url.toList ∧ ∃ b n, r.compile = .ok [b] ∧ s.compile = .ok [n] ∧
      subsumes b n = true ∧ n.entry.counts q = true ∧ b.entry.counts q = true := by
  intro r s q
  have hr : r.IsPlain := ⟨_, _, _, rfl, by decide +kernel, nofun⟩
  have hs : s.IsPlain := ⟨_, _, _, rfl, by decide +kernel, nofun⟩
  have hline : '\n' ∉ q.url.toList := by decide +kernel
  have hfound : ∃ b ∈ r.compile.toOption.getD [], ∃ n ∈ s.compile.toOption.getD [],
      subsumes b n = true ∧ n.entry.counts q = true := by
    decide +kernel
  obtain ⟨b, hb, n, hn, h, hcounts⟩ := hfound
  have hbs := Rule.mem_compile_of_yields (Rule.mem_toOption_compile.1 hb)
  have hns := Rule.mem_compile_of_yields (Rule.mem_toOption_compile.1 hn)
  exact ⟨hr, hs, hline, b, n, hbs, hns, h, hcounts,
    counts_of_subsumes_plain hr hs hbs hns (.head _) (.head _) h hline hcounts⟩

end ContentRules
