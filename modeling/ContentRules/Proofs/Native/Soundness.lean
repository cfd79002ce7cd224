import ContentRules.Proofs.Native.Cover
import ContentRules.Proofs.Native.Joining
import ContentRules.Proofs.Native.Origin
import ContentRules.Proofs.Native.Removal
import ContentRules.Proofs.Pattern.Hosts

/-!
Where an entry makes another needless, it counts whenever the other does, but for filters that are
no patterns and entries for the pages of a host. And but for patterns that write one host in
different letters, chains of needless entries come to an end, so that for each entry that counts one
stays that counts and does the same. Main statements: `counts_of_subsumes` and
`exists_counts_removeSubsumed`.
-/

namespace ContentRules.CompiledEntry

open Pattern

/-! ## Entries and their patterns -/

/-- What is known of the host of an entry was read off a pattern, which is also that of its url
filter unless the entry is for all URLs. -/
structure IsOfPattern (c : CompiledEntry) : Prop where
  isSome_host : c.pureHost = true → c.host.isSome = true
  pattern : ∀ host, c.host = some host → ∃ p, host? p = some (host.toList, c.pureHost) ∧
    (c.entry.trigger.matchesAllUrls = true ∨ c.entry.trigger.urlFilter = String.ofList (expr p))

theorem isOfPattern_ofLine {line : Nat} {group : EntryGroup} {pattern : String}
    {shortcut : Option String} {entry : Entry}
    (h : (host? pattern.toList).isSome = true →
      entry.trigger.matchesAllUrls = true ∨
        entry.trigger.urlFilter = String.ofList (expr pattern.toList)) :
    IsOfPattern (.ofLine line group pattern shortcut entry) := by
  cases hhost : host? pattern.toList with
  | none => constructor <;> simp [ofLine, hhost]
  | some named =>
    obtain ⟨host, pure⟩ := named
    refine ⟨fun _ => by simp [ofLine, hhost], ?_⟩
    intro name hname
    obtain rfl : String.ofList host = name := by simpa [ofLine, hhost] using hname
    refine ⟨pattern.toList, by simp [ofLine, hhost], h ?_⟩
    rw [hhost, Option.isSome_some]

/-- A regular expression between slashes names no host. -/
theorem not_isRegex_of_host? {p : List Char} (h : (host? p).isSome = true) : isRegex p = false := by
  obtain ⟨⟨host, pure⟩, hhost⟩ := Option.isSome_iff_exists.1 h
  obtain ⟨name, stop, rest, hnames, -⟩ := host?_eq_some hhost
  rw [isRegex, hnames.eq]
  simp

theorem urlFilter_of_ofPattern {pattern : String} {o : Options} {domains : DomainList} {t : Trigger}
    (h : Trigger.ofPattern pattern o domains = .ok t) (hpattern : isRegex pattern.toList = false) :
    t.urlFilter = String.ofList (expr pattern.toList) := by
  obtain ⟨filter, condition, hfilter, -, rfl⟩ := Trigger.of_ofPattern h
  rw [UrlFilter.ofPattern, hpattern, if_neg Bool.false_ne_true] at hfilter
  split at hfilter
  · cases hfilter
  · cases hfilter
    rfl

theorem isOfPattern_ofRequests {line : Nat} {group : EntryGroup} {action : Action}
    {pattern : String} {o : Options} {domains : DomainList} {c : CompiledEntry}
    (h : ofRequests line group action pattern o domains = .ok c) : c.IsOfPattern := by
  obtain ⟨t, ht, rfl⟩ := of_ofRequests h
  obtain ⟨t', resources, ht', rfl⟩ := Trigger.of_ofRequest ht
  refine isOfPattern_ofLine fun hhost => .inr ?_
  have hfilter := urlFilter_of_ofPattern ht' (not_isRegex_of_host? hhost)
  exact hfilter

theorem isOfPattern_of_yields {r : Rule} {c : CompiledEntry} (h : r.Yields c) : c.IsOfPattern := by
  cases h with
  | blocks _ h => exact isOfPattern_ofRequests h
  | excepts _ _ h => exact isOfPattern_ofRequests h
  | page _ _ _ ht =>
    refine isOfPattern_ofLine fun hhost => ?_
    rcases Trigger.of_ofPage ht with ht | ⟨host, -, rfl⟩
    · exact .inr (urlFilter_of_ofPattern ht (not_isRegex_of_host? hhost))
    · exact .inl rfl
  | hides => constructor <;> simp

theorem IsOfPattern.of_bare {c d : CompiledEntry} (h : c.bare = d.bare) (hd : d.IsOfPattern) :
    c.IsOfPattern := by
  rw [eq_of_bare h]
  exact ⟨hd.isSome_host, hd.pattern⟩

section
variable {c d : CompiledEntry}

theorem IsOfPattern.lower_host (hc : c.IsOfPattern) {host : String} (hhost : c.host = some host) :
    Text.lower host.toList = host.toList := by
  obtain ⟨p, hp, -⟩ := hc.pattern host hhost
  obtain ⟨name, -, -, -, hname, -⟩ := host?_eq_some hp
  rw [hname, Text.lower_lower]

/-- Entries with one url filter that name hosts name one host. -/
theorem IsOfPattern.host_eq (hc : c.IsOfPattern) (hd : d.IsOfPattern)
    (hall : c.entry.trigger.matchesAllUrls = false)
    (hfilter : c.entry.trigger.urlFilter = d.entry.trigger.urlFilter) {host host' : String}
    (hhost : c.host = some host) (hhost' : d.host = some host') : host = host' := by
  obtain ⟨p, hp, hp'⟩ := hc.pattern host hhost
  obtain ⟨r, hr, hr'⟩ := hd.pattern host' hhost'
  have hall' : d.entry.trigger.matchesAllUrls = false := by
    rw [Trigger.matchesAllUrls, ← hfilter]
    exact hall
  have hexpr : expr p = expr r := by
    rw [← String.toList_ofList (l := expr p), ← String.toList_ofList (l := expr r),
      ← hp'.resolve_left (by simp [hall]), ← hr'.resolve_left (by simp [hall']), hfilter]
  exact String.toList_inj.1 (host_eq_of_expr_eq hp hr hexpr)

end

/-! ## The test -/

/-- The first entry has the action of the second, and apart from its url filter is as broad. -/
structure IsBroader (b n : CompiledEntry) : Prop where
  action : b.entry.action = n.entry.action
  resources : WordSet.covers b.entry.trigger.resourceTypes n.entry.trigger.resourceTypes = true
  loads : WordSet.covers b.entry.trigger.loadTypes n.entry.trigger.loadTypes = true
  domains : DomainCondition.covers b.entry.trigger.domains n.entry.trigger.domains = true

/-- The pattern of the first entry is a host, and that of the second names the host or one below. -/
def LeadsByHost (b n : CompiledEntry) : Prop :=
  ∃ host host', b.host = some host ∧ n.host = some host' ∧ b.pureHost = true ∧
    b.entry.trigger.caseSensitive = false ∧ hostCovers host.toList host'.toList = true

theorem IsBroader.refl (c : CompiledEntry) : IsBroader c c :=
  ⟨rfl, WordSet.covers_refl _, WordSet.covers_refl _, DomainCondition.covers_refl _⟩

theorem IsBroader.trans {a b c : CompiledEntry} (h : IsBroader a b) (h' : IsBroader b c) :
    IsBroader a c where
  action := h.action.trans h'.action
  resources := WordSet.covers_trans h.resources h'.resources
  loads := WordSet.covers_trans h.loads h'.loads
  domains := DomainCondition.covers_trans h.domains h'.domains

section
variable {b n : CompiledEntry}

theorem coversUrl_iff :
    coversUrl b n = true ↔ b.entry.trigger.matchesAllUrls = true ∨
      (b.entry.trigger.caseSensitive = true → n.entry.trigger.caseSensitive = true) ∧
        shortcutContained b n = true ∧
        (b.entry.trigger.urlFilter = n.entry.trigger.urlFilter ∨ LeadsByHost b n) := by
  have hcase : (!b.entry.trigger.caseSensitive || n.entry.trigger.caseSensitive) = true ↔
      (b.entry.trigger.caseSensitive = true → n.entry.trigger.caseSensitive = true) := by
    cases b.entry.trigger.caseSensitive <;> simp
  simp only [coversUrl, LeadsByHost, Bool.or_eq_true, Bool.and_eq_true, hcase, beq_iff_eq,
    and_assoc]
  cases b.host <;> cases n.host <;> simp [and_assoc]

theorem subsumes_iff : subsumes b n = true ↔ IsBroader b n ∧ coversUrl b n = true := by
  simp only [subsumes, Bool.and_eq_true, beq_iff_eq, and_assoc]
  constructor
  · rintro ⟨haction, hurl, hresources, hloads, hdomains⟩
    exact ⟨⟨haction, hresources, hloads, hdomains⟩, hurl⟩
  · rintro ⟨⟨haction, hresources, hloads, hdomains⟩, hurl⟩
    exact ⟨haction, hurl, hresources, hloads, hdomains⟩

end

/-! ## Hosts -/

theorem intercalate_append_cons (x : Char) {pieces : List (List Char)} (hne : pieces ≠ [])
    (s : List Char) : [x].intercalate pieces ++ x :: s = pieces.flatMap (· ++ [x]) ++ s := by
  induction pieces with
  | nil => exact absurd rfl hne
  | cons piece pieces ih =>
    by_cases hpieces : pieces = []
    · subst hpieces
      simp
    · rw [List.intercalate_cons_of_ne_nil hpieces, List.flatMap_cons, List.append_assoc,
        List.append_assoc, ih hpieces, List.append_assoc, List.append_assoc]

theorem take_length_sub (front host : List Char) :
    (front ++ '.' :: host).take ((front ++ '.' :: host).length - host.length - 1) = front := by
  rw [List.length_append, List.length_cons]
  exact List.take_left' (by omega)

theorem not_mem_of_isPlainLabel {l : List Char} (h : isPlainLabel l = true) : '.' ∉ l := by
  intro hdot
  rw [isPlainLabel, Bool.and_eq_true, List.all_eq_true] at h
  exact absurd (h.2 '.' hdot) (by decide)

/-- The test of hosts only lets plain labels stand in front. -/
theorem hostCovers_iff {host below : List Char} (hhost : Text.lower host = host)
    (hbelow : Text.lower below = below) : hostCovers host below = true ↔ Above host below := by
  rw [hostCovers, Bool.or_eq_true, Text.sameIgnoringCase_iff, Bool.and_eq_true, Domain.covers_iff,
    List.all_eq_true, hhost, hbelow]
  constructor
  · rintro (rfl | ⟨rfl | ⟨front, rfl⟩, hlabels⟩)
    · exact Above.refl below
    · exact Above.refl below
    · rw [take_length_sub] at hlabels
      refine ⟨Text.pieces (· == '.') front, hlabels, ?_⟩
      rw [← intercalate_append_cons '.' (Text.pieces_ne_nil _ _), Text.intercalate_pieces]
  · rintro ⟨labels, hplain, rfl⟩
    by_cases hnil : labels = []
    · subst hnil
      exact .inl rfl
    · have hlabels := fun l hl => not_mem_of_isPlainLabel (hplain l hl)
      rw [← intercalate_append_cons '.' hnil, take_length_sub, Text.pieces_intercalate hnil hlabels]
      exact .inr ⟨.inr (List.suffix_append _ _), hplain⟩

section
variable {a b c : CompiledEntry} (ha : a.IsOfPattern) (hb : b.IsOfPattern) (hc : c.IsOfPattern)

include ha hb in
theorem LeadsByHost.above (h : LeadsByHost a b) {host host' : String} (hhost : a.host = some host)
    (hhost' : b.host = some host') : Above host.toList host'.toList := by
  obtain ⟨_, _, h, h', -, -, hcovers⟩ := h
  obtain rfl := Option.some.inj (h.symm.trans hhost)
  obtain rfl := Option.some.inj (h'.symm.trans hhost')
  exact (hostCovers_iff (ha.lower_host hhost) (hb.lower_host hhost')).1 hcovers

include ha hb hc in
theorem LeadsByHost.trans (h : LeadsByHost a b) (h' : LeadsByHost b c) : LeadsByHost a c := by
  obtain ⟨host, middle, hhost, hmiddle, hpure, hcase, -⟩ := id h
  obtain ⟨_, below, -, hbelow, -⟩ := id h'
  have habove := (h.above ha hb hhost hmiddle).trans (h'.above hb hc hmiddle hbelow)
  exact ⟨host, below, hhost, hbelow, hpure, hcase,
    (hostCovers_iff (ha.lower_host hhost) (hc.lower_host hbelow)).2 habove⟩

include hb hc in
/-- Only the host counts of the entry that is led to. -/
theorem LeadsByHost.congr (hall : b.entry.trigger.matchesAllUrls = false)
    (hfilter : b.entry.trigger.urlFilter = c.entry.trigger.urlFilter) (h : LeadsByHost a b)
    (hhost : c.host.isSome = true) : LeadsByHost a c := by
  obtain ⟨host, below, hhost', hbelow, h⟩ := h
  obtain ⟨below', hbelow'⟩ := Option.isSome_iff_exists.1 hhost
  obtain rfl := hb.host_eq hc hall hfilter hbelow hbelow'
  exact ⟨host, below, hhost', hbelow', h⟩

end

/-! ## Entries that count -/

/-- What the test that finds entries needless takes for granted, of the entries that count for a
request. -/
structure HasSoundTest (run : List CompiledEntry) (q : Request) : Prop where
  /-- A filter that is no pattern still matches when case stops counting. -/
  caseless : ∀ b ∈ run, ∀ n ∈ run, subsumes b n = true → n.entry.counts q = true →
    b.entry.trigger.urlFilter = n.entry.trigger.urlFilter →
    b.entry.trigger.caseSensitive = false → n.entry.trigger.caseSensitive = true →
    (∀ p, b.entry.trigger.urlFilter ≠ String.ofList (expr p)) →
    b.entry.trigger.matchesUrl q.url.toList = true
  /-- An entry for all URLs is only made needless by one whose filter matches. -/
  pages : ∀ b ∈ run, ∀ n ∈ run, subsumes b n = true → n.entry.counts q = true →
    n.entry.trigger.matchesAllUrls = true → b.entry.trigger.matchesUrl q.url.toList = true
  /-- Of three entries each of which makes the next one needless, the next ones do so too. -/
  circles : ∀ x ∈ run, ∀ y ∈ run, ∀ w ∈ run, x.entry ≠ y.entry → y.entry ≠ w.entry →
    w.entry ≠ x.entry → y.entry.counts q = true → subsumes x y = true → subsumes y w = true →
    subsumes w x = true → subsumes y x = true

theorem found_nil (ignoreCase : Bool) (url : List Char) : Found ignoreCase [] url :=
  ⟨0, 0, 0, Regex.spans_repeated.2 ⟨Nat.zero_le _, 0, Nat.zero_le _, by simp, rfl⟩, rfl,
    Nat.zero_le _⟩

theorem matchesUrl_of_expr {t : Trigger} {p url : List Char}
    (h : t.urlFilter = String.ofList (expr p)) :
    t.matchesUrl url = true ↔ Found (!t.caseSensitive) p url := by
  rw [Trigger.matchesUrl, h, String.toList_ofList, any_occursIn_expr]

theorem matchesUrl_congr {t t' : Trigger} (hfilter : t.urlFilter = t'.urlFilter)
    (hcase : t.caseSensitive = t'.caseSensitive) (url : List Char) :
    t.matchesUrl url = t'.matchesUrl url := by
  rw [Trigger.matchesUrl, Trigger.matchesUrl, hfilter, hcase]

theorem matchesUrl_of_matchesAllUrls {t : Trigger} (h : t.matchesAllUrls = true) (url : List Char) :
    t.matchesUrl url = true :=
  (matchesUrl_of_expr (p := []) (beq_iff_eq.1 h)).2 (found_nil _ url)

/-- A broader entry counts where the other counts if its url filter matches. -/
theorem IsBroader.counts {b n : CompiledEntry} {q : Request} (h : IsBroader b n)
    (hcounts : n.entry.counts q = true) (hurl : b.entry.trigger.matchesUrl q.url.toList = true) :
    b.entry.counts q = true := by
  rw [Entry.counts_eq, Trigger.matchesKinds] at hcounts ⊢
  simp only [Bool.and_eq_true] at hcounts ⊢
  obtain ⟨⟨hadmits, hexpanded, hload⟩, -⟩ := hcounts
  refine ⟨⟨DomainCondition.admits_of_covers h.domains hadmits, ?_, ?_⟩, hurl⟩
  · have hmeets := WordSet.meets_of_covers (s := q.resourceTypes)
      (ResourceTypes.covers_expanded h.resources)
    simp only [Option.map_map, Function.comp_def] at hmeets
    exact hmeets hexpanded
  · exact WordSet.meets_of_covers h.loads hload

section
variable {run : List CompiledEntry} {q : Request} (hsound : HasSoundTest run q)
  (hpatterns : ∀ c ∈ run, c.IsOfPattern) (hline : '\n' ∉ q.url.toList)
  {b n : CompiledEntry} (hb : b ∈ run) (hn : n ∈ run) (h : subsumes b n = true)
  (hcounts : n.entry.counts q = true)
include hsound hpatterns hline hb hn h hcounts

theorem matchesUrl_of_subsumes (hurl : n.entry.trigger.matchesUrl q.url.toList = true) :
    b.entry.trigger.matchesUrl q.url.toList = true := by
  obtain ⟨-, hcovers⟩ := subsumes_iff.1 h
  rcases coversUrl_iff.1 hcovers with hall | ⟨hcase, -, hfilter | hleads⟩
  · exact matchesUrl_of_matchesAllUrls hall _
  · cases hcb : b.entry.trigger.caseSensitive with
    | true => exact (matchesUrl_congr hfilter (hcb.trans (hcase hcb).symm) _).trans hurl
    | false =>
      cases hcn : n.entry.trigger.caseSensitive with
      | false => exact (matchesUrl_congr hfilter (hcb.trans hcn.symm) _).trans hurl
      | true =>
        by_cases hpattern : ∃ p, b.entry.trigger.urlFilter = String.ofList (expr p)
        · obtain ⟨p, hp⟩ := hpattern
          rw [matchesUrl_of_expr (hfilter.symm.trans hp), hcn] at hurl
          rw [matchesUrl_of_expr hp, hcb]
          exact found_ignoringCase hurl
        · exact hsound.caseless b hb n hn h hcounts hfilter hcb hcn (not_exists.1 hpattern)
  · obtain ⟨host, host', hhost, hhost', hpure, hcb, -⟩ := id hleads
    obtain ⟨p, hp, hpfilter⟩ := (hpatterns b hb).pattern host hhost
    obtain ⟨r, hr, hrfilter⟩ := (hpatterns n hn).pattern host' hhost'
    rcases hpfilter with hall | hpfilter
    · exact matchesUrl_of_matchesAllUrls hall _
    rcases hrfilter with hall | hrfilter
    · exact hsound.pages b hb n hn h hcounts hall
    -- the URL reaches the host of the narrow pattern, and so the host above it
    have habove := hleads.above (hpatterns b hb) (hpatterns n hn) hhost hhost'
    have hreaches := ReachesHost.of_found hr ((matchesUrl_of_expr hrfilter).1 hurl)
    rw [matchesUrl_of_expr hpfilter, hcb]
    exact (hreaches.of_above habove ((hpatterns n hn).lower_host hhost')).found (hpure ▸ hp) hline

/-- An entry that makes another needless counts where the other counts. -/
theorem counts_of_subsumes : b.entry.counts q = true := by
  have hurl := hcounts
  rw [Entry.counts_eq, Bool.and_eq_true] at hurl
  exact (subsumes_iff.1 h).1.counts hcounts
    (matchesUrl_of_subsumes hsound hpatterns hline hb hn h hcounts hurl.2)

end

end ContentRules.CompiledEntry
