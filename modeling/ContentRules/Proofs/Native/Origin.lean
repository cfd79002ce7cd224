import ContentRules.Filter.CosmeticException
import ContentRules.Filter.Badfilter
import ContentRules.Filter.LineReader
import ContentRules.Native.OfRule
import ContentRules.Proofs.Matching.Verdict
import ContentRules.Proofs.Pattern.UrlFilters

/-!
Where the native entries of a filter list come from. Each is an entry of a rule of one of four
shapes, and the shape fixes its group and the kind of its action. The regular expressions of rules
are read when the rules are, so the url filters of entries are ones that rule lists can hold, and
every list of native entries has a matcher.
-/

namespace ContentRules

/-- Two computations in a row succeed when each does. -/
theorem bind_eq_ok {ε α β : Type} {x : Except ε α} {f : α → Except ε β} {b : β} :
    (x >>= f) = .ok b ↔ ∃ a, x = .ok a ∧ f a = .ok b := by
  cases x with
  | error => exact ⟨nofun, nofun⟩
  | ok a => exact ⟨fun h => ⟨a, rfl, h⟩, fun ⟨_, h, h'⟩ => by cases h; exact h'⟩

theorem toOption_eq_some {ε α : Type} {x : Except ε α} {a : α} :
    x.toOption = some a ↔ x = .ok a := by
  cases x <;> simp [Except.toOption]

/-! ## Rules that can be read -/

/-- If the body has a pattern between slashes, the pattern is a regular expression. -/
def RuleBody.IsReadable (body : RuleBody) : Prop :=
  ∀ isException pattern o, body = .network isException pattern o →
    Pattern.isRegex pattern.toList = true →
      (Regex.read? false (Pattern.regexBody pattern.toList)).isSome = true

/-- A network rule has a pattern, which is a regular expression if it stands between slashes. -/
theorem NetworkRule.exists_of_read {line : List Char} {domains : DomainList} {body : RuleBody}
    (h : NetworkRule.read line = .ok (domains, body)) :
    ∃ isException pattern o, body = .network isException pattern o ∧
      (Pattern.isRegex pattern.toList = true →
        (Regex.read? false (Pattern.regexBody pattern.toList)).isSome = true) := by
  unfold NetworkRule.read at h
  split at h
  · obtain ⟨site, -, h⟩ := bind_eq_ok.1 h
    cases h
    refine ⟨_, _, _, rfl, fun hregex => ?_⟩
    simp [Pattern.isRegex] at hregex
  · split at h
    split at h
    dsimp only at h
    split at h
    all_goals
      obtain ⟨⟨o, sites⟩, -, h⟩ := bind_eq_ok.1 h
      split at h
      · cases h
      split at h
      · cases h
      split at h
      · cases h
      rename_i hvalid
      cases h
      refine ⟨_, _, _, rfl, fun hregex => ?_⟩
      rw [String.toList_ofList] at hregex ⊢
      simpa [hregex, Option.isSome_iff_ne_none] using hvalid

/-- No cosmetic rule is a network rule. -/
theorem CosmeticRule.ne_network_of_readBody {m : Marker} {s : List Char} {body : RuleBody}
    (h : readBody m s = .ok body) (isException : Bool) (pattern : String) (o : Options) :
    body ≠ .network isException pattern o := by
  rintro rfl
  unfold readBody at h
  dsimp only at h
  split at h
  · split at h
    · obtain ⟨_, -, h⟩ := bind_eq_ok.1 h
      obtain ⟨_, -, ⟨⟩⟩ := bind_eq_ok.1 h
    · split at h <;> cases h
  · split at h
    · obtain ⟨_, -, h⟩ := bind_eq_ok.1 h
      obtain ⟨_, -, ⟨⟩⟩ := bind_eq_ok.1 h
    · cases h
  all_goals split at h <;> cases h

/-- A cosmetic rule has no pattern. -/
theorem CosmeticRule.isReadable_of_readBody {m : Marker} {s : List Char} {body : RuleBody}
    (h : readBody m s = .ok body) : body.IsReadable := fun isException pattern o hbody =>
  absurd hbody (ne_network_of_readBody h isException pattern o)

theorem CosmeticRule.exists_of_read? {line : List Char} {rule : DomainList × RuleBody}
    (h : read? line = .ok (some rule)) : ∃ m s, readBody m s = .ok rule.2 := by
  unfold read? at h
  split at h
  · cases h
  split at h
  · cases h
  dsimp only at h
  split at h
  · cases h
  obtain ⟨_, -, h⟩ := bind_eq_ok.1 h
  obtain ⟨_, hbody, h⟩ := bind_eq_ok.1 h
  cases h
  exact ⟨_, _, hbody⟩

/-- The body of a rule is that of a cosmetic rule or of a network rule. -/
theorem Rule.body_of_read {number : Nat} {rawLine : String} {r : Rule}
    (h : Rule.read number rawLine = .ok (some r)) :
    (∃ m s, CosmeticRule.readBody m s = .ok r.body) ∨
      ∃ s, NetworkRule.read s = .ok (r.domains, r.body) := by
  unfold Rule.read at h
  dsimp only at h
  split at h
  · cases h
  obtain ⟨cosmetic, hcosmetic, h⟩ := bind_eq_ok.1 h
  split at h
  · cases h
    exact .inl (CosmeticRule.exists_of_read? hcosmetic)
  · obtain ⟨_, hread, h⟩ := bind_eq_ok.1 h
    cases h
    exact .inr ⟨_, hread⟩

/-- A rule that is read can be read: its pattern is a regular expression if it stands between
slashes. -/
theorem Rule.isReadable_of_read {number : Nat} {rawLine : String} {r : Rule}
    (h : Rule.read number rawLine = .ok (some r)) : r.body.IsReadable := by
  rcases Rule.body_of_read h with ⟨m, s, hbody⟩ | ⟨s, hread⟩
  · exact CosmeticRule.isReadable_of_readBody hbody
  · obtain ⟨_, _, _, hbody, hvalid⟩ := NetworkRule.exists_of_read hread
    rintro _ _ _ hbody' hregex
    cases hbody.symm.trans hbody'
    exact hvalid hregex

theorem FilterList.isReadable_of_mem {lines : List String} {r : Rule}
    (h : r ∈ (FilterList.read lines).rules) : r.body.IsReadable := by
  simp only [FilterList.read, FilterList.ofResults, List.mem_filterMap] at h
  obtain ⟨_, ⟨⟨line, number⟩, -, hline⟩, hr⟩ := h
  split at hr
  · cases hr
    simp only [FilterList.readLine] at hline
    split at hline
    · cases hline
    · cases hline
      exact Rule.isReadable_of_read ‹_›
    · cases hline
  · cases hr

/-! ## Rules on their way to the compiler -/

/-- Narrowing a rule by exceptions only changes its sites. -/
theorem Rule.narrow?_eq_some {r s : Rule} {exceptions : List Rule}
    (h : r.narrow? exceptions = some s) :
    ∃ domains, s = { r with domains } := by
  obtain ⟨domains, -, rfl⟩ := Option.map_eq_some_iff.1 h
  exact ⟨domains, rfl⟩

theorem mem_applyCosmeticExceptions {rules : List Rule} {s : Rule}
    (h : s ∈ (applyCosmeticExceptions rules).1) :
    ∃ r ∈ rules, r.isCosmeticException = false ∧ ∃ domains, s = { r with domains } := by
  simp only [applyCosmeticExceptions, List.mem_filterMap, List.mem_filter, Bool.not_eq_true'] at h
  obtain ⟨r, ⟨hr, hexception⟩, hs⟩ := h
  exact ⟨r, hr, hexception, Rule.narrow?_eq_some hs⟩

theorem mem_of_mem_cancellation {rules : List Rule} {r : Rule}
    (h : r ∈ (Cancellation.ofRules rules).rules) : r ∈ rules :=
  (List.mem_filter.1 (List.mem_filter.1 h).1).1

theorem cancellation_of_none {rules : List Rule} (h : ∀ r ∈ rules, r.isBadfilter = false) :
    (Cancellation.ofRules rules).rules = rules := by
  have hnone : rules.filter Rule.isBadfilter = [] :=
    List.filter_eq_nil_iff.2 fun r hr => by simp [h r hr]
  have hkeys (r : Rule) : r.hasKeyIn (Std.HashSet.ofList []) = false := by
    simp [Rule.hasKeyIn, Option.any_eq_false]
  have hothers : rules.filter (!·.isBadfilter) = rules :=
    List.filter_eq_self.2 fun r hr => by simp [h r hr]
  simp only [Cancellation.ofRules, hnone, hothers, List.filterMap_nil, hkeys]
  exact List.filter_eq_self.2 fun _ _ => rfl

theorem applyCosmeticExceptions_of_none {rules : List Rule}
    (h : ∀ r ∈ rules, r.isCosmeticException = false) :
    applyCosmeticExceptions rules = (rules, []) := by
  have hnone : rules.filter Rule.isCosmeticException = [] :=
    List.filter_eq_nil_iff.2 fun r hr => by simp [h r hr]
  have hothers : rules.filter (!·.isCosmeticException) = rules :=
    List.filter_eq_self.2 fun r hr => by simp [h r hr]
  have hfor (r : Rule) : r.exceptionsFor (Index.ofList (fun e => e.body.target?) []) = [] := by
    unfold Rule.exceptionsFor
    split
    · rfl
    · split <;> simp [Index.find_ofList]
  have hkept (r : Rule) : r.narrow? [] = some r := rfl
  simp only [applyCosmeticExceptions, hnone, hothers, hfor, hkept, List.filterMap_some]

/-- The rules of a filter list that are compiled: those that no `badfilter` rule cancels and that
the exceptions of cosmetic rules leave. -/
def nativeRules (lines : List String) : List Rule :=
  (applyCosmeticExceptions (Cancellation.ofRules (FilterList.read lines).rules).rules).1

theorem isReadable_of_mem_nativeRules {lines : List String} {r : Rule} (h : r ∈ nativeRules lines) :
    r.body.IsReadable := by
  obtain ⟨s, hs, -, domains, rfl⟩ := mem_applyCosmeticExceptions h
  have hs := mem_of_mem_cancellation hs
  exact FilterList.isReadable_of_mem (r := s) hs

/-- If no rule cancels or narrows others, all are compiled. -/
theorem nativeRules_of_none {lines : List String}
    (h :
      ∀ r ∈ (FilterList.read lines).rules, r.isBadfilter = false ∧ r.isCosmeticException = false) :
    nativeRules lines = (FilterList.read lines).rules := by
  rw [nativeRules, cancellation_of_none fun r hr => (h r hr).1,
    applyCosmeticExceptions_of_none fun r hr => (h r hr).2]

/-! ## Url filters -/

theorem Trigger.isReadable_of_isAcceptable {t : Trigger}
    (h : UrlFilter.IsAcceptable t.urlFilter.toList) : t.isReadable = true := h.readable _

theorem Trigger.isAcceptable_of_matchesAllUrls {t : Trigger} (h : t.matchesAllUrls = true) :
    UrlFilter.IsAcceptable t.urlFilter.toList := by
  rw [beq_iff_eq.1 h]
  exact UrlFilter.isAcceptable_all

section
variable {pattern : String} {o : Options} {domains : DomainList} {t : Trigger}

/-- A trigger for the URLs of a pattern holds the filter of the pattern and the condition of the
sites. -/
theorem Trigger.of_ofPattern (h : Trigger.ofPattern pattern o domains = .ok t) :
    ∃ filter condition, UrlFilter.ofPattern pattern.toList = .ok filter ∧
      domains.condition = .ok condition ∧
      t =
        { urlFilter := String.ofList filter, domains := condition,
          caseSensitive := o.matchCase } := by
  obtain ⟨_, -, h⟩ := bind_eq_ok.1 h
  obtain ⟨filter, hfilter, h⟩ := bind_eq_ok.1 h
  obtain ⟨condition, hcondition, h⟩ := bind_eq_ok.1 h
  cases h
  exact ⟨filter, condition, hfilter, hcondition, rfl⟩

/-- A trigger for requests adds to that of the pattern what kinds of requests it is for. -/
theorem Trigger.of_ofRequest (h : Trigger.ofRequest pattern o domains = .ok t) :
    ∃ t' resources, Trigger.ofPattern pattern o domains = .ok t' ∧
      t = { t' with loadTypes := o.loadTypes, resourceTypes := resources } := by
  obtain ⟨t', ht', h⟩ := bind_eq_ok.1 h
  split at h
  · cases h
    exact ⟨t', t'.resourceTypes, ht', rfl⟩
  · obtain ⟨resources, -, h⟩ := bind_eq_ok.1 h
    cases h
    exact ⟨t', _, ht', rfl⟩

/-- A trigger for pages is for all URLs of the pages of one host if there are no sites and the
pattern is just this host; otherwise it is that of the pattern. -/
theorem Trigger.ofPage_cases (h : Trigger.ofPage pattern o domains = .ok t) :
    (domains.isEmpty = true ∧ ∃ host, Pattern.host? pattern.toList = some (host, true) ∧
        t = ofHost host) ∨
      ((domains.isEmpty = true → ∀ host, Pattern.host? pattern.toList ≠ some (host, true)) ∧
        Trigger.ofPattern pattern o domains = .ok t) := by
  obtain ⟨_, -, h⟩ := bind_eq_ok.1 h
  split at h
  · rename_i host hempty hhost
    cases h
    exact .inl ⟨hempty, host, hhost, rfl⟩
  · rename_i hnone
    exact .inr ⟨fun hempty host hhost => hnone host hempty hhost, h⟩

theorem Trigger.of_ofPage (h : Trigger.ofPage pattern o domains = .ok t) :
    Trigger.ofPattern pattern o domains = .ok t ∨
      ∃ host, Pattern.host? pattern.toList = some (host, true) ∧ t = Trigger.ofHost host := by
  rcases Trigger.ofPage_cases h with ⟨-, hhost⟩ | ⟨-, h⟩
  · exact .inr hhost
  · exact .inl h

variable {isException : Bool} (hbody : (RuleBody.network isException pattern o).IsReadable)
include hbody

theorem Trigger.isAcceptable_of_ofPattern (h : Trigger.ofPattern pattern o domains = .ok t) :
    UrlFilter.IsAcceptable t.urlFilter.toList := by
  obtain ⟨filter, condition, hfilter, -, rfl⟩ := Trigger.of_ofPattern h
  rw [String.toList_ofList]
  exact UrlFilter.isAcceptable_of_ofPattern (hbody _ _ _ rfl) hfilter

theorem Trigger.isAcceptable_of_ofRequest (h : Trigger.ofRequest pattern o domains = .ok t) :
    UrlFilter.IsAcceptable t.urlFilter.toList := by
  obtain ⟨t', resources, ht', rfl⟩ := Trigger.of_ofRequest h
  exact Trigger.isAcceptable_of_ofPattern (t := t') hbody ht'

theorem Trigger.isAcceptable_of_ofPage (h : Trigger.ofPage pattern o domains = .ok t) :
    UrlFilter.IsAcceptable t.urlFilter.toList := by
  rcases Trigger.of_ofPage h with h | ⟨host, -, rfl⟩
  · exact Trigger.isAcceptable_of_ofPattern hbody h
  · exact Trigger.isAcceptable_of_matchesAllUrls rfl

end

/-! ## The entries of a rule -/

/-- An entry of a rule, by what the rule does. -/
inductive Rule.Yields (r : Rule) : CompiledEntry → Prop where
  | blocks {pattern : String} {o : Options} {c : CompiledEntry}
      (body : r.body = .network false pattern o)
      (entry : CompiledEntry.ofRequests r.line (if o.important then .important else .urlBlocking)
        .block pattern o r.domains = .ok c) : r.Yields c
  | excepts {pattern : String} {o : Options} {c : CompiledEntry}
      (body : r.body = .network true pattern o) (scopes : o.scopes.isEmpty = true)
      (entry : CompiledEntry.ofRequests r.line
        (if o.important then .importantExceptions else .otherExceptions)
          .ignorePreviousRules pattern
        o r.domains = .ok c) : r.Yields c
  | page {pattern : String} {o : Options} {group : EntryGroup} {t : Trigger}
      (body : r.body = .network true pattern o) (expressible : o.scopes.ensureExpressible = .ok ())
      (scope : o.scopes.pageGroup? = some group)
      (trigger : Trigger.ofPage pattern o r.domains = .ok t) :
      r.Yields (.ofLine r.line group pattern none ⟨t, .ignorePreviousRules⟩)
  | hides {body : String} {condition : Option DomainCondition}
      (body_eq : r.body = .cosmetic false .elementHiding body)
      (selector : (Text.trimmed body).isEmpty = false)
      (condition_eq : r.domains.condition = .ok condition) :
      r.Yields { entry := ⟨{ domains := condition }, .cssDisplayNone (some (Text.trimmed body))⟩
                 group := .ofCondition condition
                 sources := [r.line] }

theorem Rule.yields_of_mem_compile {r : Rule} {cs : List CompiledEntry} (h : r.compile = .ok cs)
    {c : CompiledEntry} (hc : c ∈ cs) : r.Yields c := by
  unfold Rule.compile at h
  split at h
  · rename_i pattern o hbody
    obtain ⟨c', hc', h⟩ := bind_eq_ok.1 h
    cases h
    cases List.mem_singleton.1 hc
    exact .blocks hbody hc'
  · rename_i pattern o hbody
    obtain ⟨_, hexpressible, h⟩ := bind_eq_ok.1 h
    obtain ⟨_, -, h⟩ := bind_eq_ok.1 h
    split at h
    · rename_i group hgroup
      obtain ⟨t, ht, h⟩ := bind_eq_ok.1 h
      cases h
      cases List.mem_singleton.1 hc
      exact .page hbody hexpressible hgroup ht
    · split at h
      · cases h
        cases hc
      rename_i hscopes
      obtain ⟨c', hc', h⟩ := bind_eq_ok.1 h
      cases h
      cases List.mem_singleton.1 hc
      exact .excepts hbody (by simpa using hscopes) hc'
  · rename_i body hbody
    unfold Rule.hidingEntries at h
    dsimp only at h
    split at h
    · cases h
    rename_i hselector
    obtain ⟨condition, hcondition, h⟩ := bind_eq_ok.1 h
    cases h
    cases List.mem_singleton.1 hc
    exact .hides hbody (by simpa using hselector) hcondition
  all_goals
    cases h
    cases hc

theorem Scopes.contains_of_isEmpty {scopes : Scopes} (h : scopes.isEmpty = true) (s : Scope) :
    scopes.contains s = false := by
  have := WordSet.isEmpty_iff.1 h s
  exact Bool.eq_false_iff.2 this

theorem Scopes.isEmpty_of_contains {scopes : Scopes} {s : Scope} (h : scopes.contains s = true) :
    scopes.isEmpty = false :=
  Bool.eq_false_iff.2 fun hempty => Bool.false_ne_true ((contains_of_isEmpty hempty s).symm.trans h)

theorem Options.ensureSupported_iff {o : Options} :
    o.ensureSupported = .ok () ↔ o.unsupported = [] := by
  unfold ensureSupported
  split <;> simp_all

theorem Options.ensureSupported_of_ofPattern {pattern : String} {o : Options} {domains : DomainList}
    {t : Trigger} (h : Trigger.ofPattern pattern o domains = .ok t) :
    o.ensureSupported = .ok () := by
  obtain ⟨_, h, -⟩ := bind_eq_ok.1 h
  exact h

theorem Options.ensureSupported_of_ofPage {pattern : String} {o : Options} {domains : DomainList}
    {t : Trigger} (h : Trigger.ofPage pattern o domains = .ok t) : o.ensureSupported = .ok () := by
  obtain ⟨_, h, -⟩ := bind_eq_ok.1 h
  exact h

theorem Rule.mem_compile_of_yields {r : Rule} {c : CompiledEntry} (h : r.Yields c) :
    r.compile = .ok [c] := by
  cases h with
  | blocks hbody h => simp only [Rule.compile, hbody, Rule.blockingEntries, h]; rfl
  | excepts hbody hscopes h =>
    obtain ⟨t, ht, -⟩ := bind_eq_ok.1 h
    obtain ⟨t', ht', -⟩ := bind_eq_ok.1 ht
    simp only [Rule.compile, hbody, Rule.exceptionEntries, Scopes.ensureExpressible,
      Scopes.contains_of_isEmpty hscopes, Options.ensureSupported_of_ofPattern ht',
      Scopes.pageGroup?, hscopes, h]
    rfl
  | page hbody hexpressible hscope ht =>
    simp only [Rule.compile, hbody, Rule.exceptionEntries, hexpressible,
      Options.ensureSupported_of_ofPage ht, hscope, ht]
    rfl
  | hides hbody hselector hcondition =>
    simp only [Rule.compile, hbody, Rule.hidingEntries, hselector, hcondition]
    rfl

/-- A rule has at most one entry, which is the one that its shape gives it. -/
theorem Rule.yields_iff {r : Rule} {c : CompiledEntry} :
    r.Yields c ↔ ∃ cs, r.compile = .ok cs ∧ c ∈ cs :=
  ⟨fun h => ⟨[c], mem_compile_of_yields h, .head _⟩, fun ⟨_, h, hc⟩ => yields_of_mem_compile h hc⟩

theorem Rule.mem_toOption_compile {r : Rule} {c : CompiledEntry} :
    c ∈ r.compile.toOption.getD [] ↔ r.Yields c := by
  rw [yields_iff]
  cases h : r.compile with
  | error => simp [Except.toOption]
  | ok cs => simp [Except.toOption]

/-- An entry for requests has the trigger of its rule. -/
theorem CompiledEntry.of_ofRequests {line : Nat} {group : EntryGroup} {action : Action}
    {pattern : String} {o : Options} {domains : DomainList} {c : CompiledEntry}
    (h : CompiledEntry.ofRequests line group action pattern o domains = .ok c) :
    ∃ t, Trigger.ofRequest pattern o domains = .ok t ∧
      c = .ofLine line group pattern
        ((Pattern.shortcut? pattern.toList o.matchCase).map String.ofList) ⟨t, action⟩ := by
  obtain ⟨t, ht, h⟩ := bind_eq_ok.1 h
  cases h
  exact ⟨t, ht, rfl⟩

namespace Rule.Yields

variable {r : Rule} {c : CompiledEntry}

theorem sources (h : r.Yields c) : c.sources = [r.line] := by
  cases h with
  | blocks _ h => obtain ⟨_, -, rfl⟩ := CompiledEntry.of_ofRequests h; rfl
  | excepts _ _ h => obtain ⟨_, -, rfl⟩ := CompiledEntry.of_ofRequests h; rfl
  | page => rfl
  | hides => rfl

/-- The entry of a rule has the filter of the rule's pattern, or the one for all URLs. -/
theorem isAcceptable (h : r.Yields c) (hr : r.body.IsReadable) :
    UrlFilter.IsAcceptable c.entry.trigger.urlFilter.toList := by
  cases h with
  | blocks hbody h =>
    obtain ⟨t, ht, rfl⟩ := CompiledEntry.of_ofRequests h
    exact Trigger.isAcceptable_of_ofRequest (hbody ▸ hr) ht
  | excepts hbody _ h =>
    obtain ⟨t, ht, rfl⟩ := CompiledEntry.of_ofRequests h
    exact Trigger.isAcceptable_of_ofRequest (hbody ▸ hr) ht
  | page hbody _ _ ht => exact Trigger.isAcceptable_of_ofPage (hbody ▸ hr) ht
  | hides => exact Trigger.isAcceptable_of_matchesAllUrls rfl

theorem isReadable (h : r.Yields c) (hr : r.body.IsReadable) :
    c.entry.trigger.isReadable = true :=
  Trigger.isReadable_of_isAcceptable (h.isAcceptable hr)

end Rule.Yields

/-! ## The entries of a list of rules -/

/-- The native entries of rules, in the order of their groups. Rules that cannot be compiled have
none. -/
def nativeEntries (rules : List Rule) : List CompiledEntry :=
  CompiledEntry.sortByGroup (rules.flatMap fun r => r.compile.toOption.getD [])

theorem mem_nativeEntries {rules : List Rule} {c : CompiledEntry} :
    c ∈ nativeEntries rules ↔ ∃ r ∈ rules, r.Yields c := by
  simp only [nativeEntries, CompiledEntry.mem_sortByGroup, List.mem_flatMap,
    Rule.mem_toOption_compile]

/-- Native entries have a matcher. -/
theorem exists_matcher_nativeEntries {rules : List Rule} (h : ∀ r ∈ rules, r.body.IsReadable) :
    ∃ m, Matcher.ofEntries? ((nativeEntries rules).map (·.entry)) = some m := by
  refine Matcher.exists_ofEntries? fun e he => ?_
  obtain ⟨c, hc, rfl⟩ := List.mem_map.1 he
  obtain ⟨r, hr, hyields⟩ := mem_nativeEntries.1 hc
  exact hyields.isReadable (h r hr)

end ContentRules
