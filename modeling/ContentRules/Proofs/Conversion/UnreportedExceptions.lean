import ContentRules.Proofs.Conversion.PayloadListing
import ContentRules.Proofs.Filter.Narrowing
import ContentRules.Proofs.Native.Soundness

/-!
What becomes of the exceptions for pages in a conversion with the advanced payload. Such an
exception has entries in the payload if its trigger can be made. If not, the payload leaves it out
without a word and relies on the native list to report it. The native list does so for an exception
that has entries there; one that only concerns scripts has none, and its trigger is not looked at.
Main statement: `reported_or_carried_iff`.
-/

namespace ContentRules

open DomainList

/-! ## Triggers for pages -/

/-- A pattern that names a host has a url filter. -/
theorem UrlFilter.exists_ofPattern_of_host? {p host : List Char}
    (h : Pattern.host? p = some (host, true)) : ∃ filter, UrlFilter.ofPattern p = .ok filter := by
  have hregex := CompiledEntry.not_isRegex_of_host? (Option.isSome_of_eq_some h)
  obtain ⟨name, stop, rest, hnames, -, hpure⟩ := Pattern.host?_eq_some h
  obtain ⟨rfl, rfl⟩ := hpure rfl
  have hascii : Text.isAscii p = true := by
    have hchars : ∀ c ∈ p, c.toNat < 128 := by
      simp only [hnames.eq, List.mem_cons, List.mem_append, List.not_mem_nil, or_false]
      rintro c (rfl | rfl | hc | rfl)
      · decide
      · decide
      · exact Pattern.toNat_lt_of_isHostChar (hnames.chars c hc)
      · decide
    exact List.all_eq_true.2 fun c hc => decide_eq_true (hchars c hc)
  exact ⟨_, by rw [ofPattern, if_neg (by simp [hregex]), if_neg (by simp [hascii])]⟩

section
variable {pattern : String} {o : Options} {domains : DomainList}

theorem Trigger.exists_ofPattern_iff : (∃ t, ofPattern pattern o domains = .ok t) ↔
    o.unsupported = [] ∧ (∃ filter, UrlFilter.ofPattern pattern.toList = .ok filter) ∧
      ¬domains.Conflicts := by
  rw [← exists_condition_iff, ← Options.ensureSupported_iff]
  constructor
  · rintro ⟨t, ht⟩
    obtain ⟨filter, condition, hfilter, hcondition, -⟩ := Trigger.of_ofPattern ht
    exact ⟨Options.ensureSupported_of_ofPattern ht, ⟨filter, hfilter⟩, condition, hcondition⟩
  · rintro ⟨hsupported, ⟨filter, hfilter⟩, condition, hcondition⟩
    exact ⟨_, bind_eq_ok.2 ⟨_, hsupported, bind_eq_ok.2 ⟨_, hfilter,
      bind_eq_ok.2 ⟨_, hcondition, rfl⟩⟩⟩⟩

/-- The trigger of an exception for pages can be made if its options are supported, its pattern has
a url filter and its sites do not conflict. -/
theorem Trigger.exists_ofPage_iff : (∃ t, ofPage pattern o domains = .ok t) ↔
    o.unsupported = [] ∧ (∃ filter, UrlFilter.ofPattern pattern.toList = .ok filter) ∧
      ¬domains.Conflicts := by
  constructor
  · rintro ⟨t, ht⟩
    rcases Trigger.ofPage_cases ht with ⟨hempty, host, hhost, -⟩ | ⟨-, ht⟩
    · refine ⟨Options.ensureSupported_iff.1 (Options.ensureSupported_of_ofPage ht),
        UrlFilter.exists_ofPattern_of_host? hhost, fun hconflicts => hconflicts.1 ?_⟩
      simpa using (Bool.and_eq_true_iff.1 hempty).1
    · exact exists_ofPattern_iff.1 ⟨t, ht⟩
  · intro h
    obtain ⟨t, ht⟩ := exists_ofPattern_iff.2 h
    unfold ofPage
    rw [Options.ensureSupported_of_ofPattern ht]
    dsimp only [bind, Except.bind]
    split
    · exact ⟨_, rfl⟩
    · exact ⟨t, ht⟩

end

/-! ## The payload -/

namespace Conversion

/-- The payload that the rules of the lines come to. -/
def payloadOf (config : Config) (lines : List String) : AdvancedPayload :=
  .ofRules (prepare config (FilterList.read lines).rules).rules

/-- The payload names the line of an exception among its sources, and as it is written it has an
entry of the exception. -/
structure Carries (config : Config) (lines : List String) (c : Conversion) (r : Rule)
    (pattern : String) (o : Options) : Prop where
  source : r.line ∈ (payloadOf config lines).sources
  entry : ∃ p, c.advanced = some p ∧ ∃ e ∈ p.entries, e.action = .ignorePreviousRules ∧
    Trigger.ofPage pattern o r.domains = .ok e.trigger

variable {config : Config} {lines : List String} {r : Rule}

theorem exists_advanced_ofLines (lines : List String) (hwanted : config.advanced.isSome = true) :
    ∃ p, (ofLines config lines).advanced = some p ∧
      p.entries = (payloadOf config lines).entries := by
  obtain ⟨format, hformat⟩ := Option.isSome_iff_exists.1 hwanted
  rw [ofLines, advanced_ofList, advancedPart, hformat]
  exact ⟨_, rfl, rfl⟩

/-- A network rule is left as it is by exceptions of cosmetic rules. -/
theorem mem_prepare_of_network (hr : r ∈ remaining lines) (hbody : r.body.target? = none) :
    r ∈ (prepare config (FilterList.read lines).rules).rules := by
  have hexcluded (rules : List Rule) : r.excluded rules = [] := by
    rw [Rule.excluded, Rule.exceptionsFor, hbody]
    rfl
  have hrule : r.isCosmeticException = false ∧ r.hidesByHas = false := by
    unfold Rule.isCosmeticException Rule.hidesByHas
    cases hr : r.body with
    | network => exact ⟨rfl, rfl⟩
    | _ => rw [hr] at hbody; cases hbody
  rw [rules_prepare]
  refine List.mem_map.2
    ⟨r, mem_applyCosmeticExceptions_iff.2 ⟨r, hr, hrule.1, r.domains, ?_, rfl⟩, ?_⟩
  · rw [hexcluded]
    rfl
  · rw [placed, hrule.2, Bool.and_false]
    rfl

/-- The payload carries an exception for pages if and only if its trigger can be made. -/
theorem carries_iff (hwanted : config.advanced.isSome = true)
    (hr : r ∈ (prepare config (FilterList.read lines).rules).rules) {pattern : String} {o : Options}
    (hbody : r.body = .network true pattern o) (hsections : o.scopes.payloadSections ≠ []) :
    Carries config lines (ofLines config lines) r pattern o ↔
      ∃ t, Trigger.ofPage pattern o r.domains = .ok t := by
  constructor
  · rintro ⟨-, p, -, e, -, -, ht⟩
    exact ⟨e.trigger, ht⟩
  · rintro ⟨t, ht⟩
    obtain ⟨s, hs⟩ := List.exists_mem_of_ne_nil _ hsections
    have hplaced : (s, ⟨t, .ignorePreviousRules⟩) ∈ (AdvancedPayload.contribution r).placed :=
      AdvancedPayload.mem_placed_iff.2 (.inl ⟨pattern, o, t, hbody, ht, hs, rfl⟩)
    obtain ⟨p, hp, hentries⟩ := exists_advanced_ofLines lines hwanted
    refine ⟨mem_sources.2 ⟨r, hr, List.ne_nil_of_mem hplaced, rfl⟩, p, hp,
      ⟨t, .ignorePreviousRules⟩, ?_, rfl, ht⟩
    rw [hentries]
    exact AdvancedPayload.mem_entries_of_placed hr hplaced

end Conversion

open Conversion

/-- The exception only concerns scripts or the content of pages, it has no option that cannot be
followed, and its trigger cannot be made. -/
structure IsUnreported (pattern : String) (o : Options) (domains : DomainList) : Prop where
  scopes : ∀ s, o.scopes.contains s = true → s = .jsinject ∨ s = .content
  supported : o.unsupported = []
  noTrigger : (¬∃ filter, UrlFilter.ofPattern pattern.toList = .ok filter) ∨ domains.Conflicts

theorem Scopes.pageGroup?_eq_none {scopes : Scopes} : scopes.pageGroup? = none ↔
    ∀ s ∈ [Scope.document, .elemhide, .generichide], scopes.contains s = false := by
  unfold pageGroup?
  split_ifs <;> simp_all

theorem Scopes.only_scripts_iff {scopes : Scopes} :
    (∀ s, scopes.contains s = true → s = .jsinject ∨ s = .content) ↔
      scopes.ensureExpressible = .ok () ∧ scopes.pageGroup? = none := by
  have hexpressible : scopes.ensureExpressible = .ok () ↔
      ¬(scopes.contains .urlblock = true ∨ scopes.contains .genericblock = true) := by
    rw [← ensureExpressible_ne_ok, not_not]
  rw [pageGroup?_eq_none, hexpressible]
  constructor
  · intro h
    have hnot (s : Scope) (hs : s ≠ .jsinject ∧ s ≠ .content) : scopes.contains s = false :=
      Bool.eq_false_iff.2 fun hcontains => (h s hcontains).elim hs.1 hs.2
    simp [hnot]
  · rintro ⟨hexpressible, hgroup⟩ s hs
    cases s <;> simp_all

theorem Scopes.payloadSections_ne_nil {scopes : Scopes}
    (h : ∃ s ∈ [Scope.document, .elemhide, .generichide, .jsinject], scopes.contains s = true) :
    scopes.payloadSections ≠ [] := by
  unfold payloadSections
  split_ifs <;> simp_all

/-- With the payload wanted, every exception for pages that no other rule cancels is reported as
failed or has its line and an entry in the payload, save those that are unreported. -/
theorem reported_or_carried_iff {config : Config} (hwanted : config.advanced.isSome = true)
    {lines : List String} {c : Conversion} (h : convert config lines = .ok c) {r : Rule}
    (hr : r ∈ remaining lines) {pattern : String} {o : Options}
    (hbody : r.body = .network true pattern o)
    (hscope :
      ∃ s ∈ [Scope.document, .elemhide, .generichide, .jsinject], o.scopes.contains s = true) :
    c.hasFailed r.line = true ∨ Carries config lines c r pattern o ↔
      ¬IsUnreported pattern o r.domains := by
  obtain ⟨_, -, h⟩ := bind_eq_ok.1 h
  cases h
  have hprepared : r ∈ (prepare config (FilterList.read lines).rules).rules :=
    mem_prepare_of_network hr (by rw [hbody]; rfl)
  have hscopes : o.scopes.isEmpty = false :=
    hscope.elim fun s hs => Scopes.isEmpty_of_contains hs.2
  rw [hasFailed_line hprepared, Rule.fails_iff_of_exception hbody hscopes,
    carries_iff hwanted hprepared hbody (Scopes.payloadSections_ne_nil hscope)]
  have hunreported : IsUnreported pattern o r.domains ↔
      (o.scopes.ensureExpressible = .ok () ∧ o.scopes.pageGroup? = none) ∧ o.unsupported = [] ∧
        ¬∃ t, Trigger.ofPage pattern o r.domains = .ok t := by
    rw [← Scopes.only_scripts_iff, Trigger.exists_ofPage_iff]
    constructor
    · rintro ⟨hscopes, hsupported, htrigger⟩
      exact ⟨hscopes, hsupported, fun h => htrigger.elim (· h.2.1) h.2.2⟩
    · rintro ⟨hscopes, hsupported, htrigger⟩
      exact ⟨hscopes, hsupported, not_and_or.1 (not_and.1 htrigger hsupported) |>.imp id not_not.1⟩
  rw [hunreported]
  constructor
  · rintro ((hexpressible | hsupported | ⟨hgroup, -⟩) | ht)
      ⟨⟨hexpressible', hgroup'⟩, hsupported', ht'⟩
    · exact hexpressible hexpressible'
    · exact hsupported hsupported'
    · exact hgroup hgroup'
    · exact ht' ht
  · intro h
    by_contra hnot
    simp only [not_or, not_and, not_not, ne_eq] at hnot
    obtain ⟨⟨hexpressible, hsupported, hgroup⟩, ht⟩ := hnot
    refine h ⟨⟨hexpressible, ?_⟩, hsupported, ht⟩
    by_contra hgroup'
    exact ht (hgroup hgroup')

/-- An exception for the scripts of pages whose sites conflict is neither reported nor carried. -/
theorem reported_or_carried_iff_conflicts :
    let config : Config := { advanced := some .json }
    let lines := ["@@||example.com^$jsinject,domain=a.com|~a.com"]
    ∃ c r pattern o, convert config lines = .ok c ∧ r ∈ remaining lines ∧
      r.body = .network true pattern o ∧ o.scopes.contains .jsinject = true ∧
      c.hasFailed r.line = false ∧ ¬Carries config lines c r pattern o := by
  intro config lines
  let r : Rule :=
    ⟨0, "@@||example.com^$jsinject,domain=a.com|~a.com", ⟨["a.com"], ["a.com"]⟩,
      .network true "||example.com^" { scopes := .single .jsinject }⟩
  have hrules : (FilterList.read lines).rules = [r] := by decide +kernel
  have hr : r ∈ remaining lines := by
    rw [remaining, hrules, cancellation_of_none (by simp [r, Rule.isBadfilter])]
    exact .head _
  have hunreported : IsUnreported "||example.com^" { scopes := .single .jsinject } r.domains :=
    ⟨fun s => by cases s <;> decide, rfl, .inr ⟨by decide, by decide⟩⟩
  have hnone := mt (@reported_or_carried_iff config rfl lines _ rfl r hr _ _ rfl
    ⟨.jsinject, by decide, by decide⟩).1 (not_not.2 hunreported)
  rw [not_or, Bool.not_eq_true] at hnone
  exact ⟨_, r, _, _, rfl, hr, rfl, by decide, hnone.1, hnone.2⟩

end ContentRules
