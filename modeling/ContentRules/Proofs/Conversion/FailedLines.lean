import ContentRules.Proofs.Conversion.FailingRules
import Mathlib.Data.List.Flatten

/-!
Lines that fail cost nothing but themselves: with these lines blank, a conversion reports no
failures and has the same rule list. The payload has one flaw. An exception with the scope
`urlblock` or `genericblock` fails as a native rule, but if it has a scope that the payload knows as
well, its entries there are kept. Main statement: `convert_withoutFailed`.
-/

namespace ContentRules

/-- An exception with scopes that have no counterpart in a rule list, and others that
have one in the payload. -/
def Rule.IsHalfExpressible (r : Rule) : Prop :=
  ∃ pattern o t, r.body = .network true pattern o ∧
    (o.scopes.contains .urlblock = true ∨ o.scopes.contains .genericblock = true) ∧
    o.scopes.payloadSections ≠ [] ∧ Trigger.ofPage pattern o r.domains = .ok t

/-- Neither a half expressible exception nor any other rule is compiled if it has scopes without a
counterpart. -/
theorem Rule.IsHalfExpressible.fails {r : Rule} (h : r.IsHalfExpressible) (config : Config) :
    r.fails config = true := by
  obtain ⟨pattern, o, t, hbody, hscopes, -, -⟩ := h
  have hempty : o.scopes.isEmpty = false :=
    hscopes.elim Scopes.isEmpty_of_contains Scopes.isEmpty_of_contains
  exact (Rule.fails_iff_of_exception hbody hempty).2
    (.inl (Scopes.ensureExpressible_ne_ok.2 hscopes))

namespace AdvancedPayload

theorem placed_of_isHalfExpressible {r : Rule} (h : r.IsHalfExpressible) :
    (contribution r).placed ≠ [] := by
  obtain ⟨pattern, o, t, hbody, -, hsections, ht⟩ := h
  rw [placed_of_exception hbody, ht]
  simpa [Except.toOption] using hsections

/-- A rule with a failure has no entries in the payload. -/
theorem placed_or_failure (r : Rule) :
    (contribution r).placed = [] ∨ (contribution r).failure = none := by
  unfold contribution
  split
  · unfold pageException
    split <;> exact .inr rfl
  · exact .inr rfl
  · split
    · exact .inr rfl
    · split
      · exact .inr rfl
      · exact .inl rfl

theorem placed_of_not_isAdvanced {r : Rule} (hadvanced : r.isAdvanced = false)
    (hbody : ∀ pattern o, r.body ≠ .network true pattern o) : (contribution r).placed = [] := by
  rw [placed_of_rule hbody, Rule.payloadEntry?, hadvanced]
  rfl

/-- An exception that cannot be compiled has no entries in the payload, unless it is half
expressible. -/
theorem placed_of_exception_fails {r : Rule} {pattern : String} {o : Options}
    (hbody : r.body = .network true pattern o) (hcompile : r.compile.toOption.isNone = true)
    (hhalf : ¬r.IsHalfExpressible) : (contribution r).placed = [] := by
  rw [placed_of_exception hbody]
  cases ht : Trigger.ofPage pattern o r.domains with
  | error e => rfl
  | ok t =>
    by_cases hsections : o.scopes.payloadSections = []
    · simp [hsections, Except.toOption]
    -- the checks of the native rule pass, so it would be compiled
    exfalso
    have hexpressible : o.scopes.ensureExpressible = .ok () := by
      by_contra hne
      exact hhalf ⟨pattern, o, t, hbody, Scopes.ensureExpressible_ne_ok.1 hne, hsections, ht⟩
    have hscopes : o.scopes.isEmpty = false := by
      rw [Bool.eq_false_iff]
      intro hempty
      refine hsections ?_
      simp [Scopes.payloadSections, Scopes.contains_of_isEmpty hempty]
    rw [Rule.compile, hbody] at hcompile
    simp only [Rule.exceptionEntries, hexpressible, Options.ensureSupported_of_ofPage ht, hscopes,
      ht] at hcompile
    cases hgroup : o.scopes.pageGroup? with
    | none => simp [hgroup, bind, Except.bind, pure, Except.pure, Except.toOption] at hcompile
    | some group => simp [hgroup, bind, Except.bind, pure, Except.pure, Except.toOption] at hcompile

/-- What fails has no place in the payload, half expressible exceptions aside. -/
theorem placed_of_fails {config : Config} {r : Rule} (h : r.fails config = true)
    (hwanted : config.advanced.isSome = true) (hhalf : ¬r.IsHalfExpressible) :
    (contribution r).placed = [] := by
  rcases Rule.fails_iff.1 h with h | ⟨c, hyields, hcarried⟩ | ⟨-, hfailure⟩
  · split at h
    · rw [Option.isNone_iff_eq_none] at h
      simp [h] at hwanted
    · rename_i hadvanced
      by_cases hbody : ∃ pattern o, r.body = .network true pattern o
      · obtain ⟨pattern, o, hbody⟩ := hbody
        exact placed_of_exception_fails hbody h hhalf
      · exact placed_of_not_isAdvanced (by simpa using hadvanced)
          fun pattern o h => hbody ⟨pattern, o, h⟩
  · cases hyields with
    | blocks hbody h =>
      refine placed_of_not_isAdvanced ?_ fun _ _ h => ?_
      · rw [Rule.isAdvanced, hbody]; rfl
      · cases hbody.symm.trans h
    | excepts _ _ h =>
      obtain ⟨_, -, rfl⟩ := CompiledEntry.of_ofRequests h
      cases hcarried
    | page => cases hcarried
    | hides hbody =>
      refine placed_of_not_isAdvanced ?_ fun _ _ h => ?_
      · rw [Rule.isAdvanced, hbody]; rfl
      · cases hbody.symm.trans h
  · exact (placed_or_failure r).resolve_right fun h => by simp [h] at hfailure

/-! ## The payload without some lines -/

section
variable {rules : List Rule} {keep : Nat → Bool}
  (h : ∀ r ∈ rules, keep r.line = false → (contribution r).placed = [])
include h

theorem entries_ofRules_filter :
    (ofRules (rules.filter (keep ·.line))).entries = (ofRules rules).entries := by
  rw [entries_ofRules, entries_ofRules, placedEntries, placedEntries, flatMap_filter]
  congr 2
  refine List.flatMap_congr fun r hr => ?_
  cases hkeep : keep r.line with
  | true => rfl
  | false => exact (h r hr hkeep).symm

theorem sources_ofRules_filter :
    (ofRules (rules.filter (keep ·.line))).sources = (ofRules rules).sources := by
  dsimp only [ofRules]
  rw [List.filterMap_map, List.filterMap_map, List.filterMap_filter]
  refine List.filterMap_congr fun r hr => ?_
  cases hkeep : keep r.line with
  | true => rfl
  | false => simp [h r hr hkeep]

/-- Rules without entries do not show in the payload, in neither format. -/
theorem render_filter (exceptions : List Rule) (format : PayloadFormat) :
    (ofRules (rules.filter (keep ·.line))).render (rules.filter (keep ·.line)) exceptions format =
      (ofRules rules).render rules exceptions format := by
  cases format with
  | json => rw [render, render, entries_ofRules_filter h]
  | txt =>
    have hcarried : (rules.filter (keep ·.line)).filter
          (fun r => (Std.HashSet.ofList (ofRules rules).sources).contains r.line) =
        rules.filter fun r => (Std.HashSet.ofList (ofRules rules).sources).contains r.line := by
      rw [List.filter_filter]
      refine List.filter_congr fun r _ => ?_
      rw [Std.HashSet.contains_ofList]
      cases hkeep : keep r.line with
      | true => rw [Bool.and_true]
      | false =>
        -- a line with entries belongs to a rule that is kept
        rw [Bool.and_false, Eq.comm, Bool.eq_false_iff, ne_eq, List.contains_iff_mem]
        intro hmem
        dsimp only [ofRules] at hmem
        rw [List.filterMap_map] at hmem
        obtain ⟨s, hs, hline⟩ := List.mem_filterMap.1 hmem
        have hline : (contribution s).placed ≠ [] ∧ s.line = r.line := by simpa using hline
        exact hline.1 (h s hs (hline.2 ▸ hkeep))
    rw [render, render, ruleTexts, ruleTexts, sources_ofRules_filter h, hcarried]

end

/-- A rule with entries that is left out is missed in the payload. -/
theorem length_entries_filter_lt {rules : List Rule} (keep : Nat → Bool) {r : Rule} (hr : r ∈ rules)
    (hkeep : keep r.line = false) (hplaced : (contribution r).placed ≠ []) :
    (ofRules (rules.filter (keep ·.line))).entries.length < (ofRules rules).entries.length := by
  have hlength (rules : List Rule) :
      (ofRules rules).entries.length = (placedEntries rules).length := by
    rw [entries_ofRules, List.length_map]
    exact (perm_arrange PayloadSection.nodup_all fun c _ => PayloadSection.mem_all c.1).length_eq
  rw [hlength, hlength]
  obtain ⟨before, after, rfl⟩ := List.append_of_mem hr
  have hbefore := ((List.filter_sublist (p := (keep ·.line)) (l := before)).flatMap
    fun r => (contribution r).placed).length_le
  have hafter := ((List.filter_sublist (p := (keep ·.line)) (l := after)).flatMap
    fun r => (contribution r).placed).length_le
  have hpos := List.length_pos_of_ne_nil hplaced
  rw [placedEntries, placedEntries, List.filter_append, List.filter_cons_of_neg (by simp [hkeep]),
    List.flatMap_append, List.flatMap_append, List.flatMap_cons]
  simp only [List.length_append]
  omega

end AdvancedPayload

/-! ## Conversions -/

namespace Conversion

/-- A line is reported as failed. -/
def hasFailed (c : Conversion) (n : Nat) : Bool := c.failures.any (·.line == n)

/-- The payload keeps entries of a rule that has failed. -/
def KeepsFailed (config : Config) (lines : List String) : Prop :=
  config.advanced.isSome = true ∧
    ∃ r ∈ (prepare config (FilterList.read lines).rules).rules, r.IsHalfExpressible

theorem hasFailed_iff {c : Conversion} {n : Nat} :
    c.hasFailed n = true ↔ n ∈ c.failures.map (·.line) := by
  simp [hasFailed]

section
variable (config : Config) (lines : List String)

open FilterList

theorem nodup_rules : ((FilterList.read lines).rules.map (·.line)).Nodup := by
  refine (nodup_lineOf_results lines).sublist (map_filterMap_sublist ?_ _)
  intro x r hx
  cases x <;> cases hx
  rfl

theorem mem_results_of_rule {r : Rule} (hr : r ∈ (FilterList.read lines).rules) :
    .ok r ∈ results lines := by
  obtain ⟨x, hx, h⟩ := List.mem_filterMap.1 hr
  cases x <;> cases h
  exact hx

theorem mem_results_of_failure {f : ParseFailure} (hf : f ∈ (FilterList.read lines).failures) :
    .error f ∈ results lines := by
  obtain ⟨x, hx, h⟩ := List.mem_filterMap.1 hf
  cases x <;> cases h
  exact hx

/-- The lines that a conversion of a list reports. -/
theorem mem_failures_ofLines {n : Nat} :
    n ∈ (ofLines config lines).failures.map (·.line) ↔
      n ∈ (FilterList.read lines).failures.map (·.line) ∨
        ∃ r ∈ (prepare config (FilterList.read lines).rules).rules,
          r.fails config = true ∧ r.line = n := mem_failures (nodup_rules lines)

variable {config lines}

/-- The line of a rule has failed if and only if the rule fails by itself. -/
theorem hasFailed_line {r : Rule} (hr : r ∈ (prepare config (FilterList.read lines).rules).rules) :
    (ofLines config lines).hasFailed r.line = r.fails config := by
  rw [Bool.eq_iff_iff, hasFailed_iff, mem_failures_ofLines]
  constructor
  · rintro (h | ⟨s, hs, hfails, hline⟩)
    · obtain ⟨f, hf, hline⟩ := List.mem_map.1 h
      obtain ⟨s, hs, -, -, hsline⟩ := mem_prepare hr
      have hsame := List.inj_on_of_nodup_map (nodup_lineOf_results lines)
        (mem_results_of_failure lines hf) (mem_results_of_rule lines hs) (hline.trans hsline.symm)
      cases hsame
    · rwa [← List.inj_on_of_nodup_map (nodup_prepare (nodup_rules lines)) hs hr hline]
  · intro hfails
    exact .inr ⟨r, hr, hfails, rfl⟩

/-- Rules that cancel others or except from them do not fail. -/
theorem not_hasFailed {r : Rule} (hr : r ∈ (FilterList.read lines).rules)
    (h : r.isBadfilter = true ∨ r.isCosmeticException = true) :
    (ofLines config lines).hasFailed r.line = false := by
  rw [Bool.eq_false_iff, ne_eq, hasFailed_iff, mem_failures_ofLines]
  rintro (hfailure | ⟨s, hs, -, hline⟩)
  · obtain ⟨f, hf, hline⟩ := List.mem_map.1 hfailure
    have hsame := List.inj_on_of_nodup_map (nodup_lineOf_results lines)
      (mem_results_of_failure lines hf) (mem_results_of_rule lines hr) hline
    cases hsame
  · obtain ⟨t, ht, hbad, hexception, htline⟩ := mem_prepare hs
    obtain rfl := List.inj_on_of_nodup_map (nodup_rules lines) ht hr (htline.trans hline)
    rw [hbad, hexception] at h
    simp at h

/-! ## A second conversion -/

variable (config lines)

/-- The lines with those that a conversion reports left blank. -/
def withoutFailed : List String := blankAt (ofLines config lines).hasFailed lines

theorem rules_withoutFailed : (FilterList.read (withoutFailed config lines)).rules =
    (FilterList.read lines).rules.filter fun r => !(ofLines config lines).hasFailed r.line := by
  rw [read_eq, withoutFailed, results_blankAt]
  exact rules_ofResults_filter (fun n => !(ofLines config lines).hasFailed n) _

theorem failures_withoutFailed : (FilterList.read (withoutFailed config lines)).failures = [] := by
  have h : (FilterList.read (withoutFailed config lines)).failures =
      (FilterList.read lines).failures.filter
        fun f => !(ofLines config lines).hasFailed f.line := by
    rw [read_eq, withoutFailed, results_blankAt]
    exact failures_ofResults_filter (fun n => !(ofLines config lines).hasFailed n) _
  rw [h, List.filter_eq_nil_iff]
  intro f hf
  have hfailed := hasFailed_iff.2 ((mem_failures_ofLines config lines).2
    (.inl (List.mem_map_of_mem (f := (·.line)) hf)))
  simp [hfailed]

theorem prepare_withoutFailed :
    (prepare config (FilterList.read (withoutFailed config lines)).rules).rules =
        (prepare config (FilterList.read lines).rules).rules.filter
          (fun r => !(ofLines config lines).hasFailed r.line) ∧
      (prepare config (FilterList.read (withoutFailed config lines)).rules).exceptions =
        (prepare config (FilterList.read lines).rules).exceptions := by
  rw [rules_withoutFailed]
  refine prepare_filter (fun n => !(ofLines config lines).hasFailed n) fun r hr h => ?_
  rw [not_hasFailed hr h]
  rfl

/-- No line fails that is left. -/
theorem failures_ofLines_withoutFailed :
    (ofLines config (withoutFailed config lines)).failures = [] := by
  rw [← List.map_eq_nil_iff (f := (·.line)), List.eq_nil_iff_forall_not_mem]
  intro n hn
  rw [mem_failures_ofLines, failures_withoutFailed, (prepare_withoutFailed config lines).1] at hn
  obtain h | ⟨r, hr, hfails, -⟩ := hn
  · cases h
  · obtain ⟨hr, hkept⟩ := List.mem_filter.1 hr
    rw [hasFailed_line hr, hfails] at hkept
    cases hkept

/-- The entries before the list is cut are the same. -/
theorem entries_withoutFailed :
    (VersionFit.ofEntries config.version (compileRules config
      (prepare config (FilterList.read (withoutFailed config lines)).rules).rules).1).entries.map
        (·.entry) =
      (VersionFit.ofEntries config.version (compileRules config
        (prepare config (FilterList.read lines).rules).rules).1).entries.map (·.entry) := by
  have hrules : ((prepare config (FilterList.read lines).rules).rules.filter
        (fun r => !(ofLines config lines).hasFailed r.line)).flatMap
          (fun r => r.compile.toOption.getD []) =
      ((prepare config (FilterList.read lines).rules).rules.flatMap
        fun r => r.compile.toOption.getD []).filter (CompiledEntry.isCarried config.version) := by
    rw [flatMap_filter, List.filter_flatMap]
    refine List.flatMap_congr fun r hr => ?_
    rw [filter_isCarried_compile config r, hasFailed_line hr]
    cases r.fails config <;> rfl
  rw [compileRules_fst, compileRules_fst, (prepare_withoutFailed config lines).1, hrules]
  exact (VersionFit.map_entry_entries
    (areOfRules (nodup_prepare (nodup_rules lines)) config.version)).symm

theorem list_withoutFailed :
    (ofLines config (withoutFailed config lines)).list = (ofLines config lines).list := by
  rw [ofLines, ofLines, list_ofList, list_ofList, entries_withoutFailed]

theorem entriesBeforeCut_withoutFailed :
    (ofLines config (withoutFailed config lines)).entriesBeforeCut =
      (ofLines config lines).entriesBeforeCut := by
  have h := congrArg List.length (entries_withoutFailed config lines)
  rw [List.length_map, List.length_map] at h
  rw [ofLines, ofLines, entriesBeforeCut_ofList, entriesBeforeCut_ofList, h]

/-- Each line that is reported was counted once. -/
theorem length_failures : (ofLines config lines).failures.length =
    ((results lines).filter fun x => (ofLines config lines).hasFailed (lineOf x)).length := by
  have hnodup := (nodup_lineOf_results lines).sublist
    ((List.filter_sublist (p := fun x => (ofLines config lines).hasFailed (lineOf x))).map lineOf)
  have hmem (n : Nat) : n ∈ (ofLines config lines).failures.map (·.line) ↔
      n ∈ ((results lines).filter fun x => (ofLines config lines).hasFailed (lineOf x)).map
        lineOf := by
    rw [← hasFailed_iff, List.mem_map]
    simp only [List.mem_filter]
    constructor
    · intro hfailed
      rcases (mem_failures_ofLines config lines).1 (hasFailed_iff.1 hfailed) with
        hn | ⟨r, hr, -, rfl⟩
      · obtain ⟨f, hf, rfl⟩ := List.mem_map.1 hn
        exact ⟨.error f, ⟨mem_results_of_failure lines hf, hfailed⟩, rfl⟩
      · obtain ⟨s, hs, -, -, hline⟩ := mem_prepare hr
        rw [← hline] at hfailed
        exact ⟨.ok s, ⟨mem_results_of_rule lines hs, hfailed⟩, hline⟩
    · rintro ⟨x, ⟨-, hfailed⟩, rfl⟩
      exact hfailed
  have hperm := (List.perm_ext_iff_of_nodup nodup_failures hnodup).2 hmem
  have hlength := hperm.length_eq
  rwa [List.length_map, List.length_map] at hlength

theorem convertedCount_withoutFailed :
    (ofLines config (withoutFailed config lines)).convertedCount =
      (ofLines config lines).convertedCount := by
  have htotal (lines : List String) : (ofLines config lines).total = (results lines).length :=
    total_ofList _ _
  have hcount := List.length_eq_length_filter_add (l := results lines)
    fun x => (ofLines config lines).hasFailed (lineOf x)
  have herrors (lines : List String) :
      (ofLines config lines).errorsCount = (ofLines config lines).failures.length :=
    errorsCount_ofList _ _
  rw [convertedCount, convertedCount, herrors, herrors, failures_ofLines_withoutFailed, htotal,
    htotal, length_failures, withoutFailed, results_blankAt, hcount]
  simp

/-- The payload is the same unless it keeps entries of rules that have failed. -/
theorem advanced_withoutFailed (h : ¬KeepsFailed config lines) :
    (ofLines config (withoutFailed config lines)).advanced = (ofLines config lines).advanced := by
  rw [ofLines, ofLines, advanced_ofList, advanced_ofList]
  obtain ⟨hrules, hexceptions⟩ := prepare_withoutFailed config lines
  unfold advancedPart
  cases hadvanced : config.advanced with
  | none => rfl
  | some format =>
    have hwanted : config.advanced.isSome = true := by simp [hadvanced]
    let keep (n : Nat) : Bool := !(ofLines config lines).hasFailed n
    have hplaced : ∀ r ∈ (prepare config (FilterList.read lines).rules).rules,
        keep r.line = false → (AdvancedPayload.contribution r).placed = [] := by
      intro r hr hfailed
      rw [Bool.not_eq_false', hasFailed_line hr] at hfailed
      exact AdvancedPayload.placed_of_fails hfailed hwanted fun hhalf => h ⟨hwanted, r, hr, hhalf⟩
    have hrender := AdvancedPayload.render_filter hplaced
      (prepare config (FilterList.read lines).rules).exceptions format
    have hentries := AdvancedPayload.entries_ofRules_filter hplaced
    dsimp only
    rw [hrules, hexceptions, hrender, hentries]

/-- Entries of rules that have failed are missed when their lines are blank. -/
theorem advancedCount_withoutFailed (h : KeepsFailed config lines) :
    (ofLines config (withoutFailed config lines)).advancedCount <
      (ofLines config lines).advancedCount := by
  obtain ⟨hwanted, r, hr, hhalf⟩ := h
  have hkeep : (!(ofLines config lines).hasFailed r.line) = false := by
    rw [hasFailed_line hr, hhalf.fails]
    rfl
  have hlt :=
    AdvancedPayload.length_entries_filter_lt (fun n => !(ofLines config lines).hasFailed n)
    hr hkeep (AdvancedPayload.placed_of_isHalfExpressible hhalf)
  rw [← (prepare_withoutFailed config lines).1] at hlt
  rw [advancedCount, advancedCount, ofLines, ofLines, advanced_ofList, advanced_ofList]
  unfold advancedPart
  obtain ⟨format, hformat⟩ := Option.isSome_iff_exists.1 hwanted
  rw [hformat]
  exact hlt

end

/-- A failed line contributes nothing but to one part of the payload: with the lines that a
conversion reports left blank, it reports no failures and has the same rule list and the same
counts. Its payload is the same as well if no rule that has failed keeps entries there;
otherwise it is shorter. -/
theorem convert_withoutFailed {config : Config} {lines : List String} {c : Conversion}
    (h : convert config lines = .ok c) :
    ∃ c', convert config (blankAt c.hasFailed lines) = .ok c' ∧ c'.failures = [] ∧
      c'.list = c.list ∧ c'.convertedCount = c.convertedCount ∧
      c'.entriesBeforeCut = c.entriesBeforeCut ∧
      (c'.advanced = c.advanced ↔ ¬KeepsFailed config lines) ∧
      (KeepsFailed config lines → c'.advancedCount < c.advancedCount) := by
  obtain ⟨_, hcheck, h⟩ := bind_eq_ok.1 h
  cases h
  refine ⟨ofLines config (withoutFailed config lines), bind_eq_ok.2 ⟨_, hcheck, rfl⟩,
    failures_ofLines_withoutFailed config lines, list_withoutFailed config lines,
    convertedCount_withoutFailed config lines, entriesBeforeCut_withoutFailed config lines,
    ⟨fun heq hkeeps => ?_, advanced_withoutFailed config lines⟩,
    advancedCount_withoutFailed config lines⟩
  have hlt := advancedCount_withoutFailed config lines hkeeps
  rw [advancedCount, advancedCount, heq] at hlt
  exact Nat.lt_irrefl _ hlt

/-! ## A payload that keeps too much -/

/-- An exception for hiding rules and, which nothing can express, for blocking rules. -/
def halfExpressible : Rule where
  line := 0
  text := "@@||example.com^$elemhide,urlblock"
  domains := {}
  body := .network true "||example.com^" { scopes := .ofList [.elemhide, .urlblock] }

theorem isHalfExpressible_halfExpressible : halfExpressible.IsHalfExpressible := by
  obtain ⟨t, ht⟩ := Option.isSome_iff_exists.1
    (by decide +kernel : (Trigger.ofPage "||example.com^"
      { scopes := .ofList [.elemhide, .urlblock] } {}).toOption.isSome = true)
  exact ⟨_, _, t, rfl, by decide, by decide, toOption_eq_some.1 ht⟩

theorem read_halfExpressible :
    Rule.read 0 halfExpressible.text = .ok (some halfExpressible) := by decide +kernel

theorem keepsFailed_halfExpressible :
    KeepsFailed { advanced := some .json } [halfExpressible.text] := by
  have hrules (r : Rule) : r ∈ (FilterList.read [halfExpressible.text]).rules ↔
      r = halfExpressible := by
    rw [FilterList.mem_rules]
    constructor
    · rintro ⟨line, number, hline, hread⟩
      cases List.mem_singleton.1 hline
      rw [read_halfExpressible] at hread
      exact (Option.some.inj (Except.ok.inj hread)).symm
    · rintro rfl
      exact ⟨_, 0, .head _, read_halfExpressible⟩
  refine ⟨rfl, halfExpressible, ?_, isHalfExpressible_halfExpressible⟩
  have hleft : halfExpressible ∈
      (Cancellation.ofRules (FilterList.read [halfExpressible.text]).rules).rules := by
    refine Cancellation.mem_rules.2 ⟨(hrules _).2 rfl, rfl, fun b hb hbad => ?_⟩
    rw [(hrules b).1 hb] at hbad
    cases hbad
  rw [rules_prepare]
  refine List.mem_map.2 ⟨halfExpressible, List.mem_filterMap.2 ⟨halfExpressible,
    List.mem_filter.2 ⟨hleft, rfl⟩, ?_⟩, ?_⟩
  · rfl
  · rfl

/-- Leaving the failed line blank changes the payload of the list that has nothing else. -/
theorem convert_withoutFailed_halfExpressible :
    convert { advanced := some .json } [halfExpressible.text] =
        .ok (ofLines { advanced := some .json } [halfExpressible.text]) ∧
      ∃ c', convert { advanced := some .json } (withoutFailed { advanced := some .json }
          [halfExpressible.text]) = .ok c' ∧
        c'.advancedCount
          < (ofLines { advanced := some .json } [halfExpressible.text]).advancedCount := by
  refine ⟨rfl, ?_⟩
  obtain ⟨c', hc', -, -, -, -, -, hlt⟩ :=
    @convert_withoutFailed { advanced := some .json } [halfExpressible.text] _ rfl
  exact ⟨c', hc', hlt keepsFailed_halfExpressible⟩

end Conversion

end ContentRules
