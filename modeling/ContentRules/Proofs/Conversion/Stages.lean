import ContentRules.Conversion.Convert
import ContentRules.Proofs.Conversion.Reporting
import ContentRules.Proofs.Filter.BlankLines
import ContentRules.Proofs.Native.Fitting
import ContentRules.Proofs.Native.Precedence
import Mathlib.Data.List.Nodup

/-!
The stages of a conversion, each by what it does to the rules and by the lines that it reports as
failed. Main statement: `Conversion.mem_failures`, by which a line is reported if it cannot be read
or if its rule fails by itself.
-/

namespace ContentRules

namespace Conversion

/-! ## Preparation -/

/-- The rules of the lines that no others cancel. -/
def remaining (lines : List String) : List Rule :=
  (Cancellation.ofRules (FilterList.read lines).rules).rules

/-- A rule that the version cannot carry goes to the payload if one is wanted. -/
def placed (config : Config) (r : Rule) : Rule :=
  if config.advanced.isSome && !config.version.knowsHas && r.hidesByHas then r.promoted else r

/-- Placing a rule changes its body only, to one that depends on the body alone. -/
theorem placed_congr (config : Config) {r s : Rule} (h : s.body = r.body) :
    placed config s = { s with body := (placed config r).body } := by
  have hhides : s.hidesByHas = r.hidesByHas := by rw [Rule.hidesByHas, Rule.hidesByHas, h]
  have hpromoted : s.promoted = { s with body := r.promoted.body } := by
    unfold Rule.promoted
    rw [h]
    cases r.body <;> simp [← h]
  unfold placed
  rw [hhides]
  split
  · exact hpromoted
  · rw [← h]

theorem line_placed (config : Config) (r : Rule) : (placed config r).line = r.line := by
  rw [placed_congr config rfl]

theorem text_placed (config : Config) (r : Rule) : (placed config r).text = r.text := by
  rw [placed_congr config rfl]

theorem rules_prepare (config : Config) (rules : List Rule) :
    (prepare config rules).rules =
      (applyCosmeticExceptions (Cancellation.ofRules rules).rules).1.map (placed config) := by
  unfold prepare promoteHasSelectors placed
  cases config.advanced.isSome <;> cases config.version.knowsHas <;> simp

theorem exceptions_prepare (config : Config) (rules : List Rule) :
    (prepare config rules).exceptions =
      (applyCosmeticExceptions (Cancellation.ofRules rules).rules).2 := rfl

/-- Prepared rules come from rules that neither cancel others nor except from them. -/
theorem mem_prepare {config : Config} {rules : List Rule} {s : Rule}
    (hs : s ∈ (prepare config rules).rules) :
    ∃ r ∈ rules, r.isBadfilter = false ∧ r.isCosmeticException = false ∧ r.line = s.line := by
  rw [rules_prepare] at hs
  obtain ⟨t, ht, rfl⟩ := List.mem_map.1 hs
  obtain ⟨r, hr, hexception, domains, rfl⟩ := mem_applyCosmeticExceptions ht
  obtain ⟨hr, hbad, -⟩ := Cancellation.mem_rules.1 hr
  exact ⟨r, hr, hbad, hexception, by rw [line_placed]⟩

/-- The rules that exceptions leave keep their lines, in order. -/
theorem lines_placed_sublist (config : Config) (rules : List Rule) :
    (((applyCosmeticExceptions rules).1.map (placed config)).map (·.line)).Sublist
      ((rules.filter (!·.isCosmeticException)).map (·.line)) := by
  have hplaced : (fun r : Rule => r.line) ∘ placed config = fun r : Rule => r.line :=
    funext (line_placed config)
  have hnarrow (E : Rule → List Rule) (r s : Rule) (hs : r.narrow? (E r) = some s) :
      s.line = r.line := by
    obtain ⟨domains, rfl⟩ := Rule.narrow?_eq_some hs
    rfl
  rw [List.map_map, hplaced, applyCosmeticExceptions]
  exact map_filterMap_sublist (hnarrow _) _

/-- The rules that remain keep their lines, in order. -/
theorem lines_prepare_sublist (config : Config) (rules : List Rule) :
    ((prepare config rules).rules.map (·.line)).Sublist (rules.map (·.line)) := by
  rw [rules_prepare]
  refine (lines_placed_sublist config _).trans ?_
  exact (List.filter_sublist.trans (List.filter_sublist.trans List.filter_sublist)).map _

theorem nodup_prepare {config : Config} {rules : List Rule} (h : (rules.map (·.line)).Nodup) :
    ((prepare config rules).rules.map (·.line)).Nodup :=
  h.sublist (lines_prepare_sublist config rules)

/-- Rules in the order of their lines stay in it while they are prepared. -/
theorem pairwise_line_prepare {config : Config} {rules : List Rule}
    (h : rules.Pairwise fun r s => r.line < s.line) :
    (prepare config rules).rules.Pairwise fun r s => r.line < s.line :=
  List.pairwise_map.1 ((List.pairwise_map.2 h).sublist (lines_prepare_sublist config rules))

/-- Leaving out lines of rules that neither cancel others nor except from them. -/
theorem prepare_filter {config : Config} {rules : List Rule} (keep : Nat → Bool)
    (h : ∀ r ∈ rules, r.isBadfilter = true ∨ r.isCosmeticException = true → keep r.line = true) :
    (prepare config (rules.filter (keep ·.line))).rules =
        (prepare config rules).rules.filter (keep ·.line) ∧
      (prepare config (rules.filter (keep ·.line))).exceptions =
        (prepare config rules).exceptions := by
  have hcancel : (Cancellation.ofRules (rules.filter (keep ·.line))).rules =
      (Cancellation.ofRules rules).rules.filter (keep ·.line) :=
    Cancellation.rules_filter fun r hr hbad => h r hr (.inl hbad)
  have hexceptions : ∀ r ∈ (Cancellation.ofRules rules).rules, r.isCosmeticException = true →
      keep r.line = true :=
        fun r hr hexception => h r (mem_of_mem_cancellation hr) (.inr hexception)
  constructor
  · rw [rules_prepare, rules_prepare, hcancel,
      applyCosmeticExceptions_filter hexceptions fun _ _ => rfl, List.filter_map]
    simp only [Function.comp_def, line_placed]
  · rw [exceptions_prepare, exceptions_prepare, hcancel, exceptions_filter hexceptions]

/-! ## Compiling -/

theorem compile_of_isAdvanced {r : Rule} (h : r.isAdvanced = true) : r.compile = .ok [] := by
  unfold Rule.isAdvanced RuleBody.isAdvanced at h
  unfold Rule.compile
  split at h
  · cases h
  · rename_i isException flavour _ hbody
    rw [hbody]
    cases flavour with
    | elementHiding => cases h
    | _ => cases isException <;> rfl
  · rename_i hbody
    rw [hbody]

theorem compileRule_fst (config : Config) (r : Rule) :
    (compileRule config r).1 = r.compile.toOption.getD [] := by
  unfold compileRule
  split
  · rw [compile_of_isAdvanced ‹_›]
    split <;> rfl
  · cases r.compile <;> rfl

theorem compileRules_fst (config : Config) (rules : List Rule) :
    (compileRules config rules).1 =
      CompiledEntry.inOrder config.optimize
        (rules.flatMap fun r => r.compile.toOption.getD []) := by
  have h : (rules.map (compileRule config)).flatMap (·.1) =
      rules.flatMap fun r => r.compile.toOption.getD [] := by
    rw [List.flatMap_map]
    simp only [compileRule_fst]
  unfold compileRules CompiledEntry.inOrder
  dsimp only
  rw [h]
  cases config.optimize <;> rfl

theorem mem_flatMap_compile {rules : List Rule} {c : CompiledEntry} :
    c ∈ rules.flatMap (fun r => r.compile.toOption.getD []) ↔ ∃ r ∈ rules, r.Yields c :=
  CompiledEntry.mem_sortByGroup.symm.trans mem_nativeEntries

/-- Only hiding can be beyond a version, and what hides does so for all URLs. -/
theorem matchesAllUrls_of_hides {r : Rule} {c : CompiledEntry} (h : r.Yields c)
    (hkind : c.entry.action.kind = .cssDisplayNone) : c.entry.trigger.matchesAllUrls = true := by
  cases h with
  | blocks _ h => obtain ⟨_, -, rfl⟩ := CompiledEntry.of_ofRequests h; cases hkind
  | excepts _ _ h => obtain ⟨_, -, rfl⟩ := CompiledEntry.of_ofRequests h; cases hkind
  | page => cases hkind
  | hides => rfl

/-- The entries of rules on different lines. -/
theorem areOfRules {rules : List Rule} (h : (rules.map (·.line)).Nodup) (version : Version) :
    CompiledEntry.AreOfRules version (rules.flatMap fun r => r.compile.toOption.getD []) := by
  refine ⟨fun c hc => ?_, fun c hc d hd line hline hline' => ?_, fun c hc hcarried d hd => ?_⟩
  · obtain ⟨r, -, hyields⟩ := mem_flatMap_compile.1 hc
    rw [hyields.sources]
    exact List.cons_ne_nil _ _
  · obtain ⟨r, hr, hc⟩ := mem_flatMap_compile.1 hc
    obtain ⟨s, hs, hd⟩ := mem_flatMap_compile.1 hd
    rw [hc.sources, List.mem_singleton] at hline
    rw [hd.sources, List.mem_singleton] at hline'
    obtain rfl := List.inj_on_of_nodup_map h hr hs (hline.symm.trans hline')
    have hsame := (Rule.mem_compile_of_yields hc).symm.trans (Rule.mem_compile_of_yields hd)
    cases hsame
    rfl
  · obtain ⟨hd, hgroup⟩ := List.mem_filter.1 hd
    obtain ⟨r, -, hc⟩ := mem_flatMap_compile.1 hc
    obtain ⟨s, -, hd⟩ := mem_flatMap_compile.1 hd
    have hkind : c.entry.action.kind = .cssDisplayNone := by
      unfold CompiledEntry.isCarried Entry.unsupportedReason? at hcarried
      split at hcarried
      · rename_i haction
        rw [haction]
        rfl
      · cases hcarried
    refine matchesAllUrls_of_hides hd ?_
    rw [hd.kind_eq, beq_iff_eq.1 hgroup, ← hc.kind_eq, hkind]

/-! ## What is reported -/

/-- The lines that events report as failed. -/
def failedLines (events : List Event) : List Nat :=
  events.filterMap fun e => e.failure?.map (·.line)

@[simp]
theorem failedLines_append (l m : List Event) :
    failedLines (l ++ m) = failedLines l ++ failedLines m :=
  List.filterMap_append

@[simp]
theorem failedLines_notes (l : List Note) : failedLines (l.map .noted) = [] := by
  rw [failedLines, List.filterMap_map]
  exact List.filterMap_eq_nil_iff.2 fun _ _ => rfl

theorem failedLines_failuresOf (rules : List Rule) (errors : List (Nat × RuleError)) :
    failedLines (failuresOf rules errors) = errors.map (·.1) := by
  rw [failedLines, failuresOf, List.filterMap_map, ← List.filterMap_eq_map]
  rfl

end Conversion

/-- The rule fails whatever the other rules are: it has no native entry or one that the version
cannot carry, or no entry for the payload. -/
def Rule.fails (config : Config) (r : Rule) : Bool :=
  if r.isAdvanced then
    config.advanced.isNone || (AdvancedPayload.contribution r).failure.isSome
  else
    match r.compile with
    | .ok entries => entries.any (!·.isCarried config.version)
    | .error _ => true

theorem AdvancedPayload.failure_of_not_isAdvanced {r : Rule} (h : r.isAdvanced = false) :
    (contribution r).failure = none := by
  rw [Rule.isAdvanced] at h
  unfold contribution
  split
  · unfold pageException
    split <;> rfl
  · rfl
  · rw [if_pos (by simp [h])]

/-- The reasons for which a rule fails. -/
theorem Rule.fails_iff {config : Config} {r : Rule} :
    r.fails config = true ↔
      (if r.isAdvanced then config.advanced.isNone = true else r.compile.toOption.isNone = true) ∨
        (∃ c, r.Yields c ∧ c.isCarried config.version = false) ∨
        (config.advanced.isSome = true ∧
          (AdvancedPayload.contribution r).failure.isSome = true) := by
  simp only [Rule.yields_iff]
  unfold Rule.fails
  cases hadvanced : r.isAdvanced with
  | true =>
    rw [Conversion.compile_of_isAdvanced hadvanced]
    cases config.advanced <;> simp
  | false =>
    rw [AdvancedPayload.failure_of_not_isAdvanced hadvanced]
    cases r.compile with
    | error => simp [Except.toOption]
    | ok entries => simp [Except.toOption]

namespace Conversion

/-- What remains of the entries of a rule if it does not fail are those that the version can
carry. -/
theorem filter_isCarried_compile (config : Config) (r : Rule) :
    (r.compile.toOption.getD []).filter (CompiledEntry.isCarried config.version) =
      if r.fails config then [] else r.compile.toOption.getD [] := by
  have hempty : (if r.fails config then [] else ([] : List CompiledEntry)) = [] := by split <;> rfl
  cases hadvanced : r.isAdvanced with
  | true =>
    rw [compile_of_isAdvanced hadvanced]
    exact hempty.symm
  | false =>
    cases hcompile : r.compile with
    | error => exact hempty.symm
    | ok entries =>
      have hfails : r.fails config = entries.any (!·.isCarried config.version) := by
        simp [Rule.fails, hadvanced, hcompile]
      cases entries with
      | nil => exact hempty.symm
      | cons c rest =>
        -- a rule has one entry at most
        have hyields := Rule.yields_of_mem_compile hcompile (.head _)
        obtain rfl : rest = [] := by
          have hone := hcompile.symm.trans (Rule.mem_compile_of_yields hyields)
          simpa using hone
        rw [hfails]
        cases hc : c.isCarried config.version <;> simp [Except.toOption, hc]

theorem mem_failedLines_compileRule {config : Config} {r : Rule} {n : Nat} :
    n ∈ failedLines (compileRule config r).2 ↔ n = r.line ∧
      if r.isAdvanced then config.advanced.isNone = true else r.compile.toOption.isNone = true := by
  unfold compileRule
  cases r.isAdvanced with
  | true =>
    cases config.advanced <;> simp [failedLines, Event.failure?]
  | false =>
    cases r.compile with
    | ok => simp [failedLines_notes, Except.toOption]
    | error e => simp [failedLines, Event.failure?, Except.toOption]

theorem mem_failedLines_compileRules {config : Config} {rules : List Rule} {n : Nat} :
    n ∈ failedLines (compileRules config rules).2 ↔
      ∃ r ∈ rules, n ∈ failedLines (compileRule config r).2 := by
  have h : failedLines (compileRules config rules).2 =
      rules.flatMap fun r => failedLines (compileRule config r).2 := by
    have hevents : failedLines ((rules.map (compileRule config)).flatMap (·.2)) =
        rules.flatMap fun r => failedLines (compileRule config r).2 := by
      rw [failedLines, List.flatMap_map, List.filterMap_flatMap]
      rfl
    unfold compileRules
    cases config.optimize with
    | false => exact hevents
    | true =>
      rw [← hevents]
      exact (failedLines_append _ _).trans (List.append_nil _)
  rw [h, List.mem_flatMap]

theorem mem_failedLines_advancedPart {config : Config} {prepared : Prepared} {n : Nat} :
    n ∈ failedLines (advancedPart config prepared).2 ↔ config.advanced.isSome = true ∧
      ∃ r ∈ prepared.rules, (AdvancedPayload.contribution r).failure.isSome = true ∧
        r.line = n := by
  unfold advancedPart
  cases config.advanced with
  | none => simp [failedLines]
  | some format =>
    dsimp only
    rw [failedLines_failuresOf]
    simp only [AdvancedPayload.ofRules, List.map_map, List.filterMap_map, List.mem_map,
      List.mem_filterMap, Option.isSome_some, true_and]
    constructor
    · rintro ⟨_, ⟨r, hr, h⟩, rfl⟩
      obtain ⟨error, herror, rfl⟩ := Option.map_eq_some_iff.1 h
      exact ⟨r, hr, Option.isSome_of_eq_some herror, rfl⟩
    · rintro ⟨r, hr, h, rfl⟩
      obtain ⟨error, herror⟩ := Option.isSome_iff_exists.1 h
      exact ⟨(r.line, error), ⟨r, hr, Option.map_eq_some_iff.2 ⟨error, herror, rfl⟩⟩, rfl⟩

theorem mem_failedLines_fit {config : Config} {rules : List Rule}
    (hnodup : (rules.map (·.line)).Nodup) {n : Nat} :
    n ∈ (VersionFit.ofEntries config.version (compileRules config rules).1).errored.map (·.1) ↔
      ∃ r ∈ rules, (∃ c, r.Yields c ∧ c.isCarried config.version = false) ∧ r.line = n := by
  rw [compileRules_fst, VersionFit.mem_errored (areOfRules hnodup config.version)]
  simp only [mem_flatMap_compile]
  constructor
  · rintro ⟨c, ⟨r, hr, hyields⟩, hcarried, hline⟩
    rw [hyields.sources, List.mem_singleton] at hline
    exact ⟨r, hr, ⟨c, hyields, hcarried⟩, hline.symm⟩
  · rintro ⟨r, hr, ⟨c, hyields, hcarried⟩, rfl⟩
    exact ⟨c, ⟨r, hr, hyields⟩, hcarried, by rw [hyields.sources]; exact .head _⟩

/-! ## The outcome -/

section
variable (config : Config) (l : FilterList)

theorem total_ofList : (ofList config l).total = l.total := by
  unfold ofList
  dsimp only
  split <;> rfl

theorem list_ofList : (ofList config l).list =
    .ofEntries config.maxBytes config.version.rulesLimit
      ((VersionFit.ofEntries config.version
        (compileRules config (prepare config l.rules).rules).1).entries.map (·.entry)) := by
  unfold ofList
  dsimp only
  split <;> rfl

theorem entriesBeforeCut_ofList : (ofList config l).entriesBeforeCut =
    (VersionFit.ofEntries config.version
      (compileRules config (prepare config l.rules).rules).1).entries.length := by
  unfold ofList
  dsimp only
  split <;> rfl

theorem advanced_ofList :
    (ofList config l).advanced = (advancedPart config (prepare config l.rules)).1 := by
  unfold ofList
  dsimp only
  split <;> rfl

/-- The events of a conversion. -/
def events : List Event :=
  let prepared := prepare config l.rules
  let fit := VersionFit.ofEntries config.version (compileRules config prepared.rules).1
  (l.failures.map fun f => .failed ⟨f.line, f.text, .parse f.error⟩) ++ prepared.events ++
    (compileRules config prepared.rules).2 ++
    ((fit.notes config.version).map .noted ++ failuresOf prepared.rules
      (fit.errored.map fun (line, reason) => (line, .unsupported config.version.text reason))) ++
    ((ofList config l).list.notes fit.entries.length).map .noted ++
    (advancedPart config prepared).2

theorem failures_ofList :
    (ofList config l).failures = (FailureLog.ofEvents (events config l)).failures.toList := by
  rw [events, list_ofList]
  unfold ofList
  dsimp only
  split <;> rfl

/-- The lines that failed are counted apart from the failures, and there are as many of them. -/
theorem errorsCount_ofList : (ofList config l).errorsCount = (ofList config l).failures.length := by
  have hsize : (ofList config l).errorsCount =
      (FailureLog.ofEvents (events config l)).failed.size := by
    rw [events, list_ofList]
    unfold ofList
    dsimp only
    split <;> rfl
  rw [hsize, (FailureLog.isCounted_ofEvents _).size_eq, failures_ofList, Array.length_toList]

variable {config l}

theorem nodup_failures : ((ofList config l).failures.map (·.line)).Nodup := by
  rw [failures_ofList]
  exact (FailureLog.isCounted_ofEvents _).nodup

/-- The lines that a conversion reports are those that could not be read and those of the rules that
fail by themselves. -/
theorem mem_failures (hnodup : (l.rules.map (·.line)).Nodup) {n : Nat} :
    n ∈ (ofList config l).failures.map (·.line) ↔
      n ∈ l.failures.map (·.line) ∨
        ∃ r ∈ (prepare config l.rules).rules, r.fails config = true ∧ r.line = n := by
  have hparse : failedLines (l.failures.map fun f => .failed ⟨f.line, f.text, .parse f.error⟩) =
      l.failures.map (·.line) := by
    rw [failedLines, List.filterMap_map, ← List.filterMap_eq_map]
    rfl
  have hprepared : failedLines (prepare config l.rules).events = [] := failedLines_notes _
  have hfit (version : String) (errored : List (Nat × UnsupportedReason)) :
      (errored.map fun (line, reason) => (line, RuleError.unsupported version reason)).map (·.1) =
        errored.map (·.1) := by
    rw [List.map_map]
    rfl
  rw [failures_ofList]
  refine (FailureLog.mem_lines_ofEvents _).trans ?_
  rw [← failedLines, events]
  simp only [failedLines_append, failedLines_notes, failedLines_failuresOf, hparse, hprepared, hfit,
    List.mem_append, List.not_mem_nil, or_false, false_or, mem_failedLines_compileRules,
    mem_failedLines_compileRule, mem_failedLines_fit (nodup_prepare hnodup),
    mem_failedLines_advancedPart, or_assoc]
  refine or_congr_right ?_
  simp only [Rule.fails_iff]
  constructor
  · rintro (⟨r, hr, rfl, h⟩ | ⟨r, hr, h, rfl⟩ | ⟨hwanted, r, hr, h, rfl⟩)
    · exact ⟨r, hr, .inl h, rfl⟩
    · exact ⟨r, hr, .inr (.inl h), rfl⟩
    · exact ⟨r, hr, .inr (.inr ⟨hwanted, h⟩), rfl⟩
  · rintro ⟨r, hr, h | h | ⟨hwanted, h⟩, rfl⟩
    · exact .inl ⟨r, hr, rfl, h⟩
    · exact .inr (.inl ⟨r, hr, h, rfl⟩)
    · exact .inr (.inr ⟨hwanted, r, hr, h, rfl⟩)

end

end Conversion

end ContentRules
