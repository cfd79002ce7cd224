import ContentRules.Proofs.Conversion.FailedLines
import ContentRules.Proofs.Text.Trimming

/-!
What the switches of a conversion leave alone. With an advanced payload, hiding rules that the
version cannot carry are moved there before anything is compiled; without one they are compiled,
take part in making the list shorter, and are left out at the end. Either way the rule list is the
same. Entries that are left out or joined on the way to a shorter list leave their lines behind, so
the same lines are reported with and without it. Main statements: `convert_advanced` and
`convert_optimize`.
-/

namespace ContentRules

theorem usesHas_trimmed (selector : String) :
    usesHas (Text.trimmed selector) = usesHas selector := by
  have hall : ":has(".toList.all (!Text.isBlank ·) = true := by decide
  have hliteral : ∀ c ∈ ":has(".toList, Text.isBlank c = false := by
    intro c hc
    simpa using List.all_eq_true.1 hall c hc
  have htrimmed : (Text.trimmed selector).toList = Text.trim selector.toList := String.toList_ofList
  rw [Bool.eq_iff_iff, usesHas, usesHas, Text.occursIn_iff, Text.occursIn_iff, htrimmed]
  exact Text.infix_trim_iff hliteral

namespace Rule

theorem hidesByHas_iff {r : Rule} :
    r.hidesByHas = true ↔
      ∃ body, r.body = .cosmetic false .elementHiding body ∧ usesHas body = true := by
  unfold hidesByHas
  split
  case h_1 body hbody => simp [hbody]
  case h_2 hbody => simpa using fun body h => absurd h (hbody body)

/-- A rule that hides by `:has()` has no entry that a version without it can carry. -/
theorem fails_of_hidesByHas {config : Config} {r : Rule}
    (hversion : config.version.knowsHas = false)
    (h : r.hidesByHas = true) : r.fails config = true := by
  obtain ⟨body, hbody, hhas⟩ := hidesByHas_iff.1 h
  refine (fails_iff_of_hides hbody).2 (.inr (.inl ?_))
  rw [hversion, usesHas_trimmed, hhas]
  rfl

end Rule

namespace Conversion

/-- Two conversions under one budget are both refused, or both give a result. -/
theorem convert_cases {config config' : Config} {lines : List String}
    {P : Conversion → Conversion → Prop} (hbudget : config.maxBytes = config'.maxBytes)
    (h : P (ofLines config lines) (ofLines config' lines)) :
    (∃ e, convert config lines = .error e ∧ convert config' lines = .error e) ∨
      ∃ c c', convert config lines = .ok c ∧ convert config' lines = .ok c' ∧ P c c' := by
  have hcheck : config.check = config'.check := by rw [Config.check, Config.check, hbudget]
  simp only [convert, hcheck]
  cases config'.check with
  | error e => exact .inl ⟨e, rfl, rfl⟩
  | ok => exact .inr ⟨_, _, rfl, rfl, h⟩

/-! ## The advanced switch -/

section
variable (config : Config) (format : PayloadFormat) (lines : List String)

/-- The rules that remain of a list before any is promoted. -/
theorem rules_prepare_off (rules : List Rule) :
    (prepare { config with advanced := none } rules).rules =
      (applyCosmeticExceptions (Cancellation.ofRules rules).rules).1 := by
  rw [rules_prepare]
  exact List.map_id _

/-- A rule that goes to the payload would have failed without it, and has no native entries. -/
theorem placed_cases (r : Rule) :
    placed { config with advanced := some format } r = r ∨
      r.fails { config with advanced := none } = true ∧
        (placed { config with advanced := some format } r).compile = .ok [] := by
  unfold placed
  split
  case isFalse => exact .inl rfl
  case isTrue hpromoted =>
    simp only [Option.isSome_some, Bool.true_and, Bool.and_eq_true, Bool.not_eq_true'] at hpromoted
    obtain ⟨hversion, hhides⟩ := hpromoted
    refine .inr ⟨Rule.fails_of_hidesByHas hversion hhides, ?_⟩
    obtain ⟨body, hbody, -⟩ := Rule.hidesByHas_iff.1 hhides
    rw [Rule.promoted, hbody]
    rfl

/-- The entries that the version can carry do not depend on the switch. -/
theorem filter_isCarried_placed (r : Rule) :
    ((placed { config with advanced := some format } r).compile.toOption.getD []).filter
        (CompiledEntry.isCarried config.version) =
      (r.compile.toOption.getD []).filter (CompiledEntry.isCarried config.version) := by
  obtain heq | ⟨hfails, hcompile⟩ := placed_cases config format r
  · rw [heq]
  · have hnone := filter_isCarried_compile { config with advanced := none } r
    rw [if_pos hfails] at hnone
    rw [hcompile]
    exact hnone.symm

/-- A rule that fails with a payload also fails without one. -/
theorem fails_off {r : Rule}
    (h : (placed { config with advanced := some format } r).fails
      { config with advanced := some format } = true) :
    r.fails { config with advanced := none } = true := by
  obtain heq | ⟨hfails, -⟩ := placed_cases config format r
  · rw [heq] at h
    unfold Rule.fails at h ⊢
    cases hadvanced : r.isAdvanced with
    | true => rfl
    | false => simpa [hadvanced] using h
  · exact hfails

/-- The entries before the list is cut do not depend on the switch. -/
theorem map_entry_entries_advanced :
    (VersionFit.ofEntries config.version (compileRules { config with advanced := some format }
        (prepare { config with advanced := some format } (FilterList.read lines).rules).rules).1
          ).entries.map (·.entry) =
      (VersionFit.ofEntries config.version (compileRules { config with advanced := none }
        (prepare { config with advanced := none } (FilterList.read lines).rules).rules).1
          ).entries.map (·.entry) := by
  have hnodup := @nodup_prepare { config with advanced := some format } _ (nodup_rules lines)
  have hnodup' := @nodup_prepare { config with advanced := none } _ (nodup_rules lines)
  have hcarried : ((prepare { config with advanced := some format }
        (FilterList.read lines).rules).rules.flatMap fun r => r.compile.toOption.getD []).filter
          (CompiledEntry.isCarried config.version) =
      ((prepare { config with advanced := none }
        (FilterList.read lines).rules).rules.flatMap fun r => r.compile.toOption.getD []).filter
          (CompiledEntry.isCarried config.version) := by
    rw [rules_prepare, rules_prepare_off, List.flatMap_map, List.filter_flatMap,
      List.filter_flatMap]
    exact List.flatMap_congr fun r _ => filter_isCarried_placed config format r
  rw [compileRules_fst, compileRules_fst,
    VersionFit.map_entry_entries (areOfRules hnodup config.version), hcarried]
  exact (VersionFit.map_entry_entries (areOfRules hnodup' config.version)).symm

/-- A line that fails with a payload also fails without one. -/
theorem mem_failures_off {n : Nat}
    (h : n ∈ (ofLines { config with advanced := some format } lines).failures.map (·.line)) :
    n ∈ (ofLines { config with advanced := none } lines).failures.map (·.line) := by
  rw [mem_failures_ofLines] at h ⊢
  obtain h | ⟨s, hs, hfails, rfl⟩ := h
  · exact .inl h
  · rw [rules_prepare] at hs
    obtain ⟨r, hr, rfl⟩ := List.mem_map.1 hs
    refine .inr ⟨r, ?_, fails_off config format hfails, (line_placed _ r).symm⟩
    rwa [rules_prepare_off]

end

/-- Whether an advanced payload is wanted makes no difference to the rule list and to the number of
entries that it is cut from, and no line fails with a payload that does not fail without one. -/
theorem convert_advanced (config : Config) (format : PayloadFormat) (lines : List String) :
    (∃ e, convert { config with advanced := some format } lines = .error e ∧
      convert { config with advanced := none } lines = .error e) ∨
    ∃ c c', convert { config with advanced := some format } lines = .ok c ∧
      convert { config with advanced := none } lines = .ok c' ∧
      c.list = c'.list ∧ c.entriesBeforeCut = c'.entriesBeforeCut ∧
      ∀ f ∈ c.failures, ∃ f' ∈ c'.failures, f'.line = f.line := by
  refine convert_cases rfl ⟨?_, ?_, fun f hf => ?_⟩
  · rw [ofLines, ofLines, list_ofList, list_ofList, map_entry_entries_advanced]
  · have hlength := congrArg List.length (map_entry_entries_advanced config format lines)
    rw [List.length_map, List.length_map] at hlength
    rw [ofLines, ofLines, entriesBeforeCut_ofList, entriesBeforeCut_ofList]
    exact hlength
  · exact List.mem_map.1 (mem_failures_off config format lines (List.mem_map_of_mem hf))

/-! ## The switch for shorter lists -/

theorem filter_failure_notes (notes : List Note) :
    (notes.map Event.noted).filter (·.failure?.isSome) = [] := by
  rw [List.filter_map, List.map_eq_nil_iff]
  exact List.filter_eq_nil_iff.2 fun _ _ => nofun

section
variable (config : Config) (lines : List String)

theorem errored_optimize (rules : List Rule) (h : (rules.map (·.line)).Nodup) :
    (VersionFit.ofEntries config.version
        (compileRules { config with optimize := true } rules).1).errored =
      (VersionFit.ofEntries config.version
        (compileRules { config with optimize := false } rules).1).errored := by
  rw [compileRules_fst, compileRules_fst]
  exact VersionFit.errored_inOrder (areOfRules h config.version)

/-- Making a list shorter is noted, and nothing fails by it. -/
theorem filter_failure_compileRules (rules : List Rule) :
    (compileRules { config with optimize := true } rules).2.filter (·.failure?.isSome) =
      (compileRules { config with optimize := false } rules).2.filter (·.failure?.isSome) :=
  (List.filter_append ..).trans (List.append_nil _)

/-- The failures and their order are the same. -/
theorem failures_optimize :
    (ofLines { config with optimize := true } lines).failures =
      (ofLines { config with optimize := false } lines).failures := by
  rw [ofLines, ofLines, failures_ofList, failures_ofList, FailureLog.failures_ofEvents_filter,
    FailureLog.failures_ofEvents_filter (events { config with optimize := false } _)]
  have hnodup := @nodup_prepare config _ (nodup_rules lines)
  have hprepare (b : Bool) : prepare { config with optimize := b } (FilterList.read lines).rules =
      prepare config (FilterList.read lines).rules := rfl
  have hadvanced (b : Bool) (prepared : Prepared) :
      advancedPart { config with optimize := b } prepared = advancedPart config prepared := rfl
  simp only [events, hprepare, hadvanced, List.filter_append, filter_failure_notes,
    errored_optimize config _ hnodup, filter_failure_compileRules]

/-- No more entries are left before the list is cut. -/
theorem entriesBeforeCut_optimize :
    (ofLines { config with optimize := true } lines).entriesBeforeCut ≤
      (ofLines { config with optimize := false } lines).entriesBeforeCut := by
  rw [ofLines, ofLines, entriesBeforeCut_ofList, entriesBeforeCut_ofList, compileRules_fst,
    compileRules_fst]
  exact VersionFit.length_entries_inOrder_le
    (areOfRules (@nodup_prepare config _ (nodup_rules lines)) config.version)

end

/-- Making the rule list shorter does not change what is reported or the advanced payload, and there
are no more entries than without it. -/
theorem convert_optimize (config : Config) (lines : List String) :
    (∃ e, convert { config with optimize := true } lines = .error e ∧
      convert { config with optimize := false } lines = .error e) ∨
    ∃ c c', convert { config with optimize := true } lines = .ok c ∧
      convert { config with optimize := false } lines = .ok c' ∧
      c.convertedCount = c'.convertedCount ∧ c.errorsCount = c'.errorsCount ∧
      c.failures = c'.failures ∧ c.advanced = c'.advanced ∧ c.advancedCount = c'.advancedCount ∧
      c.entriesBeforeCut ≤ c'.entriesBeforeCut := by
  have hfailures := failures_optimize config lines
  have herrors : (ofLines { config with optimize := true } lines).errorsCount =
      (ofLines { config with optimize := false } lines).errorsCount := by
    rw [ofLines, ofLines, errorsCount_ofList, errorsCount_ofList]
    exact congrArg List.length hfailures
  have hadvanced : (ofLines { config with optimize := true } lines).advanced =
      (ofLines { config with optimize := false } lines).advanced := by
    rw [ofLines, ofLines, advanced_ofList, advanced_ofList]
    rfl
  refine convert_cases rfl
    ⟨?_, herrors, hfailures, hadvanced, ?_, entriesBeforeCut_optimize config lines⟩
  · rw [convertedCount, convertedCount, herrors, ofLines, ofLines, total_ofList, total_ofList]
  · rw [advancedCount, advancedCount, hadvanced]

end Conversion

end ContentRules
