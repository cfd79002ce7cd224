import ContentRules.Proofs.Conversion.FailedLines
import ContentRules.Proofs.Filter.RuleLines

/-!
The counts of a conversion and the texts of its failures. A line that is neither blank nor a comment
is either converted or reported, once, with the text that stands there. Main statement:
`convert_counts`.
-/

namespace ContentRules

namespace FilterList

variable {lines : List String}

theorem holdsRule_of_readLine {number : Nat} {line : String} {x : Except ParseFailure Rule}
    (hline : lines[number]? = some line) (h : readLine number line = some x) :
    match x with
    | .ok r => HoldsRule lines r.line r.text
    | .error f => HoldsRule lines f.line f.text := by
  obtain ⟨-, hread⟩ | ⟨hrule, ⟨r, hread, hnumber, htext⟩ | ⟨e, hread⟩⟩ := read_cases number line
  all_goals
    rw [readLine, hread] at h
    cases h
  · exact ⟨line, hnumber ▸ hline, hrule, htext⟩
  · exact ⟨line, hline, hrule, rfl⟩

theorem holdsRule_of_mem_rules {r : Rule} (hr : r ∈ (read lines).rules) :
    HoldsRule lines r.line r.text := by
  obtain ⟨⟨line, number⟩, hline, h⟩ :=
    List.mem_filterMap.1 (Conversion.mem_results_of_rule lines hr)
  exact holdsRule_of_readLine (List.mem_zipIdx_iff_getElem?.1 hline) h

theorem holdsRule_of_mem_failures {f : ParseFailure} (hf : f ∈ (read lines).failures) :
    HoldsRule lines f.line f.text := by
  obtain ⟨⟨line, number⟩, hline, h⟩ :=
    List.mem_filterMap.1 (Conversion.mem_results_of_failure lines hf)
  exact holdsRule_of_readLine (List.mem_zipIdx_iff_getElem?.1 hline) h

end FilterList

namespace Conversion

open FilterList

/-! ## Texts -/

/-- If the event is a failure, it names a line of the list and the text there. -/
def NamesLine (lines : List String) (e : Event) : Prop :=
  ∀ f, e.failure? = some f → HoldsRule lines f.line f.text

variable {config : Config} {lines : List String}

theorem namesLine_noted {notes : List Note} {e : Event} (he : e ∈ notes.map .noted) :
    NamesLine lines e := by
  obtain ⟨note, -, rfl⟩ := List.mem_map.1 he
  exact nofun

/-- Rules keep their lines and texts while they are prepared. -/
theorem holdsRule_of_mem_prepare {s : Rule}
    (hs : s ∈ (prepare config (FilterList.read lines).rules).rules) :
    HoldsRule lines s.line s.text := by
  rw [rules_prepare] at hs
  obtain ⟨t, ht, rfl⟩ := List.mem_map.1 hs
  obtain ⟨r, hr, -, domains, rfl⟩ := mem_applyCosmeticExceptions ht
  have hr := holdsRule_of_mem_rules (mem_of_mem_cancellation hr)
  rwa [line_placed, text_placed]

theorem namesLine_failed {r : Rule} {error : RuleError} (hr : HoldsRule lines r.line r.text) :
    NamesLine lines (.failed ⟨r.line, r.text, error⟩) := by
  rintro _ ⟨⟩
  exact hr

theorem namesLine_compileRule {r : Rule} (hr : HoldsRule lines r.line r.text) {e : Event}
    (he : e ∈ (compileRule config r).2) : NamesLine lines e := by
  unfold compileRule at he
  split at he
  · split at he
    · cases he
    · obtain rfl := List.mem_singleton.1 he
      exact namesLine_failed hr
  · split at he
    · exact namesLine_noted he
    · obtain he | he := List.mem_append.1 he
      · exact namesLine_noted he
      · obtain rfl := List.mem_singleton.1 he
        exact namesLine_failed hr

/-- The search for the rule of a line finds it. -/
def IsFound (rules : List Rule) (number : Nat) : Prop :=
  ∃ r, search? Rule.line rules.toArray number = some r ∧ r ∈ rules ∧ r.line = number

/-- Rules in the order of their lines are found. -/
theorem isFound_of_mem {rules : List Rule} (hlines : rules.Pairwise fun r s => r.line < s.line)
    {r : Rule} (hr : r ∈ rules) : IsFound rules r.line :=
  ⟨r, (search?_eq_some_iff hlines).2 ⟨List.mem_toArray.2 hr, rfl⟩, hr, rfl⟩

section
variable (config lines)

/-- The lines whose rules are searched for: those that the version cannot carry and those that the
payload cannot hold. -/
def searchedLines : List Nat :=
  let prepared := prepare config (FilterList.read lines).rules
  (VersionFit.ofEntries config.version (compileRules config prepared.rules).1).errored.map (·.1) ++
    failedLines (advancedPart config prepared).2

/-- No search for a rule misses: the rules stand in the order of their lines from first to last. -/
theorem isFound_searchedLines {number : Nat} (h : number ∈ searchedLines config lines) :
    IsFound (prepare config (FilterList.read lines).rules).rules number := by
  have hlines := @pairwise_line_prepare config _ (pairwise_line_rules lines)
  obtain h | h := List.mem_append.1 h
  · obtain ⟨r, hr, -, rfl⟩ := (mem_failedLines_fit (nodup_prepare (nodup_rules lines))).1 h
    exact isFound_of_mem hlines hr
  · obtain ⟨-, r, hr, -, rfl⟩ := mem_failedLines_advancedPart.1 h
    exact isFound_of_mem hlines hr

end

section
variable {rules : List Rule} (hrules : ∀ r ∈ rules, HoldsRule lines r.line r.text)
include hrules

theorem namesLine_compileRules {e : Event} (he : e ∈ (compileRules config rules).2) :
    NamesLine lines e := by
  have hcompiled (he : e ∈ (rules.map (compileRule config)).flatMap (·.2)) : NamesLine lines e := by
    obtain ⟨_, hcompiled, he⟩ := List.mem_flatMap.1 he
    obtain ⟨r, hr, rfl⟩ := List.mem_map.1 hcompiled
    exact namesLine_compileRule (hrules r hr) he
  unfold compileRules at he
  dsimp only at he
  split at he
  · obtain he | he := List.mem_append.1 he
    · exact hcompiled he
    · obtain rfl := List.mem_singleton.1 he
      exact nofun
  · exact hcompiled he

/-- Failures of lines whose rules are found have the texts of these rules. -/
theorem namesLine_failuresOf {errors : List (Nat × RuleError)}
    (herrors : ∀ x ∈ errors, IsFound rules x.1) {e : Event} (he : e ∈ failuresOf rules errors) :
    NamesLine lines e := by
  obtain ⟨⟨number, error⟩, herror, rfl⟩ := List.mem_map.1 he
  rintro _ ⟨⟩
  obtain ⟨r, hfound, hr, rfl⟩ := herrors _ herror
  rw [hfound]
  exact hrules r hr

end

/-- Every failure on the way names a line that is neither blank nor a comment, and its text. -/
theorem namesLine_events {e : Event} (he : e ∈ events config (FilterList.read lines)) :
    NamesLine lines e := by
  have hrules : ∀ r ∈ (prepare config (FilterList.read lines).rules).rules,
      HoldsRule lines r.line r.text := fun r => holdsRule_of_mem_prepare
  simp only [events, List.mem_append] at he
  obtain ((((he | he) | he) | he | he) | he) | he := he
  · obtain ⟨f, hf, rfl⟩ := List.mem_map.1 he
    rintro _ ⟨⟩
    exact holdsRule_of_mem_failures hf
  · exact namesLine_noted he
  · exact namesLine_compileRules hrules he
  · exact namesLine_noted he
  · refine namesLine_failuresOf hrules (fun x hx => ?_) he
    obtain ⟨y, hy, rfl⟩ := List.mem_map.1 hx
    exact isFound_searchedLines config lines (List.mem_append_left _ (List.mem_map_of_mem hy))
  · exact namesLine_noted he
  · have hfound : ∀ n ∈ failedLines (advancedPart config
        (prepare config (FilterList.read lines).rules)).2, IsFound _ n :=
      fun n hn => isFound_searchedLines config lines (List.mem_append_right _ hn)
    unfold advancedPart at he hfound
    cases hformat : config.advanced with
    | none =>
      rw [hformat] at he
      cases he
    | some format =>
      rw [hformat] at he hfound
      dsimp only at he hfound
      rw [failedLines_failuresOf] at hfound
      exact namesLine_failuresOf hrules (fun x hx => hfound _ (List.mem_map_of_mem hx)) he

theorem holdsRule_of_mem_failures {f : RuleFailure} (hf : f ∈ (ofLines config lines).failures) :
    HoldsRule lines f.line f.text := by
  rw [ofLines, failures_ofList] at hf
  exact namesLine_events (FailureLog.mem_of_mem_failures (Array.mem_def.2 hf)) f rfl

/-! ## Counts -/

theorem errorsCount_le_total :
    (ofLines config lines).errorsCount ≤ (ofLines config lines).total := by
  have htotal : (ofLines config lines).total = (results lines).length := total_ofList _ _
  have herrors : (ofLines config lines).errorsCount = (ofLines config lines).failures.length :=
    errorsCount_ofList _ _
  rw [herrors, length_failures, htotal]
  exact List.length_filter_le _ _

theorem total_ofLines : (ofLines config lines).total = lines.countP isRuleLine := by
  rw [ofLines, total_ofList, ← length_results]
  rfl

/-- A budget that holds an empty list is no reason to refuse. -/
theorem convert_of_budget {config : Config} (lines : List String)
    (h : ∀ bytes, config.maxBytes = some bytes → emptyListBytes ≤ bytes) :
    convert config lines = .ok (ofLines config lines) := by
  have hcheck : config.check = .ok () := by
    unfold Config.check
    split
    · rfl
    · rename_i bytes hbytes
      exact if_neg (Nat.not_lt.2 (h bytes hbytes))
  rw [convert, hcheck]
  rfl

/-- Counting is exact. Under any budget that holds an empty list there is a result; each line that
is neither blank nor a comment is converted or fails; the lines that failed, which are counted
apart, are as many as the failures; and the failures name different such lines, with their texts. No
search for the rule of a line misses. -/
theorem convert_counts {config : Config} (lines : List String)
    (h : ∀ bytes, config.maxBytes = some bytes → emptyListBytes ≤ bytes) :
    ∃ c, convert config lines = .ok c ∧
      c.convertedCount + c.errorsCount = lines.countP isRuleLine ∧ c.errorsCount ≤ c.total ∧
      c.errorsCount = c.failures.length ∧ (c.failures.map (·.line)).Nodup ∧
      (∀ f ∈ c.failures, HoldsRule lines f.line f.text) ∧
      ∀ number ∈ searchedLines config lines,
        IsFound (prepare config (FilterList.read lines).rules).rules number := by
  refine ⟨ofLines config lines, convert_of_budget lines h, ?_, errorsCount_le_total,
    errorsCount_ofList _ _, nodup_failures, fun f => holdsRule_of_mem_failures,
    fun number => isFound_searchedLines config lines⟩
  rw [convertedCount, Nat.sub_add_cancel errorsCount_le_total, total_ofLines]

/-- An empty list fits into the smallest budget. -/
theorem convert_counts_smallest :
    (∀ bytes, ({ maxBytes := some 2 } : Config).maxBytes = some bytes → emptyListBytes ≤ bytes) ∧
      ∃ c,
        convert { maxBytes := some 2 } ["||example.com^", "! comment", "||example.com^$unknown"] =
          .ok c ∧ c.convertedCount + c.errorsCount = 2 := by
  have hbudget : ∀ bytes, ({ maxBytes := some 2 } : Config).maxBytes = some bytes →
      emptyListBytes ≤ bytes := by
    rintro _ ⟨⟩
    decide
  obtain ⟨c, hc, hcount, -⟩ :=
    convert_counts ["||example.com^", "! comment", "||example.com^$unknown"] hbudget
  refine ⟨hbudget, c, hc, hcount.trans ?_⟩
  decide +kernel

end Conversion

end ContentRules
