import ContentRules.Proofs.Conversion.AddedException
import ContentRules.Proofs.Conversion.Counts
import ContentRules.Proofs.Conversion.Switches
import ContentRules.Proofs.Filter.Cancelling
import ContentRules.Proofs.Filter.Twins

/-!
Adding a rule that cancels others to a list comes to the same as leaving the lines blank that it
cancels.
-/

namespace ContentRules

/-! ## Rules that say the same -/

namespace Rule

/-- Two network rules are of one kind and have one pattern, the same options and the same sites; the
order of the lists of sites and of unsupported options does not matter. -/
def saysSame (r s : Rule) : Bool :=
  match r.body, s.body with
  | .network isException pattern o, .network isException' pattern' o' =>
    isException == isException' && pattern == pattern' &&
      decide ({ o with unsupported := [] } = { o' with unsupported := [] }) &&
      decide (o.unsupported.Perm o'.unsupported) &&
      decide (r.domains.permitted.Perm s.domains.permitted) &&
      decide (r.domains.restricted.Perm s.domains.restricted)
  | _, _ => false

end Rule

/-- Rules that say the same have one key, and both or neither of them cancel others. -/
theorem Rule.saysSame_iff {r s : Rule} :
    r.saysSame s = true ↔ r.isBadfilter = s.isBadfilter ∧
      ∃ k, RuleKey.ofRule? r = some k ∧ RuleKey.ofRule? s = some k := by
  unfold saysSame isBadfilter RuleKey.ofRule?
  cases r.body with
  | network e p o =>
    cases s.body with
    | network e' p' o' =>
      obtain ⟨types, thirdParty, matchCase, important, badfilter, scopes, unsupported⟩ := o
      obtain ⟨types', thirdParty', matchCase', important', badfilter', scopes', unsupported'⟩ := o'
      simp only [Bool.and_eq_true, beq_iff_eq, decide_eq_true_eq, Option.some.injEq,
        exists_eq_left', RuleKey.mk.injEq, Options.mk.injEq, DomainList.mk.injEq,
        sortedTexts_eq_iff, and_true, true_and]
      constructor
      · rintro ⟨⟨⟨⟨⟨rfl, rfl⟩, rfl, rfl, rfl, rfl, rfl, rfl⟩, hunsupported⟩, hpermitted⟩,
          hrestricted⟩
        exact ⟨rfl, rfl, rfl, ⟨rfl, rfl, rfl, rfl, rfl, hunsupported.symm⟩, hpermitted.symm,
          hrestricted.symm⟩
      · rintro ⟨rfl, rfl, rfl, ⟨rfl, rfl, rfl, rfl, rfl, hunsupported⟩, hpermitted, hrestricted⟩
        exact ⟨⟨⟨⟨⟨rfl, rfl⟩, rfl, rfl, rfl, rfl, rfl, rfl⟩, hunsupported.symm⟩, hpermitted.symm⟩,
          hrestricted.symm⟩
    | _ => simp
  | _ => simp

/-! ## Cancelling -/

/-- A rule that cancels others leaves out those that have its key. -/
theorem Cancellation.rules_append_badfilter {rules : List Rule} {b : Rule} {k : RuleKey}
    (hb : b.isBadfilter = true) (hk : RuleKey.ofRule? b = some k) :
    (ofRules (rules ++ [b])).rules =
      (ofRules rules).rules.filter fun r => decide (RuleKey.ofRule? r ≠ some k) := by
  have hcancelling :
      (rules ++ [b]).filter Rule.isBadfilter = rules.filter Rule.isBadfilter ++ [b] := by
    simp [hb]
  have hothers : (rules ++ [b]).filter (!·.isBadfilter) = rules.filter (!·.isBadfilter) := by
    simp [hb]
  simp only [ofRules, hcancelling, hothers]
  rw [List.filter_filter (l := rules.filter (!·.isBadfilter))]
  refine List.filter_congr fun r _ => ?_
  unfold Rule.hasKeyIn
  cases RuleKey.ofRule? r with
  | none => simp
  | some k' =>
    rw [Option.any_some, Option.any_some, Std.HashSet.contains_ofList, Std.HashSet.contains_ofList,
      List.filterMap_append, List.filterMap_cons_some hk, List.filterMap_nil, List.contains_append,
      Bool.not_or, Bool.and_comm]
    congr 1
    rw [Bool.eq_iff_iff]
    simp

/-- What remains with a rule that cancels others is what remains of the rules that it
does not say the same as. -/
theorem Cancellation.rules_append_twin {rules : List Rule} {r b : Rule} {k : RuleKey}
    (hr : r.isBadfilter = false) (hk : RuleKey.ofRule? r = some k) (hb : b.isBadfilter = true)
    (hbk : RuleKey.ofRule? b = some k) :
    (ofRules (rules ++ [b])).rules = (ofRules (rules.filter fun s => !s.saysSame r)).rules := by
  rw [rules_append_badfilter hb hbk, rules_filter]
  · refine List.filter_congr fun s hs => ?_
    have hbad := (mem_rules.1 hs).2.1
    rw [Bool.eq_iff_iff, decide_eq_true_eq, Bool.not_eq_true', Bool.eq_false_iff, ne_eq, ne_eq,
      not_iff_not, Rule.saysSame_iff, hk, hbad, hr]
    simp
  · intro s _ hbad
    rw [Bool.not_eq_true', Bool.eq_false_iff, ne_eq, Rule.saysSame_iff, hbad, hr]
    simp

/-! ## Reading -/

namespace Rule

/-- The line is a rule that says the same. -/
def isSaidBy (r : Rule) (line : String) : Bool :=
  match read 0 line with
  | .ok (some s) => s.saysSame r
  | _ => false

end Rule

namespace FilterList

/-- The result is a rule that says the same. -/
def isSame (r : Rule) : Except ParseFailure Rule → Bool
  | .ok s => s.saysSame r
  | .error _ => false

/-- A line that says the same does so with any number. -/
theorem isSame_readLine (r : Rule) (number : Nat) (line : String) :
    ((readLine number line).map (isSame r)).getD false = r.isSaidBy line := by
  rw [readLine, Rule.read_eq_map, Rule.isSaidBy]
  cases Rule.read 0 line with
  | error => rfl
  | ok result => cases result <;> rfl

theorem readLine_isSaidBy (r : Rule) (number : Nat) (line : String) :
    readLine number (if r.isSaidBy line then "" else line) =
      (readLine number line).filter fun x => !isSame r x := by
  have hsame := isSame_readLine r number line
  cases hread : readLine number line with
  | none =>
    rw [hread] at hsame
    rw [← hsame]
    exact hread
  | some x =>
    rw [hread, Option.map_some, Option.getD_some] at hsame
    rw [Option.filter_some, hsame]
    by_cases hsaid : r.isSaidBy line = true
    · rw [if_pos hsaid, hsaid]
      rfl
    · rw [if_neg hsaid, Bool.eq_false_iff.2 hsaid]
      exact hread

section
variable (r : Rule) (lines : List String)

/-- The lines without those that say the same as a rule, which are left blank. -/
def withoutSaidBy : List String := lines.map fun line => if r.isSaidBy line then "" else line

theorem results_withoutSaidBy :
    results (withoutSaidBy r lines) = (results lines).filter fun x => !isSame r x := by
  rw [results, withoutSaidBy, List.zipIdx_map, List.filterMap_map, results, List.filter_filterMap]
  refine List.filterMap_congr fun x _ => ?_
  dsimp only [Function.comp_apply, Prod.map]
  exact readLine_isSaidBy r x.2 x.1

theorem rules_withoutSaidBy :
    (read (withoutSaidBy r lines)).rules = (read lines).rules.filter fun s => !s.saysSame r := by
  rw [read_eq, results_withoutSaidBy, read_eq]
  simp only [ofResults, List.filterMap_filter, List.filter_filterMap]
  refine List.filterMap_congr fun x _ => ?_
  cases x with
  | ok s => cases h : s.saysSame r <;> simp [isSame, h, Option.filter_some]
  | error f => rfl

theorem failures_withoutSaidBy :
    (read (withoutSaidBy r lines)).failures = (read lines).failures := by
  rw [read_eq, results_withoutSaidBy, read_eq]
  simp only [ofResults, List.filterMap_filter]
  refine List.filterMap_congr fun x _ => ?_
  cases x with
  | ok s => cases h : s.saysSame r <;> simp [isSame, h]
  | error f => rfl

/-- Every line that is left blank counts as one line less. -/
theorem total_withoutSaidBy :
    (read (withoutSaidBy r lines)).total + lines.countP r.isSaidBy = (read lines).total := by
  have hsame : (results lines).countP (isSame r) = lines.countP r.isSaidBy := by
    have hlines : lines.countP r.isSaidBy = (lines.zipIdx.map (·.1)).countP r.isSaidBy := by
      rw [List.zipIdx_map_fst]
    rw [hlines, List.countP_map, results, List.countP_filterMap]
    refine List.countP_congr fun x _ => ?_
    obtain ⟨line, number⟩ := x
    dsimp only [Function.comp_apply]
    rw [isSame_readLine]
  have hlength := List.length_eq_countP_add_countP (isSame r) (l := results lines)
  rw [read_eq, read_eq, ← hsame, results_withoutSaidBy]
  simp only [ofResults, List.countP_eq_length_filter] at hlength ⊢
  simp only [Bool.not_eq_true, Bool.decide_eq_false] at hlength
  omega

end

theorem total_append {lines : List String} {line : String} {e : Rule}
    (h : Rule.read lines.length line = .ok (some e)) :
    (read (lines ++ [line])).total = (read lines).total + 1 := by
  have hline : readLine lines.length line = some (.ok e) := by rw [readLine, h]
  simp [read_eq, results, List.zipIdx_append, hline, ofResults]

end FilterList

/-! ## Converting -/

namespace Conversion

section
variable (config : Config) {l l' : FilterList}
  (hrules : (Cancellation.ofRules l.rules).rules = (Cancellation.ofRules l'.rules).rules)
include hrules

theorem prepare_congr : (prepare config l.rules).rules = (prepare config l'.rules).rules ∧
    (prepare config l.rules).exceptions = (prepare config l'.rules).exceptions := by
  rw [rules_prepare, rules_prepare, exceptions_prepare, exceptions_prepare, hrules]
  exact ⟨rfl, rfl⟩

theorem advancedPart_congr :
    advancedPart config (prepare config l.rules) =
      advancedPart config (prepare config l'.rules) := by
  obtain ⟨hprepared, hexceptions⟩ := prepare_congr config hrules
  unfold advancedPart
  rw [hprepared, hexceptions]

theorem list_congr : (ofList config l).list = (ofList config l').list := by
  rw [list_ofList, list_ofList, (prepare_congr config hrules).1]

theorem entriesBeforeCut_congr :
    (ofList config l).entriesBeforeCut = (ofList config l').entriesBeforeCut := by
  rw [entriesBeforeCut_ofList, entriesBeforeCut_ofList, (prepare_congr config hrules).1]

theorem advanced_congr : (ofList config l).advanced = (ofList config l').advanced := by
  rw [advanced_ofList, advanced_ofList, advancedPart_congr config hrules]

/-- Which rules have been cancelled is noted, and nothing fails by it. -/
theorem failures_congr (hfailures : l.failures = l'.failures) :
    (ofList config l).failures = (ofList config l').failures := by
  have hevents (rules : List Rule) :
      (prepare config rules).events.filter (·.failure?.isSome) = [] := filter_failure_notes _
  rw [failures_ofList, failures_ofList, FailureLog.failures_ofEvents_filter,
    FailureLog.failures_ofEvents_filter (events config l')]
  simp only [events, List.filter_append, filter_failure_notes, hevents, hfailures,
    (prepare_congr config hrules).1, advancedPart_congr config hrules]

end

end Conversion

/-! ## Twins -/

/-- A rule and its twin have one key. -/
theorem RuleKey.ofRule?_twin {r t : Rule} {isException : Bool} {pattern : String} {o : Options}
    (hr : r.body = .network isException pattern o)
    (ht : t.body = .network isException pattern { o with badfilter := true })
    (hdomains : r.domains.IsReordered t.domains) : RuleKey.ofRule? t = RuleKey.ofRule? r := by
  rw [RuleKey.ofRule?, RuleKey.ofRule?, hr, ht]
  dsimp only
  rw [sortedTexts_eq_iff.2 hdomains.permitted, sortedTexts_eq_iff.2 hdomains.restricted]

open Conversion in
/-- A rule that is written again with the option `badfilter` is cancelled with all lines that say
the same. The conversion has the same outcome as without these lines, and counts them and the
cancelling line as converted. -/
theorem convert_append_twin {config : Config} (hconfig : config.check = .ok ())
    (lines : List String)
    {number : Nat} {line line' : String} {r : Rule} (hread : Rule.read number line = .ok (some r))
    {isException : Bool} {pattern : String} {o : Options}
    (hbody : r.body = .network isException pattern o) (hbad : o.badfilter = false)
    (hhosts : NetworkRule.hostsFileHost? (Text.trim line.toList) = none)
    (htwin : NetworkRule.IsTwinLine (Text.trim line.toList) (Text.trim line'.toList)) :
    ∃ c c', convert config (lines ++ [line']) = .ok c ∧
      convert config (FilterList.withoutSaidBy r lines) = .ok c' ∧
      c.list = c'.list ∧ c.entriesBeforeCut = c'.entriesBeforeCut ∧
      c.entriesCount = c'.entriesCount ∧ c.advanced = c'.advanced ∧
      c.advancedCount = c'.advancedCount ∧ c.failures = c'.failures ∧
      c.errorsCount = c'.errorsCount ∧
      c.convertedCount = c'.convertedCount + 1 + lines.countP r.isSaidBy := by
  obtain ⟨domains, hdomains, hread'⟩ :=
    Rule.exists_read_of_isTwinLine htwin hhosts hread hbody lines.length
  have hkey : ∃ k, RuleKey.ofRule? r = some k := by
    rw [RuleKey.ofRule?, hbody]
    exact ⟨_, rfl⟩
  obtain ⟨k, hk⟩ := hkey
  have hr : r.isBadfilter = false := by
    rw [Rule.isBadfilter, hbody]
    exact hbad
  obtain ⟨hrules, hfailures⟩ := FilterList.read_append hread'
  have hremaining : (Cancellation.ofRules (FilterList.read (lines ++ [line'])).rules).rules =
      (Cancellation.ofRules (FilterList.read (FilterList.withoutSaidBy r lines)).rules).rules := by
    rw [hrules, FilterList.rules_withoutSaidBy]
    exact Cancellation.rules_append_twin hr hk rfl
      ((RuleKey.ofRule?_twin hbody rfl hdomains).trans hk)
  have hsame : (ofLines config (lines ++ [line'])).failures =
      (ofLines config (FilterList.withoutSaidBy r lines)).failures :=
    failures_congr config hremaining
      (hfailures.trans (FilterList.failures_withoutSaidBy r lines).symm)
  have herrors : (ofLines config (lines ++ [line'])).errorsCount =
      (ofLines config (FilterList.withoutSaidBy r lines)).errorsCount := by
    rw [ofLines, ofLines, errorsCount_ofList, errorsCount_ofList]
    exact congrArg List.length hsame
  refine ⟨ofLines config (lines ++ [line']), ofLines config (FilterList.withoutSaidBy r lines),
    bind_eq_ok.2 ⟨_, hconfig, rfl⟩, bind_eq_ok.2 ⟨_, hconfig, rfl⟩, list_congr config hremaining,
    entriesBeforeCut_congr config hremaining, ?_, advanced_congr config hremaining, ?_, hsame,
    ?_, ?_⟩
  · exact congrArg (·.entries.length) (list_congr config hremaining)
  · exact congrArg (fun p => (p.map (·.entries.length)).getD 0) (advanced_congr config hremaining)
  · exact herrors
  · have htotal := FilterList.total_append hread'
    have htotal' := FilterList.total_withoutSaidBy r lines
    have hle := @errorsCount_le_total config (FilterList.withoutSaidBy r lines)
    rw [convertedCount, convertedCount, herrors]
    rw [ofLines, total_ofList] at hle
    rw [ofLines, ofLines, total_ofList, total_ofList, htotal, ← htotal']
    omega

/-- Two lines that name the same sites in different orders are cancelled together. -/
theorem convert_append_twin_sites :
    let lines := ["||ads.com^$domain=a.com|b.com", "||ads.com^$domain=b.com|a.com", "##.ad"]
    ∃ c c', convert {} (lines ++ ["||ads.com^$domain=b.com|a.com,badfilter"]) = .ok c ∧
      convert {} ["", "", "##.ad"] = .ok c' ∧ c.list = c'.list ∧ c.failures = c'.failures ∧
      c.convertedCount = c'.convertedCount + 3 := by
  intro lines
  let o : Options := {}
  let r : Rule := ⟨0, "||ads.com^$domain=a.com|b.com", ⟨["a.com", "b.com"], []⟩,
    .network false "||ads.com^" o⟩
  have hread : Rule.read 0 "||ads.com^$domain=a.com|b.com" = .ok (some r) := by decide +kernel
  have hhosts :
      NetworkRule.hostsFileHost? (Text.trim "||ads.com^$domain=a.com|b.com".toList) = none := by
    decide +kernel
  have htwin : NetworkRule.IsTwinLine (Text.trim "||ads.com^$domain=a.com|b.com".toList)
      (Text.trim "||ads.com^$domain=b.com|a.com,badfilter".toList) := by
    have hsites : Options.Reordered "domain=a.com|b.com".toList "domain=b.com|a.com".toList :=
      @Options.Reordered.sites [] "domain=".toList "a.com|b.com".toList "b.com|a.com".toList
        nofun rfl (by decide)
    exact .blocks (by decide) (@NetworkRule.IsTwin.options false _ "||ads.com^".toList
      "domain=a.com|b.com".toList [] "domain=b.com|a.com,badfilter".toList (by decide) nofun
      ⟨["domain=b.com|a.com".toList], .cons hsites .nil, by decide⟩)
  have hlines : FilterList.withoutSaidBy r lines = ["", "", "##.ad"] := by decide +kernel
  have hcount : lines.countP r.isSaidBy = 2 := by decide +kernel
  obtain ⟨c, c', hc, hc', hlist, -, -, -, -, hfailures, -, hconverted⟩ :=
    @convert_append_twin {} rfl lines 0 _ _ r hread false _ o rfl rfl hhosts htwin
  rw [hlines] at hc'
  rw [hcount] at hconverted
  exact ⟨c, c', hc, hc', hlist, hfailures, hconverted⟩

open Conversion in
/-- A blank before the option turns an address into a line of a hosts file, which cannot be read. -/
theorem convert_append_twin_address :
    let line := "1.2.3.4 "
    ∃ r, Rule.read 0 line = .ok (some r) ∧ r.body = .network false "1.2.3.4" {} ∧
      NetworkRule.hostsFileHost? (Text.trim line.toList) = none ∧
      ∃ c c', convert {} ([line] ++ [line ++ "$badfilter"]) = .ok c ∧
        convert {} (FilterList.withoutSaidBy r [line]) = .ok c' ∧ c.failures ≠ c'.failures := by
  intro line
  let r : Rule := ⟨0, "1.2.3.4", ⟨[], []⟩, .network false "1.2.3.4" {}⟩
  have hread : Rule.read 0 line = .ok (some r) := by decide +kernel
  have hhosts : NetworkRule.hostsFileHost? (Text.trim line.toList) = none := by decide +kernel
  refine ⟨r, hread, rfl, hhosts, _, _, rfl, rfl, fun hsame => ?_⟩
  have hfailures :
      (FilterList.read ([line] ++ [line ++ "$badfilter"])).failures.map (·.line) = [1] := by
    decide +kernel
  have hlines : FilterList.withoutSaidBy r [line] = [""] := by decide +kernel
  have hfails : 1 ∈ (ofLines {} ([line] ++ [line ++ "$badfilter"])).failures.map (·.line) := by
    rw [mem_failures_ofLines, hfailures]
    exact .inl (.head _)
  rw [hsame, hlines, mem_failures_ofLines, rules_prepare] at hfails
  have hrules : (FilterList.read [""]).rules = [] := rfl
  have hnone : (FilterList.read [""]).failures = [] := rfl
  simp [hrules, hnone, Cancellation.ofRules, applyCosmeticExceptions] at hfails

end ContentRules
