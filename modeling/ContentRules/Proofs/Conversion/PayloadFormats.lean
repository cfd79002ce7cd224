import ContentRules.Proofs.Conversion.Counts
import ContentRules.Proofs.Conversion.PayloadListing

/-!
The two formats of the advanced payload. Converting the lines of a payload in the form of texts
gives the payload in the form of a rule list, with one flaw: exceptions of hiding rules that go to
the payload are missing from the texts. Main statement: `convert_payloadLines`.
-/

namespace ContentRules

open AdvancedPayload

namespace Conversion

open Rule

/-- The lines of the payload as it is written. -/
def payloadLines (c : Conversion) : List String := (c.advanced.map fun p => linesOf p.text).getD []

section
variable {config : Config} {lines : List String}

theorem pairwise_line_remaining : (remaining lines).Pairwise fun r s => r.line < s.line :=
  .sublist (List.filter_sublist.trans List.filter_sublist) (FilterList.pairwise_line_rules lines)

theorem read_text_remaining {r : Rule} (hr : r ∈ remaining lines) (number : Nat) :
    Rule.read number r.text = .ok (some { r with line := number }) := by
  obtain ⟨line, _, -, hread⟩ := FilterList.mem_rules.1 (mem_of_mem_cancellation hr)
  exact read_text hread number

theorem not_mem_text_remaining (hlines : ∀ line ∈ lines, '\n' ∉ line.toList) {r : Rule}
    (hr : r ∈ remaining lines) : '\n' ∉ r.text.toList := by
  obtain ⟨line, hline, -, htext⟩ := FilterList.holdsRule_of_mem_rules (mem_of_mem_cancellation hr)
  rw [htext, Text.trimmed, String.toList_ofList]
  intro hmem
  exact hlines line (List.mem_of_getElem? hline) ((Text.isInfix_trim _).subset hmem)

theorem placed_anonymous (r : Rule) : placed config r.anonymous = (placed config r).anonymous := by
  have hsame := placed_congr config (r := r) (s := r) rfl
  rw [placed_congr config (s := r.anonymous) (r := r) rfl, hsame]
  rfl

theorem contribution_anonymous (r : Rule) : contribution r.anonymous = contribution r := rfl

/-- What rules say decides what they contribute to the payload. -/
theorem placedEntries_anonymous (rules : List Rule) :
    placedEntries ((rules.map anonymous).map (placed config)) =
      placedEntries (rules.map (placed config)) := by
  rw [placedEntries, placedEntries, List.map_map, List.flatMap_map, List.flatMap_map]
  refine List.flatMap_congr fun r _ => ?_
  rw [Function.comp_apply, placed_anonymous, contribution_anonymous]

/-- Rules that say what the listed ones say have the entries of these once more. -/
theorem placedEntries_again {rules listed : List Rule}
    (hrules : rules.map anonymous = listed.map anonymous)
    (hlisted : listed = (remaining lines).filter
      (isListed config ((remaining lines).filter Rule.isCosmeticException))) :
    placedEntries (prepare config rules).rules =
      ((remaining lines).filter (!·.isCosmeticException)).flatMap
        (entriesAgain config ((remaining lines).filter Rule.isCosmeticException)) := by
  -- no rule that is read from the texts cancels others: none of the listed ones does
  have hnone : ∀ r ∈ rules, r.isBadfilter = false := by
    intro r hr
    have hmem : r.anonymous ∈ listed.map anonymous := hrules ▸ List.mem_map_of_mem hr
    obtain ⟨s, hs, hsame⟩ := List.mem_map.1 hmem
    rw [hlisted] at hs
    have hsaid : r.said = s.said := (congrArg said hsame).symm
    rw [isBadfilter_of_said hsaid]
    exact (Cancellation.mem_rules.1 (List.mem_filter.1 hs).1).2.1
  rw [rules_prepare, cancellation_of_none hnone, ← placedEntries_anonymous,
    ← applyCosmeticExceptions_anonymous, hrules, applyCosmeticExceptions_anonymous,
    placedEntries_anonymous, placedEntries_prepared, hlisted, exceptions_listed, others_listed,
    flatMap_filter]
  rfl

end

/-! ## The second conversion -/

/-- A payload in the form of a rule list. -/
def writtenJson (entries : List Entry) : WrittenPayload :=
  { format := .json, entries, text := Entry.renderList entries }

theorem writtenJson_inj {l m : List Entry} : writtenJson l = writtenJson m ↔ l = m :=
  ⟨fun h => congrArg WrittenPayload.entries h, fun h => h ▸ rfl⟩

section
variable (config : Config) {lines : List String}

/-- The payload with the texts of rules. -/
theorem payloadLines_txt : payloadLines (ofLines { config with advanced := some .txt } lines) =
    linesOf ("\n".intercalate
      (((remaining lines).filter (isListed { config with advanced := some .json }
        ((remaining lines).filter Rule.isCosmeticException))).map (·.text))) := by
  rw [payloadLines, ofLines, advanced_ofList, ← ruleTexts_eq pairwise_line_remaining]
  change linesOf ("\n".intercalate (ruleTexts (ofRules (prepare _ _).rules) (prepare _ _).rules
    (prepare _ _).exceptions)) = _
  rw [rules_prepare, exceptions_prepare]
  rfl

/-- The texts of the listed rules are read as these rules. -/
theorem anonymous_read_listed (hlines : ∀ line ∈ lines, '\n' ∉ line.toList) {listed : List Rule}
    (hlisted : ∀ r ∈ listed, r ∈ remaining lines) :
    (FilterList.read (linesOf ("\n".intercalate (listed.map (·.text))))).rules.map anonymous =
      listed.map anonymous := by
  by_cases hnil : listed = []
  · subst hnil
    rfl
  · rw [linesOf_intercalate]
    · exact anonymous_read_texts fun r hr => read_text_remaining (hlisted r hr)
    · exact mt List.map_eq_nil_iff.1 hnil
    · intro s hs
      obtain ⟨r, hr, rfl⟩ := List.mem_map.1 hs
      exact not_mem_text_remaining hlines (hlisted r hr)

theorem advanced_json (lines : List String) :
    (ofLines { config with advanced := some .json } lines).advanced =
      some (writtenJson ((arrange PayloadSection.all (·.1) (placedEntries
        (prepare { config with advanced := some .json } (FilterList.read lines).rules).rules)).map
          (·.2))) := by
  rw [ofLines, advanced_ofList, ← entries_ofRules]
  rfl

/-- The payload is the same again if and only if no exception is lost. -/
theorem advanced_again_iff (hlines : ∀ line ∈ lines, '\n' ∉ line.toList) :
    (ofLines { config with advanced := some .json }
        (payloadLines (ofLines { config with advanced := some .txt } lines))).advanced =
      (ofLines { config with advanced := some .json } lines).advanced ↔
      ¬LosesException config.version (remaining lines) := by
  have hread : (FilterList.read
        (payloadLines (ofLines { config with advanced := some .txt } lines))).rules.map anonymous =
      ((remaining lines).filter (isListed { config with advanced := some .json }
        ((remaining lines).filter Rule.isCosmeticException))).map anonymous := by
    rw [payloadLines_txt]
    exact anonymous_read_listed hlines fun r hr => (List.mem_filter.1 hr).1
  have hfirst : placedEntries
        (prepare { config with advanced := some .json } (FilterList.read lines).rules).rules =
      ((remaining lines).filter (!·.isCosmeticException)).flatMap (payloadEntries
        { config with advanced := some .json }
        ((remaining lines).filter Rule.isCosmeticException)) := by
    rw [rules_prepare]
    exact placedEntries_prepared
  rw [advanced_json, advanced_json, Option.some.injEq, writtenJson_inj,
    placedEntries_again hread rfl, hfirst, eq_comm]
  exact entries_listed_iff rfl _

end

/-- The two formats carry the same rules but for one kind of exception. Converting the lines
of the payload with the texts of rules gives the payload with the entries of the rules,
unless a hiding rule with `:has()` goes to the payload and an exception keeps it off some
pages: then the entries differ. -/
theorem convert_payloadLines {config : Config} {lines : List String}
    (hbudget : ∀ bytes, config.maxBytes = some bytes → emptyListBytes ≤ bytes)
    (hlines : ∀ line ∈ lines, '\n' ∉ line.toList) :
    ∃ txt json again, convert { config with advanced := some .txt } lines = .ok txt ∧
      convert { config with advanced := some .json } lines = .ok json ∧
      convert { config with advanced := some .json } (payloadLines txt) = .ok again ∧
      (again.advanced = json.advanced ↔ ¬LosesException config.version (remaining lines)) :=
  ⟨_, _, _, convert_of_budget lines hbudget, convert_of_budget lines hbudget,
    convert_of_budget _ hbudget, advanced_again_iff config hlines⟩

/-- Without exceptions the formats carry the same rules, also a rule with
`:has()` that Safari lacks. -/
theorem convert_payloadLines_has :
    (∀ line ∈ ["##div:has(.ad)", "#%#alert(1)"], '\n' ∉ line.toList) ∧
      ∃ txt json again,
        convert { advanced := some .txt } ["##div:has(.ad)", "#%#alert(1)"] = .ok txt ∧
        convert { advanced := some .json } ["##div:has(.ad)", "#%#alert(1)"] = .ok json ∧
        convert { advanced := some .json } (payloadLines txt) = .ok again ∧
        again.advanced = json.advanced := by
  have hlines : ∀ line ∈ ["##div:has(.ad)", "#%#alert(1)"], '\n' ∉ line.toList := by decide
  have hbudget : ∀ bytes, ({} : Config).maxBytes = some bytes → emptyListBytes ≤ bytes := nofun
  obtain ⟨txt, json, again, htxt, hjson, hagain, hsame⟩ := convert_payloadLines hbudget hlines
  refine ⟨hlines, txt, json, again, htxt, hjson, hagain, hsame.2 ?_⟩
  have hnone : (FilterList.read ["##div:has(.ad)", "#%#alert(1)"]).rules.filter
      Rule.isCosmeticException = [] := by decide +kernel
  rw [remaining, cancellation_of_none (by decide +kernel)]
  rintro ⟨-, r, -, hhas, s, condition, hs, hcondition, hne⟩
  obtain ⟨body, hbody, -⟩ := Rule.hidesByHas_iff.1 hhas
  have hall := narrowedBy?_elementHiding hbody []
  rw [hnone] at hs
  cases hs.symm.trans hall
  exact hne hcondition

end Conversion

end ContentRules
