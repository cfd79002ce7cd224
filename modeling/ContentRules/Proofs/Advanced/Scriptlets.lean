import ContentRules.Proofs.Advanced.Exceptions
import ContentRules.Proofs.Filter.ScriptletLines
import ContentRules.Proofs.Json.Reading

/-!
Calls of scriptlets on their way from a line into the advanced payload. The payload names the
scriptlet and holds the call once more as a text in JSON; whatever the texts of the call hold, this
text is read back as the name and the arguments of the line. Main statement: `scriptlet_survives`.
-/

namespace ContentRules

namespace AdvancedPayload

/-- The text of a call is read as its name and its arguments. -/
theorem read?_callJson (call : ScriptletCall) :
    Json.read? (callJson call) =
      some (.obj [("name", .str call.name), ("args", .strings call.args)]) := Json.read?_render _

/-- The payload has one entry for a rule that calls a scriptlet, unless nothing
is left of its sites. -/
theorem placed_of_scriptlet {r : Rule} {call : ScriptletCall} {condition : Option DomainCondition}
    (hbody : r.body = .scriptlet false call) (hcondition : r.domains.condition = .ok condition) :
    (contribution r).placed =
      [(.scripts, ⟨{ domains := condition }, .scriptlet call.name (callJson call)⟩)] := by
  have hentry :
      ruleEntry r = .ok ⟨{ domains := condition }, .scriptlet call.name (callJson call)⟩ := by
    rw [ruleEntry, hcondition, hbody]
    rfl
  have hpayload : r.payloadEntry? =
      some ⟨{ domains := condition }, .scriptlet call.name (callJson call)⟩ := by
    rw [Rule.payloadEntry?, hentry, Rule.isAdvanced, Rule.isException, hbody]
    rfl
  have hkind : ∀ pattern o, r.body ≠ .network true pattern o := by
    intro pattern o h
    cases hbody.symm.trans h
  rw [placed_of_rule hkind, hpayload]
  rfl

/-- The payload of a single rule that contributes one entry. -/
theorem entries_of_placed {r : Rule} {s : PayloadSection} {e : Entry}
    (he : (contribution r).placed = [(s, e)]) : (ofRules [r]).entries = [e] := by
  rw [entries_ofRules, placedEntries, List.flatMap_singleton, he]
  cases s <;> rfl

end AdvancedPayload

open AdvancedPayload ScriptletCall

/-- A line that calls a scriptlet, each text in either kind of quotes, is read as a rule with
exactly the name and the arguments; and the entry of the payload for this rule names the scriptlet
and holds a text that is read as the name and the arguments. -/
theorem scriptlet_survives (number : Nat) (q : Quote) (name : String) (hname : name ≠ "")
    (args : List (Quote × String)) :
    ∃ r e param,
      Rule.read number (callingLine ((q, name) :: args)) = .ok (some r) ∧
      r.body = .scriptlet false ⟨name, args.map (·.2)⟩ ∧
      (ofRules [r]).entries = [e] ∧ (∀ rules, r ∈ rules → e ∈ (ofRules rules).entries) ∧
      e.action.toJson =
        .obj
          [("type", .str "scriptlet"), ("scriptlet", .str name), ("scriptletParam", .str param)] ∧
      Json.read? param =
        some (.obj [("name", .str name), ("args", .strings (args.map (·.2)))]) := by
  let call : ScriptletCall := ⟨name, args.map (·.2)⟩
  let r : Rule := ⟨number, callingLine ((q, name) :: args), {}, .scriptlet false call⟩
  have hread : Rule.read number (callingLine ((q, name) :: args)) = .ok (some r) :=
    Rule.read_callingLine q hname args number
  have hplaced : (contribution r).placed =
      [(.scripts, ⟨{ domains := none }, .scriptlet call.name (callJson call)⟩)] :=
    placed_of_scriptlet rfl rfl
  refine ⟨r, _, callJson call, hread, rfl, entries_of_placed hplaced, fun rules hr => ?_, rfl,
    read?_callJson call⟩
  exact mem_entries_of_placed hr (hplaced ▸ List.mem_singleton_self _)

/-- Texts that hold the signs of the syntax around them. -/
theorem scriptlet_survives_signs :
    let args := [(Quote.double, "a, 'b') # \"\\"), (.single, "#%#\n'"), (.single, "")]
    callingLine ((.single, "it's") :: args) =
        "#%#//scriptlet('it\\'s', \"a, 'b') # \\\"\\\\\", '#%#\n\\'', '')" ∧
      ∃ r e param,
        Rule.read 0 (callingLine ((.single, "it's") :: args)) = .ok (some r) ∧
        r.body = .scriptlet false ⟨"it's", args.map (·.2)⟩ ∧
        (ofRules [r]).entries = [e] ∧ (∀ rules, r ∈ rules → e ∈ (ofRules rules).entries) ∧
        e.action.toJson = .obj
          [("type", .str "scriptlet"), ("scriptlet", .str "it's"), ("scriptletParam", .str param)] ∧
        Json.read? param =
          some (.obj [("name", .str "it's"), ("args", .strings (args.map (·.2)))]) := by
  intro args
  exact ⟨by decide +kernel, scriptlet_survives 0 .single "it's" (by decide) args⟩

end ContentRules
