import ContentRules.Advanced.Section
import ContentRules.Native.RuleTrigger
import ContentRules.Ordered.Arrange
import ContentRules.Text.Blank
import Std.Data.HashSet

/-!
The advanced payload: what Safari cannot do itself. It holds scripts, scriptlets and styles, and the
exceptions of network rules that switch these off on a page.
-/

namespace ContentRules

/-- The forms in which the payload is written. -/
inductive PayloadFormat where
  /-- A rule list. -/
  | json
  /-- The texts of the rules. -/
  | txt
  deriving DecidableEq, Repr

namespace PayloadFormat

/-- The word for the format, also the extension of files in it. -/
def word : PayloadFormat → String
  | json => "json"
  | txt => "txt"

/-- The format that a text names, blanks around it and the case of letters aside. -/
def ofText? (text : String) : Option PayloadFormat :=
  [json, txt].find? fun format => Text.lowered (Text.trimmed text) == format.word

end PayloadFormat

/-- The payload with what became of the rules. -/
structure AdvancedPayload where
  entries : List Entry
  /-- The lines of rules that could not be compiled. -/
  failures : List (Nat × CompileError)
  /-- The lines of rules that the payload carries. -/
  sources : List Nat

namespace AdvancedPayload

/-- A scriptlet and its arguments as the payload names them. -/
def callJson (call : ScriptletCall) : String :=
  (Json.obj [("name", .str call.name), ("args", .strings call.args)]).render

/-- The action of a rule that the payload carries. -/
def action (body : RuleBody) : Except CompileError Action :=
  match body with
  | .scriptlet _ call => .ok (.scriptlet call.name (callJson call))
  | .cosmetic _ flavour text =>
    let text := Text.trimmed text
    if text.isEmpty then .error .emptySelector
    else
      match flavour with
      | .extendedCss => .ok (.cssExtended text)
      | .cssInject => .ok (.cssInject text)
      | .script => .ok (.script text)
      | .elementHiding => .error .emptySelector
  | .network .. => .error .emptySelector

/-- The section of an entry that is no exception. -/
def sectionOf (e : Entry) : PayloadSection :=
  match e.action.kind with
  | .cssExtended | .cssInject =>
    match e.trigger.domains with
    | some (.only _) => .domainCss
    | _ => .genericCss
  | _ => .scripts

/-- What a rule comes to: entries, each with its section, or a failure. -/
structure Contribution where
  placed : List (PayloadSection × Entry) := []
  failure : Option CompileError := none

/-- The entry of a rule that the payload carries. -/
def ruleEntry (r : Rule) : Except CompileError Entry := do
  let condition ← r.domains.condition
  return ⟨{ domains := condition }, ← action r.body⟩

/-- The entries of an exception for a page. One that cannot be compiled has none, and fails as a
rule of the native list. -/
def pageException (pattern : String) (o : Options) (domains : DomainList) : Contribution :=
  match Trigger.ofPage pattern o domains with
  | .error _ => {}
  | .ok trigger =>
    { placed := o.scopes.payloadSections.map fun s => (s, ⟨trigger, .ignorePreviousRules⟩) }

/-- What a rule contributes to the payload. -/
def contribution (r : Rule) : Contribution :=
  match r.body with
  | .network true pattern o => pageException pattern o r.domains
  | .network false .. => {}
  | body =>
    if !body.isAdvanced || body.isException then {}
    else
      match ruleEntry r with
      | .ok e => { placed := [(sectionOf e, e)] }
      | .error error => { failure := some error }

/-- The payload of a list of rules. -/
def ofRules (rules : List Rule) : AdvancedPayload :=
  let contributions := rules.map fun r => (r.line, contribution r)
  let placed := contributions.flatMap fun (_, c) => c.placed
  { entries := (arrange PayloadSection.all (·.1) placed).map (·.2)
    failures := contributions.filterMap fun (line, c) => c.failure.map fun error => (line, error)
    sources := contributions.filterMap fun (line, c) =>
      if c.placed.isEmpty then none else some line }

/-- The texts of the rules that the payload carries and of the exceptions of advanced rules, in the
order of their lines. -/
def ruleTexts (p : AdvancedPayload) (rules exceptions : List Rule) : List String :=
  let sources := Std.HashSet.ofList p.sources
  let carried :=
    rules.filter (fun r => sources.contains r.line) ++ exceptions.filter Rule.isAdvanced
  (carried.mergeSort fun r s => decide (r.line ≤ s.line)).map (·.text)

/-- The payload in one of its formats. -/
def render (p : AdvancedPayload) (rules exceptions : List Rule) : PayloadFormat → String
  | .json => Entry.renderList p.entries
  | .txt => "\n".intercalate (p.ruleTexts rules exceptions)

end AdvancedPayload

end ContentRules
