import ContentRules.Filter.Rule
import ContentRules.Safari.Version
import ContentRules.Text.Pieces

/-!
Hiding rules whose selector uses `:has()`. Versions of Safari that lack it leave them to the
advanced payload, as rules with a selector beyond the standard.
-/

namespace ContentRules

/-- The selector uses `:has()`. -/
def usesHas (selector : String) : Bool := Text.occursIn ":has(".toList selector.toList

namespace Rule

/-- The rule hides what a selector with `:has()` selects. -/
def hidesByHas (r : Rule) : Bool :=
  match r.body with
  | .cosmetic false .elementHiding body => usesHas body
  | _ => false

/-- The rule with its body for the advanced payload. -/
def promoted (r : Rule) : Rule :=
  match r.body with
  | .cosmetic isException _ body => { r with body := .cosmetic isException .extendedCss body }
  | _ => r

end Rule

/-- The rules with those promoted that the version cannot carry, and how many these are. -/
def promoteHasSelectors (version : Version) (rules : List Rule) : List Rule × Nat :=
  if version.knowsHas then (rules, 0)
  else (rules.map fun r => if r.hidesByHas then r.promoted else r, rules.countP Rule.hidesByHas)

end ContentRules
