import ContentRules.Filter.Rule
import Std.Data.HashSet

/-!
Rules that cancel others. A network rule with the option `badfilter` cancels every rule that says
the same without it; the order of sites and of unsupported options does not matter.
-/

namespace ContentRules

/-- What a network rule says, up to the order of its lists. -/
structure RuleKey where
  isException : Bool
  pattern : String
  options : Options
  domains : DomainList
  deriving DecidableEq, Hashable

def sortedTexts (l : List String) : List String := l.mergeSort fun s t => decide (s ≤ t)

namespace RuleKey

/-- The key of a network rule, whether or not it cancels others. -/
def ofRule? (r : Rule) : Option RuleKey :=
  match r.body with
  | .network isException pattern options =>
    some
      { isException, pattern
        options :=
          { options with badfilter := false, unsupported := sortedTexts options.unsupported }
        domains := ⟨sortedTexts r.domains.permitted, sortedTexts r.domains.restricted⟩ }
  | _ => none

end RuleKey

namespace Rule

/-- The rule cancels others. -/
def isBadfilter (r : Rule) : Bool :=
  match r.body with
  | .network _ _ options => options.badfilter
  | _ => false

/-- One of the keys is that of the rule. -/
def hasKeyIn (r : Rule) (keys : Std.HashSet RuleKey) : Bool := (RuleKey.ofRule? r).any keys.contains

end Rule

/-- The rules that are left, with the number of those that cancelled and were cancelled. -/
structure Cancellation where
  rules : List Rule
  badfilterRules : Nat
  badfilteredRules : Nat

/-- The outcome of cancelling: rules that cancel and rules that are cancelled are left out. -/
def Cancellation.ofRules (rules : List Rule) : Cancellation :=
  let cancelling := rules.filter Rule.isBadfilter
  let keys := Std.HashSet.ofList (cancelling.filterMap RuleKey.ofRule?)
  let others := rules.filter (!·.isBadfilter)
  { rules := others.filter (!·.hasKeyIn keys)
    badfilterRules := cancelling.length
    badfilteredRules := others.countP (·.hasKeyIn keys) }

end ContentRules
