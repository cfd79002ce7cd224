import ContentRules.Filter.ContentType
import ContentRules.Filter.Scope

/-!
The rules of a filter list. A rule blocks requests by the pattern of their URL or excepts them,
changes how pages look or run, or calls a scriptlet; each may be limited to some sites.
-/

namespace ContentRules

/-- The sites that a rule is limited to, and those that it spares. -/
structure DomainList where
  permitted : List String := []
  restricted : List String := []
  deriving DecidableEq, Hashable, Repr

namespace DomainList

def isEmpty (l : DomainList) : Bool := l.permitted.isEmpty && l.restricted.isEmpty

end DomainList

/-- The options of a network rule, its sites aside. -/
structure Options where
  /-- Without a set, the rule counts for requests of every kind. -/
  contentTypes : Option ContentTypes := none
  /-- Whether the rule counts for requests to other sites only, or to the same site only. -/
  thirdParty : Option Bool := none
  matchCase : Bool := false
  important : Bool := false
  /-- The rule cancels others that say the same. -/
  badfilter : Bool := false
  scopes : Scopes := ∅
  /-- Options that are known and have no counterpart in a rule list. -/
  unsupported : List String := []
  deriving DecidableEq, Hashable

/-- How a cosmetic rule changes a page. -/
inductive Flavour where
  /-- Hides what a selector selects. -/
  | elementHiding
  /-- Hides what a selector beyond the standard selects. -/
  | extendedCss
  | cssInject
  | script
  deriving DecidableEq, Hashable, Repr

/-- A scriptlet with its arguments. -/
structure ScriptletCall where
  name : String
  args : List String
  deriving DecidableEq, Hashable, Repr

/-- What a rule does. -/
inductive RuleBody where
  | network (isException : Bool) (pattern : String) (options : Options)
  | cosmetic (isException : Bool) (flavour : Flavour) (body : String)
  | scriptlet (isException : Bool) (call : ScriptletCall)
  deriving DecidableEq, Hashable

/-- A rule, with the number of its line, counted from zero, and the text it was read from. -/
structure Rule where
  line : Nat
  text : String
  domains : DomainList
  body : RuleBody
  deriving DecidableEq

namespace RuleBody

/-- The body makes an exception. -/
def isException : RuleBody → Bool
  | network isException .. => isException
  | cosmetic isException .. => isException
  | scriptlet isException _ => isException

/-- Only the advanced payload can carry the rule. -/
def isAdvanced : RuleBody → Bool
  | network .. => false
  | cosmetic _ flavour _ => flavour != .elementHiding
  | scriptlet .. => true

end RuleBody

namespace Rule

def isException (r : Rule) : Bool := r.body.isException
def isAdvanced (r : Rule) : Bool := r.body.isAdvanced

end Rule

end ContentRules
