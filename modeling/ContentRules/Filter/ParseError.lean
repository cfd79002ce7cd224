/-!
Why a line of a filter list is no rule.
-/

namespace ContentRules

/-- The faults of a line. -/
inductive ParseError where
  | emptyPattern
  | unknownSyntax
  | unknownModifier (name : String)
  | malformedModifier (text : String)
  | exceptionOnlyModifier (name : String)
  | invalidDomain (text : String)
  | invalidRegex
  | malformedScriptlet (text : String)
  | invalidSelector (text : String)
  deriving DecidableEq, Repr

namespace ParseError

/-- The fault in words. -/
def message : ParseError → String
  | emptyPattern => "empty pattern"
  | unknownSyntax => "unknown syntax"
  | unknownModifier name => "unknown modifier: " ++ name
  | malformedModifier text => "malformed modifier: " ++ text
  | exceptionOnlyModifier name => "modifier " ++ name ++ " is only allowed on exception rules"
  | invalidDomain text => "invalid domain: " ++ text
  | invalidRegex => "invalid regular expression"
  | malformedScriptlet text => "malformed scriptlet: " ++ text
  | invalidSelector text => "invalid selector: " ++ text

end ParseError

end ContentRules
