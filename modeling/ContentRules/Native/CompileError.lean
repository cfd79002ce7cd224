/-!
Why a rule has no counterpart in a rule list.
-/

namespace ContentRules

/-- What the regular expressions of rule lists lack. -/
inductive MissingConstruct where
  /-- A class of characters or a word edge, written as a backslash and this letter. -/
  | escape (letter : Char)
  | alternation
  | countedRepetition
  | groupFlags
  deriving DecidableEq, Repr

/-- How the construct is written. -/
def MissingConstruct.text : MissingConstruct → String
  | escape letter => String.ofList ['\\', letter]
  | alternation => "|"
  | countedRepetition => "\x7b\x7d"
  | groupFlags => "(?"

/-- Why a rule cannot be compiled. -/
inductive CompileError where
  | unsupportedModifier (name : String)
  | unsupportedRegex (construct : MissingConstruct)
  | nonAsciiPattern
  | conflictingDomains
  | allResourceTypesDropped
  | emptySelector
  | advancedBlockingDisabled
  deriving DecidableEq, Repr

namespace CompileError

/-- The reason in words. -/
def message : CompileError → String
  | unsupportedModifier name => "unsupported modifier: " ++ name
  | unsupportedRegex construct =>
    "regular expression uses an unsupported construct: " ++ construct.text
  | nonAsciiPattern => "pattern contains non-ASCII characters"
  | conflictingDomains => "rule restricts and excludes the same domains, nothing is left to match"
  | allResourceTypesDropped => "none of the rule's resource types exist in Safari"
  | emptySelector => "empty selector"
  | advancedBlockingDisabled => "rule requires advanced blocking, which is disabled"

end CompileError

end ContentRules
