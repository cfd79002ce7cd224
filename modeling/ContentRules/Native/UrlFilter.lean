import ContentRules.Filter.Pattern
import ContentRules.Native.CompileError
import ContentRules.Text.Ascii

/-!
The url filters of rule lists: regular expressions over ASCII that do without classes of characters
by letter, word edges, branches, counted repetitions and flags.
-/

namespace ContentRules.UrlFilter

/-- The letters that name a class of characters or a word edge after a backslash. -/
def isMissingEscape (c : Char) : Bool := ['b', 'B', 'd', 'D', 'w', 'W', 's', 'S'].contains c

/-- The first construct of an expression that rule lists lack. Inside brackets only escapes
count. -/
def missingConstruct? (inBrackets : Bool) : List Char → Option MissingConstruct
  | [] => none
  | ['\\'] => none
  | '\\' :: c :: r => if isMissingEscape c then some (.escape c) else missingConstruct? inBrackets r
  | '[' :: r => missingConstruct? true r
  | ']' :: r => missingConstruct? false r
  | c :: r =>
    if inBrackets then missingConstruct? inBrackets r
    else if c = '|' then some .alternation
    else if c = '{' || c = '}' then some .countedRepetition
    else if c = '(' && r.head? == some '?' then some .groupFlags
    else missingConstruct? inBrackets r

/-- Rule lists can hold the expression. -/
def check (body : List Char) : Except CompileError Unit :=
  if !Text.isAscii body then .error .nonAsciiPattern
  else match missingConstruct? false body with
    | some construct => .error (.unsupportedRegex construct)
    | none => .ok ()

/-- The url filter for the pattern of a rule. -/
def ofPattern (p : List Char) : Except CompileError (List Char) :=
  if Pattern.isRegex p then do
    let body := Pattern.regexBody p
    check body
    return body
  else if !Text.isAscii p then .error .nonAsciiPattern
  else .ok (Pattern.expr p)

end ContentRules.UrlFilter
