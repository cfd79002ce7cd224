import ContentRules.Filter.OptionReader
import ContentRules.Filter.Pattern
import ContentRules.Host.IpLiteral
import ContentRules.Regex.Reader

/-!
Reading network rules: a pattern, options after a dollar sign, and two at signs in front of an
exception. A line of a hosts file, an address and a host, blocks the host.
-/

namespace ContentRules

namespace NetworkRule

/-- The host of a line of a hosts file, if the line is one. -/
def hostsFileHost? (line : List Char) : Option (List Char) :=
  match Text.words line with
  | address :: host :: _ => if Host.isIpLiteral address then some host else none
  | _ => none

/-- What stands before and after the last occurrence of a slash and a dollar sign; the slash belongs
to the first part, which is longer than the slash. -/
def cutAfterRegex : List Char → Option (List Char × List Char)
  | [] => none
  | c :: r =>
    match cutInside r with
    | some (a, b) => some (c :: a, b)
    | none => none
where
  /-- Any slash counts once a character stands before it. -/
  cutInside : List Char → Option (List Char × List Char)
    | [] => none
    | c :: r =>
      match cutInside r with
      | some (a, b) => some (c :: a, b)
      | none =>
        match c, r with
        | '/', '$' :: after => some (['/'], after)
        | _, _ => none

/-- The pattern of a rule and the text of its options, if it has any. The options follow the last
dollar sign. A rule that starts with a slash may be a regular expression: then the dollar sign has
to follow its closing slash, and there are no options if the whole rule is the expression. -/
def splitOptions (rule : List Char) : List Char × Option (List Char) :=
  if Pattern.isRegex rule then (rule, none)
  else
    match if rule.head? == some '/' then cutAfterRegex rule else none with
    | some (pattern, options) => (pattern, some options)
    | none =>
      match Text.cutLast (· == '$') rule with
      | some (pattern, options) => (pattern, some options)
      | none => (rule, none)

/-- The rule of a line that is neither blank nor a comment nor cosmetic. -/
def read (line : List Char) : Except ParseError (DomainList × RuleBody) := do
  if let some host := hostsFileHost? line then
    let site ← DomainList.readSite host
    return ({}, .network false ("||" ++ site ++ "^") {})
  let (isException, rule) :=
    match line with
    | '@' :: '@' :: r => (true, Text.trimStart r)
    | r => (false, r)
  let (patternText, optionText) := splitOptions rule
  let pattern := Text.trim patternText
  let (options, domains) ←
    match optionText with
    | some text => Options.read isException text
    | none => pure ({}, {})
  if pattern.isEmpty && (Text.trim (optionText.getD [])).isEmpty then throw .emptyPattern
  if pattern.any Text.isBlank then throw .unknownSyntax
  if Pattern.isRegex pattern && (Regex.read? false (Pattern.regexBody pattern)).isNone then
    throw .invalidRegex
  return (domains, .network isException (String.ofList pattern) options)

end NetworkRule

end ContentRules
