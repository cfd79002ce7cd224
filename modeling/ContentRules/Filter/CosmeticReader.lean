import ContentRules.Filter.DomainReader
import ContentRules.Filter.ScriptletReader

/-!
Reading cosmetic rules: a list of sites, a marker and a body. The marker tells the flavour of the
rule and whether it makes an exception; what the body holds may refine the flavour or call a
scriptlet.
-/

namespace ContentRules

namespace CosmeticRule

/-- The sign between the sites and the body of a rule. -/
structure Marker where
  text : List Char
  flavour : Flavour
  isException : Bool

/-- The markers. Where two fit, the first one counts. -/
def markers : List Marker :=
  [⟨"#@?#".toList, .extendedCss, true⟩, ⟨"#@$#".toList, .cssInject, true⟩,
    ⟨"#@%#".toList, .script, true⟩, ⟨"#@#".toList, .elementHiding, true⟩,
    ⟨"#?#".toList, .extendedCss, false⟩, ⟨"#$#".toList, .cssInject, false⟩,
    ⟨"#%#".toList, .script, false⟩, ⟨"##".toList, .elementHiding, false⟩]

/-- The marker at the start of a text. -/
def markerAt? (s : List Char) : Option Marker := markers.find? (·.text.isPrefixOf s)

/-- The first marker of a line, with what stands before and after it. -/
def findMarker : List Char → Option (List Char × Marker × List Char)
  | [] => none
  | c :: r =>
    match markerAt? (c :: r) with
    | some m => some ([], m, (c :: r).drop m.text.length)
    | none => (findMarker r).map fun (before, m, after) => (c :: before, m, after)

/-- Characters that no list of sites holds; with one of them before the marker, the line is no
cosmetic rule. -/
def isForeign (c : Char) : Bool := ['/', '|', '^', '$', '?', '*', '='].contains c

/-- Pseudo-classes beyond the standard. -/
def extendedPseudoClasses : List (List Char) :=
  [":has-text(", ":contains(", ":-abp-has(", ":-abp-contains(", ":-abp-properties(",
    ":matches-css(", ":matches-css-before(", ":matches-css-after(", ":matches-attr(",
    ":matches-property(", ":min-text-length(", ":xpath(", ":nth-ancestor(", ":upward(", ":remove(",
    ":if(", ":if-not(", ":watch-attr(", ":style(", ":others("].map String.toList

/-- The selector goes beyond the standard. -/
def isExtended (selector : List Char) : Bool :=
  Text.occursIn "[-ext-".toList selector || extendedPseudoClasses.any (Text.occursIn · selector)

def hasBrace (s : List Char) : Bool := s.contains '{' || s.contains '}'

/-- What stands between an opening word and a closing parenthesis at the end: `none` if
the word is not there. -/
def callText? (word body : List Char) : Option (Except ParseError (List Char)) :=
  if word.isPrefixOf body then
    let text := body.drop word.length
    some (if text.getLast? = some ')' then .ok text.dropLast
      else .error (.malformedScriptlet (String.ofList body)))
  else none

/-- The body of a rule with the given marker. -/
def readBody (m : Marker) (body : List Char) : Except ParseError RuleBody :=
  let cosmetic (flavour : Flavour) := RuleBody.cosmetic m.isException flavour (String.ofList body)
  let invalid := Except.error (.invalidSelector (String.ofList body))
  match m.flavour with
  | .elementHiding =>
    match callText? "+js(".toList body with
    | some text => do
      return .scriptlet m.isException (← ScriptletCall.readBare m.isException (← text))
    | none =>
      if hasBrace body then invalid
      else .ok (cosmetic (if isExtended body then .extendedCss else .elementHiding))
  | .script =>
    match callText? "//scriptlet(".toList body with
    | some text => do
      return .scriptlet m.isException (← ScriptletCall.readQuoted m.isException (← text))
    | none => .ok (cosmetic .script)
  | .extendedCss => if hasBrace body then invalid else .ok (cosmetic .extendedCss)
  | .cssInject =>
    if body.contains '{' && body.getLast? = some '}' then .ok (cosmetic .cssInject) else invalid

/-- The cosmetic rule of a line, if the line is one. -/
def read? (line : List Char) : Except ParseError (Option (DomainList × RuleBody)) := do
  match findMarker line with
  | none => return none
  | some (sites, marker, after) =>
    if sites.any isForeign then return none
    let body := Text.trim after
    if body.isEmpty then throw .emptyPattern
    let domains ← DomainList.read ',' sites
    return some (domains, ← readBody marker body)

end CosmeticRule

end ContentRules
