import ContentRules.Filter.DomainReader

/-!
Reading the options of a network rule, which stand after its dollar sign with commas between them.
Names are read without regard to case. Options of content types add up to one set, from which
excluded types are taken; without an included type they are taken from the default.
-/

namespace ContentRules

namespace Options

/-- What an option without a value says by itself. -/
def flag? : String → Option (Options → Options)
  | "important" => some fun o => { o with important := true }
  | "match-case" => some fun o => { o with matchCase := true }
  | "match_case" => some fun o => { o with matchCase := true }
  | "badfilter" => some fun o => { o with badfilter := true }
  | "third-party" => some fun o => { o with thirdParty := some true }
  | "3p" => some fun o => { o with thirdParty := some true }
  | "~first-party" => some fun o => { o with thirdParty := some true }
  | "~1p" => some fun o => { o with thirdParty := some true }
  | "~third-party" => some fun o => { o with thirdParty := some false }
  | "~3p" => some fun o => { o with thirdParty := some false }
  | "first-party" => some fun o => { o with thirdParty := some false }
  | "1p" => some fun o => { o with thirdParty := some false }
  | _ => none

/-- Options that are known and have no counterpart in a rule list. -/
def unsupportedNames : List String :=
  ["csp", "redirect", "redirect-rule", "removeparam", "removeheader", "replace", "cookie",
    "rewrite", "empty", "mp4", "network", "app", "stealth", "permissions", "header", "hls",
    "jsonprune"]

/-- What the options read so far say. -/
structure Progress where
  options : Options := {}
  domains : DomainList := {}
  included : ContentTypes := ∅
  excluded : ContentTypes := ∅

namespace Progress

def addDomains (p : Progress) (raw value : List Char) : Except ParseError Progress := do
  let list ← DomainList.read '|' value
  if list.isEmpty then throw (.malformedModifier (String.ofList raw))
  return { p with
    domains := ⟨p.domains.permitted ++ list.permitted, p.domains.restricted ++ list.restricted⟩ }

/-- A page scope. On a blocking rule `document` is a content type and no other scope may stand. -/
def addScope (isException : Bool) (p : Progress) (scope : Scope) (name : String) :
    Except ParseError Progress :=
  if isException then
    .ok { p with options := { p.options with scopes := p.options.scopes ∪ .single scope } }
  else if scope = .document then .ok { p with included := p.included ∪ .single .document }
  else .error (.exceptionOnlyModifier name)

def addType (p : Progress) (name : List Char) : Except ParseError Progress :=
  let (excludes, word) :=
    match name with
    | '~' :: word => (true, word)
    | word => (false, word)
  match ContentType.ofOption? (String.ofList word) with
  | none => .error (.unknownModifier (String.ofList name))
  | some type =>
    if excludes then .ok { p with excluded := p.excluded ∪ .single type }
    else .ok { p with included := p.included ∪ .single type }

/-- Adds one option; an empty one says nothing. -/
def add (isException : Bool) (p : Progress) (piece : List Char) : Except ParseError Progress :=
  let raw := Text.trim piece
  let small := Text.lower raw
  if raw.isEmpty then .ok p
  else
    match flag? (String.ofList small) with
    | some set => .ok { p with options := set p.options }
    | none =>
      if "domain=".toList.isPrefixOf small then p.addDomains raw (raw.drop "domain=".length)
      else
        let cut := Text.cutFirst (· == '=') small
        let name := (cut.map (·.1)).getD small
        if unsupportedNames.contains (String.ofList name) then
          .ok { p with options :=
            { p.options with unsupported := p.options.unsupported ++ [String.ofList name] } }
        else if cut.isSome then .error (.malformedModifier (String.ofList raw))
        else
          match Scope.ofOption? (String.ofList name) with
          | some scope => p.addScope isException scope (String.ofList name)
          | none => p.addType name

/-- The set of content types that included and excluded types come to; the default set is no
restriction. -/
def contentTypes (p : Progress) : Except ParseError (Option ContentTypes) :=
  if p.included.isEmpty && p.excluded.isEmpty then .ok none
  else
    let types := (if p.included.isEmpty then ContentTypes.default else p.included) \ p.excluded
    if types.isEmpty then
      .error (.malformedModifier "content type options exclude every request")
    else if types = ContentTypes.default then .ok none
    else .ok (some types)

end Progress

/-- The options and the sites that a text lists. -/
def read (isException : Bool) (s : List Char) : Except ParseError (Options × DomainList) := do
  let p ← (Text.pieces (· == ',') s).foldlM (Progress.add isException) {}
  return ({ p.options with contentTypes := ← p.contentTypes }, p.domains)

end Options

end ContentRules
