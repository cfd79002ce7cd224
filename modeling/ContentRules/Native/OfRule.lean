import ContentRules.Filter.Pattern.Shortcut
import ContentRules.Native.CompiledEntry
import ContentRules.Native.RuleTrigger
import ContentRules.Text.Blank

/-!
The entries that a rule comes to. A rule that blocks or excepts requests has one entry for their
URLs; an exception that switches something off on a page has one entry for the page; a rule that
hides has one entry for the pages it hides on. Exceptions of cosmetic rules and rules that only the
advanced payload can carry have none.
-/

namespace ContentRules

namespace CompiledEntry

/-- An entry of a line, with the host that the line's pattern names. -/
def ofLine (line : Nat) (group : EntryGroup) (pattern : String) (shortcut : Option String)
    (entry : Entry) : CompiledEntry :=
  let host := Pattern.host? pattern.toList
  { entry, shortcut, group, sources := [line]
    host := host.map fun (name, _) => String.ofList name
    pureHost := (host.map (·.2)).getD false }

/-- The entry for the requests of a rule. -/
def ofRequests (line : Nat) (group : EntryGroup) (action : Action) (pattern : String) (o : Options)
    (domains : DomainList) : Except CompileError CompiledEntry := do
  let trigger ← Trigger.ofRequest pattern o domains
  let shortcut := (Pattern.shortcut? pattern.toList o.matchCase).map String.ofList
  return .ofLine line group pattern shortcut ⟨trigger, action⟩

end CompiledEntry

/-- The group of an exception for a page; the widest of its scopes counts. -/
def Scopes.pageGroup? (scopes : Scopes) : Option EntryGroup :=
  if scopes.contains .document then some .documentExceptions
  else if scopes.contains .elemhide then some .elemhideExceptions
  else if scopes.contains .generichide then some .genericHideExceptions
  else none

/-- Neither `urlblock` nor `genericblock` can be expressed. -/
def Scopes.ensureExpressible (scopes : Scopes) : Except CompileError Unit :=
  if scopes.contains .urlblock then .error (.unsupportedModifier "urlblock")
  else if scopes.contains .genericblock then .error (.unsupportedModifier "genericblock")
  else .ok ()

/-- The group of a rule that hides, by the pages it hides on. -/
def EntryGroup.ofCondition : Option DomainCondition → EntryGroup
  | none => .cssWide
  | some (.except _) => .cssGenericDomainSensitive
  | some (.only _) => .cssDomainSensitive

namespace Rule

/-- The entries of a blocking rule. -/
def blockingEntries (line : Nat) (pattern : String) (o : Options) (domains : DomainList) :
    Except CompileError (List CompiledEntry) := do
  let group := if o.important then EntryGroup.important else .urlBlocking
  return [← CompiledEntry.ofRequests line group .block pattern o domains]

/-- The entries of an exception. Exceptions for a page that only concern scripts or its content have
none. -/
def exceptionEntries (line : Nat) (pattern : String) (o : Options) (domains : DomainList) :
    Except CompileError (List CompiledEntry) := do
  o.scopes.ensureExpressible
  o.ensureSupported
  match o.scopes.pageGroup? with
  | some group =>
    let trigger ← Trigger.ofPage pattern o domains
    return [.ofLine line group pattern none ⟨trigger, .ignorePreviousRules⟩]
  | none =>
    if !o.scopes.isEmpty then return []
    let group := if o.important then EntryGroup.importantExceptions else .otherExceptions
    return [← CompiledEntry.ofRequests line group .ignorePreviousRules pattern o domains]

/-- The entries of a rule that hides what a selector selects. -/
def hidingEntries (line : Nat) (body : String) (domains : DomainList) :
    Except CompileError (List CompiledEntry) := do
  let selector := Text.trimmed body
  if selector.isEmpty then throw .emptySelector
  let condition ← domains.condition
  return [{ entry := ⟨{ domains := condition }, .cssDisplayNone (some selector)⟩
            group := .ofCondition condition
            sources := [line] }]

/-- The entries of a rule. -/
def compile (r : Rule) : Except CompileError (List CompiledEntry) :=
  match r.body with
  | .network false pattern o => blockingEntries r.line pattern o r.domains
  | .network true pattern o => exceptionEntries r.line pattern o r.domains
  | .cosmetic false .elementHiding body => hidingEntries r.line body r.domains
  | .cosmetic .. | .scriptlet .. => .ok []

/-- The rule has an entry for requests that leaves out kinds of content. -/
def dropsContentTypes (r : Rule) : Bool :=
  match r.body with
  | .network isException pattern o =>
    (!isException || o.scopes.isEmpty) &&
      (match o.contentTypes with
        | none => false
        | some types => types.dropsSome) &&
      (Trigger.ofPattern pattern o r.domains).isOk
  | _ => false

end Rule

end ContentRules
