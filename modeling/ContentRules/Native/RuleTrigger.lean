import ContentRules.Filter.Rule
import ContentRules.Native.Resources
import ContentRules.Native.UrlFilter
import ContentRules.Safari.Entry

/-!
The triggers of rules: one for the requests that a rule speaks of, or one for the pages that an
exception names.
-/

namespace ContentRules

/-- The condition on pages that a rule's sites make. A page has to be one of the permitted sites, if
there are any, so the restricted ones only count among them. -/
def DomainList.condition (l : DomainList) : Except CompileError (Option DomainCondition) :=
  if l.permitted.isEmpty then .ok (DomainCondition.except? (l.restricted.map DomainValue.ofText))
  else
    match l.permitted.filter fun d => !l.restricted.contains d with
    | [] => .error .conflictingDomains
    | d :: rest => .ok (some (.only ((d :: rest).map DomainValue.ofText)))

namespace Options

/-- No option stands in the way of compiling the rule. -/
def ensureSupported (o : Options) : Except CompileError Unit :=
  match o.unsupported with
  | [] => .ok ()
  | name :: _ => .error (.unsupportedModifier name)

/-- The relation between request and page that a rule asks for. -/
def loadTypes (o : Options) : Option LoadTypes :=
  o.thirdParty.map fun thirdParty => .single (if thirdParty then .thirdParty else .firstParty)

end Options

namespace Trigger

/-- The pages whose host is the given one or lies below it. -/
def ofHost (host : List Char) : Trigger :=
  { domains := DomainCondition.only? [⟨host, true⟩] }

/-- The trigger for the URLs of a pattern on a rule's sites. -/
def ofPattern (pattern : String) (o : Options) (domains : DomainList) :
    Except CompileError Trigger := do
  o.ensureSupported
  let filter ← UrlFilter.ofPattern pattern.toList
  let condition ← domains.condition
  return { urlFilter := String.ofList filter, domains := condition, caseSensitive := o.matchCase }

/-- The trigger for the pages that an exception names. A pattern that names a host and no more means
the pages of that host, unless the rule names sites. -/
def ofPage (pattern : String) (o : Options) (domains : DomainList) :
    Except CompileError Trigger := do
  o.ensureSupported
  match domains.isEmpty, Pattern.host? pattern.toList with
  | true, some (host, true) => return ofHost host
  | _, _ => ofPattern pattern o domains

/-- The trigger for the requests of a rule. -/
def ofRequest (pattern : String) (o : Options) (domains : DomainList) :
    Except CompileError Trigger := do
  let trigger ← ofPattern pattern o domains
  match o.contentTypes with
  | none => return { trigger with loadTypes := o.loadTypes }
  | some types =>
    let resources ← types.resources?
    return { trigger with loadTypes := o.loadTypes, resourceTypes := some resources }

end Trigger

end ContentRules
