import ContentRules.Filter.Rule
import ContentRules.Ordered.AddMissing
import ContentRules.Ordered.Index

/-!
Exceptions of cosmetic rules and scriptlets. A rule list cannot express them, so each narrows the
sites of the rules that it names before these are compiled.
-/

namespace ContentRules

/-- What an exception names: a cosmetic rule by its flavour and body, a scriptlet by its
name, or every scriptlet. -/
inductive CosmeticTarget where
  | cosmetic (flavour : Flavour) (body : String)
  | scriptlet (name : String)
  | anyScriptlet
  deriving DecidableEq, Hashable, Repr

namespace RuleBody

/-- What the rule is, or names if it is an exception. -/
def target? : RuleBody → Option CosmeticTarget
  | network .. => none
  | cosmetic _ flavour body => some (.cosmetic flavour body)
  | scriptlet _ call => some (if call.name.isEmpty then .anyScriptlet else .scriptlet call.name)

/-- The body makes an exception of cosmetic rules or scriptlets. -/
def isCosmeticException : RuleBody → Bool
  | network .. => false
  | cosmetic isException .. => isException
  | scriptlet isException _ => isException

/-- An exception with arguments only concerns calls with the same ones. -/
def acceptsArguments : (exception target : RuleBody) → Bool
  | scriptlet _ e, scriptlet _ t => e.args.isEmpty || e.args == t.args
  | _, _ => true

end RuleBody

/-- The sites of a rule less those of an exception; `none` if nothing is left. An exception without
sites holds everywhere. -/
def DomainList.without (l : DomainList) (excluded : List String) : Option DomainList :=
  if excluded.isEmpty then none
  else if l.permitted.isEmpty then some { l with restricted := addMissing l.restricted excluded }
  else
    match l.permitted.filter fun d => !excluded.contains d with
    | [] => none
    | d :: rest => some { l with permitted := d :: rest }

namespace Rule

def isCosmeticException (r : Rule) : Bool := r.body.isCosmeticException

/-- The exceptions that name a rule: those for what it is, then those for every scriptlet. -/
def exceptionsFor (r : Rule) (exceptions : Index CosmeticTarget Rule) : List Rule :=
  match r.body.target? with
  | none => []
  | some target =>
    ((exceptions.find target).filter fun e => e.body.acceptsArguments r.body) ++
      (match target with
        | .scriptlet _ => exceptions.find .anyScriptlet
        | _ => [])

/-- The rule with its sites narrowed by exceptions. -/
def narrow? (r : Rule) (exceptions : List Rule) : Option Rule :=
  let excluded := exceptions.map fun e => e.domains.permitted
  (excluded.foldlM DomainList.without r.domains).map fun domains => { r with domains }

end Rule

/-- The rules left by the exceptions of cosmetic rules, and these exceptions. -/
def applyCosmeticExceptions (rules : List Rule) : List Rule × List Rule :=
  let exceptions := rules.filter Rule.isCosmeticException
  let others := rules.filter (!·.isCosmeticException)
  let index := Index.ofList (fun e => e.body.target?) exceptions
  (others.filterMap fun r => r.narrow? (r.exceptionsFor index), exceptions)

end ContentRules
