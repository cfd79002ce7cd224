import ContentRules.Json.Basic
import ContentRules.Safari.DomainCondition
import ContentRules.Safari.LoadType
import ContentRules.Safari.ResourceType

/-!
The entries of a rule list: a trigger, which says for which requests the entry counts, and an
action. An entry is written as a JSON object that leaves out what is not set.
-/

namespace ContentRules

/-- The condition of an entry on requests. -/
structure Trigger where
  urlFilter : String := ".*"
  domains : Option DomainCondition := none
  resourceTypes : Option ResourceTypes := none
  loadTypes : Option LoadTypes := none
  caseSensitive : Bool := false
  deriving DecidableEq, Hashable

namespace Trigger

/-- The url filter lets every URL pass, as it is written when none is given. -/
def matchesAllUrls (t : Trigger) : Bool := t.urlFilter == ".*"

/-- The trigger as a JSON object. -/
def toJson (t : Trigger) : Json :=
  .obj <|
    [("url-filter", .str t.urlFilter)] ++
    (match t.domains with
      | none => []
      | some (.only values) => [("if-domain", .strings (values.map DomainValue.text))]
      | some (.except values) => [("unless-domain", .strings (values.map DomainValue.text))]) ++
    (t.resourceTypes.map fun types => ("resource-type", Json.strings types.names)).toList ++
    (t.loadTypes.map fun types => ("load-type", Json.strings types.names)).toList ++
    (if t.caseSensitive then [("url-filter-is-case-sensitive", .bool true)] else [])

end Trigger

/-- The kinds of actions. -/
inductive ActionKind where
  | block | cssDisplayNone | ignorePreviousRules | cssExtended | cssInject | script | scriptlet
  deriving DecidableEq, Repr

namespace ActionKind

/-- The word for the kind in a rule list. -/
def word : ActionKind → String
  | block => "block"
  | cssDisplayNone => "css-display-none"
  | ignorePreviousRules => "ignore-previous-rules"
  | cssExtended => "css-extended"
  | cssInject => "css-inject"
  | script => "script"
  | scriptlet => "scriptlet"

instance : Vocabulary ActionKind where
  words := [block, cssDisplayNone, ignorePreviousRules, cssExtended, cssInject, script, scriptlet]
  name := word
  mem_words := by intro a; cases a <;> decide
  nodup_words := by decide

/-- Safari does not carry the action out; only the advanced payload may hold it. -/
def isAdvanced : ActionKind → Bool
  | cssExtended | cssInject | script | scriptlet => true
  | _ => false

end ActionKind

/-- What an entry does to the requests of its trigger. An action of a kind has the members that this
kind is built with and no other ones, so each constructor lists the members it is written with. -/
inductive Action where
  | block
  | cssDisplayNone (selector : Option String)
  | ignorePreviousRules
  | cssExtended (css : String)
  | cssInject (css : String)
  | script (code : String)
  | scriptlet (name call : String)
  deriving DecidableEq, Hashable, Repr

namespace Action

def kind : Action → ActionKind
  | block => .block
  | cssDisplayNone _ => .cssDisplayNone
  | ignorePreviousRules => .ignorePreviousRules
  | cssExtended _ => .cssExtended
  | cssInject _ => .cssInject
  | script _ => .script
  | scriptlet .. => .scriptlet

/-- The action as a JSON object. -/
def toJson (a : Action) : Json :=
  .obj <|
    ("type", .str a.kind.word) ::
    (match a with
      | block => []
      | cssDisplayNone selector => (selector.map fun s => ("selector", Json.str s)).toList
      | ignorePreviousRules => []
      | cssExtended css => [("css", .str css)]
      | cssInject css => [("css", .str css)]
      | script code => [("script", .str code)]
      | scriptlet name call => [("scriptlet", .str name), ("scriptletParam", .str call)])

end Action

/-- One entry of a rule list. -/
structure Entry where
  trigger : Trigger
  action : Action
  deriving DecidableEq, Hashable

namespace Entry

def toJson (e : Entry) : Json := .obj [("trigger", e.trigger.toJson), ("action", e.action.toJson)]

/-- The compact text of an entry. -/
def render (e : Entry) : String := e.toJson.render

/-- The compact text of a rule list. -/
def renderList (entries : List Entry) : String :=
  "[" ++ ",".intercalate (entries.map render) ++ "]"

/-- A rule list is the array of its entries. -/
theorem renderList_eq (entries : List Entry) :
    renderList entries = (Json.arr (entries.map toJson)).render := by
  rw [← String.toList_inj]
  simp [renderList, render, Json.render, Json.chars, Json.itemChars_eq, String.toList_intercalate,
    Function.comp_def]

end Entry

end ContentRules
