import ContentRules.Matching.Request
import ContentRules.Regex.Reader
import ContentRules.Regex.Search
import ContentRules.Safari.Entry
import ContentRules.Text.Ascii
import ContentRules.Text.Pieces

/-!
What a rule list does to a request. The list is read from top to bottom, and an entry that ignores
previous rules takes back what the entries before it did.
-/

namespace ContentRules

/-- An entry whose url filter has been read. -/
structure EntryMatcher where
  entry : Entry
  regex : Regex
  /-- A literal that a URL has to hold before the url filter is tried. -/
  shortcut : Option (List Char) := none

namespace EntryMatcher

/-- The entry with its url filter read; `none` if the filter is no regular expression. -/
def ofEntry? (e : Entry) : Option EntryMatcher :=
  (Regex.read? (!e.trigger.caseSensitive) e.trigger.urlFilter.toList).map fun regex =>
    { entry := e, regex }

/-- The entry with a literal that is looked for first. -/
def withShortcut (m : EntryMatcher) (shortcut : Option String) : EntryMatcher :=
  match shortcut with
  | none => { m with shortcut := none }
  | some literal =>
    if literal.isEmpty then { m with shortcut := none }
    else if m.entry.trigger.caseSensitive then { m with shortcut := some literal.toList }
    else { m with shortcut := some (Text.lower literal.toList) }

/-- The URL holds the literal of the entry. -/
def passesShortcut (m : EntryMatcher) (url : List Char) : Bool :=
  match m.shortcut with
  | none => true
  | some literal =>
    Text.occursIn literal (if m.entry.trigger.caseSensitive then url else Text.lower url)

/-- The entry counts for the request. -/
def matchesRequest (m : EntryMatcher) (r : Request) : Bool :=
  let trigger := m.entry.trigger
  DomainCondition.admits? trigger.domains r.pageHost.toList &&
    (trigger.resourceTypes.map (·.expanded.meets r.resourceTypes)).getD true &&
    (trigger.loadTypes.map (·.meets r.loadTypes)).getD true &&
    m.passesShortcut r.url.toList &&
    m.regex.occursIn r.url.toList

end EntryMatcher

/-- A rule list whose url filters have been read. -/
structure Matcher where
  entries : List EntryMatcher

namespace Matcher

/-- The matcher of a list, unless some url filter is no regular expression. -/
def ofEntries? (entries : List Entry) : Option Matcher :=
  (entries.mapM EntryMatcher.ofEntry?).map .mk

/-- The matcher of a list with a literal for each entry that is looked for first. -/
def withShortcuts? (entries : List (Entry × Option String)) : Option Matcher :=
  (entries.mapM fun (e, shortcut) =>
    (EntryMatcher.ofEntry? e).map fun (m : EntryMatcher) => m.withShortcut shortcut).map .mk

/-- The actions in effect after one more. -/
def applyAction (inEffect : List Action) : Action → List Action
  | .ignorePreviousRules => []
  | action => inEffect ++ [action]

/-- The actions in effect for a request after the whole list. -/
def actions (m : Matcher) (r : Request) : List Action :=
  ((m.entries.filter (·.matchesRequest r)).map (·.entry.action)).foldl applyAction []

/-- The request is blocked. -/
def isBlocked (m : Matcher) (r : Request) : Bool := (m.actions r).any (· == .block)

/-- The selectors whose elements are hidden, in the order of the list. -/
def hiddenSelectors (m : Matcher) (r : Request) : List String :=
  (m.actions r).filterMap fun action =>
    match action with
    | .cssDisplayNone selector => selector
    | _ => none

end Matcher

end ContentRules
