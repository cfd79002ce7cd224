import ContentRules.WordSet

/-!
What a request loads, in the words of Safari's rule lists.
-/

namespace ContentRules

/-- The kinds of resources that rule lists tell apart. `raw` stands for the kinds that older
versions had no word for. -/
inductive ResourceType where
  | document | image | styleSheet | script | font | raw | media | popup | ping | fetch | websocket
  | other
  deriving DecidableEq, Repr

namespace ResourceType

/-- The word for the kind in a rule list. -/
def word : ResourceType → String
  | document => "document"
  | image => "image"
  | styleSheet => "style-sheet"
  | script => "script"
  | font => "font"
  | raw => "raw"
  | media => "media"
  | popup => "popup"
  | ping => "ping"
  | fetch => "fetch"
  | websocket => "websocket"
  | other => "other"

instance : Vocabulary ResourceType where
  words :=
    [document, image, styleSheet, script, font, raw, media, popup, ping, fetch, websocket, other]
  name := word
  mem_words := by intro a; cases a <;> decide
  nodup_words := by decide

end ResourceType

/-- A set of resource types. -/
abbrev ResourceTypes := WordSet ResourceType

namespace ResourceTypes

/-- Every request of a filter without type options: popups have to be asked for, and `raw` is only
written for versions without finer words. -/
def allRequests : ResourceTypes :=
  .ofList
    [.document, .image, .styleSheet, .script, .font, .media, .ping, .fetch, .websocket, .other]

/-- What `raw` stands for. -/
def insideRaw : ResourceTypes := .ofList [.fetch, .websocket, .other, .ping]

/-- The requests that a set of types reaches: `raw` reaches what it stands for. -/
def expanded (types : ResourceTypes) : ResourceTypes :=
  if types.contains .raw then types ∪ insideRaw else types

end ResourceTypes

end ContentRules
