import ContentRules.WordSet

/-!
What a request loads, in the words of filter options.
-/

namespace ContentRules

/-- The kinds of content that filter options tell apart. -/
inductive ContentType where
  | script | image | stylesheet | object | subdocument | xmlhttprequest | media | font | websocket
  | webrtc | ping | other | document | popup
  deriving DecidableEq, Repr

namespace ContentType

/-- The word for the kind in a filter option. -/
def word : ContentType → String
  | script => "script"
  | image => "image"
  | stylesheet => "stylesheet"
  | object => "object"
  | subdocument => "subdocument"
  | xmlhttprequest => "xmlhttprequest"
  | media => "media"
  | font => "font"
  | websocket => "websocket"
  | webrtc => "webrtc"
  | ping => "ping"
  | other => "other"
  | document => "document"
  | popup => "popup"

instance : Vocabulary ContentType where
  words := [script, image, stylesheet, object, subdocument, xmlhttprequest, media, font, websocket,
    webrtc, ping, other, document, popup]
  name := word
  mem_words := by intro a; cases a <;> decide
  nodup_words := by decide

/-- The kind that an option names, by its word or by another name for it. -/
def ofOption? : String → Option ContentType
  | "css" => some stylesheet
  | "object-subrequest" => some object
  | "frame" => some subdocument
  | "xhr" => some xmlhttprequest
  | "beacon" => some ping
  | "doc" => some document
  | name => Vocabulary.ofName? name

end ContentType

/-- A set of kinds of content. -/
abbrev ContentTypes := WordSet ContentType

/-- The kinds of a rule without type options, as far as Safari tells them apart. Options that
exclude a kind take it from here. -/
def ContentTypes.default : ContentTypes :=
  .ofList [.script, .image, .stylesheet, .subdocument, .xmlhttprequest, .media, .font, .websocket,
    .ping, .other, .document]

end ContentRules
