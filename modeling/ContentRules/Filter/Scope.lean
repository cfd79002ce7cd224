import ContentRules.WordSet

/-!
What an exception can switch off on a whole page.
-/

namespace ContentRules

/-- The behaviours of a page that an exception rule can switch off. -/
inductive Scope where
  | document | elemhide | generichide | jsinject | content | urlblock | genericblock
  deriving DecidableEq, Repr

namespace Scope

/-- The word for the scope in a filter option. -/
def word : Scope → String
  | document => "document"
  | elemhide => "elemhide"
  | generichide => "generichide"
  | jsinject => "jsinject"
  | content => "content"
  | urlblock => "urlblock"
  | genericblock => "genericblock"

instance : Vocabulary Scope where
  words := [document, elemhide, generichide, jsinject, content, urlblock, genericblock]
  name := word
  mem_words := by intro a; cases a <;> decide
  nodup_words := by decide

/-- The scope that an option names, by its word or by another name for it. -/
def ofOption? : String → Option Scope
  | "doc" => some document
  | "ehide" => some elemhide
  | "ghide" => some generichide
  | name => Vocabulary.ofName? name

end Scope

/-- A set of scopes. -/
abbrev Scopes := WordSet Scope

end ContentRules
