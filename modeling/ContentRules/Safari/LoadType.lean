import ContentRules.WordSet

/-!
Whether a request goes to the site of the page that makes it.
-/

namespace ContentRules

/-- The two relations between a request and its page. -/
inductive LoadType where
  | firstParty | thirdParty
  deriving DecidableEq, Repr

namespace LoadType

/-- The word for the relation in a rule list. -/
def word : LoadType → String
  | firstParty => "first-party"
  | thirdParty => "third-party"

instance : Vocabulary LoadType where
  words := [firstParty, thirdParty]
  name := word
  mem_words := by intro a; cases a <;> decide
  nodup_words := by decide

end LoadType

/-- A set of load types. -/
abbrev LoadTypes := WordSet LoadType

/-- Both relations. -/
def LoadTypes.all : LoadTypes := .ofList [.firstParty, .thirdParty]

end ContentRules
