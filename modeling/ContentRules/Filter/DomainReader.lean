import ContentRules.Filter.ParseError
import ContentRules.Filter.Rule
import ContentRules.Host.Name

/-!
Reading the lists of sites in rules. A site with a tilde in front is spared; within one list a site
counts once in each direction.
-/

namespace ContentRules

namespace DomainList

/-- The site that a text names. -/
def readSite (s : List Char) : Except ParseError String :=
  match Host.normalize? s with
  | some host => .ok (String.ofList host)
  | none => .error (.invalidDomain (String.ofList s))

def addOnce (site : String) (sites : List String) : List String :=
  if sites.contains site then sites else sites ++ [site]

/-- Adds what one piece of a list names; an empty piece names nothing. -/
def addPiece (l : DomainList) (piece : List Char) : Except ParseError DomainList :=
  match Text.trim piece with
  | [] => .ok l
  | '~' :: site => do return { l with restricted := addOnce (← readSite site) l.restricted }
  | site => do return { l with permitted := addOnce (← readSite site) l.permitted }

/-- The list whose pieces a separator divides. -/
def read (separator : Char) (s : List Char) : Except ParseError DomainList :=
  (Text.pieces (· == separator) s).foldlM addPiece {}

end DomainList

end ContentRules
