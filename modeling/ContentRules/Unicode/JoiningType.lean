import ContentRules.Unicode.JoiningType.Table
import ContentRules.Unicode.RowTable

/-!
How a character of a cursive script joins its neighbours.
-/

namespace ContentRules.Unicode

/-- The joining types. -/
inductive JoiningType where
  | left | right | dual | transparent | causing | none
  deriving Repr, DecidableEq

namespace JoiningType

def ofLetter (text : Option (List Char)) : JoiningType :=
  match text with
  | some ['L'] => left
  | some ['R'] => right
  | some ['D'] => dual
  | some ['T'] => transparent
  | some ['C'] => causing
  | _ => none

def table : RowTable JoiningType := RowTable.ofText ofLetter tableText

/-- The joining type of a character; what the table does not hold joins nothing. -/
def of (c : Char) : JoiningType := (table.find? c.toNat).getD none

/-- Joins the character after it. -/
def joinsNext : JoiningType → Bool
  | left | dual => true
  | _ => false

/-- Joins the character before it. -/
def joinsPrevious : JoiningType → Bool
  | right | dual => true
  | _ => false

end JoiningType

end ContentRules.Unicode
