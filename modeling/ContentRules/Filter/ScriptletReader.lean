import ContentRules.Filter.ParseError
import ContentRules.Filter.Rule
import ContentRules.Text.Blank
import ContentRules.Text.Pieces

/-!
Reading calls of scriptlets, in two forms: bare texts with commas between them, and quoted texts in
which a backslash makes the character after it stand for itself. The first text names the scriptlet;
only an exception may leave it out.
-/

namespace ContentRules

namespace ScriptletCall

def ofTexts (isException : Bool) (source : List Char) (texts : List (List Char)) :
    Except ParseError ScriptletCall :=
  let name := texts.head?.getD []
  if name.isEmpty && !isException then .error (.malformedScriptlet (String.ofList source))
  else .ok ⟨String.ofList name, (texts.drop 1).map String.ofList⟩

/-- The call that bare texts with commas between them write. -/
def readBare (isException : Bool) (s : List Char) : Except ParseError ScriptletCall :=
  ofTexts isException s ((Text.pieces (· == ',') s).map Text.trim)

/-- Where the reading of quoted texts stands. -/
inductive Place where
  /-- Before a text, or at the end. -/
  | before
  /-- Inside a text; the quote that closes it and the characters so far, last first. -/
  | inside (quote : Char) (reversed : List Char)
  /-- After a text. -/
  | after

/-- The quoted texts with commas between them; a comma may follow the last one. -/
def quotedTexts? : Place → List Char → Option (List (List Char))
  | .before, [] => some []
  | .inside .., [] => none
  | .after, [] => some []
  | .inside _ _, ['\\'] => none
  | .inside quote reversed, '\\' :: c :: r => quotedTexts? (.inside quote (c :: reversed)) r
  | .inside quote reversed, c :: r =>
    if c = quote then (quotedTexts? .after r).map (reversed.reverse :: ·)
    else quotedTexts? (.inside quote (c :: reversed)) r
  | .before, c :: r =>
    if Text.isBlank c then quotedTexts? .before r
    else if c = '\'' || c = '"' then quotedTexts? (.inside c []) r
    else none
  | .after, c :: r =>
    if Text.isBlank c then quotedTexts? .after r
    else if c = ',' then quotedTexts? .before r
    else none

/-- The call that quoted texts write. -/
def readQuoted (isException : Bool) (s : List Char) : Except ParseError ScriptletCall :=
  match quotedTexts? .before s with
  | none => .error (.malformedScriptlet (String.ofList s))
  | some texts => ofTexts isException s texts

end ScriptletCall

end ContentRules
