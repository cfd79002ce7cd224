import ContentRules.Filter.CosmeticReader
import ContentRules.Filter.NetworkReader

/-!
Reading filter lists line by line. A line is blank, a comment, a cosmetic rule or a network rule.
-/

namespace ContentRules

namespace Rule

/-- The line is a comment: it starts with an exclamation mark or a bracket, or with a number sign
that begins no marker. -/
def isComment (line : List Char) : Bool :=
  match line with
  | '!' :: _ => true
  | '[' :: _ => true
  | '#' :: _ => (CosmeticRule.markerAt? line).isNone
  | _ => false

/-- The rule of a line, blanks around it aside; blank lines and comments have none. -/
def read (number : Nat) (rawLine : String) : Except ParseError (Option Rule) := do
  let line := Text.trim rawLine.toList
  if line.isEmpty || isComment line then return none
  let (domains, body) ←
    match ← CosmeticRule.read? line with
    | some rule => pure rule
    | none => NetworkRule.read line
  return some ⟨number, String.ofList line, domains, body⟩

end Rule

/-- A line that is no rule. -/
structure ParseFailure where
  line : Nat
  text : String
  error : ParseError
  deriving DecidableEq, Repr

/-- A filter list that has been read. -/
structure FilterList where
  rules : List Rule
  failures : List ParseFailure
  /-- How many lines are neither blank nor comments. -/
  total : Nat

namespace FilterList

/-- What a line of a list comes to. -/
def readLine (number : Nat) (line : String) : Option (Except ParseFailure Rule) :=
  match Rule.read number line with
  | .ok none => none
  | .ok (some rule) => some (.ok rule)
  | .error error => some (.error ⟨number, Text.trimmed line, error⟩)

def ofResults (results : List (Except ParseFailure Rule)) : FilterList :=
  { rules := results.filterMap fun r => match r with | .ok rule => some rule | .error _ => none
    failures := results.filterMap fun r => match r with | .ok _ => none | .error f => some f
    total := results.length }

/-- The list that consecutive lines make; lines are counted from zero. -/
def read (lines : List String) : FilterList :=
  ofResults (lines.zipIdx.filterMap fun (line, number) => readLine number line)

end FilterList

end ContentRules
