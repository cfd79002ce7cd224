import ContentRules.Filter.Pattern
import ContentRules.Text.Ascii

/-!
A literal text that every URL holds which a pattern matches. Looking for it first saves the search
for the pattern.
-/

namespace ContentRules.Pattern

/-- The length of a text in bytes. -/
def byteLength (s : List Char) : Nat := (String.ofList s).utf8ByteSize

def isWildcard (c : Char) : Bool := c == '*' || c == '^' || c == '|'

/-- The longest literal between the wildcards of a pattern; of equally long ones, the last. -/
def longestLiteral (p : List Char) : List Char :=
  (Text.pieces isWildcard p).foldl
    (fun best piece => if byteLength best ≤ byteLength piece then piece else best) []

/-- The longer of two literals; of equally long ones, the first. -/
def longer (best current : List Char) : List Char :=
  if byteLength best < byteLength current then current else best

/-- A repetition that may be empty stands next. -/
def mayBeMissing : List Char → Bool
  | c :: _ => c == '?' || c == '*' || c == '{'
  | [] => false

def isPunctuation (c : Char) : Bool :=
  let n := c.toNat
  (33 ≤ n && n ≤ 47) || (58 ≤ n && n ≤ 64) || (91 ≤ n && n ≤ 96) || (123 ≤ n && n ≤ 126)

/-- Where in an expression a literal is sought: inside brackets, or outside them at a depth of
groups. -/
inductive Position where
  | inBrackets (depth : Nat)
  | outside (depth : Nat)

/-- The longest literal outside groups and brackets that no repetition may drop. The longest so far
and the current one are given. An expression with branches outside groups has none. -/
def requiredLiteral (best current : List Char) : Position → List Char → Option (List Char)
  | _, [] => some (longer best current)
  | .inBrackets _, ['\\'] => some (longer best current)
  | .inBrackets d, '\\' :: _ :: r => requiredLiteral best current (.inBrackets d) r
  | .inBrackets d, c :: r =>
    if c = ']' then requiredLiteral best current (.outside d) r
    else requiredLiteral best current (.inBrackets d) r
  | .outside _, ['\\'] => some (longer best current)
  | .outside d, '\\' :: e :: r =>
    if isPunctuation e && d = 0 && !mayBeMissing r then
      requiredLiteral best (current ++ [e]) (.outside d) r
    else requiredLiteral (longer best current) [] (.outside d) r
  | .outside d, c :: r =>
    if c = '(' then requiredLiteral (longer best current) [] (.outside (d + 1)) r
    else if c = ')' then requiredLiteral (longer best current) [] (.outside (d - 1)) r
    else if c = '|' && d = 0 then none
    else if c = '[' then requiredLiteral (longer best current) [] (.inBrackets d) r
    else if ['.', '^', '$', '+', '?', '*', '{', '}', '|'].contains c then
      requiredLiteral (longer best current) [] (.outside d) r
    else if 0 < d then requiredLiteral best current (.outside d) r
    else if mayBeMissing r then requiredLiteral (longer best current) [] (.outside d) r
    else requiredLiteral best (current ++ [c]) (.outside d) r

/-- The literal that every URL holds which a pattern matches, letters small unless their case
counts; none if no character is certain. -/
def shortcut? (p : List Char) (matchCase : Bool) : Option (List Char) := do
  let literal ←
    if isRegex p then requiredLiteral [] [] (.outside 0) (regexBody p) else some (longestLiteral p)
  if literal.isEmpty then none
  return if matchCase then literal else Text.lower literal

end ContentRules.Pattern
