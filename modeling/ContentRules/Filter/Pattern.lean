import ContentRules.Text.Pieces

/-!
The patterns of network rules. A pattern between slashes is a regular expression. Any other pattern
is a text in which a star stands for any characters and a caret for a separator; bars tie it to the
start or the end of the URL, and two bars in front to the start of a host name or of any label of
it.
-/

namespace ContentRules.Pattern

/-- The pattern is a regular expression between slashes. -/
def isRegex (p : List Char) : Bool :=
  2 < p.length && p.head? == some '/' && p.getLast? == some '/'

/-- What stands between the slashes. -/
def regexBody (p : List Char) : List Char := (p.drop 1).dropLast

/-- Where a match of a pattern starts. -/
inductive Start where
  | anywhere
  /-- At the start of the URL. -/
  | url
  /-- After the scheme and any number of labels of the host. -/
  | host
  deriving DecidableEq, Repr

/-- A pattern taken apart: where it starts, what it holds, and whether it ends with the URL. -/
structure Parts where
  start : Start
  body : List Char
  tiedToEnd : Bool
  deriving DecidableEq, Repr

def isStar (c : Char) : Bool := c == '*'

/-- The parts of a pattern. Stars at an end that is not tied change nothing and are left out. -/
def parts (p : List Char) : Parts :=
  let (start, rest) :=
    match p with
    | '|' :: '|' :: r => (Start.host, r)
    | '|' :: r => (Start.url, r)
    | r => (Start.anywhere, r)
  let tiedToEnd := rest.getLast? == some '|'
  let rest := if tiedToEnd then rest.dropLast else rest
  let rest := if start == .anywhere then rest.dropWhile isStar else rest
  let rest := if tiedToEnd then rest else (rest.reverse.dropWhile isStar).reverse
  ⟨start, rest, tiedToEnd⟩

/-- Characters that mean something in a regular expression. -/
def isMeta (c : Char) : Bool :=
  ['.', '+', '?', '$', '{', '}', '(', ')', '[', ']', '/', '\\', '|'].contains c

/-- The expression for a scheme and any number of labels. -/
def hostAnchor : List Char := "^[htpsw]+:\\/\\/([a-z0-9-]+\\.)*".toList

/-- The expression for a separator. -/
def separator : List Char := "[\\/:&\\?]".toList

/-- The expression for a separator and what follows it, or the end of the URL. -/
def closingSeparator : List Char := "([\\/:&\\?].*)?$".toList

/-- The expression for one character of a pattern. -/
def charExpr (c : Char) : List Char :=
  if c = '*' then ['.', '*']
  else if c = '^' then separator
  else if isMeta c then ['\\', c]
  else [c]

/-- The expression for the body of a pattern; where the pattern is not tied to the end, a caret in
the last place also stands for the end. -/
def bodyExpr (tiedToEnd : Bool) : List Char → List Char
  | [] => []
  | ['^'] => if tiedToEnd then separator else closingSeparator
  | c :: r => charExpr c ++ bodyExpr tiedToEnd r

def Start.expr : Start → List Char
  | anywhere => []
  | url => ['^']
  | host => hostAnchor

/-- The regular expression that matches what a pattern matches. -/
def expr (p : List Char) : List Char :=
  let q := parts p
  if q = ⟨.anywhere, [], false⟩ then ".*".toList
  else q.start.expr ++ bodyExpr q.tiedToEnd q.body ++ (if q.tiedToEnd then ['$'] else [])

/-- The host that a pattern names literally, letters small, and whether the pattern says
no more than the host. -/
def host? (p : List Char) : Option (List Char × Bool) :=
  match p with
  | '|' :: '|' :: rest =>
    let isHostChar (c : Char) := c.isAlphanum || c == '.' || c == '-' || c == '_'
    let host := rest.takeWhile isHostChar
    match rest.dropWhile isHostChar with
    | c :: r =>
      if !host.isEmpty && (c == '^' || c == '/' || c == ':') then
        some (host.map Char.toLower, c == '^' && r.isEmpty)
      else none
    | [] => none
  | _ => none

end ContentRules.Pattern
