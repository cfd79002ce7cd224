import ContentRules.Regex.Bracket

/-!
Reading a written regular expression. Groups that are open are kept on a stack, innermost first;
each holds the branches that a bar has closed and the sequence that is being read. Modes set inside
a group end with it. An expression is refused if it uses what the matcher does not know, such as
looking ahead or referring back to a group. The bounds that a matcher sets to the depth and the size
of an expression are no part of its grammar.
-/

namespace ContentRules.Regex.Reader

/-- One element of a sequence. Setting modes leaves an element that matches nothing by itself and
cannot be repeated. -/
inductive Element where
  | expr (r : Regex)
  | modes

/-- A level of nesting: the branches before the last bar, and the sequence after it, both last
first. -/
structure Level where
  branches : List Regex
  sequence : List Element

/-- A group that has been opened and not yet closed: the level around it and the modes there. -/
structure Group where
  around : Level
  modes : Modes

/-- What has been read: the modes in force, the names of groups, the open groups and the level. -/
structure State where
  modes : Modes
  names : List (List Char)
  groups : List Group
  level : Level

def sequenceExpr (reversed : List Element) : Regex :=
  reversed.foldl (fun r e =>
    match e with
    | .modes => r
    | .expr s =>
      match r with
      | .empty => s
      | r => .seq s r) .empty

/-- The expression of a level. -/
def Level.expr (l : Level) : Regex :=
  l.branches.foldl (fun r branch => .alt branch r) (sequenceExpr l.sequence)

/-- Adds an element to the sequence. -/
def State.push (st : State) (e : Element) : State :=
  { st with level := { st.level with sequence := e :: st.level.sequence } }

/-- Closes a branch at a bar. -/
def State.nextBranch (st : State) : State :=
  { st with level := ⟨sequenceExpr st.level.sequence :: st.level.branches, []⟩ }

/-- Opens a group in which the given modes are in force. -/
def State.openGroup (st : State) (modes : Modes) : State :=
  { st with modes, groups := ⟨st.level, st.modes⟩ :: st.groups, level := ⟨[], []⟩ }

/-- Closes the innermost group. -/
def State.closeGroup? (st : State) : Option State :=
  match st.groups with
  | [] => none
  | g :: groups =>
    some (State.push { st with modes := g.modes, groups, level := g.around } (.expr st.level.expr))

/-- Repeats the last element of the sequence. -/
def State.repeat? (st : State) (least : Nat) (most : Option Nat) : Option State :=
  match st.level.sequence with
  | .expr r :: before =>
    some { st with level := { st.level with sequence := .expr (.repeated r least most) :: before } }
  | _ => none

/-! ## Repetitions -/

/-- Digits at the start of a text; what does not count in verbose mode may stand between them. -/
def takeDigits (m : Modes) (inComment : Bool) : List Char → List Char × List Char
  | [] => ([], [])
  | c :: r =>
    match gap? m inComment c with
    | some inComment => takeDigits m inComment r
    | none =>
      if c.isDigit then
        let (digits, rest) := takeDigits m false r
        (c :: digits, rest)
      else ([], c :: r)

def skipBlanks (m : Modes) (inComment : Bool) : List Char → List Char
  | [] => []
  | c :: r =>
    match gap? m inComment c with
    | some inComment => skipBlanks m inComment r
    | none => if Text.isBlank c then skipBlanks m false r else c :: r

/-- The largest count of a repetition. -/
def maxCount : Nat := 0xFFFFFFFF

/-- A count with blanks around it: nothing if there are no digits. Too large a count is refused. -/
def count? (m : Modes) (s : List Char) : Option (Option Nat × List Char) :=
  let (digits, rest) := takeDigits m false (s.dropWhile Text.isBlank)
  let rest := skipBlanks m false rest
  if digits.isEmpty then some (none, rest)
  else
    let n := Text.number 10 digits
    if maxCount < n then none else some (some n, rest)

/-- The bounds of a repetition in braces, whose opening brace has been read. -/
def bounds? (m : Modes) (s : List Char) : Option (Nat × Option Nat × List Char) :=
  match count? m (skipGaps m s) with
  | some (some least, '}' :: rest) => some (least, some least, rest)
  | some (some least, ',' :: rest) =>
    match skipGaps m rest with
    | '}' :: rest => some (least, none, rest)
    | rest =>
      match count? m rest with
      | some (some most, '}' :: rest) =>
        if least ≤ most then some (least, some most, rest) else none
      | _ => none
  | _ => none

/-- Drops the question mark that makes a repetition prefer few matches: it does not change what
matches. -/
def dropLazy : List Char → List Char
  | '?' :: rest => rest
  | rest => rest

/-! ## Groups -/

def setMode? (m : Modes) (on : Bool) : Char → Option Modes
  | 'i' => some { m with ignoreCase := on }
  | 'm' => some { m with multiLine := on }
  | 's' => some { m with dotAll := on }
  | 'R' => some { m with crlf := on }
  | 'u' => some { m with unicode := on }
  | 'x' => some { m with verbose := on }
  | 'U' => some m
  | _ => none

/-- Mode letters up to a colon or a closing parenthesis, each at most once. A hyphen turns those
after it off, and has to have one after it. -/
def modeLetters? (m : Modes) (on : Bool) (seen : List Char) :
    List Char → Option (Modes × List Char × List Char)
  | [] => none
  | ':' :: r => if seen.head? = some '-' then none else some (m, seen, ':' :: r)
  | ')' :: r => if seen.head? = some '-' then none else some (m, seen, ')' :: r)
  | '-' :: r => if seen.contains '-' then none else modeLetters? m false ('-' :: seen) r
  | c :: r =>
    if seen.contains c then none
    else
      match setMode? m on c with
      | none => none
      | some m => modeLetters? m on (c :: seen) r

def isAlphabetic (c : Char) : Bool :=
  if c.toNat < 128 then c.isAlpha
  else ((Unicode.NamedRuns.property? "alphabetic").map fun t => t.contains c.toNat).getD false

def mayStartName (c : Char) : Bool := c = '_' || isAlphabetic c

def mayBeInName (c : Char) : Bool :=
  c = '_' || c = '.' || c = '[' || c = ']' || c.isDigit || isAlphabetic c ||
    (128 ≤ c.toNat && (Unicode.Category.of c).isNumber)

/-- The name of a group up to its closing angle bracket. -/
def groupName? (s : List Char) : Option (List Char × List Char) :=
  match Text.cutFirst (· == '>') s with
  | some (c :: name, rest) =>
    if mayStartName c && name.all mayBeInName then some (c :: name, rest) else none
  | _ => none

/-- What an opening parenthesis begins. -/
def group? (st : State) (s : List Char) : Option (State × List Char) :=
  match skipGaps st.modes s with
  | '?' :: '=' :: _ => none
  | '?' :: '!' :: _ => none
  | '?' :: '<' :: '=' :: _ => none
  | '?' :: '<' :: '!' :: _ => none
  | '?' :: 'P' :: '<' :: r => named r
  | '?' :: '<' :: r => named r
  | '?' :: r =>
    match modeLetters? st.modes true [] r with
    | some (modes, _, ':' :: rest) => some (st.openGroup modes, rest)
    | some (modes, _ :: _, ')' :: rest) => some ({ st.push .modes with modes }, rest)
    | _ => none
  | r => some (st.openGroup st.modes, r)
where
  named (r : List Char) : Option (State × List Char) :=
    match groupName? r with
    | none => none
    | some (name, rest) =>
      if st.names.contains name then none
      else some ({ st.openGroup st.modes with names := name :: st.names }, rest)

/-! ## Sequences -/

/-- The characters that a point matches. -/
def pointSet? (m : Modes) : Option CharSet :=
  if !m.unicode then none
  else if m.dotAll then some .all
  else if m.crlf then some (.compl (.union (.char '\r') (.char '\n')))
  else some (.compl (.char '\n'))

/-- One character as an expression. -/
def literalExpr (m : Modes) (c : Char) : Regex :=
  .chars (if m.ignoreCase then .folded m.unicode (.char c) else .char c)

def atomExpr (m : Modes) : Atom → Regex
  | .literal c => literalExpr m c
  | .set s => .chars s
  | .anchor a => .anchor a

/-- Reads one element, operator or parenthesis at the start of a text that starts with what
counts. -/
def step? (st : State) : List Char → Option (State × List Char)
  | [] => none
  | '(' :: r => group? st r
  | ')' :: r => st.closeGroup?.map (·, r)
  | '|' :: r => some (st.nextBranch, r)
  | '[' :: r =>
    (Bracket.read? st.modes r).map fun (set, rest) => (st.push (.expr (.chars set)), rest)
  | '?' :: r => (st.repeat? 0 (some 1)).map (·, dropLazy r)
  | '*' :: r => (st.repeat? 0 none).map (·, dropLazy r)
  | '+' :: r => (st.repeat? 1 none).map (·, dropLazy r)
  | '{' :: r =>
    match bounds? st.modes r with
    | none => none
    | some (least, most, rest) =>
      (st.repeat? least most).map (·, dropLazy (skipGaps st.modes rest))
  | '\\' :: r =>
    (escape? st.modes r).map fun (a, rest) => (st.push (.expr (atomExpr st.modes a)), rest)
  | '.' :: r => (pointSet? st.modes).map fun set => (st.push (.expr (.chars set)), r)
  | '^' :: r =>
    let a := if st.modes.multiLine then .lineStart st.modes.crlf else .textStart
    some (st.push (.expr (.anchor a)), r)
  | '$' :: r =>
    let a := if st.modes.multiLine then .lineEnd st.modes.crlf else .textEnd
    some (st.push (.expr (.anchor a)), r)
  | c :: r => some (st.push (.expr (literalExpr st.modes c)), r)

/-- Reads to the end of a text. No step leaves the text as long as it was, so its length bounds the
steps. -/
def readFrom (st : State) : Nat → List Char → Option Regex
  | 0, _ => none
  | fuel + 1, s =>
    match skipGaps st.modes s with
    | [] => if st.groups.isEmpty then some st.level.expr else none
    | s =>
      match step? st s with
      | none => none
      | some (st, rest) => readFrom st fuel rest

end Reader

/-- The expression that a text writes, in which case counts or does not; `none` if it writes
none. -/
def read? (ignoreCase : Bool) (s : List Char) : Option Regex :=
  Reader.readFrom ⟨{ ignoreCase }, [], [], ⟨[], []⟩⟩ (s.length + 1) s

end ContentRules.Regex
