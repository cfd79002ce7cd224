import ContentRules.Regex.Basic
import ContentRules.Regex.ClassName

/-!
The smallest parts of a written regular expression: modes, blanks in verbose mode, and what stands
after a backslash. Every reader gives what it read together with the rest of the text.
-/

namespace ContentRules.Regex

/-- The modes in which a part of an expression is read. -/
structure Modes where
  ignoreCase : Bool := false
  multiLine : Bool := false
  dotAll : Bool := false
  crlf : Bool := false
  unicode : Bool := true
  verbose : Bool := false

/-- Whether a character is passed over in verbose mode: blanks are, and comments from a number sign
to the end of the line. The answer is `none` for a character that counts, and otherwise whether a
comment goes on after it. -/
def gap? (m : Modes) (inComment : Bool) (c : Char) : Option Bool :=
  if !m.verbose then none
  else if inComment then some (c != '\n')
  else if Text.isBlank c then some false
  else if c = '#' then some true
  else none

/-- Skips blanks and comments in verbose mode. -/
def skipGapsIn (m : Modes) (inComment : Bool) : List Char → List Char
  | [] => []
  | c :: r =>
    match gap? m inComment c with
    | some inComment => skipGapsIn m inComment r
    | none => c :: r

/-- Skips what does not count at the start of a text. -/
def skipGaps (m : Modes) (s : List Char) : List Char := skipGapsIn m false s

/-- Outside verbose mode every character counts. -/
theorem skipGaps_of_not_verbose {m : Modes} (h : m.verbose = false) (s : List Char) :
    skipGaps m s = s := by
  cases s <;> simp [skipGaps, skipGapsIn, gap?, h]

/-- A fixed number of hexadecimal digits. -/
def fixedHex? (m : Modes) (value : Nat) : Nat → List Char → Option (Nat × List Char)
  | 0, s => some (value, s)
  | _ + 1, [] => none
  | n + 1, c :: r => (Text.hexValue? c).bind fun d => fixedHex? m (value * 16 + d) n (skipGaps m r)

/-- Hexadecimal digits up to a closing brace, with the count of digits read before. -/
def bracedHex? (m : Modes) (inComment : Bool) (value count : Nat) :
    List Char → Option (Nat × List Char)
  | [] => none
  | c :: r =>
    match gap? m inComment c with
    | some inComment => bracedHex? m inComment value count r
    | none =>
      if c = '}' then if count = 0 then none else some (value, skipGaps m r)
      else (Text.hexValue? c).bind fun d => bracedHex? m false (value * 16 + d) (count + 1) r

/-- The character of a code point. -/
def scalar? (n : Nat) : Option Char :=
  if n < 0xD800 ∨ (0xE000 ≤ n ∧ n ≤ 0x10FFFF) then some (Char.ofNat n) else none

/-- One part of an expression that takes no operand. -/
inductive Atom where
  | literal (c : Char)
  | set (s : CharSet)
  | anchor (a : Anchor)

/-- The character of a code point after `\x`, `\u` or `\U`, of which `digits` digits are written
unless they stand in braces. Two digits without Unicode name a byte, which must be ASCII. -/
def hex? (m : Modes) (digits : Nat) (s : List Char) : Option (Atom × List Char) :=
  match skipGaps m s with
  | [] => none
  | '{' :: r => do
    let (n, rest) ← bracedHex? m false 0 0 r
    return (.literal (← scalar? n), rest)
  | s => do
    let (n, rest) ← fixedHex? m 0 digits s
    if !m.unicode && digits = 2 && 128 ≤ n then none
    return (.literal (← scalar? n), rest)

/-- Takes the case of letters away from a set if the mode asks for it, then complements it. Without
Unicode, what has been complemented would reach beyond characters. -/
def finishSet? (m : Modes) (negated : Bool) (s : CharSet) : Option CharSet :=
  let s := if m.ignoreCase then .folded m.unicode s else s
  if !negated then some s else if m.unicode then some (.compl s) else none

/-- The name in braces after `\p`. -/
def bracedName (m : Modes) (inComment : Bool) : List Char → Option (List Char × List Char)
  | [] => none
  | c :: r =>
    match gap? m inComment c with
    | some inComment => bracedName m inComment r
    | none =>
      if c = '}' then some ([], r)
      else (bracedName m false r).map fun (name, rest) => (c :: name, rest)

/-- The class after `\p`, or after `\P` the characters outside it. -/
def unicodeClass? (m : Modes) (negated : Bool) (s : List Char) :
    Option (Atom × List Char) :=
  if !m.unicode then none
  else
    match skipGaps m s with
    | [] => none
    | '{' :: r => do
      let (name, rest) ← bracedName m false r
      let (set, otherThan) ← ClassName.braced? name
      return (.set (← finishSet? m (negated != otherThan) set), rest)
    | '\\' :: _ => none
    | c :: r => do
      let set ← ClassName.named? [c]
      return (.set (← finishSet? m negated set), skipGaps m r)

/-- Digits, blanks and word characters, and with a capital letter all others. -/
def shorthand? (m : Modes) (c : Char) : Option CharSet :=
  if m.unicode then
    match c with
    | 'd' => some .digit
    | 's' => some .blank
    | 'w' => some .word
    | 'D' => some (.compl .digit)
    | 'S' => some (.compl .blank)
    | 'W' => some (.compl .word)
    | _ => none
  else
    match c with
    | 'd' => some .asciiDigit
    | 's' => some .asciiBlank
    | 'w' => some .asciiWord
    | _ => none

/-- The letters and hyphens of a name in braces after `\b`. -/
def edgeName (m : Modes) (inComment : Bool) : List Char → List Char × List Char
  | [] => ([], [])
  | c :: r =>
    match gap? m inComment c with
    | some inComment => edgeName m inComment r
    | none =>
      if c.isAlpha || c = '-' then
        let (name, rest) := edgeName m false r
        (c :: name, rest)
      else ([], c :: r)

/-- What may follow `\b`: the name of an edge in braces. Braces that start with anything but a name
are left to be read as a repetition. -/
def wordEdge? (m : Modes) (s : List Char) : Option (WordEdge × List Char) :=
  match s with
  | '{' :: r =>
    match skipGaps m r with
    | [] => none
    | c :: r' =>
      if c.isAlpha || c = '-' then
        match edgeName m false (c :: r') with
        | (name, '}' :: rest) =>
          match String.ofList name with
          | "start" => some (.wordStart, rest)
          | "end" => some (.wordEnd, rest)
          | "start-half" => some (.startHalf, rest)
          | "end-half" => some (.endHalf, rest)
          | _ => none
        | _ => none
      else some (.edge, s)
  | _ => some (.edge, s)

/-- Characters that mean something outside brackets, inside them or in verbose mode. -/
def isMeta (c : Char) : Bool :=
  ['\\', '.', '+', '*', '?', '(', ')', '|', '[', ']', '{', '}', '^', '$', '#', '&', '-',
    '~'].contains c

/-- Characters that a backslash leaves as they are. -/
def isEscapable (c : Char) : Bool :=
  isMeta c || (c.toNat < 128 && !c.isAlphanum && c != '<' && c != '>')

/-- What stands after a backslash. -/
def escape? (m : Modes) : List Char → Option (Atom × List Char)
  | [] => none
  | 'x' :: r => hex? m 2 r
  | 'u' :: r => hex? m 4 r
  | 'U' :: r => hex? m 8 r
  | 'p' :: r => unicodeClass? m false r
  | 'P' :: r => unicodeClass? m true r
  | 'a' :: r => some (.literal (Char.ofNat 7), r)
  | 'f' :: r => some (.literal (Char.ofNat 12), r)
  | 't' :: r => some (.literal '\t', r)
  | 'n' :: r => some (.literal '\n', r)
  | 'r' :: r => some (.literal '\r', r)
  | 'v' :: r => some (.literal (Char.ofNat 11), r)
  | 'A' :: r => some (.anchor .textStart, r)
  | 'z' :: r => some (.anchor .textEnd, r)
  | 'b' :: r => (wordEdge? m r).map fun (place, rest) => (.anchor (.word m.unicode place), rest)
  | 'B' :: r => some (.anchor (.word m.unicode .inside), r)
  | '<' :: r => some (.anchor (.word m.unicode .wordStart), r)
  | '>' :: r => some (.anchor (.word m.unicode .wordEnd), r)
  | c :: r =>
    match shorthand? m c with
    | some s => some (.set s, r)
    | none => if isEscapable c then some (.literal c, r) else none

end ContentRules.Regex
