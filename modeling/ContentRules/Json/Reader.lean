import ContentRules.Json.Basic
import ContentRules.Text.Digit

/-!
Reading JSON text. `read?` accepts one value with blanks around its tokens and nothing after it; it
refuses numbers, which rule lists do not hold.
-/

namespace ContentRules.Json

def isGap (c : Char) : Bool := c = ' ' || c = '\n' || c = '\t' || c = '\r'

def skipGaps (s : List Char) : List Char := s.dropWhile isGap

/-- Four hexadecimal digits as one number. -/
def unit? : List Char → Option (Nat × List Char)
  | a :: b :: c :: d :: rest => do
    let n ← Text.hexValue? a
    let m ← Text.hexValue? b
    let k ← Text.hexValue? c
    let l ← Text.hexValue? d
    return (((n * 16 + m) * 16 + k) * 16 + l, rest)
  | _ => none

/-- The character of a `\u` escape, whose digits come first; a pair of surrogates is one
character. -/
def unicodeEscape? (s : List Char) : Option (Char × List Char) := do
  let (n, rest) ← unit? s
  if n < 0xD800 ∨ 0xDFFF < n then
    return (Char.ofNat n, rest)
  if 0xDC00 ≤ n then none
  match rest with
  | '\\' :: 'u' :: low => do
    let (m, rest) ← unit? low
    if 0xDC00 ≤ m ∧ m ≤ 0xDFFF then
      return (Char.ofNat (0x10000 + (n - 0xD800) * 0x400 + (m - 0xDC00)), rest)
    none
  | _ => none

/-- The character of an escape, without its backslash. -/
def escape? : List Char → Option (Char × List Char)
  | '"' :: r => some ('"', r)
  | '\\' :: r => some ('\\', r)
  | '/' :: r => some ('/', r)
  | 'b' :: r => some (Char.ofNat 8, r)
  | 'f' :: r => some (Char.ofNat 12, r)
  | 'n' :: r => some ('\n', r)
  | 'r' :: r => some ('\r', r)
  | 't' :: r => some ('\t', r)
  | 'u' :: r => unicodeEscape? r
  | _ => none

/-- The rest of a string whose opening quote has been read. -/
def readString : Nat → List Char → Option (List Char × List Char)
  | 0, _ => none
  | _ + 1, [] => none
  | _ + 1, '"' :: rest => some ([], rest)
  | fuel + 1, '\\' :: rest => do
    let (c, rest) ← escape? rest
    let (s, rest) ← readString fuel rest
    return (c :: s, rest)
  | fuel + 1, c :: rest => do
    if c.toNat < 32 then none
    let (s, rest) ← readString fuel rest
    return (c :: s, rest)

mutual
/-- One value at the start of the text, and what follows it. -/
def readValue : Nat → List Char → Option (Json × List Char)
  | 0, _ => none
  | fuel + 1, s =>
    match skipGaps s with
    | 'n' :: 'u' :: 'l' :: 'l' :: rest => some (null, rest)
    | 't' :: 'r' :: 'u' :: 'e' :: rest => some (bool true, rest)
    | 'f' :: 'a' :: 'l' :: 's' :: 'e' :: rest => some (bool false, rest)
    | '"' :: rest => do
      let (t, rest) ← readString fuel rest
      return (str (String.ofList t), rest)
    | '[' :: rest =>
      match skipGaps rest with
      | ']' :: rest => some (arr [], rest)
      | rest => do
        let (items, rest) ← readItems fuel rest
        return (arr items, rest)
    | '{' :: rest =>
      match skipGaps rest with
      | '}' :: rest => some (obj [], rest)
      | rest => do
        let (members, rest) ← readMembers fuel rest
        return (obj members, rest)
    | _ => none

/-- The items of an array up to its closing bracket. -/
def readItems : Nat → List Char → Option (List Json × List Char)
  | 0, _ => none
  | fuel + 1, s => do
    let (v, rest) ← readValue fuel s
    match skipGaps rest with
    | ']' :: rest => return ([v], rest)
    | ',' :: rest => do
      let (vs, rest) ← readItems fuel rest
      return (v :: vs, rest)
    | _ => none

/-- The members of an object up to its closing brace. -/
def readMembers : Nat → List Char → Option (List (String × Json) × List Char)
  | 0, _ => none
  | fuel + 1, s =>
    match skipGaps s with
    | '"' :: rest => do
      let (k, rest) ← readString fuel rest
      match skipGaps rest with
      | ':' :: rest => do
        let (v, rest) ← readValue fuel rest
        match skipGaps rest with
        | '}' :: rest => return ([(String.ofList k, v)], rest)
        | ',' :: rest => do
          let (ms, rest) ← readMembers fuel rest
          return ((String.ofList k, v) :: ms, rest)
        | _ => none
      | _ => none
    | _ => none
end

/-- The value that a text writes, if it writes exactly one. No token needs more than one step for
each of its characters, so the length of the text bounds the reading. -/
def read? (s : String) : Option Json := do
  let (v, rest) ← readValue (2 * s.length + 2) s.toList
  if (skipGaps rest).isEmpty then some v else none

end ContentRules.Json
