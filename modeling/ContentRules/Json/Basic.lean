/-!
JSON values as rule lists use them, and their compact text. Rule lists hold no numbers, so neither
do these values. An object keeps its members in the order in which they are written.
-/

namespace ContentRules

/-- A JSON value without numbers. -/
inductive Json where
  | null
  | bool (b : Bool)
  | str (s : String)
  | arr (items : List Json)
  | obj (members : List (String × Json))
  deriving Repr, Inhabited, BEq

namespace Json

/-- The array of the given strings. -/
def strings (items : List String) : Json := .arr (items.map .str)

def hexDigit (n : Nat) : Char := if n < 10 then Char.ofNat (48 + n) else Char.ofNat (87 + n)

/-- One character inside a JSON string: quotes and backslashes are escaped, control characters
below `U+0020` get their short escape or four hexadecimal digits, and all else stands for itself. -/
def escape (c : Char) : List Char :=
  if c = '"' then ['\\', '"']
  else if c = '\\' then ['\\', '\\']
  else if c = '\n' then ['\\', 'n']
  else if c = '\r' then ['\\', 'r']
  else if c = '\t' then ['\\', 't']
  else if c.toNat = 8 then ['\\', 'b']
  else if c.toNat = 12 then ['\\', 'f']
  else if c.toNat < 32 then
    ['\\', 'u', '0', '0', hexDigit (c.toNat / 16), hexDigit (c.toNat % 16)]
  else [c]

/-- A text between quotes, escaped. -/
def quote (s : List Char) : List Char := '"' :: s.flatMap escape ++ ['"']

mutual
/-- The compact text of a value: no blanks, members in their own order. -/
def chars : Json → List Char
  | null => "null".toList
  | bool true => "true".toList
  | bool false => "false".toList
  | str s => quote s.toList
  | arr items => '[' :: itemChars items ++ [']']
  | obj members => '{' :: memberChars members ++ ['}']

def itemChars : List Json → List Char
  | [] => []
  | [v] => chars v
  | v :: w :: rest => chars v ++ ',' :: itemChars (w :: rest)

def memberChars : List (String × Json) → List Char
  | [] => []
  | [(k, v)] => quote k.toList ++ ':' :: chars v
  | (k, v) :: m :: rest => quote k.toList ++ ':' :: chars v ++ ',' :: memberChars (m :: rest)
end

/-- The compact text of a value. -/
def render (v : Json) : String := String.ofList v.chars

/-- Commas stand between items. -/
theorem itemChars_eq (items : List Json) :
    itemChars items = [','].intercalate (items.map chars) := by
  induction items with
  | nil => rfl
  | cons v items ih =>
    cases items with
    | nil => simp [itemChars]
    | cons w rest => simp [itemChars, ih, List.intercalate_cons_cons]

end Json

end ContentRules
