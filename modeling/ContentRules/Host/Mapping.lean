import ContentRules.Host.Mapping.Table
import ContentRules.Text.Ascii
import ContentRules.Unicode.Composition

/-!
How a host name is brought to the one form that is encoded: letters small, compatibility forms
replaced by what they stand for, ignorable characters dropped, and the whole composed. Characters
that no host name may hold make the mapping fail.
-/

namespace ContentRules.Host.Mapping

/-- What a row of the table does to the first code point of its run. -/
inductive Change where
  | keep
  | replace (codes : List Nat)

def table : Unicode.RowTable Change :=
  Unicode.RowTable.ofText (fun text =>
    match text with
    | none => .keep
    | some [] => .replace []
    | some t => .replace ((Text.pieces (· == '.') t).map (Text.number 16))) tableText

/-- The ideographic full stops are read as points. -/
def isFullStop (c : Char) : Bool := c.toNat = 0x3002 || c.toNat = 0xFF61

/-- The full-width forms of the ASCII characters. -/
def isFullWidth (c : Char) : Bool := 0xFF01 ≤ c.toNat && c.toNat ≤ 0xFF5E

/-- What replaces a character; `none` if no host name may hold it. -/
def replacement? (c : Char) : Option (List Char) :=
  let n := c.toNat
  if n < 128 then some [c.toLower]
  else if isFullStop c then some ['.']
  else if isFullWidth c then some [(Char.ofNat (n - 0xFEE0)).toLower]
  else
    match table.row? n with
    | none => none
    | some row =>
      match row.value with
      | .keep => some [c]
      | .replace [code] => some [Char.ofNat (code + (n - row.first))]
      | .replace codes => some (codes.map Char.ofNat)

/-- The mapped and composed text. -/
def map? (s : List Char) : Option (List Char) :=
  (s.mapM replacement?).map fun parts => Unicode.Composition.normalize parts.flatten

/-- The text is its own mapped form. -/
def isMapped (s : List Char) : Bool :=
  s.all (fun c => replacement? c == some [c]) && Unicode.Composition.normalize s == s

end ContentRules.Host.Mapping
