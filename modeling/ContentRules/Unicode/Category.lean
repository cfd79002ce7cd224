import ContentRules.Unicode.Category.Table
import ContentRules.Unicode.RowTable

/-!
The general category of a character, under the two-letter names of the standard.
-/

namespace ContentRules.Unicode

/-- The general categories. -/
inductive Category where
  | lu | ll | lt | lm | lo
  | mn | mc | me
  | nd | nl | no
  | pc | pd | ps | pe | pi | pf | po
  | sm | sc | sk | so
  | zs | zl | zp
  | cc | cf | cs | co | cn
  deriving Repr, DecidableEq

namespace Category

/-- The categories with their abbreviations. -/
def abbreviations : List (String × Category) :=
  [("Lu", lu), ("Ll", ll), ("Lt", lt), ("Lm", lm), ("Lo", lo), ("Mn", mn), ("Mc", mc), ("Me", me),
    ("Nd", nd), ("Nl", nl), ("No", no), ("Pc", pc), ("Pd", pd), ("Ps", ps), ("Pe", pe), ("Pi", pi),
    ("Pf", pf), ("Po", po), ("Sm", sm), ("Sc", sc), ("Sk", sk), ("So", so), ("Zs", zs), ("Zl", zl),
    ("Zp", zp), ("Cc", cc), ("Cf", cf), ("Cs", cs), ("Co", co), ("Cn", cn)]

def ofAbbreviation (text : Option (List Char)) : Category :=
  ((text.map String.ofList).bind (abbreviations.lookup ·)).getD .cn

def table : RowTable Category := RowTable.ofText ofAbbreviation tableText

/-- The category of a character; what the table does not hold is unassigned. -/
def of (c : Char) : Category := (table.find? c.toNat).getD .cn

def isLetter : Category → Bool
  | lu | ll | lt | lm | lo => true
  | _ => false

def isMark : Category → Bool
  | mn | mc | me => true
  | _ => false

def isNumber : Category → Bool
  | nd | nl | no => true
  | _ => false

end Category

end ContentRules.Unicode
