import ContentRules.Unicode.BidiClass.Table
import ContentRules.Unicode.RowTable

/-!
The bidirectional class of a character, as far as the rules for host names tell classes apart.
-/

namespace ContentRules.Unicode

/-- The bidirectional classes. White space, separators and embedding controls are `neutral`: no host
name holds them. -/
inductive BidiClass where
  | l | r | al | an | en | es | cs | et | on | bn | nsm | neutral
  deriving Repr, DecidableEq

namespace BidiClass

def ofAbbreviation (text : Option (List Char)) : BidiClass :=
  match text.map String.ofList with
  | some "R" => r
  | some "AL" => al
  | some "AN" => an
  | some "EN" => en
  | some "ES" => es
  | some "CS" => cs
  | some "ET" => et
  | some "ON" => on
  | some "BN" => bn
  | some "NSM" => nsm
  | _ => neutral

def table : RowTable BidiClass := RowTable.ofText ofAbbreviation tableText

/-- The class of a character; what the table does not hold is written left to right. -/
def of (c : Char) : BidiClass := (table.find? c.toNat).getD l

end BidiClass

end ContentRules.Unicode
