import ContentRules.Unicode.Category

/-!
The small letter of the Greek capital sigma. At the end of a word it is written `ς` and elsewhere
`σ`: a word ends after the sigma when a cased character stands before it, none follows it, and
characters that case ignores are passed over on both sides.
-/

namespace ContentRules.Unicode

def otherCased : RowTable Unit := RowTable.ofText (fun _ => ()) "
AA BA 2B0-2B8 2C0-2C1 2E0-2E4 345 37A 10FC 1D2C-1D6A 1D78 1D9B-1DBF 2071 207F 2090-209C 2160-217F
24B6-24E9 2C7C-2C7D A69C-A69D A770 A7F1-A7F4 A7F8-A7F9 AB5C-AB5F AB69 10780 10783-10785 10787-107B0
107B2-107BA 1E030-1E06D 1F130-1F149 1F150-1F169 1F170-1F189"

/-- The property `Cased`: letters with case, and signs made of them. -/
def isCased (c : Char) : Bool :=
  match Category.of c with
  | .lu | .ll | .lt => true
  | _ => otherCased.contains c.toNat

def otherIgnorable : RowTable Unit := RowTable.ofText (fun _ => ()) "
27 2E 3A B7 387 55F 5F4 2018-2019 2024 2027 FE13 FE52 FE55 FF07 FF0E FF1A"

/-- The property `Case_Ignorable`: marks, modifiers, and the points and quotes inside words. -/
def isCaseIgnorable (c : Char) : Bool :=
  match Category.of c with
  | .mn | .me | .cf | .lm | .sk => true
  | _ => otherIgnorable.contains c.toNat

/-- The first character that case does not ignore is cased. -/
def startsCased (s : List Char) : Bool :=
  ((s.dropWhile isCaseIgnorable).head?.map isCased).getD false

/-- Writes each capital sigma small, with the final form at the end of a word. The characters before
the text are given last first. -/
def smallSigmas (before : List Char) : List Char → List Char
  | [] => []
  | c :: r =>
    let c' := if c = 'Σ' then (if startsCased before && !startsCased r then 'ς' else 'σ') else c
    c' :: smallSigmas (c :: before) r

end ContentRules.Unicode
