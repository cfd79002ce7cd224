import ContentRules.Regex.Reader

/-!
What a reader of regular expressions passes over does not depend on the mode in which case counts:
the gaps, the names and numbers of escapes, the start of a class in brackets and the bounds of
repetitions. Main statements: `skipGaps_caseless`, `hex?_caseless`, `Bracket.openClass_caseless` and
`Reader.bounds?_caseless`.
-/

namespace ContentRules.Regex

/-- The modes, case counting. -/
def Modes.caseless (m : Modes) : Modes := { m with ignoreCase := false }

variable (m : Modes)

theorem gap?_caseless : gap? m.caseless = gap? m := rfl

theorem skipGapsIn_caseless (inComment : Bool) (s : List Char) :
    skipGapsIn m.caseless inComment s = skipGapsIn m inComment s := by
  induction s generalizing inComment with
  | nil => rfl
  | cons c s ih => simp only [skipGapsIn, gap?_caseless, ih]

theorem skipGaps_caseless : skipGaps m.caseless = skipGaps m :=
  funext fun s => skipGapsIn_caseless m false s

/-! ## Escapes -/

theorem fixedHex?_caseless (value n : Nat) (s : List Char) :
    fixedHex? m.caseless value n s = fixedHex? m value n s := by
  induction n generalizing value s with
  | zero => rfl
  | succ n ih => cases s with
    | nil => rfl
    | cons c s => simp only [fixedHex?, skipGaps_caseless, ih]

theorem bracedHex?_caseless (inComment : Bool) (value count : Nat) (s : List Char) :
    bracedHex? m.caseless inComment value count s = bracedHex? m inComment value count s := by
  induction s generalizing inComment value count with
  | nil => rfl
  | cons c s ih => simp only [bracedHex?, gap?_caseless, skipGaps_caseless, ih]

theorem hex?_caseless (digits : Nat) (s : List Char) :
    hex? m.caseless digits s = hex? m digits s := by
  simp only [hex?, skipGaps_caseless, bracedHex?_caseless, fixedHex?_caseless]
  rfl

theorem bracedName_caseless (inComment : Bool) (s : List Char) :
    bracedName m.caseless inComment s = bracedName m inComment s := by
  induction s generalizing inComment with
  | nil => rfl
  | cons c s ih => simp only [bracedName, gap?_caseless, ih]

theorem edgeName_caseless (inComment : Bool) (s : List Char) :
    edgeName m.caseless inComment s = edgeName m inComment s := by
  induction s generalizing inComment with
  | nil => rfl
  | cons c s ih => simp only [edgeName, gap?_caseless, ih]

theorem wordEdge?_caseless (s : List Char) : wordEdge? m.caseless s = wordEdge? m s := by
  simp only [wordEdge?, skipGaps_caseless, edgeName_caseless]

/-! ## Classes in brackets -/

namespace Bracket

theorem leadingHyphens_caseless (inComment : Bool) (union : CharSet) (s : List Char) :
    leadingHyphens m.caseless inComment union s = leadingHyphens m inComment union s := by
  induction s generalizing inComment union with
  | nil => rfl
  | cons c s ih => simp only [leadingHyphens, gap?_caseless, ih]

theorem openClass_caseless (s : List Char) : openClass m.caseless s = openClass m s := by
  simp only [openClass, skipGaps_caseless, leadingHyphens_caseless]

end Bracket

/-! ## Bounds of repetitions -/

namespace Reader

theorem takeDigits_caseless (inComment : Bool) (s : List Char) :
    takeDigits m.caseless inComment s = takeDigits m inComment s := by
  induction s generalizing inComment with
  | nil => rfl
  | cons c s ih => simp only [takeDigits, gap?_caseless, ih]

theorem skipBlanks_caseless (inComment : Bool) (s : List Char) :
    skipBlanks m.caseless inComment s = skipBlanks m inComment s := by
  induction s generalizing inComment with
  | nil => rfl
  | cons c s ih => simp only [skipBlanks, gap?_caseless, ih]

theorem count?_caseless (s : List Char) : count? m.caseless s = count? m s := by
  simp only [count?, takeDigits_caseless, skipBlanks_caseless]

theorem bounds?_caseless (s : List Char) : bounds? m.caseless s = bounds? m s := by
  simp only [bounds?, skipGaps_caseless, count?_caseless]

end Reader

end ContentRules.Regex
