import ContentRules.Text.Pieces
import ContentRules.Unicode.Composition.Table
import ContentRules.Unicode.RowTable
import Std.Data.HashMap

/-!
The composed normal form of a text: every character is decomposed, the marks on each base are put in
the order of their combining classes, and what can be composed is composed again.
-/

namespace ContentRules.Unicode.Composition

def classes : RowTable Nat :=
  RowTable.ofText (fun text => (text.map (Text.number 16)).getD 0) classText

/-- The canonical combining class; zero for a character that carries marks. -/
def combiningClass (c : Char) : Nat := (classes.find? c.toNat).getD 0

structure Decomposition where
  parts : List Char
  /-- Composition gives the character back. -/
  composes : Bool

def decompositions : RowTable Decomposition :=
  RowTable.ofText (fun text =>
    let numbers := ((text.map fun t => (Text.pieces (· == '.') t).map (Text.number 16)).getD [])
    ⟨(numbers.filter (0 < ·)).map Char.ofNat, !numbers.contains 0⟩) decompositionText

/-- The syllables of Hangul, which combine 19 leading consonants, 21 vowels and 27 optional trailing
consonants. -/
def isSyllable (n : Nat) : Bool := 0xAC00 ≤ n && n < 0xAC00 + 11172

/-- The characters into which a character decomposes at last. -/
def decompose (c : Char) : List Char :=
  let n := c.toNat
  if isSyllable n then
    let i := n - 0xAC00
    let leading := Char.ofNat (0x1100 + i / 588)
    let vowel := Char.ofNat (0x1161 + i % 588 / 28)
    if i % 28 = 0 then [leading, vowel] else [leading, vowel, Char.ofNat (0x11A7 + i % 28)]
  else ((decompositions.find? n).map (·.parts)).getD [c]

def composites : Std.HashMap String Char :=
  decompositions.rows.foldl (fun m row =>
    if row.value.composes then
      m.insert (String.ofList row.value.parts) (Char.ofNat row.first)
    else m) ∅

/-- The character that a base and what follows it make together. -/
def composite? (base c : Char) : Option Char :=
  let n := base.toNat
  let m := c.toNat
  if 0x1100 ≤ n ∧ n < 0x1113 ∧ 0x1161 ≤ m ∧ m < 0x1176 then
    some (Char.ofNat (0xAC00 + ((n - 0x1100) * 21 + (m - 0x1161)) * 28))
  else if isSyllable n ∧ (n - 0xAC00) % 28 = 0 ∧ 0x11A7 < m ∧ m < 0x11C3 then
    some (Char.ofNat (n + (m - 0x11A7)))
  else composites[String.ofList (decompose base ++ [c])]?

/-- Puts a character behind a text that is given last character first: a mark moves before the
marks of a higher class. -/
def insertMark (c : Char) : List Char → List Char
  | [] => [c]
  | d :: r =>
    if combiningClass c ≠ 0 ∧ combiningClass c < combiningClass d then d :: insertMark c r
    else c :: d :: r

/-- The fully decomposed text, marks in canonical order. -/
def decomposed (s : List Char) : List Char :=
  ((s.flatMap decompose).foldl (fun reversed c => insertMark c reversed) []).reverse

/-- Composes a decomposed text. The last base is held back with the marks that did not join it, last
mark first. -/
def composeFrom (base : Option Char) (held : List Char) : List Char → List Char
  | [] => base.toList ++ held.reverse
  | c :: r =>
    match base with
    | none => if combiningClass c = 0 then composeFrom (some c) [] r else c :: composeFrom none [] r
    | some b =>
      let blocked :=
        (held.head?.map fun m => decide (combiningClass c ≤ combiningClass m)).getD false
      match if blocked then none else composite? b c with
      | some p => composeFrom (some p) held r
      | none =>
        if combiningClass c = 0 then b :: (held.reverse ++ composeFrom (some c) [] r)
        else composeFrom (some b) (c :: held) r

/-- The composed normal form. Texts below `U+0300` are composed already. -/
def normalize (s : List Char) : List Char :=
  if s.all (·.toNat < 0x300) then s else composeFrom none [] (decomposed s)

end ContentRules.Unicode.Composition
