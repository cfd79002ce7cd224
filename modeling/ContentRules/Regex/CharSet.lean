import ContentRules.Text.Blank
import ContentRules.Unicode.CaseGroup
import ContentRules.Unicode.Category
import ContentRules.Unicode.RowTable

/-!
Sets of characters, as regular expressions describe them. A set is a tree of ranges and operations;
`contains` says which characters belong to it. For ASCII characters the named sets are what
programmers expect of them.
-/

namespace ContentRules.Regex

/-- A set of characters. -/
inductive CharSet where
  | empty
  | all
  | range (first last : Char)
  | digit
  | blank
  | word
  | category (members : List Unicode.Category)
  | runs (table : Unicode.RowTable Unit)
  | union (a b : CharSet)
  | inter (a b : CharSet)
  | compl (a : CharSet)
  /-- What equals a member up to the case of letters; without Unicode, of ASCII letters only. -/
  | folded (unicode : Bool) (a : CharSet)

namespace CharSet

open Unicode

/-- Decimal digits of any script. -/
def isDigit (c : Char) : Bool := if c.toNat < 128 then c.isDigit else Category.of c == .nd

/-- Letters in circles, which are symbols but count as letters. -/
def circledLetters : RowTable Unit :=
  RowTable.ofText (fun _ => ()) "24B6-24E9 1F130-1F149 1F150-1F169 1F170-1F189"

/-- Letters, marks, decimal digits, connecting punctuation, letters in circles and joiners. -/
def isWord (c : Char) : Bool :=
  if c.toNat < 128 then c.isAlphanum || c == '_'
  else
    let k := Category.of c
    k.isLetter || k.isMark || k == .nd || k == .nl || k == .pc ||
      circledLetters.contains c.toNat || c.toNat == 0x200C || c.toNat == 0x200D

/-- The ASCII characters that differ from a character at most in case. -/
def asciiVariants (c : Char) : List Char := [c.toLower, c.toUpper]

/-- Whether a character belongs to the set. -/
def contains : CharSet → Char → Bool
  | empty, _ => false
  | all, _ => true
  | range first last, c => first ≤ c && c ≤ last
  | digit, c => isDigit c
  | blank, c => Text.isBlank c
  | word, c => isWord c
  | category members, c => members.contains (Category.of c)
  | runs table, c => table.contains c.toNat
  | union a b, c => a.contains c || b.contains c
  | inter a b, c => a.contains c && b.contains c
  | compl a, c => !a.contains c
  | folded true a, c => (CaseGroup.variants c).any a.contains
  | folded false a, c => (asciiVariants c).any a.contains

/-- The set of one character. -/
def char (c : Char) : CharSet := range c c

/-- The union of ranges. -/
def ranges (list : List (Char × Char)) : CharSet :=
  list.foldr (fun (first, last) s => union (range first last) s) empty

def diff (a b : CharSet) : CharSet := inter a (compl b)

/-- What belongs to exactly one of two sets. -/
def symmDiff (a b : CharSet) : CharSet := union (diff a b) (diff b a)

def asciiDigit : CharSet := range '0' '9'
def asciiWord : CharSet := ranges [('0', '9'), ('A', 'Z'), ('_', '_'), ('a', 'z')]
def asciiBlank : CharSet := ranges [(Char.ofNat 9, Char.ofNat 13), (' ', ' ')]

theorem contains_char (c d : Char) : (char c).contains d = (c == d) := by
  simp only [char, contains]
  rcases Decidable.em (c = d) with rfl | h
  · simp
  · rw [beq_false_of_ne h]
    simp only [Bool.and_eq_false_iff, decide_eq_false_iff_not]
    by_cases hle : c ≤ d
    · right
      intro hge
      exact h (Char.le_antisymm hle hge)
    · exact Or.inl hle

end CharSet

end ContentRules.Regex
