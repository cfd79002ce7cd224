import ContentRules.Regex.CharSet

/-!
Regular expressions and what they match. `Matches` is the meaning: a relation between an expression,
the text before, the part that is matched and the text after. Looking for an expression in a text
asks whether some part of it matches.
-/

namespace ContentRules

namespace Regex

/-- The places in a text that words set apart. -/
inductive WordEdge where
  | edge | inside | wordStart | wordEnd | startHalf | endHalf
  deriving DecidableEq, Repr

/-- Conditions on a place in a text. Lines end at line feeds, or with `crlf` also at carriage
returns, but not between the two characters of a pair. -/
inductive Anchor where
  | textStart
  | textEnd
  | lineStart (crlf : Bool)
  | lineEnd (crlf : Bool)
  | word (unicode : Bool) (place : WordEdge)
  deriving DecidableEq, Repr

namespace Anchor

def isWordAt (unicode : Bool) (c : Option Char) : Bool :=
  (c.map (if unicode then CharSet.word else CharSet.asciiWord).contains).getD false

/-- The condition holds between two neighbouring characters, if there are any. -/
def holds (a : Anchor) (before after : Option Char) : Bool :=
  match a with
  | textStart => before.isNone
  | textEnd => after.isNone
  | lineStart false => before.isNone || before == some '\n'
  | lineStart true =>
    before.isNone || before == some '\n' || (before == some '\r' && after != some '\n')
  | lineEnd false => after.isNone || after == some '\n'
  | lineEnd true =>
    after.isNone || after == some '\r' || (after == some '\n' && before != some '\r')
  | word unicode place =>
    let b := isWordAt unicode before
    let a := isWordAt unicode after
    match place with
    | .edge => b != a
    | .inside => b == a
    | .wordStart => !b && a
    | .wordEnd => b && !a
    | .startHalf => !b
    | .endHalf => !a

end Anchor

end Regex

/-- A regular expression. -/
inductive Regex where
  | empty
  | chars (set : Regex.CharSet)
  | anchor (a : Regex.Anchor)
  | seq (r s : Regex)
  | alt (r s : Regex)
  /-- At least `least` times in a row, and at most `most` times unless that is `none`. -/
  | repeated (r : Regex) (least : Nat) (most : Option Nat)

namespace Regex

/-- The expression matches a part of a text that stands between two others. -/
inductive Matches : Regex → List Char → List Char → List Char → Prop where
  | empty (p q : List Char) : Matches .empty p [] q
  | chars {set : CharSet} {c : Char} (p q : List Char) (h : set.contains c = true) :
    Matches (.chars set) p [c] q
  | anchor {a : Anchor} (p q : List Char) (h : a.holds p.getLast? q.head? = true) :
    Matches (.anchor a) p [] q
  | seq {r s : Regex} {p m n q : List Char} (h₁ : Matches r p m (n ++ q))
    (h₂ : Matches s (p ++ m) n q) : Matches (.seq r s) p (m ++ n) q
  | altLeft {r s : Regex} {p m q : List Char} (h : Matches r p m q) : Matches (.alt r s) p m q
  | altRight {r s : Regex} {p m q : List Char} (h : Matches s p m q) : Matches (.alt r s) p m q
  | stop {r : Regex} {most : Option Nat} (p q : List Char) : Matches (.repeated r 0 most) p [] q
  | next {r : Regex} {least : Nat} {most : Option Nat} {p m n q : List Char}
    (h : most ≠ some 0) (h₁ : Matches r p m (n ++ q))
    (h₂ : Matches (.repeated r (least - 1) (most.map (· - 1))) (p ++ m) n q) :
    Matches (.repeated r least most) p (m ++ n) q

/-- Some part of the text matches. -/
def OccursIn (r : Regex) (text : List Char) : Prop :=
  ∃ p m q, text = p ++ m ++ q ∧ Matches r p m q

/-- The expression that matches a literal text. -/
def literal (s : List Char) : Regex :=
  s.foldr (fun c r => .seq (.chars (.char c)) r) .empty

def star (r : Regex) : Regex := .repeated r 0 none
def plus (r : Regex) : Regex := .repeated r 1 none
def optional (r : Regex) : Regex := .repeated r 0 (some 1)

end Regex

end ContentRules
