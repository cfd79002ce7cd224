import ContentRules.Regex.Basic

/-!
Looking for a regular expression in a text. A set of places in the text is a number whose bits are
the places; an expression leads from the places where a match may start to those where it may end.
Every operation of expressions is an operation on such sets, so the search never goes back.
-/

namespace ContentRules.Regex

/-- The places before a character of the set. -/
def charPlaces (set : CharSet) : List Char → Nat
  | [] => 0
  | c :: r => 2 * charPlaces set r + (set.contains c).toNat

/-- The places where a condition holds. -/
def anchorPlaces (a : Anchor) (before : Option Char) : List Char → Nat
  | [] => (a.holds before none).toNat
  | c :: r => 2 * anchorPlaces a (some c) r + (a.holds before (some c)).toNat

/-- Takes a step a number of times, stopping when it changes nothing. -/
def iterate (step : Nat → Nat) : Nat → Nat → Nat
  | 0, places => places
  | n + 1, places =>
    let next := step places
    if next = places then places else iterate step n next

/-- Takes a step any number of times up to a bound, and keeps all places on the way. -/
def spread (step : Nat → Nat) : Nat → Nat → Nat
  | 0, places => places
  | n + 1, places =>
    let next := places ||| step places
    if next = places then places else spread step n next

/-- The places where a match that starts at one of the given places may end. -/
def ends (text : List Char) : Regex → Nat → Nat
  | empty, starts => starts
  | chars set, starts => (starts &&& charPlaces set text) <<< 1
  | anchor a, starts => starts &&& anchorPlaces a none text
  | seq r s, starts => ends text s (ends text r starts)
  | alt r s, starts => ends text r starts ||| ends text s starts
  | repeated r least most, starts =>
    spread (ends text r)
      (match most with
        | none => text.length + 1
        | some n => n - least)
      (iterate (ends text r) least starts)

/-- All places of a text. -/
def allPlaces (text : List Char) : Nat := 1 <<< (text.length + 1) - 1

/-- Some part of the text matches. -/
def occursIn (r : Regex) (text : List Char) : Bool := ends text r (allPlaces text) != 0

end ContentRules.Regex
