import ContentRules.Text.Digit
import ContentRules.Text.Pieces

/-!
Numbers of 32 bits in binary floating point, read from and written in decimal. Every finite number
is a whole number of units of `2 ^ -149`, and its neighbours lie one step away, where a step is one
unit or, above `2 ^ 24` units, the last place of 24 significant bits. Reading rounds to the nearest
number and, half way, to the one with an even significand. Writing gives the fewest digits that read
back.
-/

namespace ContentRules.Number

/-- A number in binary floating point of 32 bits. -/
inductive Binary32 where
  | nan
  | infinite (negative : Bool)
  | finite (negative : Bool) (units : Nat)
  deriving Repr, DecidableEq

namespace Binary32

/-- The distance from a magnitude to the next larger one, as a power of two. -/
def stepExponent (units : Nat) : Nat := units.log2 - 23

/-- The whole number nearest to a quotient, and the even one half way. -/
def roundDiv (num den : Nat) : Nat :=
  let q := num / den
  let twice := 2 * (num % den)
  if twice < den then q else if den < twice then q + 1 else if q % 2 = 0 then q else q + 1

/-- The magnitude nearest to a quotient of units. -/
def roundUnits (num den : Nat) : Nat :=
  let step := 1 <<< stepExponent (num / den)
  roundDiv num (den * step) * step

/-- One, in units. -/
def one : Nat := 1 <<< 149

/-- The least magnitude that is too large to be finite. -/
def limit : Nat := 1 <<< 277

/-- The number nearest to `mantissa * 10 ^ exponent`. Beyond fifty places on either side the answer
is infinity or zero. -/
def ofDecimal (negative : Bool) (mantissa : Nat) (exponent : Int) : Binary32 :=
  let places : Int := (Nat.toDigits 10 mantissa).length + exponent
  if mantissa = 0 ∨ places < -50 then finite negative 0
  else if 50 < places then infinite negative
  else
    let units :=
      if 0 ≤ exponent then roundUnits (mantissa * Nat.pow 10 exponent.toNat * one) 1
      else roundUnits (mantissa * one) (Nat.pow 10 (-exponent).toNat)
    if limit ≤ units then infinite negative else finite negative units

/-- The exponent that follows a mantissa: nothing, or `e`, a sign and at least one digit. -/
def exponent? : List Char → Option Int
  | [] => some 0
  | c :: r =>
    if c != 'e' && c != 'E' then none
    else
      let (negative, r) :=
        match r with
        | '-' :: r => (true, r)
        | '+' :: r => (false, r)
        | r => (false, r)
      if r.isEmpty || !r.all Char.isDigit then none
      else some (if negative then -(Text.number 10 r : Int) else Text.number 10 r)

/-- An unsigned number: a name, or digits with at most one point among or beside them. -/
def unsigned? (negative : Bool) (s : List Char) : Option Binary32 :=
  match String.ofList (s.map Char.toLower) with
  | "nan" => some nan
  | "inf" => some (infinite negative)
  | "infinity" => some (infinite negative)
  | _ =>
    let whole := s.takeWhile Char.isDigit
    let rest := s.dropWhile Char.isDigit
    let (fraction, rest) :=
      match rest with
      | '.' :: r => (r.takeWhile Char.isDigit, r.dropWhile Char.isDigit)
      | rest => ([], rest)
    if whole.isEmpty && fraction.isEmpty then none
    else
      (exponent? rest).map fun e =>
        ofDecimal negative (Text.number 10 (whole ++ fraction)) (e - fraction.length)

/-- The number that a decimal text writes. -/
def read? : List Char → Option Binary32
  | '-' :: r => unsigned? true r
  | '+' :: r => unsigned? false r
  | s => unsigned? false s

/-- Twice the reach of a magnitude downwards and upwards, in units times four: what lies between
reads back as the magnitude, the ends only if its significand is even. -/
def readsBack (units value : Nat) (scale : Nat) : Bool :=
  let step := 1 <<< stepExponent units
  let below := if units = 1 <<< units.log2 ∧ 1 < step then step else 2 * step
  let low := (4 * units - below) * scale
  let high := (4 * units + 2 * step) * scale
  if units / step % 2 = 0 then low ≤ value && value ≤ high else low < value && value < high

/-- The decimals `digit * 10 ^ place` next to a magnitude on both sides, nearest first. -/
def neighbours (units : Nat) (place : Int) : List Nat :=
  let scale := Nat.pow 10 (-place).toNat
  let unit := Nat.pow 10 place.toNat * one
  let below := units * scale / unit
  if 2 * (units * scale % unit) ≤ unit then [below, below + 1] else [below + 1, below]

/-- The first place, going down, on which some decimal reads back as the magnitude. -/
def shortestFrom (units : Nat) : Nat → Int → Nat × Int
  | 0, place => (0, place)
  | fuel + 1, place =>
    let scale := Nat.pow 10 (-place).toNat
    let unit := 4 * Nat.pow 10 place.toNat * one
    match (neighbours units place).find? fun d => d != 0 && readsBack units (d * unit) scale with
    | some d => (d, place)
    | none => shortestFrom units fuel (place - 1)

/-- The fewest digits that read back as a magnitude, with the place of the last one. Magnitudes lie
between `10 ^ -45` and `10 ^ 39`, and nine digits always suffice. -/
def shortest (units : Nat) : Nat × Int := shortestFrom units 100 39

/-- Digits in positional notation, the last one at the given place. -/
def positional (digits : Nat) (place : Int) : List Char :=
  let text := Nat.toDigits 10 digits
  if 0 ≤ place then text ++ List.replicate place.toNat '0'
  else
    let fraction := (-place).toNat
    if fraction < text.length then
      text.take (text.length - fraction) ++ '.' :: text.drop (text.length - fraction)
    else '0' :: '.' :: (List.replicate (fraction - text.length) '0' ++ text)

/-- The text of a number: never an exponent, and the fewest digits that read back. -/
def chars : Binary32 → List Char
  | nan => "NaN".toList
  | infinite negative => (if negative then ['-'] else []) ++ "inf".toList
  | finite negative units =>
    (if negative then ['-'] else []) ++
      (if units = 0 then ['0'] else let (d, place) := shortest units; positional d place)

end Binary32

end ContentRules.Number
