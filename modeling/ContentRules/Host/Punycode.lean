import ContentRules.Text.Pieces

/-!
Punycode: a label of any characters written in ASCII letters, digits and hyphens. The ASCII
characters come first, then one number for each other character in ascending order, which says how
many code points and positions to pass before it is inserted. Numbers have digits of growing weight,
and a bias keeps them short.
-/

namespace ContentRules.Host.Punycode

def base : Nat := 36
def tMin : Nat := 1
def tMax : Nat := 26
def skew : Nat := 38
def damp : Nat := 700
def initialBias : Nat := 72
def initialCode : Nat := 128

def adaptLoop (delta k : Nat) : Nat :=
  if (base - tMin) * tMax / 2 < delta then adaptLoop (delta / (base - tMin)) (k + base)
  else k + (base - tMin + 1) * delta / (delta + skew)
termination_by delta
decreasing_by
  rename_i h
  exact Nat.div_lt_self (Nat.zero_lt_of_lt h) (by decide)

/-- The bias after a number, from its value, the count of characters now present and whether it was
the first number. -/
def adapt (delta count : Nat) (first : Bool) : Nat :=
  let delta := if first then delta / damp else delta / 2
  adaptLoop (delta + delta / count) 0

/-- The threshold of the digit at a place. -/
def threshold (place bias : Nat) : Nat := min tMax (max tMin (place - bias))

/-- The character of a digit: letters for 0 to 25, digits for 26 to 35. -/
def digitChar (d : Nat) : Char := if d < 26 then Char.ofNat (97 + d) else Char.ofNat (22 + d)

/-- The value of a digit. -/
def digitValue? (c : Char) : Option Nat :=
  if 'a' ≤ c ∧ c ≤ 'z' then some (c.toNat - 97)
  else if 'A' ≤ c ∧ c ≤ 'Z' then some (c.toNat - 65)
  else if '0' ≤ c ∧ c ≤ '9' then some (c.toNat - 22)
  else none

theorem threshold_le (place bias : Nat) : threshold place bias ≤ 26 := Nat.min_le_left ..

theorem threshold_pos (place bias : Nat) : 1 ≤ threshold place bias := by
  simp only [threshold, tMax, tMin]
  omega

/-- The digits of a number from the given place on. -/
def numberDigits (bias n place : Nat) : List Char :=
  let t := threshold place bias
  if t ≤ n then
    digitChar (t + (n - t) % (base - t)) :: numberDigits bias ((n - t) / (base - t)) (place + base)
  else [digitChar n]
termination_by n
decreasing_by
  rename_i h
  have h₁ := threshold_pos place bias
  have h₂ := threshold_le place bias
  exact Nat.lt_of_le_of_lt (Nat.div_le_self ..) (by omega)

structure Progress where
  delta : Nat
  bias : Nat
  count : Nat
  output : List Char

/-- Passes over the label once and writes a number wherever the code point `n` stands. -/
def encodeRound (basic n : Nat) (label : List Char) (p : Progress) : Progress :=
  label.foldl (fun p c =>
    if c.toNat < n then { p with delta := p.delta + 1 }
    else if c.toNat = n then
      { delta := 0
        bias := adapt p.delta (p.count + 1) (p.count == basic)
        count := p.count + 1
        output := p.output ++ numberDigits p.bias p.delta base }
    else p) p

def encodeRounds (basic : Nat) (label : List Char) (previous : Nat) (p : Progress) :
    List Nat → Progress
  | [] => p
  | n :: rest =>
    let p := { p with delta := p.delta + (n - previous) * (p.count + 1) }
    let p := encodeRound basic n label p
    encodeRounds basic label (n + 1) { p with delta := p.delta + 1 } rest

/-- The label in Punycode. -/
def encode (label : List Char) : List Char :=
  let basic := label.filter (·.toNat < 128)
  let codes := ((label.map Char.toNat).filter (128 ≤ ·)).mergeSort.eraseDups
  let lead := if basic.isEmpty then [] else basic ++ ['-']
  (encodeRounds basic.length label initialCode ⟨0, initialBias, basic.length, lead⟩ codes).output

/-- Reads one number; `weight` is what a digit at this place counts. -/
def readNumber (bias weight place value : Nat) : List Char → Option (Nat × List Char)
  | [] => none
  | c :: r =>
    match digitValue? c with
    | none => none
    | some d =>
      let t := threshold place bias
      if d < t then some (value + d * weight, r)
      else readNumber bias (weight * (base - t)) (place + base) (value + d * weight) r

theorem length_of_readNumber {bias weight place value : Nat} {s r : List Char} {n : Nat}
    (h : readNumber bias weight place value s = some (n, r)) : r.length < s.length := by
  induction s generalizing weight place value with
  | nil => simp [readNumber] at h
  | cons c s ih =>
    simp only [readNumber] at h
    split at h
    · simp at h
    · split at h
      · cases h
        simp
      · have := ih h
        simp only [List.length_cons]
        omega

/-- Inserts the characters that the numbers name; `position` is where the last one went. -/
def decodeFrom (bias code position : Nat) (first : Bool) (output : List Char)
    (s : List Char) : Option (List Char) :=
  if s.isEmpty then some output
  else
    match h : readNumber bias 1 base position s with
    | none => none
    | some (i, rest) =>
      let count := output.length + 1
      let code := code + i / count
      if 0x10FFFF < code ∨ (0xD800 ≤ code ∧ code ≤ 0xDFFF) then none
      else
        let j := i % count
        decodeFrom (adapt (i - position) count first) code (j + 1) false
          (output.insertIdx j (Char.ofNat code)) rest
termination_by s.length
decreasing_by exact length_of_readNumber h

/-- The label that a Punycode text writes. -/
def decode? (s : List Char) : Option (List Char) :=
  match Text.cutLast (· == '-') s with
  | some (c :: basic, digits) => decodeFrom initialBias initialCode 0 true (c :: basic) digits
  | _ => decodeFrom initialBias initialCode 0 true [] s

end ContentRules.Host.Punycode
