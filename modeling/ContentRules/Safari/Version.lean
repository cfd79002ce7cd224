import ContentRules.Number.Binary32

/-!
Versions of Safari and what rule lists may hold in them. A version is a finite number not below
eleven; its magnitude in units orders versions as their numbers do.
-/

namespace ContentRules

open Number

/-- A version of Safari that rule lists can be written for. -/
structure Version where
  units : Nat
  supported : 11 * Binary32.one ≤ units

namespace Version

instance : DecidableEq Version := fun v w =>
  decidable_of_iff (v.units = w.units) ⟨fun h => by cases v; cases w; simp_all, fun h => h ▸ rfl⟩

/-- The version of a whole number. -/
def major (n : Nat) (h : 11 ≤ n) : Version := ⟨n * Binary32.one, Nat.mul_le_mul_right _ h⟩

/-- The version meant when none is named. -/
def standard : Version := major 13 (by decide)

/-- The number nearest to 16.4. -/
def with16Point4 : Version :=
  ⟨Binary32.roundUnits (164 * Binary32.one) 10, by decide⟩

/-- The version of a number, if rule lists can be written for it. -/
def ofNumber? : Binary32 → Option Version
  | .finite false units => if h : 11 * Binary32.one ≤ units then some ⟨units, h⟩ else none
  | _ => none

/-- The version that a text names, or the number in it that is no version; `none` if the text is no
number. -/
def read? (s : List Char) : Option (Except Binary32 Version) :=
  (Binary32.read? s).map fun number =>
    match ofNumber? number with
    | some v => .ok v
    | none => .error number

/-- The text of a version. -/
def text (v : Version) : String := String.ofList (Binary32.finite false v.units).chars

/-- The most entries that one rule list may hold. -/
def rulesLimit (v : Version) : Nat :=
  if (major 15 (by decide)).units ≤ v.units then 150000 else 50000

/-- Rule lists have words for what `raw` stood for: `fetch`, `websocket` and `other`. -/
def knowsFineTypes (v : Version) : Bool := (major 15 (by decide)).units ≤ v.units

/-- Rule lists have the word `ping`. -/
def knowsPing (v : Version) : Bool := (major 14 (by decide)).units ≤ v.units

/-- Hiding selectors may hold `:has()`. -/
def knowsHas (v : Version) : Bool := with16Point4.units ≤ v.units

end Version

end ContentRules
