import ContentRules.Text.Blank
import ContentRules.Text.Digit
import ContentRules.Text.Pieces

/-!
Tables over code points, written as text. A table is a list of words in ascending order; each word
is a run of code points in hexadecimal (`LO-HI`, or `LO` for a single one), which a colon and a
payload may follow. Looking up a code point is a search by halving.
-/

namespace ContentRules.Unicode

/-- One row of a table: the code points from `first` to `last` share a value. -/
structure Row (α : Type) where
  first : Nat
  last : Nat
  value : α

/-- Rows in ascending order, no two of which overlap. -/
structure RowTable (α : Type) where
  rows : Array (Row α)

namespace RowTable

variable {α : Type}

/-- The row that a word writes. -/
def row (payload : Option (List Char) → α) (word : List Char) : Row α :=
  let (run, value) :=
    match Text.cutFirst (· == ':') word with
    | some (run, text) => (run, payload (some text))
    | none => (word, payload none)
  match Text.cutFirst (· == '-') run with
  | some (a, b) => ⟨Text.number 16 a, Text.number 16 b, value⟩
  | none => ⟨Text.number 16 run, Text.number 16 run, value⟩

/-- The table that a text writes, given the meaning of what follows the colon of a word. -/
def ofText (payload : Option (List Char) → α) (text : String) : RowTable α :=
  ⟨((Text.words text.toList).map (row payload)).toArray⟩

/-- The row among those from `lo` up to `hi` that holds a code point. -/
def search (t : RowTable α) (n lo hi : Nat) : Option (Row α) :=
  if lo < hi then
    let mid := (lo + hi) / 2
    match t.rows[mid]? with
    | none => none
    | some r =>
      if n < r.first then t.search n lo mid
      else if r.last < n then t.search n (mid + 1) hi
      else some r
  else none
termination_by hi - lo

/-- The row that holds a code point. -/
def row? (t : RowTable α) (n : Nat) : Option (Row α) := t.search n 0 t.rows.size

/-- The value at a code point. -/
def find? (t : RowTable α) (n : Nat) : Option α := (t.row? n).map (·.value)

/-- Some row holds the code point. -/
def contains (t : RowTable α) (n : Nat) : Bool := (t.row? n).isSome

theorem search_eq_some (t : RowTable α) (n lo hi : Nat) (r : Row α)
    (h : t.search n lo hi = some r) : r.first ≤ n ∧ n ≤ r.last := by
  fun_induction search t n lo hi with
  | case1 => simp at h
  | case2 _ _ _ _ _ _ _ ih => exact ih h
  | case3 _ _ _ _ _ _ _ _ ih => exact ih h
  | case4 lo hi _ _ r' _ h₁ h₂ =>
    cases Option.some.inj h
    omega
  | case5 => simp at h

end RowTable

end ContentRules.Unicode
