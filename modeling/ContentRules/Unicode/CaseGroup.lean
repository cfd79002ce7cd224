import ContentRules.Text.Pieces
import ContentRules.Text.Blank
import ContentRules.Unicode.CaseGroup.Table
import ContentRules.Unicode.RowTable

/-!
Characters that differ in case only. Two characters belong to one group when their simple case
foldings are equal; `variants` lists the group of a character. For ASCII the group is the letter in
both cases, with the Kelvin sign beside `k` and the long s beside `s`.
-/

namespace ContentRules.Unicode.CaseGroup

/-- The groups without ASCII characters. -/
def groups : List (List Char) :=
  ((Text.words groupsText.toList).map fun word =>
    (Text.pieces (· == '.') word).map fun digits => Char.ofNat (Text.number 16 digits)).filter
      fun group => group.all fun c => 128 ≤ c.toNat

/-- The characters beside ASCII letters that fold to one. -/
def beyondAscii : Char → List Char
  | 'k' => [Char.ofNat 0x212A]
  | 's' => [Char.ofNat 0x17F]
  | _ => []

/-- The group of an ASCII letter. -/
def ofLetter (c : Char) : List Char := c.toLower :: c.toUpper :: beyondAscii c.toLower

/-- All characters that equal a character up to case, itself among them. -/
def variants (c : Char) : List Char :=
  if c.toNat < 128 then if c.isAlpha then ofLetter c else [c]
  else if c = Char.ofNat 0x212A then ofLetter 'k'
  else if c = Char.ofNat 0x17F then ofLetter 's'
  else (groups.find? (·.contains c)).getD [c]

theorem mem_variants_ascii : ∀ n < 128, Char.ofNat n ∈ variants (Char.ofNat n) := by
  decide +kernel

theorem mem_variants (c : Char) : c ∈ variants c := by
  by_cases hascii : c.toNat < 128
  · have h := mem_variants_ascii c.toNat hascii
    rwa [Char.ofNat_toNat] at h
  rw [variants, if_neg hascii]
  split
  · rename_i h
    rw [h]
    decide
  split
  · rename_i h
    rw [h]
    decide
  · cases h : groups.find? (·.contains c) with
    | none => simp
    | some group => simpa using List.find?_some h

/-- The ASCII letters among the characters are there in both cases. -/
def bothCases (l : List Char) : Bool :=
  l.all fun x => 128 ≤ x.toNat || (l.contains x.toLower && l.contains x.toUpper)

theorem bothCases_ascii : ∀ n < 128, bothCases (variants (Char.ofNat n)) = true := by decide +kernel

theorem bothCases_variants (c : Char) : bothCases (variants c) = true := by
  by_cases hascii : c.toNat < 128
  · have h := bothCases_ascii c.toNat hascii
    rwa [Char.ofNat_toNat] at h
  have hbeyond {l : List Char} (h : ∀ x ∈ l, 128 ≤ x.toNat) : bothCases l = true := by
    rw [bothCases, List.all_eq_true]
    intro x hx
    rw [decide_eq_true (h x hx), Bool.true_or]
  rw [variants, if_neg hascii]
  split
  · decide
  split
  · decide
  · cases h : groups.find? (·.contains c) with
    | none => exact hbeyond (by simpa using Nat.le_of_not_lt hascii)
    | some group =>
      have hgroup := (List.mem_filter.1 (List.mem_of_find?_eq_some h)).2
      exact hbeyond (by simpa using hgroup)

theorem toLower_or_toUpper :
    ∀ n < 128, (Char.ofNat n).toLower = Char.ofNat n ∨
      (Char.ofNat n).toLower.toUpper = Char.ofNat n := by decide +kernel

theorem toLower_lt : ∀ n < 128, (Char.ofNat n).toLower.toNat < 128 := by decide +kernel

/-- Of ASCII letters, a group has both cases or neither. -/
theorem toLower_mem_variants {x : Char} (hx : x.toNat < 128) (c : Char) :
    x.toLower ∈ variants c ↔ x ∈ variants c := by
  have hboth {y : Char} (hy : y.toNat < 128) (h : y ∈ variants c) :
      y.toLower ∈ variants c ∧ y.toUpper ∈ variants c := by
    have hall := List.all_eq_true.1 (bothCases_variants c) y h
    simpa [Nat.not_le.2 hy] using hall
  refine ⟨fun h => ?_, fun h => (hboth hx h).1⟩
  have hcases := toLower_or_toUpper x.toNat hx
  have hlt := toLower_lt x.toNat hx
  rw [Char.ofNat_toNat] at hcases hlt
  rcases hcases with hx | hx
  · rwa [hx] at h
  · rw [← hx]
    exact (hboth hlt h).2

end ContentRules.Unicode.CaseGroup
