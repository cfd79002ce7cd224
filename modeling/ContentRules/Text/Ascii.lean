/-!
Text compared without regard to the case of ASCII letters. Every other character, accented letters
included, keeps its own identity. The main facts are that `lower` is idempotent and that equality
without case is equality of the lowered texts.
-/

namespace ContentRules.Text

/-- Every ASCII capital becomes its small letter; no other character changes. -/
def lower (s : List Char) : List Char := s.map Char.toLower

/-- The two texts differ at most in the case of ASCII letters. -/
def sameIgnoringCase : List Char → List Char → Bool
  | [], [] => true
  | c :: s, d :: t => c.toLower == d.toLower && sameIgnoringCase s t
  | _, _ => false

/-- `lower` on strings. -/
def lowered (s : String) : String := String.ofList (lower s.toList)

/-- Only characters below `U+0080` occur. -/
def isAscii (s : List Char) : Bool := s.all fun c => c.val < 128

theorem lower_append (s t : List Char) : lower (s ++ t) = lower s ++ lower t := List.map_append

theorem length_lower (s : List Char) : (lower s).length = s.length := List.length_map _

theorem toLower_toLower (c : Char) : c.toLower.toLower = c.toLower := by
  delta Char.toLower
  split <;> rename_i h
  · rw [dif_neg]
    intro h'
    have h1 := UInt32.le_iff_toNat_le.1 h.1
    have h2 := UInt32.le_iff_toNat_le.1 h.2
    have h3 := UInt32.le_iff_toNat_le.1 h'.2
    simp [UInt32.toNat_add] at h1 h2 h3
    omega
  · rfl

theorem lower_lower (s : List Char) : lower (lower s) = lower s := by
  simp only [lower, List.map_map, Function.comp_def, toLower_toLower]

theorem sameIgnoringCase_iff (s t : List Char) :
    sameIgnoringCase s t = true ↔ lower s = lower t := by
  induction s generalizing t with
  | nil => cases t <;> simp [sameIgnoringCase, lower]
  | cons c s ih =>
    cases t with
    | nil => simp [sameIgnoringCase, lower]
    | cons d t => simpa [sameIgnoringCase, lower] using fun _ => ih t

end ContentRules.Text
