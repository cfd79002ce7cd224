import ContentRules.Text.Ascii

/-!
ASCII characters, which are few enough to look at each of them.
-/

namespace ContentRules.Text

theorem toNat_lt_of_isAscii {s : List Char} (hs : isAscii s = true) : ∀ c ∈ s, c.toNat < 128 := by
  intro c hc
  have hlt : c.val < 128 := by simpa using List.all_eq_true.1 hs c hc
  exact UInt32.lt_iff_toNat_lt.1 hlt

theorem isAscii_of_toNat_lt {s : List Char} (h : ∀ c ∈ s, c.toNat < 128) : isAscii s = true := by
  refine List.all_eq_true.2 fun c hc => ?_
  exact decide_eq_true (UInt32.lt_iff_toNat_lt.2 (show c.toNat < 128 from h c hc))

/-- What holds at each ASCII code point holds of all ASCII characters. -/
theorem forall_ascii {P : Char → Prop} (h : ∀ n < 128, P (Char.ofNat n)) {c : Char}
    (hc : c.toNat < 128) : P c := by
  have hP := h c.toNat hc
  rwa [Char.ofNat_toNat] at hP

theorem toLower_of_not_lt {c : Char} (hc : ¬c.toNat < 128) : c.toLower = c := by
  delta Char.toLower
  rw [dif_neg]
  intro h
  have hle : c.toNat ≤ 90 := UInt32.le_iff_toNat_le.1 h.2
  omega

/-- Only a sign itself becomes a sign that is no letter. -/
theorem toLower_eq_iff {c d : Char} (hd : d.isAlpha = false) : c.toLower = d ↔ c = d := by
  by_cases hc : c.toNat < 128
  · have hcases : c.toLower = c ∨ c.toLower.isAlpha = true ∧ c.isAlpha = true :=
      forall_ascii (P := fun c => c.toLower = c ∨ c.toLower.isAlpha = true ∧ c.isAlpha = true)
        (by decide +kernel) hc
    rcases hcases with h | ⟨hlower, halpha⟩
    · rw [h]
    · constructor
      · rintro rfl
        cases hlower.symm.trans hd
      · rintro rfl
        cases halpha.symm.trans hd
  · rw [toLower_of_not_lt hc]

end ContentRules.Text
