import ContentRules.Text.Blank
import ContentRules.Text.Pieces
import Mathlib.Data.List.TakeWhile

/-!
The words of a text: how they are read from its start, and that they are the pieces between blanks
that hold anything. Main statement: `words_eq`.
-/

namespace ContentRules.Text

theorem words_of_dropWhile_cons {s r : List Char} {c : Char} (h : s.dropWhile isBlank = c :: r) :
    words s = (c :: r.takeWhile (!isBlank ·)) :: words (r.dropWhile (!isBlank ·)) := by
  rw [words]
  split
  · rename_i hnil
    cases h.symm.trans hnil
  · rename_i hcons
    cases h.symm.trans hcons
    rfl

theorem words_of_dropWhile_nil {s : List Char} (h : s.dropWhile isBlank = []) : words s = [] := by
  rw [words]
  split
  · rfl
  · rename_i hcons
    cases h.symm.trans hcons

theorem words_cons {c : Char} (hc : isBlank c = false) (s : List Char) :
    words (c :: s) = (c :: s.takeWhile (!isBlank ·)) :: words (s.dropWhile (!isBlank ·)) :=
  words_of_dropWhile_cons (by rw [List.dropWhile_cons, hc, if_neg Bool.false_ne_true])

theorem words_eq_nil_iff {s : List Char} : words s = [] ↔ ∀ c ∈ s, isBlank c = true := by
  rw [← List.dropWhile_eq_nil_iff]
  constructor
  · intro h
    cases hs : s.dropWhile isBlank with
    | nil => rfl
    | cons =>
      rw [words_of_dropWhile_cons hs] at h
      cases h
  · exact words_of_dropWhile_nil

/-- The first piece ends before the first blank. -/
theorem pieces_isBlank_eq (s : List Char) : ∃ rest,
    pieces isBlank s = s.takeWhile (!isBlank ·) :: rest ∧
      rest.filter (!·.isEmpty) =
        (pieces isBlank (s.dropWhile (!isBlank ·))).filter (!·.isEmpty) := by
  induction s with
  | nil => exact ⟨[], rfl, rfl⟩
  | cons c s ih =>
    obtain ⟨rest, hpieces, hrest⟩ := ih
    cases hc : isBlank c with
    | true =>
      refine ⟨pieces isBlank s, ?_, ?_⟩
      · simp [pieces, hc]
      · simp [pieces, hc]
    | false =>
      refine ⟨rest, ?_, ?_⟩
      · simp [pieces, hc, hpieces]
      · simpa [hc] using hrest

theorem words_eq (s : List Char) : words s = (pieces isBlank s).filter (!·.isEmpty) := by
  induction hlength : s.length using Nat.strongRecOn generalizing s with
  | ind _ ih =>
    cases s with
    | nil => simp [words, pieces]
    | cons c s =>
      cases hc : isBlank c with
      | true =>
        have hdrop : (c :: s).dropWhile isBlank = s.dropWhile isBlank := by
          rw [List.dropWhile_cons, hc, if_pos rfl]
        have hwords : words (c :: s) = words s := by
          cases h : s.dropWhile isBlank with
          | nil => rw [words_of_dropWhile_nil (hdrop.trans h), words_of_dropWhile_nil h]
          | cons => rw [words_of_dropWhile_cons (hdrop.trans h), words_of_dropWhile_cons h]
        rw [hwords, ih _ (by simp [← hlength]) s rfl]
        simp [pieces, hc]
      | false =>
        obtain ⟨rest, hpieces, hrest⟩ := pieces_isBlank_eq s
        have hshorter := (s.dropWhile_sublist (!isBlank ·)).length_le
        rw [words_cons hc, ih _ (by simp only [← hlength, List.length_cons]; omega) _ rfl, ← hrest]
        simp [pieces, hc, hpieces]

end ContentRules.Text
