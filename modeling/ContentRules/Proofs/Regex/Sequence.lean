import ContentRules.Proofs.Regex.Search
import ContentRules.Regex.Reader
import Mathlib.Data.List.Forall2

/-!
Sequences of expressions, and expressions that match wherever others do. The expression that the
reader makes of a sequence spans two places if its parts span them one after the other. Main
statements: `spans_sequenceExpr` and `SpansAll.mono`.
-/

namespace ContentRules.Regex

open Reader

/-- The expressions match one after the other what stands between two places of a text. -/
def SpansAll (text : List Char) : List Regex → Nat → Nat → Prop
  | [], i, j => i = j ∧ i ≤ text.length
  | r :: rs, i, j => ∃ k, Spans text r i k ∧ SpansAll text rs k j

/-- The second expression matches wherever the first one does. -/
def Le (r s : Regex) : Prop := ∀ text i j, Spans text r i j → Spans text s i j

section
variable {text : List Char} {rs ss : List Regex} {i j : Nat}

theorem SpansAll.le_length (h : SpansAll text rs i j) : j ≤ text.length := by
  induction rs generalizing i with
  | nil => exact h.1 ▸ h.2
  | cons r rs ih =>
    obtain ⟨k, -, h⟩ := h
    exact ih h

theorem SpansAll.le (h : SpansAll text rs i j) : i ≤ j := by
  induction rs generalizing i with
  | nil => exact Nat.le_of_eq h.1
  | cons r rs ih =>
    obtain ⟨k, hr, h⟩ := h
    exact Nat.le_trans hr.le (ih h)

theorem SpansAll.start_le_length (h : SpansAll text rs i j) : i ≤ text.length := by
  cases rs with
  | nil => exact h.2
  | cons r rs =>
    obtain ⟨k, hr, -⟩ := h
    exact Nat.le_trans hr.le hr.le_length

theorem spansAll_append :
    SpansAll text (rs ++ ss) i j ↔ ∃ k, SpansAll text rs i k ∧ SpansAll text ss k j := by
  induction rs generalizing i with
  | nil =>
    constructor
    · intro h
      exact ⟨i, ⟨rfl, h.start_le_length⟩, h⟩
    · rintro ⟨k, ⟨rfl, -⟩, h⟩
      exact h
  | cons r rs ih =>
    simp only [List.cons_append, SpansAll, ih]
    constructor
    · rintro ⟨l, hr, k, hrs, hss⟩
      exact ⟨k, ⟨l, hr, hrs⟩, hss⟩
    · rintro ⟨k, ⟨l, hr, hrs⟩, hss⟩
      exact ⟨l, hr, k, hrs, hss⟩

theorem sequenceExpr_cons (r : Regex) (rs : List Regex) :
    sequenceExpr ((r :: rs).map .expr).reverse =
      match sequenceExpr (rs.map .expr).reverse with
      | .empty => r
      | s => .seq r s := by
  rw [sequenceExpr, List.map_cons, List.reverse_cons, List.foldl_append]
  rfl

/-- The expression of a sequence matches what its parts match one after the other. -/
theorem spans_sequenceExpr :
    Spans text (sequenceExpr (rs.map .expr).reverse) i j ↔ SpansAll text rs i j := by
  induction rs generalizing i with
  | nil => exact spans_empty
  | cons r rs ih =>
    rw [sequenceExpr_cons, SpansAll]
    simp only [← ih]
    cases sequenceExpr (rs.map .expr).reverse with
    | empty =>
      -- nothing follows, so the first part ends at the last place
      simp only [spans_empty]
      constructor
      · intro h
        exact ⟨j, h, rfl, h.le_length⟩
      · rintro ⟨k, h, rfl, -⟩
        exact h
    | _ => exact spans_seq

theorem isOrdered_sequenceExpr (h : ∀ r ∈ rs, r.IsOrdered) :
    (sequenceExpr (rs.map .expr).reverse).IsOrdered := by
  induction rs with
  | nil => trivial
  | cons r rs ih =>
    have hr := h r (.head _)
    have hrs := ih fun s hs => h s (.tail _ hs)
    rw [sequenceExpr_cons]
    cases hs : sequenceExpr (rs.map .expr).reverse with
    | empty => exact hr
    | _ => exact ⟨hr, hs ▸ hrs⟩

end

/-! ## Wider expressions -/

theorem Le.refl (r : Regex) : r.Le r := fun _ _ _ h => h

theorem Le.chars {a b : CharSet} (h : ∀ c, a.contains c = true → b.contains c = true) :
    (chars a).Le (chars b) := by
  intro text i j hspans
  obtain ⟨hj, c, hc, ha⟩ := spans_chars.1 hspans
  exact spans_chars.2 ⟨hj, c, hc, h c ha⟩

theorem Le.seq {r r' s s' : Regex} (hr : r.Le r') (hs : s.Le s') : (seq r s).Le (seq r' s') := by
  intro text i j hspans
  obtain ⟨k, h, h'⟩ := spans_seq.1 hspans
  exact spans_seq.2 ⟨k, hr text i k h, hs text k j h'⟩

theorem Reached.mono {step step' : Nat → Nat → Prop} (h : ∀ i j, step i j → step' i j) {n i j : Nat}
    (hreached : Reached step n i j) : Reached step' n i j := by
  induction n generalizing i with
  | zero => exact hreached
  | succ n ih =>
    obtain ⟨k, hstep, hreached⟩ := hreached
    exact ⟨k, h i k hstep, ih hreached⟩

theorem Le.repeated {r s : Regex} (h : r.Le s) (least : Nat) (most : Option Nat) :
    (repeated r least most).Le (repeated s least most) := by
  intro text i j hspans
  obtain ⟨hi, n, hleast, hmost, hreached⟩ := spans_repeated.1 hspans
  exact spans_repeated.2 ⟨hi, n, hleast, hmost, hreached.mono (h text)⟩

/-- Parts none of which matches more than an expression make a chain of its matches. -/
theorem SpansAll.reached {text : List Char} {rs : List Regex} {s : Regex} (h : ∀ r ∈ rs, r.Le s)
    {i j : Nat} (hspans : SpansAll text rs i j) : Reached (Spans text s) rs.length i j := by
  induction rs generalizing i with
  | nil => exact hspans.1
  | cons r rs ih =>
    obtain ⟨k, hr, hrs⟩ := hspans
    exact ⟨k, h r (.head _) text i k hr, ih (fun r hr => h r (.tail _ hr)) hrs⟩

theorem SpansAll.mono {text : List Char} {rs ss : List Regex} (h : List.Forall₂ Le rs ss)
    {i j : Nat} (hspans : SpansAll text rs i j) : SpansAll text ss i j := by
  induction h generalizing i with
  | nil => exact hspans
  | cons hr _ ih =>
    obtain ⟨k, hfirst, hrest⟩ := hspans
    exact ⟨k, hr text i k hfirst, ih hrest⟩

end ContentRules.Regex
