import ContentRules.Proofs.Pattern.Reading
import ContentRules.Proofs.Regex.Sequence

/-!
A pattern that does not distinguish small and capital letters matches every text that it matches
when it does. The expressions of patterns only hold sets of characters that grow when case stops
counting; an expression between slashes may hold the complement of such a set, which shrinks. Main
statement: `found_ignoringCase`.
-/

namespace ContentRules.Pattern

open Regex

/-- The expression of a pattern is found in a text. -/
def Found (ignoreCase : Bool) (p url : List Char) : Prop :=
  ∃ i j, SpansAll url (regexes ignoreCase p) i j

theorem contains_caseSet (s : CharSet) {c : Char} (hc : s.contains c = true) (ignoreCase : Bool) :
    (caseSet ignoreCase s).contains c = true := by
  cases ignoreCase with
  | false => exact hc
  | true => exact List.any_eq_true.2 ⟨c, Unicode.CaseGroup.mem_variants c, hc⟩

theorem le_caseSet (s : CharSet) : (chars (caseSet false s)).Le (chars (caseSet true s)) :=
  Le.chars fun _ hc => contains_caseSet s hc true

theorem le_signRegex (c : Char) : (signRegex false c).Le (signRegex true c) := by
  unfold signRegex
  split
  · exact Le.refl _
  split
  · exact le_caseSet _
  · exact le_caseSet _

theorem le_closingRegexes : List.Forall₂ Le (closingRegexes false) (closingRegexes true) := by
  refine .cons ?_ (.cons (Le.refl _) .nil)
  exact (Le.seq (le_caseSet _) (Le.refl _)).repeated 0 (some 1)

theorem le_bodyRegexes (tiedToEnd : Bool) (body : List Char) :
    List.Forall₂ Le (bodyRegexes false tiedToEnd body) (bodyRegexes true tiedToEnd body) := by
  fun_induction bodyExpr tiedToEnd body with
  | case1 => exact .nil
  | case2 h =>
    simp only [bodyRegexes, h]
    exact .cons (le_signRegex '^') .nil
  | case3 h =>
    simp only [bodyRegexes, h]
    exact le_closingRegexes
  | case4 c r hc ih =>
    rw [bodyRegexes, bodyRegexes]
    · exact .cons (le_signRegex c) ih
    all_goals exact hc

theorem le_startRegexes (start : Start) :
    List.Forall₂ Le (start.regexes false) (start.regexes true) := by
  cases start with
  | anywhere => exact .nil
  | url => exact .cons (Le.refl _) .nil
  | host =>
    refine .cons (Le.refl _) (.cons ?_ (.cons (le_caseSet _) (.cons (le_caseSet _)
      (.cons (le_caseSet _) (.cons ?_ .nil)))))
    · exact (le_caseSet _).repeated 1 none
    · exact (Le.seq ((le_caseSet _).repeated 1 none) (le_caseSet _)).repeated 0 none

theorem le_regexes (p : List Char) : List.Forall₂ Le (regexes false p) (regexes true p) := by
  have hend (tiedToEnd : Bool) :
      List.Forall₂ Le (if tiedToEnd then [Regex.anchor .textEnd] else [])
        (if tiedToEnd then [Regex.anchor .textEnd] else []) := by
    cases tiedToEnd with
    | false => exact .nil
    | true => exact .cons (Le.refl _) .nil
  unfold regexes
  dsimp only
  split
  · exact .cons (Le.refl _) .nil
  · exact List.rel_append (List.rel_append (le_startRegexes _) (le_bodyRegexes _ _)) (hend _)

theorem found_ignoringCase {p url : List Char} (h : Found false p url) : Found true p url := by
  obtain ⟨i, j, h⟩ := h
  exact ⟨i, j, h.mono (le_regexes p)⟩

/-! ## Finding a pattern -/

section
variable (ignoreCase : Bool)

theorem isOrdered_star_anyChar : (star anyChar).IsOrdered := ⟨trivial, fun _ h => nomatch h⟩

theorem isOrdered_signRegex (c : Char) : (signRegex ignoreCase c).IsOrdered := by
  unfold signRegex
  split
  · exact isOrdered_star_anyChar
  split <;> trivial

theorem isOrdered_bodyRegexes (tiedToEnd : Bool) (body : List Char) :
    ∀ r ∈ bodyRegexes ignoreCase tiedToEnd body, r.IsOrdered := by
  fun_induction bodyRegexes ignoreCase tiedToEnd body with
  | case1 => simp
  | case2 h => simpa using isOrdered_signRegex ignoreCase '^'
  | case3 h =>
    intro r hr
    rcases List.mem_cons.1 hr with rfl | hr
    · refine ⟨⟨trivial, isOrdered_star_anyChar⟩, ?_⟩
      intro n hn
      cases hn
      exact Nat.zero_le 1
    · rw [List.mem_singleton.1 hr]
      trivial
  | case4 c r hc ih =>
    intro s hs
    rcases List.mem_cons.1 hs with rfl | hs
    · exact isOrdered_signRegex ignoreCase c
    · exact ih s hs

theorem isOrdered_startRegexes (start : Start) :
    ∀ r ∈ start.regexes ignoreCase, r.IsOrdered := by
  cases start with
  | anywhere => simp [Start.regexes]
  | url => simp [Start.regexes, IsOrdered]
  | host => simp [Start.regexes, IsOrdered, Regex.plus, Regex.star, literalRegex]

theorem isOrdered_regexes (p : List Char) : ∀ r ∈ regexes ignoreCase p, r.IsOrdered := by
  unfold regexes
  dsimp only
  split
  · simpa using isOrdered_star_anyChar
  intro r hr
  rcases List.mem_append.1 hr with hr | hr
  · rcases List.mem_append.1 hr with hr | hr
    · exact isOrdered_startRegexes ignoreCase _ r hr
    · exact isOrdered_bodyRegexes ignoreCase _ _ r hr
  · split at hr
    · rw [List.mem_singleton.1 hr]
      trivial
    · cases hr

/-- The url filter of a pattern matches the URLs in which the expression of the pattern is found. -/
theorem any_occursIn_expr (p url : List Char) :
    (read? ignoreCase (expr p)).any (·.occursIn url) = true ↔ Found ignoreCase p url := by
  rw [read?_expr, Option.any_some,
    occursIn_iff (isOrdered_sequenceExpr (isOrdered_regexes ignoreCase p)),
    occursIn_iff_exists_spans]
  simp only [spans_sequenceExpr]
  rfl

end

end ContentRules.Pattern
