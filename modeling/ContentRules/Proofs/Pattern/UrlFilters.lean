import ContentRules.Proofs.Pattern.Literals
import ContentRules.Proofs.Regex.Folding

/-!
The url filters of patterns are ones that rule lists can hold. What means something in an expression
is escaped wherever a pattern has it, and an escaped sign is never a letter, so the check goes over
the expression of a pattern sign by sign and comes to nothing that rule lists lack. Main statement:
`isAcceptable_of_ofPattern`.
-/

namespace ContentRules

namespace Text

theorem isAscii_iff {s : List Char} : isAscii s = true ↔ ∀ c ∈ s, c.val < 128 := by
  simp only [isAscii, List.all_eq_true, decide_eq_true_eq]

theorem isAscii_append {s t : List Char} :
    isAscii (s ++ t) = true ↔ isAscii s = true ∧ isAscii t = true := by
  rw [isAscii, List.all_append, Bool.and_eq_true]
  rfl

end Text

namespace UrlFilter

/-- A rule list can hold the expression as a url filter: it is ASCII, holds nothing that rule lists
lack, and is a regular expression whether or not case counts. -/
structure IsAcceptable (filter : List Char) : Prop where
  ascii : Text.isAscii filter = true
  checked : check filter = .ok ()
  readable : ∀ ignoreCase, (Regex.read? ignoreCase filter).isSome = true

/-- The check is passed by ASCII expressions in which no construct is missing. -/
theorem check_eq_ok_iff {body : List Char} :
    check body = .ok () ↔ Text.isAscii body = true ∧ missingConstruct? false body = none := by
  unfold check
  cases Text.isAscii body <;> cases missingConstruct? false body <;> simp

/-- Outside brackets, the check goes over the piece to whatever follows it. -/
def PassesOver (piece : List Char) : Prop :=
  ∀ rest, missingConstruct? false (piece ++ rest) = missingConstruct? false rest

theorem PassesOver.nil : PassesOver [] := fun _ => rfl

theorem PassesOver.append {s t : List Char} (hs : PassesOver s) (ht : PassesOver t) :
    PassesOver (s ++ t) := fun rest => by
  rw [List.append_assoc, hs, ht]

theorem PassesOver.missingConstruct?_eq {s : List Char} (h : PassesOver s) :
    missingConstruct? false s = none := by
  rw [← List.append_nil s, h]
  rfl

end UrlFilter

namespace Pattern

open UrlFilter

/-! ## The check on the signs of a pattern -/

theorem passesOver_separator : PassesOver separator := fun rest => by
  rw [separator_eq]
  rfl

theorem passesOver_closingSeparator : PassesOver closingSeparator := fun rest => by
  rw [closingSeparator_eq]
  rfl

theorem passesOver_hostAnchor : PassesOver hostAnchor := fun rest => by
  rw [hostAnchor_eq]
  rfl

/-- An escaped sign is no letter. -/
theorem isMissingEscape_of_isMeta {c : Char} (hc : isMeta c = true) :
    isMissingEscape c = false := by
  have hall : ∀ d ∈ ['.', '+', '?', '$', '{', '}', '(', ')', '[', ']', '/', '\\', '|'],
      isMissingEscape d = false := List.all_iff_forall_prop.1 (by decide)
  exact hall c (List.contains_iff_mem.1 hc)

theorem passesOver_charExpr (c : Char) : PassesOver (charExpr c) := by
  unfold charExpr
  split
  · exact fun rest => rfl
  split
  · exact passesOver_separator
  split
  · rename_i hmeta
    intro rest
    simp only [List.cons_append, List.nil_append, missingConstruct?,
      isMissingEscape_of_isMeta hmeta, Bool.false_eq_true, if_false]
  · rename_i hmeta
    -- the signs that the check looks at are among those that are escaped
    have hne : ∀ d, isMeta d = true → c ≠ d := fun d hd heq => hmeta (heq ▸ hd)
    intro rest
    rw [List.singleton_append, missingConstruct?]
    · simp only [Bool.false_eq_true, if_false, hne '|' rfl, hne '{' rfl, hne '}' rfl, hne '(' rfl,
        decide_false, Bool.false_and, Bool.or_false]
    · exact fun h => absurd h (hne '\\' rfl)
    · exact fun d r h => absurd h (hne '\\' rfl)
    · exact hne '[' rfl
    · exact hne ']' rfl

theorem passesOver_bodyExpr (tiedToEnd : Bool) (body : List Char) :
    PassesOver (bodyExpr tiedToEnd body) := by
  fun_induction bodyExpr tiedToEnd body with
  | case1 => exact .nil
  | case2 => exact passesOver_separator
  | case3 => exact passesOver_closingSeparator
  | case4 c r _ ih => exact (passesOver_charExpr c).append ih

theorem passesOver_start (start : Start) : PassesOver start.expr := by
  cases start with
  | anywhere => exact .nil
  | url => exact fun rest => rfl
  | host => exact passesOver_hostAnchor

theorem passesOver_expr (p : List Char) : PassesOver (expr p) := by
  unfold expr
  dsimp only
  split
  · exact fun rest => rfl
  · refine ((passesOver_start _).append (passesOver_bodyExpr _ _)).append ?_
    split
    · exact fun rest => rfl
    · exact .nil

/-! ## Characters of the expression -/

theorem isAscii_charExpr {c : Char} (hc : c.val < 128) : Text.isAscii (charExpr c) = true := by
  unfold charExpr
  split
  · rfl
  split
  · rw [separator_eq]
    rfl
  split <;> simpa [Text.isAscii] using hc

theorem isAscii_bodyExpr (tiedToEnd : Bool) {body : List Char} (h : Text.isAscii body = true) :
    Text.isAscii (bodyExpr tiedToEnd body) = true := by
  fun_induction bodyExpr tiedToEnd body with
  | case1 => rfl
  | case2 => rw [separator_eq]; rfl
  | case3 => rw [closingSeparator_eq]; rfl
  | case4 c r _ ih =>
    obtain ⟨hc, hr⟩ := List.forall_mem_cons.1 (Text.isAscii_iff.1 h)
    exact Text.isAscii_append.2 ⟨isAscii_charExpr hc, ih (Text.isAscii_iff.2 hr)⟩

theorem isAscii_start (start : Start) : Text.isAscii start.expr = true := by
  cases start with
  | anywhere => rfl
  | url => rfl
  | host => rw [Start.expr, hostAnchor_eq]; rfl

theorem isAscii_expr {p : List Char} (h : Text.isAscii p = true) :
    Text.isAscii (expr p) = true := by
  obtain ⟨q, rest, lead, trail, hq⟩ := exists_isOf p
  have hbody : Text.isAscii q.body = true :=
    Text.isAscii_iff.2 fun c hc => Text.isAscii_iff.1 h c (hq.mem hc)
  unfold expr
  rw [hq.eq_parts]
  dsimp only
  split
  · rfl
  · refine Text.isAscii_append.2
      ⟨Text.isAscii_append.2 ⟨isAscii_start _, isAscii_bodyExpr _ hbody⟩, ?_⟩
    split <;> rfl

/-- The expression of an ASCII pattern is one that rule lists can hold. -/
theorem isAcceptable_expr {p : List Char} (h : Text.isAscii p = true) : IsAcceptable (expr p) where
  ascii := isAscii_expr h
  checked := check_eq_ok_iff.2 ⟨isAscii_expr h, (passesOver_expr p).missingConstruct?_eq⟩
  readable ignoreCase := by rw [read?_expr, Option.isSome_some]

end Pattern

namespace UrlFilter

/-- The url filter of a pattern is one that rule lists can hold, provided that a pattern between
slashes is a regular expression. -/
theorem isAcceptable_of_ofPattern {p filter : List Char}
    (hp : Pattern.isRegex p = true → (Regex.read? false (Pattern.regexBody p)).isSome = true)
    (h : ofPattern p = .ok filter) : IsAcceptable filter := by
  cases hregex : Pattern.isRegex p with
  | false =>
    obtain ⟨hascii, rfl⟩ := (Pattern.ofPattern_eq_ok_iff hregex).1 h
    exact Pattern.isAcceptable_expr hascii
  | true =>
    rw [ofPattern, hregex, if_pos rfl] at h
    dsimp only at h
    cases hcheck : check (Pattern.regexBody p) with
    | error => rw [hcheck] at h; cases h
    | ok =>
      rw [hcheck] at h
      cases h
      refine ⟨(check_eq_ok_iff.1 hcheck).1, hcheck, fun ignoreCase => ?_⟩
      rw [Regex.read?_isSome_eq]
      exact hp hregex

/-- The url filter that stands for every URL is the expression of the empty pattern. -/
theorem isAcceptable_all : IsAcceptable ".*".toList := Pattern.isAcceptable_expr (p := []) rfl

end UrlFilter

end ContentRules
