import ContentRules.Filter.Pattern.Shortcut
import ContentRules.Native.UrlFilter
import ContentRules.Proofs.Regex.Folding

/-!
Signs of an expression that the scan for a literal takes for something else than the reader does.
Where it misreads none, an escape takes one character, and a class ends at the bracket that the scan
takes for its end. Main statements: `escape?_eq_of_not_misread` and `afterBracket_eq`.
-/

namespace ContentRules.Pattern

open Regex Regex.Reader

/-! ## Misread signs -/

/-- How the element in front of a sign stands to the literal. -/
inductive LastElement where
  /-- No character of the literal comes from the element. -/
  | free
  /-- The element is the last character of the literal. -/
  | counted
  /-- The same after a plus, so that a question mark does not repeat the element once more. -/
  | repeated
  deriving DecidableEq

/-- The letters and signs after a backslash that take further characters with them, or that stand
for the start or the end of a word. -/
def isMisreadEscape (c : Char) : Bool := ['x', 'u', 'U', 'p', 'P', '<', '>'].contains c

/-- What follows the first closing bracket that no backslash escapes. -/
def afterBracket : List Char → Option (List Char)
  | [] => none
  | ['\\'] => none
  | '\\' :: _ :: r => afterBracket r
  | c :: r => if c = ']' then some r else afterBracket r

/-- The scan for a literal takes a sign for something else than the reader does: a class in brackets
for one that ends earlier, an escape for a single character, or a repetition that may be empty for
one that leaves the literal alone. -/
def misreads (last : LastElement) : Position → List Char → Bool
  | _, [] => false
  | .inBrackets _, ['\\'] => false
  | .inBrackets d, '\\' :: _ :: r => misreads .free (.inBrackets d) r
  | .inBrackets d, c :: r =>
    if c = ']' then misreads .free (.outside d) r else misreads .free (.inBrackets d) r
  | .outside _, ['\\'] => false
  | .outside d, '\\' :: e :: r =>
    isMisreadEscape e ||
      misreads (if isPunctuation e && d = 0 && !mayBeMissing r then .counted else .free)
        (.outside d) r
  | .outside d, c :: r =>
    if c = '(' then misreads .free (.outside (d + 1)) r
    else if c = ')' then misreads .free (.outside (d - 1)) r
    else if c = '[' then
      (Bracket.read? {} r).map (·.2) != afterBracket r || misreads .free (.inBrackets d) r
    else if c = '+' then misreads (if last = .free then .free else .repeated) (.outside d) r
    else if c = '?' then
      last = .counted || misreads (if last = .repeated then .counted else .free) (.outside d) r
    else if c = '*' then last != .free || misreads .free (.outside d) r
    else if ['.', '^', '$'].contains c || 0 < d || mayBeMissing r then misreads .free (.outside d) r
    else misreads .counted (.outside d) r

/-! ## Literals of the scan -/

theorem longer_nil (best : List Char) : longer best [] = best := by
  unfold longer
  rw [if_neg]
  simp [byteLength]

theorem longer_cases (best current : List Char) :
    longer best current = best ∨ longer best current = current := by
  unfold longer
  split
  · exact .inr rfl
  · exact .inl rfl

/-- The characters of the literal come from the expression. -/
theorem mem_of_requiredLiteral {best current s literal : List Char} {position : Position}
    (h : requiredLiteral best current position s = some literal) :
    ∀ c ∈ literal, c ∈ best ∨ c ∈ current ∨ c ∈ s := by
  fun_induction requiredLiteral best current position s
  all_goals grind [longer_cases]

/-! ## Signs that are not misread -/

/-- An escape that is not misread takes one character, and stands for it if it is a sign. -/
theorem escape?_eq_of_not_misread {m : Modes} {e : Char} {r rest : List Char} {a : Atom}
    (h : escape? m (e :: r) = some (a, rest)) (hmisread : isMisreadEscape e = false)
    (hmissing : UrlFilter.isMissingEscape e = false) :
    rest = r ∧ (isPunctuation e = true → a = .literal e) := by
  unfold escape? at h
  split at h
  · cases h
  case h_19 =>
    rename_i heq
    obtain ⟨rfl, rfl⟩ := List.cons.inj heq
    split at h
    · rename_i hshort
      -- the letters of the classes are among those that rule lists lack
      unfold shorthand? at hshort
      split at hshort <;> split at hshort
      all_goals first | exact absurd hmissing (by decide) | cases hshort
    split at h
    · cases h
      exact ⟨rfl, fun _ => rfl⟩
    · cases h
  all_goals
    rename_i heq
    obtain ⟨rfl, rfl⟩ := List.cons.inj heq
    first
    | exact absurd hmisread (by decide)
    | exact absurd hmissing (by decide)
    | cases h; exact ⟨rfl, nofun⟩

/-- The characters that do not stand for themselves outside brackets, or that rule lists lack. -/
def specialSigns : List Char := ['\\', '(', ')', '[', '|', '.', '^', '$', '+', '?', '*', '{', '}']

section
variable {c : Char} (hc : c ∉ specialSigns) (d : Nat) (r : List Char)
include hc

theorem requiredLiteral_plain (best current : List Char) :
    requiredLiteral best current (.outside d) (c :: r) =
      if 0 < d then requiredLiteral best current (.outside d) r
      else if mayBeMissing r then requiredLiteral (longer best current) [] (.outside d) r
      else requiredLiteral best (current ++ [c]) (.outside d) r := by
  simp only [specialSigns, List.mem_cons, List.not_mem_nil, or_false, not_or] at hc
  rw [requiredLiteral]
  · simp [hc]
  · exact fun h => absurd h hc.1
  · exact fun _ _ h => absurd h hc.1

theorem misreads_plain (last : LastElement) :
    misreads last (.outside d) (c :: r) =
      misreads (if 0 < d || mayBeMissing r then .free else .counted) (.outside d) r := by
  simp only [specialSigns, List.mem_cons, List.not_mem_nil, or_false, not_or] at hc
  rw [misreads]
  · by_cases hd : 0 < d <;> cases mayBeMissing r <;> simp [hc, hd]
  · exact fun h => absurd h hc.1
  · exact fun _ _ h => absurd h hc.1

end

section
variable {r rest : List Char}

/-- A class in brackets that is not misread ends where the scan takes it to end. -/
theorem afterBracket_eq {ignoreCase : Bool} {set : CharSet}
    (hread : Bracket.read? { ignoreCase } r = some (set, rest))
    (hmisread : ((Bracket.read? {} r).map (·.2) != afterBracket r) = false) :
    afterBracket r = some rest := by
  have hrest := Bracket.read?_caseless { ignoreCase } r
  rw [hread] at hrest
  exact (bne_eq_false_iff_eq.1 hmisread).symm.trans hrest

theorem requiredLiteral_inBrackets (hafter : afterBracket r = some rest) (best current : List Char)
    (d : Nat) : requiredLiteral best current (.inBrackets d) r =
      requiredLiteral best current (.outside d) rest := by
  fun_induction afterBracket r with
  | case1 => cases hafter
  | case2 => cases hafter
  | case3 _ r ih => exact ih hafter
  | case4 r =>
    cases hafter
    rfl
  | case5 c r hlast hescape hc ih =>
    rw [requiredLiteral, if_neg hc]
    · exact ih hafter
    all_goals assumption

theorem misreads_inBrackets (hafter : afterBracket r = some rest) (d : Nat) :
    misreads .free (.inBrackets d) r = misreads .free (.outside d) rest := by
  fun_induction afterBracket r with
  | case1 => cases hafter
  | case2 => cases hafter
  | case3 _ r ih => exact ih hafter
  | case4 r =>
    cases hafter
    rfl
  | case5 c r hlast hescape hc ih =>
    rw [misreads, if_neg hc]
    · exact ih hafter
    all_goals assumption

theorem missingConstruct?_inBrackets (hafter : afterBracket r = some rest)
    (hcheck : UrlFilter.missingConstruct? true r = none) :
    UrlFilter.missingConstruct? false rest = none := by
  fun_induction afterBracket r with
  | case1 => cases hafter
  | case2 => cases hafter
  | case3 _ r ih =>
    rw [UrlFilter.missingConstruct?] at hcheck
    split at hcheck
    · cases hcheck
    · exact ih hafter hcheck
  | case4 r =>
    cases hafter
    exact hcheck
  | case5 c r hlast hescape hc ih =>
    by_cases hopening : c = '['
    · subst hopening
      exact ih hafter hcheck
    · rw [UrlFilter.missingConstruct?, if_pos rfl] at hcheck
      · exact ih hafter hcheck
      all_goals assumption

end

/-- Outside brackets, a sign that is no backslash and opens no brackets can be taken off. -/
theorem missingConstruct?_tail {c : Char} {r : List Char} (hescape : c ≠ '\\') (hopening : c ≠ '[')
    (h : UrlFilter.missingConstruct? false (c :: r) = none) :
    UrlFilter.missingConstruct? false r = none ∧ c ≠ '}' := by
  unfold UrlFilter.missingConstruct? at h
  split at h
  all_goals rename_i heq
  · cases heq
  · exact absurd (List.cons.inj heq).1 hescape
  · exact absurd (List.cons.inj heq).1 hescape
  · exact absurd (List.cons.inj heq).1 hopening
  · obtain ⟨rfl, rfl⟩ := List.cons.inj heq
    exact ⟨h, by decide⟩
  · obtain ⟨rfl, rfl⟩ := List.cons.inj heq
    rw [if_neg Bool.false_ne_true] at h
    split at h
    · cases h
    split at h
    · cases h
    rename_i hbraces
    split at h
    · cases h
    · exact ⟨h, fun hc => hbraces (by simp [hc])⟩

end ContentRules.Pattern
