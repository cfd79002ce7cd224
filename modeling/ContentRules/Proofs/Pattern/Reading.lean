import ContentRules.Filter.Pattern
import ContentRules.Regex.Reader

/-!
The regular expression of a pattern reads back as a sequence with one part for each sign of the
pattern. Main statement: `read?_expr`. It holds of every pattern, for whatever means something in an
expression is escaped, and no part can be taken for a repetition of the part before it.
-/

namespace ContentRules

open Regex

namespace Regex.Reader

/-- Reading goes on from one state and text to another in a number of steps. -/
def Reads (st : State) (s : List Char) (st' : State) (rest : List Char) (steps : Nat) : Prop :=
  ∀ fuel, readFrom st (fuel + steps) s = readFrom st' fuel rest

theorem Reads.refl (st : State) (s : List Char) : Reads st s st s 0 := fun _ => rfl

theorem Reads.trans {st st' st'' : State} {s s' s'' : List Char} {m n : Nat}
    (h : Reads st s st' s' m) (h' : Reads st' s' st'' s'' n) : Reads st s st'' s'' (m + n) :=
  fun fuel => by rw [← h' fuel, ← h (fuel + n), Nat.add_assoc, Nat.add_comm n m]

/-- One step, outside verbose mode. -/
theorem Reads.step {st st' : State} {c : Char} {s rest : List Char} (hm : st.modes.verbose = false)
    (h : step? st (c :: s) = some (st', rest)) : Reads st (c :: s) st' rest 1 := fun fuel => by
  rw [readFrom, skipGaps_of_not_verbose hm]
  simp only [h]

/-- Adds expressions to the sequence. -/
def State.pushAll (st : State) (rs : List Regex) : State :=
  rs.foldl (fun st r => st.push (.expr r)) st

theorem State.pushAll_append (st : State) (rs ss : List Regex) :
    st.pushAll (rs ++ ss) = (st.pushAll rs).pushAll ss := List.foldl_append

theorem State.modes_pushAll (st : State) (rs : List Regex) : (st.pushAll rs).modes = st.modes := by
  induction rs generalizing st with
  | nil => rfl
  | cons r rs ih => exact ih _

theorem State.groups_pushAll (st : State) (rs : List Regex) :
    (st.pushAll rs).groups = st.groups := by
  induction rs generalizing st with
  | nil => rfl
  | cons r rs ih => exact ih _

theorem State.level_pushAll (st : State) (rs : List Regex) :
    (st.pushAll rs).level = ⟨st.level.branches, (rs.map .expr).reverse ++ st.level.sequence⟩ := by
  induction rs generalizing st with
  | nil => rfl
  | cons r rs ih =>
    rw [pushAll, List.foldl_cons, ← pushAll, ih]
    simp [State.push]

/-- What a whole text reads as, if it takes the reader from the start through a sequence. -/
theorem read?_of_reads {ignoreCase : Bool} {s : List Char} {rs : List Regex} {n : Nat}
    (h : Reads ⟨{ ignoreCase }, [], [], ⟨[], []⟩⟩ s
      (State.pushAll ⟨{ ignoreCase }, [], [], ⟨[], []⟩⟩ rs) [] n) (hn : n ≤ s.length) :
    read? ignoreCase s = some (sequenceExpr (rs.map .expr).reverse) := by
  rw [read?, show s.length + 1 = (s.length - n + 1) + n by omega, h, readFrom]
  simp only [skipGaps, skipGapsIn, State.groups_pushAll, State.level_pushAll, List.isEmpty_nil,
    if_true, List.append_nil, Level.expr, List.foldl_nil]

end Regex.Reader

namespace Pattern

open Regex.Reader

/-- A set of characters, up to case if case does not count. -/
def caseSet (ignoreCase : Bool) (s : CharSet) : CharSet := if ignoreCase then .folded true s else s

/-- The letters of the schemes of URLs. -/
def schemeSet : CharSet :=
  .union (.union (.union (.union (.union .empty (.char 'h')) (.char 't')) (.char 'p')) (.char 's'))
    (.char 'w')

/-- The characters of labels that may stand in front of a host. -/
def labelSet : CharSet :=
  .union (.union (.union .empty (.range 'a' 'z')) (.range '0' '9')) (.char '-')

/-- The separators that a caret stands for. -/
def separatorSet : CharSet :=
  .union (.union (.union (.union .empty (.char '/')) (.char ':')) (.char '&')) (.char '?')

/-- Any character that does not end a line. -/
def anyChar : Regex := .chars (.compl (.char '\n'))

section
variable (ignoreCase : Bool)

/-- The expression for one literal character. -/
def literalRegex (c : Char) : Regex := .chars (caseSet ignoreCase (.char c))

/-- The expression for one sign of a pattern. -/
def signRegex (c : Char) : Regex :=
  if c = '*' then .star anyChar
  else if c = '^' then .chars (caseSet ignoreCase separatorSet)
  else literalRegex ignoreCase c

/-- The expressions for a separator and what follows it, or the end of the URL. -/
def closingRegexes : List Regex :=
  [.optional (.seq (.chars (caseSet ignoreCase separatorSet)) (.star anyChar)), .anchor .textEnd]

/-- The expressions for the body of a pattern. -/
def bodyRegexes (tiedToEnd : Bool) : List Char → List Regex
  | [] => []
  | ['^'] => if tiedToEnd then [signRegex ignoreCase '^'] else closingRegexes ignoreCase
  | c :: r => signRegex ignoreCase c :: bodyRegexes tiedToEnd r

/-- The expressions for where a pattern starts. -/
def Start.regexes : Start → List Regex
  | anywhere => []
  | url => [.anchor .textStart]
  | host =>
    [.anchor .textStart, .plus (.chars (caseSet ignoreCase schemeSet)), literalRegex ignoreCase ':',
      literalRegex ignoreCase '/', literalRegex ignoreCase '/',
      .star (.seq (.plus (.chars (caseSet ignoreCase labelSet))) (literalRegex ignoreCase '.'))]

/-- The expressions whose sequence a pattern stands for. -/
def regexes (p : List Char) : List Regex :=
  let q := parts p
  if q = ⟨.anywhere, [], false⟩ then [.star anyChar]
  else
    q.start.regexes ignoreCase ++ bodyRegexes ignoreCase q.tiedToEnd q.body ++
      (if q.tiedToEnd then [.anchor .textEnd] else [])

end

/-! ## Reading the parts -/

theorem separator_eq : separator = ['[', '\\', '/', ':', '&', '\\', '?', ']'] := by rfl

theorem hostAnchor_eq : hostAnchor =
    ['^', '[', 'h', 't', 'p', 's', 'w', ']', '+', ':', '\\', '/', '\\', '/', '(', '[', 'a',
      '-', 'z', '0', '-', '9', '-', ']', '+', '\\', '.', ')', '*'] := by rfl

theorem closingSeparator_eq : closingSeparator =
    ['(', '[', '\\', '/', ':', '&', '\\', '?', ']', '.', '*', ')', '?', '$'] := by rfl

theorem read?_separatorSet (ignoreCase : Bool) (rest : List Char) :
    Bracket.read? { ignoreCase } ('\\' :: '/' :: ':' :: '&' :: '\\' :: '?' :: ']' :: rest) =
      some (caseSet ignoreCase separatorSet, rest) := by
  cases ignoreCase <;> rfl

theorem escape?_of_isMeta {c : Char} (hc : isMeta c = true) (m : Modes) (rest : List Char) :
    escape? m (c :: rest) = some (.literal c, rest) := by
  simp only [isMeta, List.contains_cons, List.contains_nil, Bool.or_false, Bool.or_eq_true,
    beq_iff_eq] at hc
  rcases m with ⟨_, _, _, _, _ | _, _⟩ <;>
    rcases hc with rfl | rfl | rfl | rfl | rfl | rfl | rfl | rfl | rfl | rfl | rfl | rfl |
      rfl <;> rfl

/-- A character that means nothing in an expression stands for itself. -/
theorem step?_literal (st : State) {c : Char} (hc : isMeta c = false) (hstar : c ≠ '*')
    (hcaret : c ≠ '^') (rest : List Char) :
    step? st (c :: rest) = some (st.push (.expr (literalExpr st.modes c)), rest) := by
  unfold step?
  split
  any_goals
    rename_i h
    cases h
  any_goals first
    | exact absurd hc (by decide)
    | exact absurd rfl hstar
    | exact absurd rfl hcaret
  rfl

theorem dropLazy_of_head? {rest : List Char} (h : rest.head? ≠ some '?') :
    dropLazy rest = rest := by
  unfold dropLazy
  split
  · simp at h
  · rfl

section
variable {ignoreCase : Bool} {st : State} (hm : st.modes = { ignoreCase })
include hm

theorem verbose_of_modes : st.modes.verbose = false := by rw [hm]

theorem reads_any {rest : List Char} (hrest : rest.head? ≠ some '?') :
    Reads st ('.' :: '*' :: rest) (st.push (.expr (.star anyChar))) rest 2 := by
  have hpoint : step? st ('.' :: '*' :: rest) = some (st.push (.expr anyChar), '*' :: rest) := by
    simp only [step?, hm]
    rfl
  have hstar : step? (st.push (.expr anyChar)) ('*' :: rest) =
      some (st.push (.expr (.star anyChar)), rest) := by
    simp only [step?, State.repeat?, State.push, dropLazy_of_head? hrest]
    rfl
  exact (Reads.step (verbose_of_modes hm) hpoint).trans (Reads.step (verbose_of_modes hm) hstar)

theorem reads_separator (rest : List Char) :
    Reads st (separator ++ rest)
      (st.push (.expr (.chars (caseSet ignoreCase separatorSet)))) rest 1 := by
  rw [separator_eq]
  refine Reads.step (verbose_of_modes hm) ?_
  simp only [step?, hm, List.append_eq, List.nil_append, List.cons_append, read?_separatorSet,
    Option.map_some]

theorem reads_literal {c : Char} (hc : isMeta c = false) (hstar : c ≠ '*') (hcaret : c ≠ '^')
    (rest : List Char) :
    Reads st (c :: rest) (st.push (.expr (literalRegex ignoreCase c))) rest 1 := by
  refine Reads.step (verbose_of_modes hm) ?_
  rw [step?_literal st hc hstar hcaret, hm]
  rfl

theorem reads_escaped {c : Char} (hc : isMeta c = true) (rest : List Char) :
    Reads st ('\\' :: c :: rest) (st.push (.expr (literalRegex ignoreCase c))) rest 1 := by
  refine Reads.step (verbose_of_modes hm) ?_
  simp only [step?, escape?_of_isMeta hc, Option.map_some, atomExpr, literalExpr, hm]
  rfl

/-- One sign is read in at most as many steps as its expression has characters. -/
theorem reads_sign (c : Char) {rest : List Char} (hrest : rest.head? ≠ some '?') :
    ∃ n ≤ (charExpr c).length,
      Reads st (charExpr c ++ rest) (st.push (.expr (signRegex ignoreCase c))) rest n := by
  unfold charExpr signRegex
  by_cases hstar : c = '*'
  · exact ⟨2, by simp [hstar], by simpa [hstar] using reads_any hm hrest⟩
  by_cases hcaret : c = '^'
  · exact ⟨1, by simp [hcaret, separator_eq], by simpa [hcaret] using reads_separator hm rest⟩
  by_cases hc : isMeta c = true
  · exact ⟨1, by simp [hstar, hcaret, hc],
      by simpa [hstar, hcaret, hc] using reads_escaped hm hc rest⟩
  · simp only [Bool.not_eq_true] at hc
    exact ⟨1, by simp [hstar, hcaret, hc],
      by simpa [hstar, hcaret, hc] using reads_literal hm hc hstar hcaret rest⟩

theorem reads_closing :
    Reads st closingSeparator (st.pushAll (closingRegexes ignoreCase)) [] 7 := fun fuel => by
  obtain ⟨modes, names, groups, level⟩ := st
  cases hm
  cases ignoreCase <;> rfl

theorem reads_hostAnchor {rest : List Char} (hrest : rest.head? ≠ some '?') :
    Reads st (hostAnchor ++ rest) (st.pushAll (Start.host.regexes ignoreCase)) rest
      12 := fun fuel => by
  obtain ⟨modes, names, groups, level⟩ := st
  cases hm
  conv => rhs; rw [← dropLazy_of_head? hrest]
  cases ignoreCase <;> rfl

end

/-- The expression of a sign does not start with a question mark. -/
theorem head?_charExpr (c : Char) (rest : List Char) : (charExpr c ++ rest).head? ≠ some '?' := by
  unfold charExpr
  split
  · simp
  split
  · simp [separator_eq]
  split
  · simp
  · rename_i h
    intro h'
    have : c = '?' := by simpa using h'
    exact h (by rw [this]; decide)

theorem head?_bodyExpr (tiedToEnd : Bool) (body rest : List Char) (hrest : rest.head? ≠ some '?') :
    (bodyExpr tiedToEnd body ++ rest).head? ≠ some '?' := by
  fun_cases bodyExpr tiedToEnd body with
  | case1 => exact hrest
  | case2 => simp [separator_eq]
  | case3 => simp [closingSeparator_eq]
  | case4 c r => rw [List.append_assoc]; exact head?_charExpr c _

/-- The body of a pattern is read sign by sign. -/
theorem reads_body {ignoreCase : Bool} {st : State} (hm : st.modes = { ignoreCase })
    (tiedToEnd : Bool) (body : List Char) (rest : List Char) (hrest : rest.head? ≠ some '?')
    (hend : tiedToEnd = false → rest = []) :
    ∃ n ≤ (bodyExpr tiedToEnd body).length,
      Reads st (bodyExpr tiedToEnd body ++ rest)
        (st.pushAll (bodyRegexes ignoreCase tiedToEnd body))
        rest n := by
  fun_induction bodyExpr tiedToEnd body generalizing st with
  | case1 => exact ⟨0, Nat.le_refl 0, Reads.refl st rest⟩
  | case2 h =>
    rw [bodyRegexes, if_pos h]
    exact ⟨1, by simp [separator_eq], reads_separator hm rest⟩
  | case3 h =>
    have hfalse : tiedToEnd = false := by simpa using h
    refine ⟨7, by simp [closingSeparator_eq], ?_⟩
    rw [hend hfalse, List.append_nil, bodyRegexes, if_neg h]
    exact reads_closing hm
  | case4 c r hc ih =>
    have hnext := head?_bodyExpr tiedToEnd r rest hrest
    obtain ⟨m, hmle, hsign⟩ := reads_sign hm c hnext
    have hm' : (st.push (.expr (signRegex ignoreCase c))).modes = { ignoreCase } := hm
    obtain ⟨n, hnle, hbody⟩ := ih hm'
    refine ⟨m + n, by rw [List.length_append]; omega, ?_⟩
    rw [List.append_assoc, bodyRegexes]
    · exact hsign.trans hbody
    · exact hc

theorem reads_start {ignoreCase : Bool} {st : State} (hm : st.modes = { ignoreCase })
    (start : Start) {rest : List Char} (hrest : rest.head? ≠ some '?') :
    ∃ n ≤ start.expr.length,
      Reads st (start.expr ++ rest) (st.pushAll (start.regexes ignoreCase)) rest n := by
  cases start with
  | anywhere => exact ⟨0, Nat.le_refl 0, Reads.refl st rest⟩
  | url =>
    refine ⟨1, by simp [Start.expr], Reads.step (verbose_of_modes hm) ?_⟩
    simp only [step?, hm]
    rfl
  | host =>
    exact ⟨12, by rw [Start.expr, hostAnchor_eq]; decide, reads_hostAnchor hm hrest⟩

theorem reads_end {ignoreCase : Bool} {st : State} (hm : st.modes = { ignoreCase })
    (tiedToEnd : Bool) :
    ∃ n ≤ (if tiedToEnd then ['$'] else []).length,
      Reads st (if tiedToEnd then ['$'] else [])
        (st.pushAll (if tiedToEnd then [.anchor .textEnd] else [])) [] n := by
  cases tiedToEnd with
  | false => exact ⟨0, Nat.le_refl 0, Reads.refl st []⟩
  | true =>
    refine ⟨1, Nat.le_refl 1, Reads.step (verbose_of_modes hm) ?_⟩
    simp only [step?, hm]
    rfl

/-- The expression of a pattern reads back as the sequence of its parts. -/
theorem read?_expr (ignoreCase : Bool) (p : List Char) :
    read? ignoreCase (expr p) =
      some (sequenceExpr ((regexes ignoreCase p).map .expr).reverse) := by
  rw [expr, regexes]
  generalize parts p = q
  obtain ⟨start, body, tiedToEnd⟩ := q
  dsimp only
  split
  · cases ignoreCase <;> rfl
  have hend : (if tiedToEnd then ['$'] else []).head? ≠ some '?' := by cases tiedToEnd <;> simp
  have hnext := head?_bodyExpr tiedToEnd body _ hend
  have hst : (State.mk { ignoreCase } [] [] ⟨[], []⟩).modes = { ignoreCase } := rfl
  obtain ⟨k, hk, hstart⟩ := reads_start hst start hnext
  have hst := State.modes_pushAll ⟨{ ignoreCase }, [], [], ⟨[], []⟩⟩ (start.regexes ignoreCase)
  obtain ⟨m, hm, hbody⟩ := reads_body hst tiedToEnd body _ hend (by rintro rfl; rfl)
  have hst' := (State.modes_pushAll _ (bodyRegexes ignoreCase tiedToEnd body)).trans hst
  obtain ⟨n, hn, htail⟩ := reads_end hst' tiedToEnd
  have hall := (hstart.trans hbody).trans htail
  rw [← List.append_assoc, ← State.pushAll_append, ← State.pushAll_append,
    ← List.append_assoc] at hall
  exact read?_of_reads hall (by simp only [List.length_append]; omega)

end Pattern

end ContentRules
