import ContentRules.Proofs.Text.Ascii
import ContentRules.Text.Blank

/-!
Trimming a text. What it takes away is blank, so a literal without blanks stands in a text if and
only if it stands in the trimmed text, and there is nothing left to trim.
-/

namespace ContentRules.Text

variable {s : List Char}

theorem trimStart_cons (c : Char) (s : List Char) :
    trimStart (c :: s) = if isBlank c then trimStart s else c :: s := by
  rw [trimStart, List.dropWhile_cons]
  rfl

/-- A literal without blanks is not cut at the start. -/
theorem infix_trimStart {literal : List Char} (hliteral : ∀ c ∈ literal, isBlank c = false)
    (h : literal <:+: s) : literal <:+: trimStart s := by
  induction s with
  | nil => exact h
  | cons c s ih =>
    rw [trimStart_cons]
    split
    case isFalse => exact h
    case isTrue hblank =>
      apply ih
      obtain hprefix | h := List.infix_cons_iff.1 h
      · cases literal with
        | nil => exact List.nil_infix
        | cons d literal =>
          obtain ⟨rfl, -⟩ := List.cons_prefix_cons.1 hprefix
          rw [hliteral d (.head _)] at hblank
          cases hblank
      · exact h

theorem infix_trimEnd {literal : List Char} (hliteral : ∀ c ∈ literal, isBlank c = false)
    (h : literal <:+: s) : literal <:+: trimEnd s := by
  rw [← List.reverse_infix, trimEnd, List.reverse_reverse]
  apply infix_trimStart
  · intro c hc
    exact hliteral c (List.mem_reverse.1 hc)
  · exact List.reverse_infix.2 h

theorem isPrefix_trimEnd (s : List Char) : trimEnd s <+: s := by
  rw [← List.reverse_suffix, trimEnd, List.reverse_reverse]
  exact List.dropWhile_suffix isBlank

theorem isInfix_trim (s : List Char) : trim s <:+: s :=
  (isPrefix_trimEnd _).isInfix.trans (List.dropWhile_suffix isBlank).isInfix

/-- A literal without blanks stands in a text if and only if it stands in the trimmed text. -/
theorem infix_trim_iff {literal : List Char} (hliteral : ∀ c ∈ literal, isBlank c = false) :
    literal <:+: trim s ↔ literal <:+: s := by
  constructor
  · intro h
    exact h.trans (isInfix_trim s)
  · intro h
    exact infix_trimEnd hliteral (infix_trimStart hliteral h)

/-- What is left at the front of a text without blanks there has none either. -/
theorem trimStart_of_prefix {p : List Char} (h : p <+: trimStart s) : trimStart p = p := by
  cases p with
  | nil => rfl
  | cons c p =>
    have hhead := List.head?_dropWhile_not isBlank s
    obtain ⟨t, ht⟩ := h
    rw [← trimStart, ← ht] at hhead
    rw [trimStart_cons, if_neg (by simpa using hhead)]

theorem trimStart_of_trim (h : trim s = s) : trimStart s = s := by
  apply trimStart_of_prefix
  have hprefix := isPrefix_trimEnd (trimStart s)
  rwa [← trim, h] at hprefix

/-- What has no blanks at the front does not start with one. -/
theorem not_isBlank_of_trimStart {c : Char} (h : trimStart (c :: s) = c :: s) :
    isBlank c = false := by
  have hhead := List.head?_dropWhile_not isBlank (c :: s)
  rw [← trimStart, h] at hhead
  simpa using hhead

theorem trimEnd_trimEnd (s : List Char) : trimEnd (trimEnd s) = trimEnd s := by
  rw [trimEnd, trimEnd, List.reverse_reverse, ← trimStart, ← trimStart,
    trimStart_of_prefix (List.prefix_refl _)]

/-- A trimmed text has nothing left to trim. -/
theorem trim_trim (s : List Char) : trim (trim s) = trim s := by
  have hstart : trimStart (trim s) = trim s := trimStart_of_prefix (isPrefix_trimEnd (trimStart s))
  rw [trim, hstart, trim, trimEnd_trimEnd]

/-! ## Blanks at the ends of texts -/

theorem isBlank_toLower (c : Char) : isBlank c.toLower = isBlank c := by
  by_cases hc : c.toNat < 128
  · exact forall_ascii (P := fun c => isBlank c.toLower = isBlank c) (by decide +kernel) hc
  · rw [toLower_of_not_lt hc]

theorem trimStart_append {front : List Char} (hfront : ∀ c ∈ front, isBlank c = true)
    (s : List Char) : trimStart (front ++ s) = trimStart s :=
  List.dropWhile_append_of_pos hfront

theorem trimStart_eq_self {s : List Char} (hs : ∀ c ∈ s, isBlank c = false) : trimStart s = s := by
  cases s with
  | nil => rfl
  | cons c s => rw [trimStart_cons, hs c (.head _), if_neg Bool.false_ne_true]

theorem trimEnd_append {s : List Char} (hs : ∀ c ∈ s, isBlank c = false) (t : List Char) :
    trimEnd (s ++ t) = s ++ trimEnd t := by
  have hreverse : s.reverse.dropWhile isBlank = s.reverse :=
    trimStart_eq_self fun c hc => hs c (List.mem_reverse.1 hc)
  rw [trimEnd, List.reverse_append, List.dropWhile_append]
  split
  · rename_i hempty
    rw [hreverse, List.reverse_reverse, trimEnd, List.isEmpty_iff.1 hempty, List.reverse_nil,
      List.append_nil]
  · rw [List.reverse_append, List.reverse_reverse, trimEnd]

/-- Behind a front without blanks only the end is trimmed. -/
theorem trim_append {front : List Char} (hne : front ≠ []) (hfront : ∀ c ∈ front, isBlank c = false)
    (s : List Char) : trim (front ++ s) = front ++ trimEnd s := by
  obtain ⟨c, front, rfl⟩ := List.exists_cons_of_ne_nil hne
  rw [trim, List.cons_append, trimStart_cons, if_neg (Bool.eq_false_iff.1 (hfront c (.head _))),
    ← List.cons_append, trimEnd_append hfront]

theorem trimEnd_append_blanks {back : List Char} (hback : ∀ c ∈ back, isBlank c = true)
    (s : List Char) : trimEnd (s ++ back) = trimEnd s := by
  rw [trimEnd, List.reverse_append, ← trimStart, trimStart_append (by simpa using hback), trimStart,
    ← trimEnd]

theorem trim_append_blanks {back : List Char} (hback : ∀ c ∈ back, isBlank c = true)
    (s : List Char) : trim (s ++ back) = trim s := by
  rw [trim, trimStart, List.dropWhile_append]
  split
  · rename_i hempty
    rw [trim, trimStart, List.isEmpty_iff.1 hempty, ← trimStart, ← List.append_nil back,
      trimStart_append hback]
    rfl
  · exact trimEnd_append_blanks hback _

/-- What trimming takes from the end is blank. -/
theorem exists_trimEnd (s : List Char) :
    ∃ back, (∀ c ∈ back, isBlank c = true) ∧ s = trimEnd s ++ back := by
  refine ⟨(s.reverse.takeWhile isBlank).reverse, fun c hc => ?_, ?_⟩
  · exact List.all_eq_true.1 List.all_takeWhile c (List.mem_reverse.1 hc)
  · rw [trimEnd, ← List.reverse_append, List.takeWhile_append_dropWhile, List.reverse_reverse]

/-- A text that neither starts nor ends with a blank has nothing to trim. -/
theorem trim_eq_self {s : List Char} (hfirst : ∀ c, s.head? = some c → isBlank c = false)
    (hlast : ∀ c, s.getLast? = some c → isBlank c = false) : trim s = s := by
  have hstart {t : List Char} (ht : ∀ c, t.head? = some c → isBlank c = false) :
      trimStart t = t := by
    cases t with
    | nil => rfl
    | cons c t => rw [trimStart_cons, ht c rfl, if_neg Bool.false_ne_true]
  have hreverse : trimStart s.reverse = s.reverse := hstart fun c hc => hlast c (by simpa using hc)
  rw [trim, hstart hfirst, trimEnd, ← trimStart, hreverse, List.reverse_reverse]

end ContentRules.Text
