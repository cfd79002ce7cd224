import ContentRules.Proofs.Text.Ascii
import ContentRules.Text.Pieces

/-!
Pieces of a text and where it is cut. A part of a text that holds no separator stands in one of its
pieces, and characters that are added at the end change the last piece only.
-/

namespace ContentRules.Text

/-! ## Parts of texts -/

variable {sep : Char → Bool}

theorem infix_of_mem_pieces {s piece : List Char} (h : piece ∈ pieces sep s) :
    piece <:+: s := by
  -- the first piece is a prefix, which the induction needs for a piece that grows in front
  suffices ∀ first rest, pieces sep s = first :: rest →
      first <+: s ∧ ∀ piece ∈ rest, piece <:+: s by
    obtain ⟨first, rest, hs⟩ := List.exists_cons_of_ne_nil (pieces_ne_nil sep s)
    obtain ⟨hfirst, hrest⟩ := this first rest hs
    rw [hs] at h
    rcases List.mem_cons.1 h with rfl | h
    · exact hfirst.isInfix
    · exact hrest piece h
  clear h
  induction s with
  | nil =>
    intro first rest hs
    obtain ⟨rfl, rfl⟩ := List.cons.inj hs
    exact ⟨List.prefix_refl _, nofun⟩
  | cons c s ih =>
    intro first rest hs
    obtain ⟨first', rest', hs'⟩ := List.exists_cons_of_ne_nil (pieces_ne_nil sep s)
    obtain ⟨hfirst, hrest⟩ := ih first' rest' hs'
    rw [pieces, hs'] at hs
    split at hs
    · obtain ⟨rfl, rfl⟩ := List.cons.inj hs
      refine ⟨List.nil_prefix, List.forall_mem_cons.2 ⟨?_, ?_⟩⟩
      · exact List.infix_cons hfirst.isInfix
      · exact fun piece hp => List.infix_cons (hrest piece hp)
    · obtain ⟨rfl, rfl⟩ := List.cons.inj hs
      exact ⟨List.cons_prefix_cons.2 ⟨rfl, hfirst⟩,
        fun piece hp => List.infix_cons (hrest piece hp)⟩

/-- What holds none of the characters in front of a text stands in the text alone. -/
theorem infix_of_infix_append {l front s : List Char} (hfront : ∀ c ∈ front, c ∉ l)
    (h : l <:+: front ++ s) : l <:+: s := by
  induction front with
  | nil => exact h
  | cons c front ih =>
    obtain ⟨hc, hfront⟩ := List.forall_mem_cons.1 hfront
    rcases List.infix_cons_iff.1 h with h | h
    · cases l with
      | nil => exact List.nil_infix
      | cons d l =>
        obtain ⟨rfl, -⟩ := List.cons_prefix_cons.1 h
        exact absurd (.head _) hc
    · exact ih hfront h

theorem infix_of_append_infix {l s back : List Char} (hback : ∀ c ∈ back, c ∉ l)
    (h : l <:+: s ++ back) : l <:+: s := by
  rw [← List.reverse_infix] at h ⊢
  rw [List.reverse_append] at h
  exact infix_of_infix_append (by simpa using hback) h

theorem pieces_cons (c : Char) {s first : List Char} {rest : List (List Char)}
    (hs : pieces sep s = first :: rest) :
    pieces sep (c :: s) = if sep c then [] :: first :: rest else (c :: first) :: rest := by
  rw [pieces, hs]

/-- A prefix without separators ends in the first piece. -/
theorem prefix_of_pieces {l s first : List Char} {rest : List (List Char)}
    (hl : ∀ c ∈ l, sep c = false) (h : l <+: s) (hs : pieces sep s = first :: rest) :
    l <+: first := by
  induction l generalizing s first with
  | nil => exact List.nil_prefix
  | cons c l ih =>
    obtain ⟨hc, hl⟩ := List.forall_mem_cons.1 hl
    cases s with
    | nil => cases List.prefix_nil.1 h
    | cons d s =>
      obtain ⟨rfl, hrest⟩ := List.cons_prefix_cons.1 h
      obtain ⟨first', rest', hs'⟩ := List.exists_cons_of_ne_nil (pieces_ne_nil sep s)
      rw [pieces_cons c hs', if_neg (by simp [hc])] at hs
      obtain ⟨rfl, rfl⟩ := List.cons.inj hs
      exact List.cons_prefix_cons.2 ⟨rfl, ih hl hrest hs'⟩

/-- What holds no separator and stands in a text stands in one of its pieces. -/
theorem exists_piece_of_isInfix {l s : List Char} (hl : ∀ c ∈ l, sep c = false) (h : l <:+: s) :
    ∃ piece ∈ pieces sep s, l <:+: piece := by
  induction s with
  | nil => exact ⟨[], .head _, h⟩
  | cons c s ih =>
    obtain ⟨first, rest, hs⟩ := List.exists_cons_of_ne_nil (pieces_ne_nil sep (c :: s))
    rcases List.infix_cons_iff.1 h with h | h
    · exact ⟨first, by rw [hs]; exact .head _, (prefix_of_pieces hl h hs).isInfix⟩
    · obtain ⟨piece, hpiece, h⟩ := ih h
      obtain ⟨first', rest', hs'⟩ := List.exists_cons_of_ne_nil (pieces_ne_nil sep s)
      rw [hs'] at hpiece
      rw [pieces_cons c hs']
      split
      · exact ⟨piece, .tail _ hpiece, h⟩
      · rcases List.mem_cons.1 hpiece with rfl | hpiece
        · exact ⟨_, .head _, List.infix_cons h⟩
        · exact ⟨piece, .tail _ hpiece, h⟩

/-- A prefix without the character after a text ends in the text. -/
theorem prefix_of_prefix_append {l a b : List Char} {x : Char} (hx : x ∉ l)
    (h : l <+: a ++ x :: b) : l <+: a := by
  rcases List.prefix_or_prefix_of_prefix h (List.prefix_append _ _) with h | ⟨t, rfl⟩
  · exact h
  · rw [List.prefix_append_right_inj] at h
    cases t with
    | nil => simp
    | cons c t =>
      obtain ⟨rfl, -⟩ := List.cons_prefix_cons.1 h
      exact absurd (List.mem_append_right a (.head _)) hx

/-- What holds of the separators and of the characters of the pieces holds of all characters. -/
theorem forall_mem_of_pieces {P : Char → Prop} {s : List Char} (hsep : ∀ c, sep c = true → P c)
    (h : ∀ piece ∈ pieces sep s, ∀ c ∈ piece, P c) : ∀ c ∈ s, P c := by
  intro c hc
  by_cases hc' : sep c = true
  · exact hsep c hc'
  obtain ⟨a, b, rfl⟩ := List.append_of_mem hc
  obtain ⟨piece, hpiece, hpart⟩ := @exists_piece_of_isInfix sep [c] (a ++ c :: b)
    (by simpa using hc') ⟨a, b, by simp⟩
  exact h piece hpiece c (hpart.subset (.head _))

/-- What holds of a separator holds of all characters if it holds of those of the pieces. -/
theorem forall_mem_iff_pieces {P : Char → Prop} {x : Char} (hx : P x) (s : List Char) :
    (∀ c ∈ s, P c) ↔ ∀ piece ∈ pieces (· == x) s, ∀ c ∈ piece, P c := by
  constructor
  · exact fun h piece hpiece c hc => h c ((infix_of_mem_pieces hpiece).subset hc)
  · refine forall_mem_of_pieces fun c hc => ?_
    rwa [beq_iff_eq.1 hc]

/-- Characters at the end that are no separators belong to the last piece. -/
theorem exists_pieces_append (s : List Char) {back : List Char}
    (hback : ∀ c ∈ back, sep c = false) :
    ∃ init last, pieces sep s = init ++ [last] ∧
      pieces sep (s ++ back) = init ++ [last ++ back] := by
  induction s with
  | nil =>
    refine ⟨[], [], rfl, ?_⟩
    induction back with
    | nil => rfl
    | cons c back ih =>
      obtain ⟨hc, hback⟩ := List.forall_mem_cons.1 hback
      rw [List.nil_append, List.nil_append] at ih
      rw [List.nil_append, pieces_cons c (ih hback), if_neg (by simp [hc])]
      rfl
  | cons c s ih =>
    obtain ⟨init, last, hs, hs'⟩ := ih
    cases init with
    | nil =>
      rw [List.cons_append, pieces_cons c hs, pieces_cons c hs']
      split
      · exact ⟨[[]], last, rfl, rfl⟩
      · exact ⟨[], c :: last, rfl, rfl⟩
    | cons first init =>
      rw [List.cons_append, pieces_cons c hs, pieces_cons c hs']
      split
      · exact ⟨[] :: first :: init, last, rfl, rfl⟩
      · exact ⟨(c :: first) :: init, last, rfl, rfl⟩

/-- A separator divides the pieces. -/
theorem pieces_append (x : Char) (s t : List Char) :
    pieces (· == x) (s ++ x :: t) = pieces (· == x) s ++ pieces (· == x) t := by
  induction s with
  | nil => simp [pieces]
  | cons c s ih =>
    obtain ⟨first, rest, hs⟩ := List.exists_cons_of_ne_nil (pieces_ne_nil (· == x) s)
    rw [hs] at ih
    rw [List.cons_append, pieces_cons c ih, pieces_cons c hs]
    split <;> rfl

/-- A separator stands at the start if the first of several pieces is empty. -/
theorem head?_eq_some_iff_pieces {x : Char} {s : List Char} :
    s.head? = some x ↔ ∃ b rest, (pieces (· == x) s).map List.isEmpty = true :: b :: rest := by
  cases s with
  | nil => simp [pieces]
  | cons c s =>
    obtain ⟨first, rest, hs⟩ := List.exists_cons_of_ne_nil (pieces_ne_nil (· == x) s)
    rw [pieces_cons c hs]
    by_cases hc : c = x <;> simp [hc]

/-- A separator stands at the end if the last of several pieces is empty. -/
theorem getLast?_eq_some_iff_pieces {x : Char} {s : List Char} :
    s.getLast? = some x ↔ ∃ init b, (pieces (· == x) s).map List.isEmpty = init ++ [b, true] := by
  rcases List.eq_nil_or_concat s with rfl | ⟨s, c, rfl⟩
  · refine iff_of_false (by simp) ?_
    rintro ⟨init, b, h⟩
    have hlength := congrArg List.length h
    simp [pieces] at hlength
  rw [List.concat_eq_append, List.getLast?_append, List.getLast?_singleton, Option.some_or,
    Option.some.injEq]
  by_cases hc : c = x
  · subst hc
    rcases List.eq_nil_or_concat (pieces (· == c) s) with hnil | ⟨init, last, hs⟩
    · exact absurd hnil (pieces_ne_nil _ _)
    · refine iff_of_true rfl ⟨init.map List.isEmpty, last.isEmpty, ?_⟩
      rw [pieces_append, hs]
      simp [pieces]
  · obtain ⟨init, last, -, hs⟩ := @exists_pieces_append (· == x) s [c] (by simpa using hc)
    refine iff_of_false hc ?_
    rintro ⟨init', b, h⟩
    rw [hs] at h
    have hlast := congrArg List.getLast? h
    simp at hlast

/-! ## Cutting at the first separator -/

theorem cutFirst_eq_none_iff {s : List Char} : cutFirst sep s = none ↔ ∀ c ∈ s, sep c = false := by
  induction s with
  | nil => simp [cutFirst]
  | cons c s ih => cases hc : sep c <;> simp [cutFirst, hc, ih]

/-- The first equals sign stands at the same place when case does not count. -/
theorem cutFirst_lower (s : List Char) : cutFirst (· == '=') (lower s) =
    (cutFirst (· == '=') s).map fun (a, b) => (lower a, lower b) := by
  induction s with
  | nil => rfl
  | cons c s ih =>
    have hc : (c.toLower == '=') = (c == '=') := by
      rw [Bool.eq_iff_iff, beq_iff_eq, beq_iff_eq, toLower_eq_iff (by decide)]
    simp only [lower, List.map_cons, cutFirst, hc]
    split
    · rfl
    · rw [← lower, ih]
      cases cutFirst (· == '=') s <;> rfl

/-! ## Cutting at the last separator -/

theorem cutLast_append {s : List Char} (hs : ∀ c ∈ s, sep c = false)
    (t : List Char) :
    cutLast sep (s ++ t) = (cutLast sep t).map fun (a, b) => (s ++ a, b) := by
  induction s with
  | nil =>
    rw [List.nil_append]
    cases cutLast sep t <;> rfl
  | cons c s ih =>
    obtain ⟨hc, hs⟩ := List.forall_mem_cons.1 hs
    rw [List.cons_append, cutLast, ih hs, hc]
    cases cutLast sep t <;> rfl

theorem cutLast_append_cons {x : Char} (hx : sep x = true) {t : List Char}
    (ht : ∀ c ∈ t, sep c = false) (s : List Char) : cutLast sep (s ++ x :: t) = some (s, t) := by
  have hnone : cutLast sep t = none := by
    rw [← List.append_nil t, cutLast_append ht]
    rfl
  induction s with
  | nil => simp only [List.nil_append, cutLast, hnone, hx, if_true]
  | cons c s ih => simp only [List.cons_append, cutLast, ih]

theorem cutLast_eq_none_iff {s : List Char} : cutLast sep s = none ↔ ∀ c ∈ s, sep c = false := by
  constructor
  · intro h
    induction s with
    | nil => nofun
    | cons c s ih =>
      rw [cutLast] at h
      split at h
      · cases h
      · rename_i hnone
        split at h
        · cases h
        · rename_i hc
          exact List.forall_mem_cons.2 ⟨by simpa using hc, ih hnone⟩
  · intro h
    rw [← List.append_nil s, cutLast_append h]
    rfl

/-- No separator follows the last one. -/
theorem not_sep_of_cutLast {s a b : List Char} (h : cutLast sep s = some (a, b)) :
    ∀ c ∈ b, sep c = false := by
  induction s generalizing a with
  | nil => cases h
  | cons c s ih =>
    rw [cutLast] at h
    split at h
    · rename_i hcut
      cases h
      exact ih hcut
    · rename_i hnone
      split at h
      · cases h
        exact cutLast_eq_none_iff.1 hnone
      · cases h

/-- Whatever stands before an occurrence of a character stands before its last one. -/
theorem prefix_of_last {x : Char} {a b a' b' : List Char} (h : a ++ x :: b = a' ++ x :: b')
    (hb : x ∉ b) : a' ++ [x] <+: a ++ [x] := by
  obtain ⟨c, rfl, hc⟩ | ⟨c, rfl, hc⟩ := List.append_eq_append_iff.1 h
  · cases c with
    | nil => simp
    | cons d c =>
      obtain ⟨-, rfl⟩ := List.cons.inj hc
      exact absurd (List.mem_append_right c (.head _)) hb
  · cases c with
    | nil => simp
    | cons d c =>
      obtain ⟨rfl, -⟩ := List.cons.inj hc
      exact ⟨c ++ [x], by simp⟩

/-! ## Cutting at a literal -/

theorem cutAt_eq_some {literal s a b : List Char} (h : cutAt literal s = some (a, b)) :
    s = a ++ (literal ++ b) := by
  induction s generalizing a with
  | nil =>
    rw [cutAt] at h
    split at h
    · rename_i hempty
      cases h
      rw [List.isEmpty_iff.1 hempty]
      rfl
    · cases h
  | cons c s ih =>
    rw [cutAt] at h
    split at h
    · rename_i hfront
      obtain ⟨rfl, rfl⟩ := Prod.mk.inj (Option.some.inj h)
      obtain ⟨t, ht⟩ := List.isPrefixOf_iff_prefix.1 hfront
      rw [← ht, List.drop_left]
      rfl
    · obtain ⟨⟨a', b'⟩, hcut, heq⟩ := Option.map_eq_some_iff.1 h
      obtain ⟨rfl, rfl⟩ := Prod.mk.inj heq
      rw [ih hcut]
      rfl

end ContentRules.Text
