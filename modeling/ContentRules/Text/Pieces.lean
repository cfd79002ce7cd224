/-!
Cutting a text at separators. `pieces` loses nothing but the separators and its members hold none;
`cutFirst` and `cutLast` split at the first and at the last character of a kind; `occursIn` looks
for a literal anywhere in a text.
-/

namespace ContentRules.Text

/-- The texts between consecutive separators; a text without separator is its own only piece. -/
def pieces (sep : Char → Bool) : List Char → List (List Char)
  | [] => [[]]
  | c :: r =>
    if sep c then [] :: pieces sep r
    else match pieces sep r with
      | [] => [[c]]
      | p :: ps => (c :: p) :: ps

/-- What stands before and after the first separator. -/
def cutFirst (sep : Char → Bool) : List Char → Option (List Char × List Char)
  | [] => none
  | c :: r => if sep c then some ([], r) else (cutFirst sep r).map fun (a, b) => (c :: a, b)

/-- What stands before and after the last separator. -/
def cutLast (sep : Char → Bool) : List Char → Option (List Char × List Char)
  | [] => none
  | c :: r =>
    match cutLast sep r with
    | some (a, b) => some (c :: a, b)
    | none => if sep c then some ([], r) else none

/-- What stands before and after the first occurrence of a literal. -/
def cutAt (literal : List Char) : List Char → Option (List Char × List Char)
  | [] => if literal.isEmpty then some ([], []) else none
  | c :: r =>
    match literal.isPrefixOf (c :: r) with
    | true => some ([], (c :: r).drop literal.length)
    | false => (cutAt literal r).map fun (a, b) => (c :: a, b)

/-- The literal stands somewhere in the text. -/
def occursIn (literal : List Char) : List Char → Bool
  | [] => literal.isEmpty
  | c :: r => literal.isPrefixOf (c :: r) || occursIn literal r

theorem pieces_ne_nil (sep : Char → Bool) (s : List Char) : pieces sep s ≠ [] := by
  cases s with
  | nil => simp [pieces]
  | cons c r =>
    simp only [pieces]
    split
    · simp
    · split <;> simp

theorem not_sep_of_mem_pieces (sep : Char → Bool) (s p : List Char) (hp : p ∈ pieces sep s)
    (c : Char) (hc : c ∈ p) : sep c = false := by
  induction s generalizing p with
  | nil => simp_all [pieces]
  | cons d r ih =>
    simp only [pieces] at hp
    split at hp
    · rcases List.mem_cons.1 hp with rfl | hp
      · simp at hc
      · exact ih p hp hc
    · rename_i hd
      split at hp
      · simp_all
      · rename_i q qs h
        rcases List.mem_cons.1 hp with rfl | hp
        · rcases List.mem_cons.1 hc with rfl | hc
          · simpa using hd
          · exact ih q (by simp [h]) hc
        · exact ih p (by simp [h, hp]) hc

/-- Joining the pieces with the separator gives the text back. -/
theorem intercalate_pieces (x : Char) (s : List Char) :
    [x].intercalate (pieces (· == x) s) = s := by
  induction s with
  | nil => rfl
  | cons c r ih =>
    simp only [pieces]
    split
    · rename_i h
      have hx : c = x := by simpa using h
      rcases hq : pieces (· == x) r with _ | ⟨q, qs⟩
      · exact absurd hq (pieces_ne_nil _ _)
      · rw [hq] at ih
        simp [List.intercalate_cons_cons, ih, hx]
    · rcases hq : pieces (· == x) r with _ | ⟨q, qs⟩
      · exact absurd hq (pieces_ne_nil _ _)
      · rw [hq] at ih
        cases qs <;> simp_all [List.intercalate_cons_cons]

theorem pieces_of_not_mem {x : Char} {s : List Char} (hs : x ∉ s) : pieces (· == x) s = [s] := by
  induction s with
  | nil => rfl
  | cons c r ih =>
    have hne : (c == x) = false := beq_eq_false_iff_ne.2 (List.ne_of_not_mem_cons hs).symm
    simp only [pieces, hne, ih (List.not_mem_of_not_mem_cons hs), Bool.false_eq_true, if_false]

theorem pieces_append_cons {x : Char} {s : List Char} (hs : x ∉ s) (r : List Char) :
    pieces (· == x) (s ++ x :: r) = s :: pieces (· == x) r := by
  induction s with
  | nil => simp [pieces]
  | cons c s ih =>
    have hne : (c == x) = false := beq_eq_false_iff_ne.2 (List.ne_of_not_mem_cons hs).symm
    simp only [List.cons_append, pieces, hne, ih (List.not_mem_of_not_mem_cons hs),
      Bool.false_eq_true, if_false]

/-- Texts without separators are the pieces of the text that joins them. -/
theorem pieces_intercalate {x : Char} {l : List (List Char)} (hne : l ≠ []) (hl : ∀ s ∈ l, x ∉ s) :
    pieces (· == x) ([x].intercalate l) = l := by
  induction l with
  | nil => exact absurd rfl hne
  | cons s l ih =>
    have hs := hl s (.head _)
    by_cases hnil : l = []
    · subst hnil
      rw [List.intercalate_singleton, pieces_of_not_mem hs]
    · rw [List.intercalate_cons_of_ne_nil hnil, List.append_assoc, List.singleton_append,
        pieces_append_cons hs, ih hnil fun t ht => hl t (.tail _ ht)]

theorem cutFirst_eq_some (sep : Char → Bool) (s a b : List Char)
    (h : cutFirst sep s = some (a, b)) :
    ∃ x, sep x = true ∧ s = a ++ x :: b ∧ ∀ c ∈ a, sep c = false := by
  induction s generalizing a with
  | nil => simp [cutFirst] at h
  | cons c r ih =>
    simp only [cutFirst] at h
    split at h
    · simp_all
    · rename_i hc
      obtain ⟨⟨a', b'⟩, h', he⟩ := Option.map_eq_some_iff.1 h
      obtain ⟨rfl, rfl⟩ := Prod.mk.inj he
      obtain ⟨x, hx, rfl, hs⟩ := ih a' h'
      exact ⟨x, hx, rfl, by simpa using ⟨by simpa using hc, hs⟩⟩

theorem cutLast_eq_some (sep : Char → Bool) (s a b : List Char)
    (h : cutLast sep s = some (a, b)) : ∃ x, sep x = true ∧ s = a ++ x :: b := by
  induction s generalizing a with
  | nil => simp [cutLast] at h
  | cons c r ih =>
    simp only [cutLast] at h
    split at h
    · rename_i a' b' h'
      obtain ⟨rfl, rfl⟩ : c :: a' = a ∧ b' = b := by simpa using h
      obtain ⟨x, hx, rfl⟩ := ih a' h'
      exact ⟨x, hx, rfl⟩
    · split at h
      · rename_i hc
        obtain ⟨rfl, rfl⟩ : [] = a ∧ r = b := by simpa using h
        exact ⟨c, hc, rfl⟩
      · simp at h

theorem occursIn_iff (literal s : List Char) : occursIn literal s = true ↔ literal <:+: s := by
  induction s with
  | nil => simp [occursIn]
  | cons c r ih => simp [occursIn, ih, List.infix_cons_iff]

end ContentRules.Text
