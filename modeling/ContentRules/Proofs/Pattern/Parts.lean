import ContentRules.Filter.Pattern
import Mathlib.Data.List.Basic

/-!
Taking a pattern apart. Bars in front say where a match starts, a bar at the end ties it to the end
of the URL, and what stands between them is the body; stars at an end without a bar are left out.
There is one way to do this for each pattern. Main statements: `exists_isOf` and
`Parts.IsOf.eq_parts`.
-/

namespace ContentRules.Pattern

/-- The bars in front of a pattern, and what comes after them. -/
inductive Start.Opens : Start → List Char → List Char → Prop
  | host (rest : List Char) : Opens host ('|' :: '|' :: rest) rest
  | url {rest : List Char} (h : rest.head? ≠ some '|') : Opens url ('|' :: rest) rest
  | anywhere {rest : List Char} (h : rest.head? ≠ some '|') : Opens anywhere rest rest

/-- The parts are those of the pattern: bars in front, the body, and a bar at the end if there is
one. Stars are left out at an end without a bar. -/
structure Parts.IsOf (q : Parts) (p rest lead trail : List Char) : Prop where
  opens : q.start.Opens p rest
  closes : q.tiedToEnd = true ↔ rest.getLast? = some '|'
  eq : rest = lead ++ q.body ++ trail ++ (if q.tiedToEnd then ['|'] else [])
  stars : ∀ c ∈ lead ++ trail, c = '*'
  front : if q.start = .anywhere then q.body.head? ≠ some '*' else lead = []
  back : if q.tiedToEnd then trail = [] else q.body.getLast? ≠ some '*'

/-- The body between the bars, without stars at an end that has no bar. -/
def trimStars (start : Start) (tiedToEnd : Bool) (inner : List Char) : List Char :=
  let inner := if start == .anywhere then inner.dropWhile isStar else inner
  if tiedToEnd then inner else (inner.reverse.dropWhile isStar).reverse

theorem exists_opens (p : List Char) :
    ∃ (start : Start) (rest : List Char), start.Opens p rest := by
  rcases p with _ | ⟨c, p⟩
  · exact ⟨_, _, .anywhere nofun⟩
  by_cases hc : c = '|'
  · subst hc
    rcases p with _ | ⟨d, p⟩
    · exact ⟨_, _, .url nofun⟩
    by_cases hd : d = '|'
    · subst hd
      exact ⟨_, _, .host p⟩
    · exact ⟨_, _, .url (by simpa using hd)⟩
  · exact ⟨_, _, .anywhere (by simpa using hc)⟩

theorem parts_of_opens {start : Start} {p rest : List Char} (h : start.Opens p rest) :
    parts p =
      let tiedToEnd := rest.getLast? == some '|'
      ⟨start, trimStars start tiedToEnd (if tiedToEnd then rest.dropLast else rest),
        tiedToEnd⟩ := by
  cases h with
  | host => rfl
  | url h =>
    cases rest with
    | nil => rfl
    | cons c rest =>
      have hc : c ≠ '|' := by simpa using h
      simp [parts, trimStars, hc]
  | anywhere h =>
    cases p with
    | nil => rfl
    | cons c rest =>
      have hc : c ≠ '|' := by simpa using h
      simp [parts, trimStars, hc]

theorem dropWhile_stars {s t : List Char} (hs : ∀ c ∈ s, c = '*') (ht : t.head? ≠ some '*') :
    (s ++ t).dropWhile isStar = t := by
  induction s with
  | nil =>
    cases t with
    | nil => rfl
    | cons c t =>
      have hc : isStar c = false := by simpa [isStar] using ht
      rw [List.nil_append, List.dropWhile_cons_of_neg (by simp [hc])]
  | cons c s ih =>
    obtain ⟨hc, hs⟩ := List.forall_mem_cons.1 hs
    rw [List.cons_append, List.dropWhile_cons_of_pos (show isStar c = true from beq_iff_eq.2 hc),
      ih hs]

theorem exists_stars (s : List Char) :
    ∃ stars, (∀ c ∈ stars, c = '*') ∧ s = stars ++ s.dropWhile isStar ∧
      (s.dropWhile isStar).head? ≠ some '*' := by
  refine ⟨s.takeWhile isStar, fun c hc => ?_, List.takeWhile_append_dropWhile.symm, fun h => ?_⟩
  · have hall := List.all_eq_true.1 List.all_takeWhile c hc
    exact beq_iff_eq.1 hall
  · have hnot := List.head?_dropWhile_not isStar s
    rw [h] at hnot
    cases hnot

/-- Stars at an end that is not tied are left out, and no others. -/
theorem trimStars_eq {start : Start} {tiedToEnd : Bool} {lead body trail : List Char}
    (hstars : ∀ c ∈ lead ++ trail, c = '*')
    (hfront : if start = .anywhere then body.head? ≠ some '*' else lead = [])
    (hback : if tiedToEnd then trail = [] else body.getLast? ≠ some '*') :
    trimStars start tiedToEnd (lead ++ body ++ trail) = body := by
  obtain ⟨hlead, htrail⟩ := List.forall_mem_append.1 hstars
  have hend (inner : List Char) (hinner : inner = body ++ trail ∨ body = [] ∧ inner = []) :
      (if tiedToEnd then inner else (inner.reverse.dropWhile isStar).reverse) = body := by
    cases tiedToEnd with
    | true =>
      rw [if_pos rfl] at hback ⊢
      rcases hinner with rfl | ⟨rfl, rfl⟩
      · rw [hback, List.append_nil]
      · rfl
    | false =>
      rw [if_neg Bool.false_ne_true] at hback ⊢
      rcases hinner with rfl | ⟨rfl, rfl⟩
      · rw [List.reverse_append, dropWhile_stars (by simpa using htrail) (by simpa using hback),
          List.reverse_reverse]
      · rfl
  unfold trimStars
  dsimp only
  by_cases hstart : start = .anywhere
  · rw [if_pos hstart] at hfront
    rw [beq_iff_eq.2 hstart, if_pos rfl]
    refine hend _ ?_
    by_cases hbody : body = []
    · subst hbody
      right
      have hall := dropWhile_stars (t := []) hstars nofun
      rw [List.append_nil] at hall
      exact ⟨rfl, by rw [List.append_nil]; exact hall⟩
    · left
      rw [List.append_assoc]
      refine dropWhile_stars hlead ?_
      rwa [List.head?_append_of_ne_nil _ hbody]
  · have hstart' : (start == .anywhere) = false := by simpa using hstart
    rw [if_neg hstart] at hfront
    rw [hstart', if_neg Bool.false_ne_true]
    exact hend _ (.inl (by rw [hfront, List.nil_append]))

theorem getLast?_of_tied {tiedToEnd : Bool} {rest : List Char}
    (h : tiedToEnd = true ↔ rest.getLast? = some '|') :
    (rest.getLast? == some '|') = tiedToEnd := by
  rw [Bool.eq_iff_iff, beq_iff_eq, h]

/-- A pattern is taken apart in one way only. -/
theorem Parts.IsOf.eq_parts {q : Parts} {p rest lead trail : List Char}
    (h : q.IsOf p rest lead trail) : parts p = q := by
  rw [parts_of_opens h.opens, getLast?_of_tied h.closes]
  have hinner : (if q.tiedToEnd then rest.dropLast else rest) = lead ++ q.body ++ trail := by
    rw [h.eq]
    cases q.tiedToEnd with
    | true => rw [if_pos rfl, if_pos rfl, List.dropLast_concat]
    | false => rw [if_neg Bool.false_ne_true, if_neg Bool.false_ne_true, List.append_nil]
  dsimp only
  rw [hinner, trimStars_eq h.stars h.front h.back]

/-- Every pattern can be taken apart. -/
theorem exists_isOf (p : List Char) :
    ∃ (q : Parts) (rest lead trail : List Char), q.IsOf p rest lead trail := by
  obtain ⟨start, rest, hopens⟩ := exists_opens p
  obtain ⟨inner, tiedToEnd, hcloses, hrest⟩ : ∃ inner tiedToEnd,
      (tiedToEnd = true ↔ rest.getLast? = some '|') ∧
        rest = inner ++ if tiedToEnd then ['|'] else [] := by
    by_cases hlast : rest.getLast? = some '|'
    · obtain ⟨inner, rfl⟩ := List.getLast?_eq_some_iff.1 hlast
      exact ⟨inner, true, by simp, rfl⟩
    · exact ⟨rest, false, by simp [hlast], by simp⟩
  obtain ⟨lead, middle, hlead, hinner, hfront⟩ : ∃ lead middle, (∀ c ∈ lead, c = '*') ∧
      inner = lead ++ middle ∧
        if start = .anywhere then middle.head? ≠ some '*' else lead = [] := by
    split
    · obtain ⟨lead, hlead, hinner, hhead⟩ := exists_stars inner
      exact ⟨lead, _, hlead, hinner, hhead⟩
    · exact ⟨[], inner, nofun, rfl, rfl⟩
  obtain ⟨body, trail, htrail, hmiddle, hback⟩ : ∃ body trail, (∀ c ∈ trail, c = '*') ∧
      middle = body ++ trail ∧
        if tiedToEnd then trail = [] else body.getLast? ≠ some '*' := by
    split
    · exact ⟨middle, [], nofun, by rw [List.append_nil], rfl⟩
    · obtain ⟨trail, htrail, hmiddle, hhead⟩ := exists_stars middle.reverse
      refine ⟨(middle.reverse.dropWhile isStar).reverse, trail.reverse, ?_, ?_, ?_⟩
      · simpa using htrail
      · rw [← List.reverse_append, ← hmiddle, List.reverse_reverse]
      · rwa [List.getLast?_reverse]
  refine ⟨⟨start, body, tiedToEnd⟩, rest, lead, trail, hopens, hcloses, ?_, ?_, ?_, hback⟩
  · rw [hrest, hinner, hmiddle, ← List.append_assoc lead]
  · exact List.forall_mem_append.2 ⟨hlead, htrail⟩
  · split at hfront
    · rw [if_pos ‹_›]
      subst hmiddle
      intro hhead
      rw [List.head?_append_of_ne_nil _ (by rintro rfl; cases hhead)] at hfront
      exact hfront hhead
    · rwa [if_neg ‹_›]

end ContentRules.Pattern
