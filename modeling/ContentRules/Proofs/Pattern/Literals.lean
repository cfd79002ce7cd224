import ContentRules.Filter.Pattern.Shortcut
import ContentRules.Native.UrlFilter
import ContentRules.Proofs.Pattern.IgnoringCase
import ContentRules.Proofs.Pattern.Meaning
import ContentRules.Proofs.Text.Ascii
import ContentRules.Proofs.Text.Pieces

/-!
The literal texts of a pattern stand in every URL that the pattern matches. A piece between
wildcards is a run of signs that stand for themselves, and no bar or star that is taken off the ends
of the pattern belongs to it. Main statement: `occursIn_of_found`.
-/

namespace ContentRules

namespace Unicode.CaseGroup

/-- The characters beyond ASCII that are in the group of an ASCII letter. -/
def beyondLetters : List Char := [Char.ofNat 0x17F, Char.ofNat 0x212A]

theorem not_mem_beyondLetters {c : Char} (hc : c.toNat < 128) : c ∉ beyondLetters := by
  have hbeyond : ∀ d ∈ beyondLetters, ¬d.toNat < 128 := List.all_iff_forall_prop.1 (by decide)
  exact fun h => hbeyond c h hc

/-- The other characters in the group of a letter have the same small letter. -/
theorem toLower_of_mem_ofLetter : ∀ n < 128, (Char.ofNat n).isAlpha = true →
    ∀ d ∈ ofLetter (Char.ofNat n), d ∉ beyondLetters → d.toLower = (Char.ofNat n).toLower := by
  have h : ∀ n < 128, (Char.ofNat n).isAlpha = true → (ofLetter (Char.ofNat n)).all (fun d =>
      decide (d ∉ beyondLetters → d.toLower = (Char.ofNat n).toLower)) = true := by
    decide +kernel
  exact fun n hn halpha => List.all_iff_forall_prop.1 (h n hn halpha)

end Unicode.CaseGroup

namespace Pattern

open Regex Unicode

/-! ## Texts that agree with a literal -/

/-- A text that is compared with literals: as it stands, or with small letters if case is
ignored. -/
def folded (ignoreCase : Bool) (s : List Char) : List Char := if ignoreCase then Text.lower s else s

theorem folded_append (ignoreCase : Bool) (s t : List Char) :
    folded ignoreCase (s ++ t) = folded ignoreCase s ++ folded ignoreCase t := by
  cases ignoreCase with
  | false => rfl
  | true => exact Text.lower_append s t

theorem folded_folded (ignoreCase : Bool) (s : List Char) :
    folded ignoreCase (folded ignoreCase s) = folded ignoreCase s := by
  cases ignoreCase with
  | false => rfl
  | true => exact Text.lower_lower s

theorem folded_infix (ignoreCase : Bool) {s t : List Char} (h : s <:+: t) :
    folded ignoreCase s <:+: folded ignoreCase t := by
  obtain ⟨front, back, rfl⟩ := h
  rw [folded_append, folded_append]
  exact List.infix_append _ _ _

theorem IsSame.lower_eq {ignoreCase : Bool} {c d : Char} (h : IsSame ignoreCase c d)
    (hc : c.toNat < 128) (hd : d ∉ CaseGroup.beyondLetters) : d.toLower = c.toLower := by
  rcases h with rfl | ⟨-, halpha, hd'⟩
  · rfl
  · have hlower := CaseGroup.toLower_of_mem_ofLetter c.toNat hc
    rw [Char.ofNat_toNat] at hlower
    exact hlower halpha d hd' hd

/-- Texts whose characters are the same one by one are the same when compared, if the second one
holds no character that only full case folding takes to an ASCII letter. -/
theorem folded_eq_of_isSame {ignoreCase : Bool} {s t : List Char}
    (h : List.Forall₂ (IsSame ignoreCase) s t) (hs : ∀ c ∈ s, c.toNat < 128)
    (ht : ∀ c ∈ t, c ∉ CaseGroup.beyondLetters) : folded ignoreCase t = folded ignoreCase s := by
  induction h with
  | nil => rfl
  | @cons c d s t hcd _ ih =>
    obtain ⟨hc, hs⟩ := List.forall_mem_cons.1 hs
    obtain ⟨hd, ht⟩ := List.forall_mem_cons.1 ht
    rw [← List.singleton_append, ← @List.singleton_append _ c, folded_append, folded_append,
      ih hs ht]
    cases ignoreCase with
    | true =>
      simp only [folded, if_true, Text.lower, List.map_cons, List.map_nil, hcd.lower_eq hc hd]
    | false =>
      rcases hcd with rfl | ⟨hfalse, -⟩
      · rfl
      · cases hfalse

/-- The expressions of a literal match texts whose characters are the same one by one. -/
theorem exists_isSame_of_spansAll {ignoreCase : Bool} {s url : List Char} {i j : Nat}
    (h : SpansAll url (s.map (literalRegex ignoreCase)) i j) (hs : ∀ c ∈ s, c.toNat < 128) :
    ∃ t, List.Forall₂ (IsSame ignoreCase) s t ∧ Between url t i j := by
  obtain ⟨ms, hms, hbetween⟩ := (spansAll_map fun c hc => takes_literal ignoreCase (hs c hc)).1 h
  refine ⟨ms.flatten, ?_, hbetween⟩
  clear h hbetween
  induction hms with
  | nil => exact .nil
  | cons hm _ ih =>
    obtain ⟨d, hd, rfl⟩ := hm
    exact .cons hd (ih fun c hc => hs c (.tail _ hc))

/-- Where the expressions of a literal match, an ASCII text holds the literal. -/
theorem folded_infix_of_spansAll {ignoreCase : Bool} {s url : List Char} {i j : Nat}
    (h : SpansAll url (s.map (literalRegex ignoreCase)) i j) (hs : ∀ c ∈ s, c.toNat < 128)
    (hurl : ∀ c ∈ url, c.toNat < 128) : folded ignoreCase s <:+: folded ignoreCase url := by
  obtain ⟨t, hsame, hbetween⟩ := exists_isSame_of_spansAll h hs
  obtain ⟨front, back, rfl, -, -⟩ := hbetween
  have ht : ∀ c ∈ t, c ∉ CaseGroup.beyondLetters := fun c hc =>
    CaseGroup.not_mem_beyondLetters (hurl c (by simp [hc]))
  rw [← folded_eq_of_isSame hsame hs ht]
  exact folded_infix ignoreCase (List.infix_append front t back)

/-! ## Literals of patterns -/

/-- An ASCII pattern that is no regular expression has its expression as url filter. -/
theorem ofPattern_eq_ok_iff {p filter : List Char} (hp : isRegex p = false) :
    UrlFilter.ofPattern p = .ok filter ↔ Text.isAscii p = true ∧ filter = expr p := by
  rw [UrlFilter.ofPattern, hp, if_neg Bool.false_ne_true]
  cases Text.isAscii p with
  | false => simp
  | true => simp [eq_comm]

/-- The text holds no wildcard. -/
def IsLiteral (s : List Char) : Prop := ∀ c ∈ s, isWildcard c = false

section
variable {s : List Char} (hs : IsLiteral s)
include hs

theorem IsLiteral.not_mem {c : Char} (hc : isWildcard c = true) : c ∉ s := fun h => by
  cases hc.symm.trans (hs c h)

theorem IsLiteral.infix_of_opens {start : Start} {p rest : List Char} (hopens : start.Opens p rest)
    (h : s <:+: p) : s <:+: rest := by
  have hbar : '|' ∉ s := hs.not_mem (by decide)
  cases hopens with
  | host rest => exact @Text.infix_of_infix_append _ ['|', '|'] _ (by simpa using hbar) h
  | url => exact @Text.infix_of_infix_append _ ['|'] _ (by simpa using hbar) h
  | anywhere => exact h

theorem IsLiteral.infix_body {q : Parts} {p rest lead trail : List Char}
    (hq : q.IsOf p rest lead trail) (h : s <:+: p) : s <:+: q.body := by
  have hbar : '|' ∉ s := hs.not_mem (by decide)
  have hstar : '*' ∉ s := hs.not_mem (by decide)
  have hstars : ∀ c ∈ lead ++ trail, c ∉ s := fun c hc => by
    rw [hq.stars c hc]
    exact hstar
  obtain ⟨hlead, htrail⟩ := List.forall_mem_append.1 hstars
  have hrest := hs.infix_of_opens hq.opens h
  rw [hq.eq] at hrest
  have hend : ∀ c ∈ (if q.tiedToEnd then ['|'] else []), c ∉ s := by
    split
    · simpa using hbar
    · nofun
  have hbody := Text.infix_of_append_infix htrail (Text.infix_of_append_infix hend hrest)
  exact Text.infix_of_infix_append hlead hbody

theorem IsLiteral.map_signRegex (ignoreCase : Bool) :
    s.map (signRegex ignoreCase) = s.map (literalRegex ignoreCase) := by
  refine List.map_congr_left fun c hc => ?_
  have hstar : c ≠ '*' := fun h => hs.not_mem (by decide) (h ▸ hc)
  have hcaret : c ≠ '^' := fun h => hs.not_mem (by decide) (h ▸ hc)
  rw [signRegex, if_neg hstar, if_neg hcaret]

/-- The expressions of a literal that stands in the body of a pattern stand among those of the
body. -/
theorem IsLiteral.infix_bodyRegexes (ignoreCase tiedToEnd : Bool) {body : List Char}
    (h : s <:+: body) :
    s.map (literalRegex ignoreCase) <:+: bodyRegexes ignoreCase tiedToEnd body := by
  rw [← hs.map_signRegex ignoreCase, bodyRegexes_eq]
  split
  · rename_i hclosing
    obtain ⟨first, rfl⟩ := List.getLast?_eq_some_iff.1 hclosing.2
    have hfirst : s <:+: first :=
      Text.infix_of_append_infix (by simpa using hs.not_mem (c := '^') (by decide)) h
    rw [List.dropLast_concat]
    exact (hfirst.map _).trans (List.prefix_append _ _).isInfix
  · exact h.map _

theorem IsLiteral.infix_regexes (ignoreCase : Bool) {p : List Char} (h : s <:+: p) :
    s.map (literalRegex ignoreCase) <:+: regexes ignoreCase p := by
  obtain ⟨q, rest, lead, trail, hq⟩ := exists_isOf p
  have hbody := hs.infix_body hq h
  rw [regexes, hq.eq_parts]
  split
  · rename_i hall
    rw [hall] at hbody
    rw [List.eq_nil_of_infix_nil hbody]
    exact List.nil_infix
  · have hpart := hs.infix_bodyRegexes ignoreCase q.tiedToEnd hbody
    exact hpart.trans ⟨_, _, rfl⟩

end

theorem isLiteral_of_mem_pieces {p s : List Char} (h : s ∈ Text.pieces isWildcard p) :
    IsLiteral s :=
  Text.not_sep_of_mem_pieces isWildcard p s h

/-- The longest literal is one of the pieces between wildcards. -/
theorem longestLiteral_cases (p : List Char) :
    longestLiteral p = [] ∨ longestLiteral p ∈ Text.pieces isWildcard p := by
  unfold longestLiteral
  refine List.foldlRecOn _ _ (motive := fun best => best = [] ∨ best ∈ Text.pieces isWildcard p)
    (.inl rfl) fun best hbest piece hpiece => ?_
  split
  · exact .inr hpiece
  · exact hbest

theorem isLiteral_longestLiteral (p : List Char) : IsLiteral (longestLiteral p) := by
  rcases longestLiteral_cases p with h | h
  · rw [h]
    nofun
  · exact isLiteral_of_mem_pieces h

theorem isInfix_longestLiteral (p : List Char) : longestLiteral p <:+: p := by
  rcases longestLiteral_cases p with h | h
  · rw [h]
    exact List.nil_infix
  · exact Text.infix_of_mem_pieces h

/-- The shortcut of a pattern that is no regular expression is its longest literal. -/
theorem eq_of_shortcut? {p s : List Char} {matchCase : Bool} (hp : isRegex p = false)
    (h : shortcut? p matchCase = some s) : s = folded (!matchCase) (longestLiteral p) := by
  simp only [shortcut?, hp, Bool.false_eq_true, if_false, Option.bind_eq_bind,
    Option.bind_some] at h
  split at h
  · cases h
  · cases matchCase <;> exact (Option.some.inj h).symm

/-- A URL in which the expression of a pattern is found holds the shortcut of the pattern. -/
theorem occursIn_of_found {p url s : List Char} {matchCase : Bool} (hp : isRegex p = false)
    (hascii : Text.isAscii p = true) (hurl : Text.isAscii url = true)
    (h : Found (!matchCase) p url) (hs : shortcut? p matchCase = some s) :
    Text.occursIn s (folded (!matchCase) url) = true := by
  obtain ⟨i, j, hspans⟩ := h
  have hpart := (isLiteral_longestLiteral p).infix_regexes (!matchCase) (isInfix_longestLiteral p)
  obtain ⟨front, back, hregexes⟩ := hpart
  rw [← hregexes] at hspans
  obtain ⟨l, hspans, -⟩ := spansAll_append.1 hspans
  obtain ⟨k, -, hspans⟩ := spansAll_append.1 hspans
  rw [eq_of_shortcut? hp hs, Text.occursIn_iff]
  refine folded_infix_of_spansAll hspans ?_ (Text.toNat_lt_of_isAscii hurl)
  exact fun c hc => Text.toNat_lt_of_isAscii hascii c ((isInfix_longestLiteral p).subset hc)

end Pattern

end ContentRules
