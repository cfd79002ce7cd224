import ContentRules.Proofs.Ordered.Related
import ContentRules.Proofs.Pattern.Hosts
import ContentRules.Proofs.Pattern.Parts
import Mathlib.Data.Bool.AllAny

/-!
What a pattern means. A URL matches it if the signs of its body stand, one after the other, for the
characters of some part of the URL: a star for any, a caret for a separator, and every other sign
for itself; the bars say what comes before this part and after it. The expression of a pattern can
be read, and it is found in the URLs that match the pattern. Main statement: `expr_means`.
-/

namespace ContentRules

namespace Unicode.CaseGroup

theorem mem_ofLetter_ascii : ∀ n < 128, (Char.ofNat n).isAlpha = true →
    ∀ d ∈ ofLetter (Char.ofNat n), Char.ofNat n ∈ variants d := by
  have h : ∀ n < 128, (Char.ofNat n).isAlpha = true →
      (ofLetter (Char.ofNat n)).all (fun d => decide (Char.ofNat n ∈ variants d)) = true := by
    decide +kernel
  exact fun n hn halpha => List.all_iff_forall_prop.1 (h n hn halpha)

theorem mem_variants_ascii_cases : ∀ n < 128, ∀ c ∈ variants (Char.ofNat n), c.toNat < 128 →
    Char.ofNat n = c ∨ c.isAlpha = true ∧ Char.ofNat n ∈ ofLetter c := by
  have h : ∀ n < 128, (variants (Char.ofNat n)).all (fun c => decide (c.toNat < 128 →
      Char.ofNat n = c ∨ c.isAlpha = true ∧ Char.ofNat n ∈ ofLetter c)) = true := by
    decide +kernel
  exact fun n hn => List.all_iff_forall_prop.1 (h n hn)

theorem mem_beyondAscii_cases : ∀ letter ∈ ['k', 's'], ∀ d ∈ beyondAscii letter,
    ∀ c ∈ ofLetter letter, c.toNat < 128 → c.isAlpha = true ∧ d ∈ ofLetter c := by
  have h :
      ['k', 's'].all (fun letter => (beyondAscii letter).all fun d => (ofLetter letter).all fun c =>
      decide (c.toNat < 128 → c.isAlpha = true ∧ d ∈ ofLetter c)) = true := by
    decide +kernel
  intro letter hletter d hd
  exact List.all_iff_forall_prop.1 (List.all_eq_true.1 (List.all_eq_true.1 h letter hletter) d hd)

/-- The group of a character beyond ASCII is that of one of two letters, or has no ASCII
characters. -/
theorem variants_beyond {d : Char} (hd : ¬d.toNat < 128) :
    (∃ letter ∈ ['k', 's'], d ∈ beyondAscii letter ∧ variants d = ofLetter letter) ∨
      ∀ c ∈ variants d, ¬c.toNat < 128 := by
  unfold variants
  rw [if_neg hd]
  split
  · rename_i h
    exact .inl ⟨'k', by decide, by rw [h]; decide, rfl⟩
  split
  · rename_i h
    exact .inl ⟨'s', by decide, by rw [h]; decide, rfl⟩
  right
  intro c hc
  cases hgroup : groups.find? (·.contains d) with
  | none =>
    rw [hgroup] at hc
    rwa [List.mem_singleton.1 hc]
  | some group =>
    rw [hgroup] at hc
    have hall := (List.mem_filter.1 (List.mem_of_find?_eq_some hgroup)).2
    have := List.all_eq_true.1 hall c hc
    simpa using this

/-- The group of a character holds an ASCII one if this is the character, or a letter
in whose group it is. -/
theorem mem_variants_iff {c : Char} (hc : c.toNat < 128) (d : Char) :
    c ∈ variants d ↔ d = c ∨ c.isAlpha = true ∧ d ∈ ofLetter c := by
  constructor
  · intro h
    by_cases hd : d.toNat < 128
    · have hcases := mem_variants_ascii_cases d.toNat hd c
      rw [Char.ofNat_toNat] at hcases
      exact hcases h hc
    · rcases variants_beyond hd with ⟨letter, hletter, hmem, hvariants⟩ | hnone
      · rw [hvariants] at h
        exact .inr (mem_beyondAscii_cases letter hletter d hmem c h hc)
      · exact absurd hc (hnone c h)
  · rintro (rfl | ⟨halpha, h⟩)
    · exact mem_variants d
    · have hmem := mem_ofLetter_ascii c.toNat hc
      rw [Char.ofNat_toNat] at hmem
      exact hmem halpha d h

end Unicode.CaseGroup

namespace Pattern
open Regex Unicode
/-! ## What signs stand for -/

/-- The character is that of the pattern, letters up to case if case is ignored. -/
def IsSame (ignoreCase : Bool) (c d : Char) : Prop :=
  d = c ∨ ignoreCase = true ∧ c.isAlpha = true ∧ d ∈ CaseGroup.ofLetter c

/-- The characters that a caret stands for. -/
def separators : List Char := ['/', ':', '&', '?']

/-- The texts that a sign of a pattern stands for. -/
inductive StandsFor (ignoreCase : Bool) : Char → List Char → Prop
  | star (run : List Char) : StandsFor ignoreCase '*' run
  | caret {d : Char} (hd : d ∈ separators) : StandsFor ignoreCase '^' [d]
  | same {c d : Char} (hstar : c ≠ '*') (hcaret : c ≠ '^') (h : IsSame ignoreCase c d) :
    StandsFor ignoreCase c [d]

/-- The character is one of those, letters up to case if case is ignored. -/
def IsOneOf (ignoreCase : Bool) (P : Char → Prop) (d : Char) : Prop :=
  ∃ c, P c ∧ IsSame ignoreCase c d

/-- The letters of schemes. -/
def IsSchemeLetter (c : Char) : Prop := c ∈ ['h', 't', 'p', 's', 'w']

/-- The characters of labels. -/
def IsLabelSign (c : Char) : Prop := c.isLower = true ∨ c.isDigit = true ∨ c = '-'

/-- A label that can stand in front of a host. -/
def IsLabel (ignoreCase : Bool) (label : List Char) : Prop :=
  label ≠ [] ∧ ∀ d ∈ label, IsOneOf ignoreCase IsLabelSign d

/-- The texts that can stand in front of a match. -/
inductive Start.Admits (ignoreCase : Bool) : Start → List Char → Prop
  | anywhere (front : List Char) : Admits ignoreCase anywhere front
  | url : Admits ignoreCase url []
  | host {scheme : List Char} {labels : List (List Char)} (hne : scheme ≠ [])
    (hscheme : ∀ d ∈ scheme, IsOneOf ignoreCase IsSchemeLetter d)
    (hlabels : ∀ label ∈ labels, IsLabel ignoreCase label) :
    Admits ignoreCase host (scheme ++ "://".toList ++ labels.flatMap (· ++ ['.']))

/-- The URL matches a pattern that has been taken apart. A caret that is the last sign, with no bar
after it, also stands for the end of the URL. -/
def Parts.Matches (q : Parts) (ignoreCase : Bool) (url : List Char) : Prop :=
  ∃ front ms back, url = front ++ ms.flatten ++ back ∧ q.start.Admits ignoreCase front ∧
    (q.tiedToEnd = true → back = []) ∧
    (List.Forall₂ (StandsFor ignoreCase) q.body ms ∨
      q.tiedToEnd = false ∧ back = [] ∧
        ∃ body, q.body = body ++ ['^'] ∧ List.Forall₂ (StandsFor ignoreCase) body ms)

section
variable (ignoreCase : Bool)

/-- A set of ASCII characters, up to case. -/
theorem contains_caseSet_iff {s : CharSet} {P : Char → Prop}
    (hs : ∀ c, s.contains c = true ↔ P c) (hascii : ∀ c, P c → c.toNat < 128) (d : Char) :
    (caseSet ignoreCase s).contains d = true ↔ IsOneOf ignoreCase P d := by
  unfold IsOneOf IsSame
  cases ignoreCase with
  | false => simp [caseSet, hs]
  | true =>
    simp only [caseSet, if_true, CharSet.contains, List.any_eq_true, hs, true_and]
    constructor
    · rintro ⟨c, hc, hP⟩
      exact ⟨c, hP, (CaseGroup.mem_variants_iff (hascii c hP) d).1 hc⟩
    · rintro ⟨c, hP, hc⟩
      exact ⟨c, (CaseGroup.mem_variants_iff (hascii c hP) d).2 hc, hP⟩

theorem isOneOf_of_not_isAlpha {P : Char → Prop} (hP : ∀ c, P c → c.isAlpha = false) (d : Char) :
    IsOneOf ignoreCase P d ↔ P d := by
  constructor
  · rintro ⟨c, hc, rfl | ⟨-, halpha, -⟩⟩
    · exact hc
    · cases (hP c hc).symm.trans halpha
  · intro hd
    exact ⟨d, hd, .inl rfl⟩

theorem contains_literal_iff {c : Char} (hc : c.toNat < 128) (d : Char) :
    (caseSet ignoreCase (.char c)).contains d = true ↔ IsSame ignoreCase c d := by
  rw [contains_caseSet_iff ignoreCase (P := (c = ·)) (by simp [CharSet.contains_char])
    (by rintro _ rfl; exact hc)]
  unfold IsOneOf
  exact exists_eq_left'

theorem contains_separatorSet_iff (d : Char) :
    (caseSet ignoreCase separatorSet).contains d = true ↔ d ∈ separators := by
  have hs (c : Char) : separatorSet.contains c = true ↔ c ∈ separators := by
    simp [separatorSet, separators, CharSet.contains, CharSet.contains_char, @eq_comm _ c, or_assoc]
  have hascii : ∀ c ∈ separators, c.toNat < 128 := List.all_iff_forall_prop.1 (by decide)
  have halpha : ∀ c ∈ separators, c.isAlpha = false := List.all_iff_forall_prop.1 (by decide)
  rw [contains_caseSet_iff ignoreCase hs hascii, isOneOf_of_not_isAlpha ignoreCase halpha]

theorem contains_schemeSet_iff (d : Char) :
    (caseSet ignoreCase schemeSet).contains d = true ↔ IsOneOf ignoreCase IsSchemeLetter d := by
  have hs (c : Char) : schemeSet.contains c = true ↔ IsSchemeLetter c := by
    simp [schemeSet, IsSchemeLetter, CharSet.contains, CharSet.contains_char, @eq_comm _ c,
      or_assoc]
  have hascii : ∀ c ∈ ['h', 't', 'p', 's', 'w'], c.toNat < 128 :=
    List.all_iff_forall_prop.1 (by decide)
  exact contains_caseSet_iff ignoreCase hs hascii d

theorem contains_labelSet_iff (d : Char) :
    (caseSet ignoreCase labelSet).contains d = true ↔ IsOneOf ignoreCase IsLabelSign d := by
  have hs (c : Char) : labelSet.contains c = true ↔ IsLabelSign c := by
    simp only [labelSet, CharSet.contains, CharSet.contains_char, Bool.false_or, Bool.or_eq_true,
      Bool.and_eq_true, decide_eq_true_eq, beq_iff_eq, or_assoc, IsLabelSign, @eq_comm _ '-']
    refine or_congr ?_ (or_congr ?_ Iff.rfl)
    · delta Char.isLower
      simp [Char.le_def]
    · delta Char.isDigit
      simp [Char.le_def]
  refine contains_caseSet_iff ignoreCase hs ?_ d
  rintro c (h | h | rfl)
  · refine toNat_lt_of_isAlphanum ?_
    delta Char.isAlphanum Char.isAlpha
    simp [h]
  · refine toNat_lt_of_isAlphanum ?_
    delta Char.isAlphanum
    simp [h]
  · decide

end

/-! ## Signs -/

section
variable {url : List Char} (hline : '\n' ∉ url) (ignoreCase : Bool)

theorem takes_literal {c : Char} (hc : c.toNat < 128) :
    Takes url (literalRegex ignoreCase c) fun m => ∃ d, IsSame ignoreCase c d ∧ m = [d] := by
  refine (takes_chars url _).congr fun m => ?_
  simp only [contains_literal_iff ignoreCase hc]

theorem takes_separator :
    Takes url (.chars (caseSet ignoreCase separatorSet))
      fun m => ∃ d, d ∈ separators ∧ m = [d] := by
  refine (takes_chars url _).congr fun m => ?_
  simp only [contains_separatorSet_iff]

theorem exists_separator {m : List Char} (h : StandsFor ignoreCase '^' m) :
    ∃ d ∈ separators, m = [d] := by
  cases h with
  | caret hd => exact ⟨_, hd, rfl⟩
  | same _ hcaret => exact absurd rfl hcaret

include hline in
theorem takes_sign {c : Char} (hc : c.toNat < 128) :
    Takes url (signRegex ignoreCase c) (StandsFor ignoreCase c) := by
  unfold signRegex
  by_cases hstar : c = '*'
  · subst hstar
    rw [if_pos rfl]
    exact (takes_star_anyChar hline).congr fun m => ⟨fun _ => .star m, fun _ => trivial⟩
  rw [if_neg hstar]
  by_cases hcaret : c = '^'
  · subst hcaret
    rw [if_pos rfl]
    refine (takes_separator ignoreCase).congr fun m => ⟨?_, exists_separator ignoreCase⟩
    rintro ⟨d, hd, rfl⟩
    exact .caret hd
  rw [if_neg hcaret]
  refine (takes_literal ignoreCase hc).congr fun m => ?_
  constructor
  · rintro ⟨d, hd, rfl⟩
    exact .same hstar hcaret hd
  · intro h
    cases h with
    | star => exact absurd rfl hstar
    | caret => exact absurd rfl hcaret
    | same _ _ h => exact ⟨_, h, rfl⟩

end

/-! ## Starts -/

section
variable {url : List Char} (ignoreCase : Bool)

theorem spans_textStart {i j : Nat} :
    Spans url (.anchor .textStart) i j ↔ i = 0 ∧ Between url [] 0 j := by
  rw [spans_anchor, between_nil]
  constructor
  · rintro ⟨rfl, hi, hstart⟩
    have hzero : i = 0 := by
      by_contra hne
      have hlt : i - 1 < url.length := by omega
      rw [if_neg hne, List.getElem?_eq_getElem hlt] at hstart
      cases hstart
    exact ⟨hzero, hzero.symm, Nat.zero_le _⟩
  · rintro ⟨rfl, rfl, -⟩
    exact ⟨rfl, Nat.zero_le _, rfl⟩

theorem takes_scheme :
    Takes url (plus (.chars (caseSet ignoreCase schemeSet))) fun m =>
      m ≠ [] ∧ ∀ d ∈ m, IsOneOf ignoreCase IsSchemeLetter d := by
  refine (takes_repeated_chars url _ 1).congr fun m => ?_
  simp only [contains_schemeSet_iff, Nat.one_le_iff_ne_zero, ne_eq, List.length_eq_zero_iff]

theorem takes_sign_only {c : Char} (hc : c.toNat < 128) (halpha : c.isAlpha = false) :
    Takes url (literalRegex ignoreCase c) fun m => m = [c] := by
  refine (takes_literal ignoreCase hc).congr fun m => ?_
  constructor
  · rintro ⟨d, rfl | ⟨-, h, -⟩, rfl⟩
    · rfl
    · cases halpha.symm.trans h
  · rintro rfl
    exact ⟨c, .inl rfl, rfl⟩

theorem takes_label :
    Takes url (.seq (plus (.chars (caseSet ignoreCase labelSet))) (literalRegex ignoreCase '.'))
      fun m => ∃ label, IsLabel ignoreCase label ∧ m = label ++ ['.'] := by
  have hdot : Takes url (literalRegex ignoreCase '.') (· = ['.']) :=
    takes_sign_only ignoreCase (by decide) (by decide)
  refine ((takes_repeated_chars url _ 1).seq hdot).congr fun m => ?_
  simp only [contains_labelSet_iff, Nat.one_le_iff_ne_zero, ne_eq, List.length_eq_zero_iff, IsLabel]
  constructor
  · rintro ⟨label, _, hlabel, rfl, rfl⟩
    exact ⟨label, hlabel, rfl⟩
  · rintro ⟨label, hlabel, rfl⟩
    exact ⟨label, ['.'], hlabel, rfl, rfl⟩

theorem takes_labels :
    Takes url
      (star (.seq (plus (.chars (caseSet ignoreCase labelSet))) (literalRegex ignoreCase '.')))
      fun m => ∃ labels : List (List Char), (∀ label ∈ labels, IsLabel ignoreCase label) ∧
        m = labels.flatMap (· ++ ['.']) := by
  refine ((takes_label ignoreCase).repeated_form 0).congr fun m => ?_
  simp only [Nat.zero_le, true_and]

theorem exists_spansAll_start (start : Start) {k : Nat} :
    (∃ i, SpansAll url (start.regexes ignoreCase) i k) ↔
      ∃ front, start.Admits ignoreCase front ∧ Between url front 0 k := by
  cases start with
  | anywhere =>
    constructor
    · rintro ⟨i, rfl, hi⟩
      exact ⟨url.take i, .anywhere _, between_take hi⟩
    · rintro ⟨front, -, hbetween⟩
      exact ⟨k, rfl, hbetween.le_length⟩
  | url =>
    constructor
    · rintro ⟨i, l, hstart, rfl, -⟩
      obtain ⟨rfl, hbetween⟩ := spans_textStart.1 hstart
      exact ⟨[], .url, hbetween⟩
    · rintro ⟨front, hadmits, hbetween⟩
      cases hadmits
      exact ⟨0, k, spans_textStart.2 ⟨rfl, hbetween⟩, rfl, hbetween.le_length⟩
  | host =>
    have hcolon : Takes url (literalRegex ignoreCase ':') (· = [':']) :=
      takes_sign_only ignoreCase (by decide) (by decide)
    have hslash : Takes url (literalRegex ignoreCase '/') (· = ['/']) :=
      takes_sign_only ignoreCase (by decide) (by decide)
    have hrest := @spansAll_iff url _ _ (.cons (takes_scheme ignoreCase) (.cons hcolon (.cons hslash
      (.cons hslash (.cons (takes_labels ignoreCase) .nil)))))
    constructor
    · rintro ⟨i, l, hstart, hspans⟩
      obtain ⟨rfl, hnil⟩ := spans_textStart.1 hstart
      obtain ⟨rfl, -⟩ := between_nil.1 hnil
      obtain ⟨ms, hms, hbetween⟩ := hrest.1 hspans
      simp only [List.forall₂_cons_left_iff, List.forall₂_nil_left_iff] at hms
      obtain ⟨scheme, _, ⟨hne, hscheme⟩, ⟨_, _, rfl, ⟨_, _, rfl, ⟨_, _, rfl,
        ⟨_, _, ⟨labels, hlabels, rfl⟩, rfl, rfl⟩, rfl⟩, rfl⟩, rfl⟩, rfl⟩ := hms
      exact ⟨_, .host hne hscheme hlabels, by simpa using hbetween⟩
    · rintro ⟨front, hadmits, hbetween⟩
      cases hadmits with
      | @host scheme labels hne hscheme hlabels =>
        refine ⟨0, 0, spans_textStart.2 ⟨rfl, between_nil.2 ⟨rfl, Nat.zero_le _⟩⟩, hrest.2 ?_⟩
        exact ⟨[scheme, [':'], ['/'], ['/'], labels.flatMap (· ++ ['.'])],
          .cons ⟨hne, hscheme⟩
            (.cons rfl (.cons rfl (.cons rfl (.cons ⟨labels, hlabels, rfl⟩ .nil)))),
          by simpa using hbetween⟩

end

/-! ## Bodies -/

section
variable {url : List Char} (hline : '\n' ∉ url) (ignoreCase : Bool) {body : List Char}

/-- Only a caret in the last place is not a sign like the others, and only where
nothing is tied to the end. -/
theorem bodyRegexes_eq (tiedToEnd : Bool) (body : List Char) :
    bodyRegexes ignoreCase tiedToEnd body =
      if tiedToEnd = false ∧ body.getLast? = some '^' then
        body.dropLast.map (signRegex ignoreCase) ++ closingRegexes ignoreCase
      else body.map (signRegex ignoreCase) := by
  fun_induction bodyRegexes ignoreCase tiedToEnd body with
  | case1 => simp
  | case2 h => simp [h]
  | case3 h => simp [h]
  | case4 c r hc ih =>
    rw [ih]
    cases r with
    | nil =>
      have hcaret : c ≠ '^' := fun h => hc h rfl
      simp [hcaret]
    | cons d r =>
      rw [List.getLast?_cons_cons, List.dropLast_cons_cons]
      split <;> rfl

include hline in
/-- What the expressions for the end of a pattern with a caret in the last place match. -/
theorem exists_spansAll_closing {k : Nat} :
    (∃ j, SpansAll url (closingRegexes ignoreCase) k j) ↔
      k = url.length ∨ ∃ d ∈ separators, Between url [d] k (k + 1) := by
  have hends : (∃ d ∈ separators, Between url [d] k (k + 1)) ↔
      ∃ c, url[k]? = some c ∧ (caseSet ignoreCase separatorSet).contains c = true := by
    simp only [between_singleton, contains_separatorSet_iff, true_and, and_comm]
  rw [hends]
  exact ⟨fun ⟨_, h⟩ => ends_of_closing h, fun h => ⟨_, closing_of_ends hline h⟩⟩

include hline in
/-- What the expressions of a body match that has to reach the end of the URL if it is tied to
it. -/
theorem exists_spansAll_body (hascii : ∀ c ∈ body, c.toNat < 128) (tiedToEnd : Bool) {k : Nat} :
    (∃ l, SpansAll url (bodyRegexes ignoreCase tiedToEnd body) k l ∧
        (tiedToEnd = true → l = url.length)) ↔
      (∃ ms, List.Forall₂ (StandsFor ignoreCase) body ms ∧
        ∃ l, Between url ms.flatten k l ∧ (tiedToEnd = true → l = url.length)) ∨
      tiedToEnd = false ∧ ∃ first ms, body = first ++ ['^'] ∧
        List.Forall₂ (StandsFor ignoreCase) first ms ∧ Between url ms.flatten k url.length := by
  have hsigns {l : List Char} (hl : ∀ c ∈ l, c.toNat < 128) {i j : Nat} :
      SpansAll url (l.map (signRegex ignoreCase)) i j ↔
        ∃ ms, List.Forall₂ (StandsFor ignoreCase) l ms ∧ Between url ms.flatten i j :=
    spansAll_map fun c hc => takes_sign hline ignoreCase (hl c hc)
  rw [bodyRegexes_eq]
  split
  · rename_i hclosing
    obtain ⟨rfl, hlast⟩ := hclosing
    obtain ⟨first, rfl⟩ := List.getLast?_eq_some_iff.1 hlast
    have hfirst : ∀ c ∈ first, c.toNat < 128 := fun c hc => hascii c (List.mem_append_left _ hc)
    rw [List.dropLast_concat]
    constructor
    · rintro ⟨l, hspans, -⟩
      obtain ⟨i, hspans, hclosing⟩ := spansAll_append.1 hspans
      obtain ⟨ms, hms, hbetween⟩ := (hsigns hfirst).1 hspans
      rcases (exists_spansAll_closing hline ignoreCase).1 ⟨l, hclosing⟩ with rfl | ⟨d, hd, hsep⟩
      · exact .inr ⟨rfl, first, ms, rfl, hms, hbetween⟩
      · refine .inl ⟨ms ++ [[d]], List.rel_append hms (.cons (.caret hd) .nil), i + 1, ?_, nofun⟩
        rw [List.flatten_append, List.flatten_singleton]
        exact between_append.2 ⟨i, hbetween, hsep⟩
    · intro h
      suffices ∃ i ms, List.Forall₂ (StandsFor ignoreCase) first ms ∧ Between url ms.flatten k i ∧
          (i = url.length ∨ ∃ d ∈ separators, Between url [d] i (i + 1)) by
        obtain ⟨i, ms, hms, hbetween, hend⟩ := this
        obtain ⟨l, hclosing⟩ := (exists_spansAll_closing hline ignoreCase).2 hend
        exact ⟨l, spansAll_append.2 ⟨i, (hsigns hfirst).2 ⟨ms, hms, hbetween⟩, hclosing⟩, nofun⟩
      rcases h with ⟨ms, hms, l, hbetween, -⟩ | ⟨-, _, ms, heq, hms, hbetween⟩
      · -- the last part is the separator that the caret stands for
        obtain ⟨ms', last, hms', hcaret, rfl⟩ := exists_of_forall₂_concat hms
        obtain ⟨d, hd, rfl⟩ := exists_separator ignoreCase hcaret
        rw [List.flatten_append, List.flatten_singleton] at hbetween
        obtain ⟨i, hbetween', hsep⟩ := between_append.1 hbetween
        obtain ⟨rfl, -⟩ := between_singleton.1 hsep
        exact ⟨i, ms', hms', hbetween', .inr ⟨d, hd, hsep⟩⟩
      · obtain ⟨rfl, -⟩ := List.append_inj' heq rfl
        exact ⟨_, ms, hms, hbetween, .inl rfl⟩
  · rename_i hclosing
    simp only [hsigns hascii]
    constructor
    · rintro ⟨l, ⟨ms, hms, hbetween⟩, hend⟩
      exact .inl ⟨ms, hms, l, hbetween, hend⟩
    · rintro (⟨ms, hms, l, hbetween, hend⟩ | ⟨htied, first, ms, rfl, -⟩)
      · exact ⟨l, ⟨ms, hms, hbetween⟩, hend⟩
      · exact absurd ⟨htied, List.getLast?_concat⟩ hclosing

end

/-! ## Finding a pattern -/

theorem Start.Opens.mem {start : Start} {p rest : List Char} (h : start.Opens p rest) {c : Char}
    (hc : c ∈ rest) : c ∈ p := by
  cases h with
  | host => exact .tail _ (.tail _ hc)
  | url => exact .tail _ hc
  | anywhere => exact hc

theorem Parts.IsOf.mem {q : Parts} {p rest lead trail : List Char} (h : q.IsOf p rest lead trail)
    {c : Char} (hc : c ∈ q.body) : c ∈ p := by
  refine h.opens.mem ?_
  rw [h.eq]
  exact List.mem_append_left _ (List.mem_append_left _ (List.mem_append_right _ hc))

theorem exists_spansAll_end {url : List Char} (tiedToEnd : Bool) {l : Nat} (hl : l ≤ url.length) :
    (∃ j, SpansAll url (if tiedToEnd then [.anchor .textEnd] else []) l j) ↔
      (tiedToEnd = true → l = url.length) := by
  cases tiedToEnd with
  | false => exact ⟨fun _ => nofun, fun _ => ⟨l, rfl, hl⟩⟩
  | true =>
    constructor
    · rintro ⟨j, k, hend, -⟩ -
      exact (spans_textEnd.1 hend).2
    · intro h
      exact ⟨l, l, spans_textEnd.2 ⟨rfl, h rfl⟩, rfl, hl⟩

/-- The expression of a pattern is found in the URLs that match its parts. -/
theorem found_iff {p url : List Char} (hascii : ∀ c ∈ (parts p).body, c.toNat < 128)
    (hline : '\n' ∉ url) (ignoreCase : Bool) :
    Found ignoreCase p url ↔ (parts p).Matches ignoreCase url := by
  unfold Found
  rw [regexes]
  generalize parts p = q at hascii ⊢
  split
  · rename_i hall
    subst hall
    refine iff_of_true ⟨0, 0, 0, ?_, rfl, Nat.zero_le _⟩ ⟨[], [], url, rfl, .anywhere _,
      fun h => absurd h Bool.false_ne_true, ?_⟩
    · exact (takes_star_anyChar hline 0 0).2 ⟨[], trivial, between_nil.2 ⟨rfl, Nat.zero_le _⟩⟩
    · exact .inl .nil
  constructor
  · rintro ⟨i, j, hspans⟩
    obtain ⟨l, hspans, hend⟩ := spansAll_append.1 hspans
    obtain ⟨k, hstart, hbody⟩ := spansAll_append.1 hspans
    obtain ⟨front, hadmits, hfront⟩ := (exists_spansAll_start ignoreCase q.start).1 ⟨i, hstart⟩
    have hl := (exists_spansAll_end q.tiedToEnd hbody.le_length).1 ⟨j, hend⟩
    rcases (exists_spansAll_body hline ignoreCase hascii q.tiedToEnd).1 ⟨l, hbody, hl⟩ with
      ⟨ms, hms, l, hbetween, hl⟩ | ⟨htied, first, ms, heq, hms, hbetween⟩
    · obtain ⟨back, hurl, hback⟩ := exists_between_iff.1 ⟨k, l, hfront, hbetween, hl⟩
      exact ⟨front, ms, back, hurl, hadmits, hback, .inl hms⟩
    · obtain ⟨back, hurl, hback⟩ :=
        (exists_between_iff (E := True)).1 ⟨k, _, hfront, hbetween, fun _ => rfl⟩
      obtain rfl := hback trivial
      exact ⟨front, ms, [], hurl, hadmits, fun _ => rfl, .inr ⟨htied, rfl, first, heq, hms⟩⟩
  · rintro ⟨front, ms, back, hurl, hadmits, hback, hbody⟩
    suffices ∃ k, Between url front 0 k ∧ ∃ l, SpansAll url
        (bodyRegexes ignoreCase q.tiedToEnd q.body) k l ∧ (q.tiedToEnd = true → l = url.length) by
      obtain ⟨k, hfront, l, hbody, hl⟩ := this
      obtain ⟨i, hstart⟩ := (exists_spansAll_start ignoreCase q.start).2 ⟨front, hadmits, hfront⟩
      obtain ⟨j, hend⟩ := (exists_spansAll_end q.tiedToEnd hbody.le_length).2 hl
      exact ⟨i, j, spansAll_append.2 ⟨l, spansAll_append.2 ⟨k, hstart, hbody⟩, hend⟩⟩
    rcases hbody with hms | ⟨htied, rfl, first, heq, hms⟩
    · obtain ⟨k, l, hfront, hbetween, hl⟩ := exists_between_iff.2 ⟨back, hurl, hback⟩
      exact ⟨k, hfront, (exists_spansAll_body hline ignoreCase hascii q.tiedToEnd).2
        (.inl ⟨ms, hms, l, hbetween, hl⟩)⟩
    · obtain ⟨k, l, hfront, hbetween, hl⟩ :=
        (exists_between_iff (E := True)).2 ⟨[], hurl, fun _ => rfl⟩
      obtain rfl := hl trivial
      exact ⟨k, hfront, (exists_spansAll_body hline ignoreCase hascii q.tiedToEnd).2
        (.inr ⟨htied, first, ms, heq, hms, hbetween⟩)⟩

/-- The expression of an ASCII pattern can be read, and is found in the URLs without a line feed
that match the pattern, taken apart in the one way there is. -/
theorem expr_means {p : List Char} (hascii : Text.isAscii p = true) (ignoreCase : Bool) :
    ∃ r, read? ignoreCase (expr p) = some r ∧
      ∃ q : Parts, (∃ rest lead trail, q.IsOf p rest lead trail) ∧
        (∀ q' : Parts, ∀ rest lead trail, q'.IsOf p rest lead trail → q' = q) ∧
        ∀ url, '\n' ∉ url → (r.occursIn url = true ↔ q.Matches ignoreCase url) := by
  obtain ⟨q, rest, lead, trail, hq⟩ := exists_isOf p
  refine ⟨_, read?_expr ignoreCase p, q, ⟨rest, lead, trail, hq⟩, ?_, ?_⟩
  · intro q' rest' lead' trail' hq'
    rw [← hq'.eq_parts, hq.eq_parts]
  · intro url hline
    have hbody : ∀ c ∈ (parts p).body, c.toNat < 128 := by
      intro c hc
      rw [hq.eq_parts] at hc
      have hlt : c.val < 128 := by simpa using List.all_eq_true.1 hascii c (hq.mem hc)
      exact UInt32.lt_iff_toNat_lt.1 hlt
    have hfound := found_iff hbody hline ignoreCase
    rw [hq.eq_parts] at hfound
    rw [← hfound, ← any_occursIn_expr, read?_expr, Option.any_some]

/-- The last caret stands for the end of the URL, and letters do not differ by case. -/
theorem expr_means_caret :
    let p := "||ads.com^".toList
    let url := "https://x.ADS.com".toList
    Text.isAscii p = true ∧ '\n' ∉ url ∧ ∃ r, read? true (expr p) = some r ∧
      r.occursIn url = true := by
  intro p url
  have hascii : Text.isAscii p = true := by decide
  have hline : '\n' ∉ url := by decide
  obtain ⟨r, hr, q, ⟨rest, lead, trail, hq⟩, -, hmeans⟩ := expr_means hascii true
  have hparts : q = ⟨.host, "ads.com^".toList, false⟩ := by
    rw [← hq.eq_parts]
    decide
  refine ⟨hascii, hline, r, hr, (hmeans url hline).2 ?_⟩
  have hsame (c d : Char) (h : c ≠ '*' ∧ c ≠ '^' ∧ c.isAlpha = true ∧ d ∈ CaseGroup.ofLetter c) :
      StandsFor true c [d] :=
    .same h.1 h.2.1 (.inr ⟨rfl, h.2.2⟩)
  have hadmits : Start.host.Admits true "https://x.".toList := by
    refine @Start.Admits.host true "https".toList [['x']] (by decide) ?_ ?_
    · intro d hd
      have hscheme : ∀ d ∈ "https".toList, d ∈ ['h', 't', 'p', 's', 'w'] :=
        List.all_iff_forall_prop.1 (by decide)
      exact ⟨d, hscheme d hd, .inl rfl⟩
    · intro label hlabel
      obtain rfl := List.mem_singleton.1 hlabel
      refine ⟨by decide, fun d hd => ⟨d, ?_, .inl rfl⟩⟩
      rw [List.mem_singleton.1 hd]
      exact .inl (by decide)
  rw [hparts]
  refine ⟨_, [['A'], ['D'], ['S'], ['.'], ['c'], ['o'], ['m']], [], rfl, hadmits, nofun,
    .inr ⟨rfl, rfl, "ads.com".toList, rfl, ?_⟩⟩
  exact .cons (hsame _ _ (by decide)) (.cons (hsame _ _ (by decide)) (.cons (hsame _ _ (by decide))
    (.cons (.same (by decide) (by decide) (.inl rfl)) (.cons (hsame _ _ (by decide))
      (.cons (hsame _ _ (by decide)) (.cons (hsame _ _ (by decide)) .nil))))))

end Pattern

end ContentRules
