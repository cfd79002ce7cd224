import ContentRules.Proofs.Pattern.IgnoringCase
import ContentRules.Proofs.Regex.Parts
import ContentRules.Native.Subsumption

/-!
Patterns that name a host. A URL reaches a host if a match of two bars and the host ends in the URL
at a separator or at its end. Every pattern that names a host only matches URLs that reach it, a
pattern that names a host and no more matches all of them, and a URL that reaches a host also
reaches the host without the labels in front. Two patterns with one expression name one host. Main
statements: `ReachesHost.of_found`, `ReachesHost.found`, `ReachesHost.of_above` and
`host_eq_of_expr_eq`.
-/

namespace ContentRules.Pattern

open Regex

/-- The characters of host names in patterns. -/
def isHostChar (c : Char) : Bool := c.isAlphanum || c == '.' || c == '-' || c == '_'

theorem toNat_lt_of_isAlphanum {c : Char} (hc : c.isAlphanum = true) : c.toNat < 128 := by
  delta Char.isAlphanum Char.isAlpha Char.isUpper Char.isLower Char.isDigit at hc
  simp only [Bool.or_eq_true, Bool.and_eq_true, decide_eq_true_eq, UInt32.le_iff_toNat_le,
    Char.reduceVal, UInt32.reduceToNat] at hc
  have : c.toNat = c.val.toNat := rfl
  omega

theorem toNat_lt_of_isHostChar {c : Char} (hc : isHostChar c = true) : c.toNat < 128 := by
  simp only [isHostChar, Bool.or_eq_true, beq_iff_eq] at hc
  rcases hc with ((hc | rfl) | rfl) | rfl
  · exact toNat_lt_of_isAlphanum hc
  all_goals decide

theorem ne_of_isHostChar {c d : Char} (hc : isHostChar c = true) (hd : isHostChar d = false) :
    c ≠ d := by
  rintro rfl
  cases hc.symm.trans hd

/-- What a pattern holds that names a host: the name, and after it a character that ends it. -/
structure NamesHost (p name : List Char) (stop : Char) (rest : List Char) : Prop where
  eq : p = '|' :: '|' :: (name ++ stop :: rest)
  chars : ∀ c ∈ name, isHostChar c = true
  stops : stop = '^' ∨ stop = '/' ∨ stop = ':'

theorem host?_eq_some {p host : List Char} {pure : Bool} (h : host? p = some (host, pure)) :
    ∃ name stop rest, NamesHost p name stop rest ∧ host = Text.lower name ∧
      (pure = true → stop = '^' ∧ rest = []) := by
  unfold host? at h
  split at h
  · rename_i rest
    dsimp only at h
    split at h
    · rename_i c r hdrop
      have hsplit := List.takeWhile_append_dropWhile (p := isHostChar) (l := rest)
      rw [show rest.dropWhile isHostChar = c :: r from hdrop] at hsplit
      split at h
      · rename_i hstop
        obtain ⟨rfl, rfl⟩ := Prod.mk.inj (Option.some.inj h)
        simp only [Bool.and_eq_true, Bool.or_eq_true, beq_iff_eq, or_assoc] at hstop
        refine ⟨rest.takeWhile isHostChar, c, r, ⟨?_, ?_, hstop.2⟩, rfl, ?_⟩
        · rw [hsplit]
        · intro x hx
          exact List.all_eq_true.1 List.all_takeWhile x hx
        · simp
      · cases h
    · cases h
  · cases h

/-- A name between two bars and a caret is the host, and the pattern says no more. -/
theorem host?_bars {name : List Char} (hne : name ≠ []) (hname : ∀ c ∈ name, isHostChar c = true) :
    host? ('|' :: '|' :: (name ++ ['^'])) = some (Text.lower name, true) := by
  have htake : (name ++ ['^']).takeWhile isHostChar = name := by
    rw [List.takeWhile_append_of_pos hname, List.takeWhile_cons_of_neg (by decide), List.append_nil]
  have hdrop : (name ++ ['^']).dropWhile isHostChar = ['^'] := by
    rw [List.dropWhile_append_of_pos hname, List.dropWhile_cons_of_neg (by decide)]
  delta isHostChar at htake hdrop
  simp only [host?, hdrop, htake]
  simp [hne, Text.lower]

/-- The parts of a pattern that starts with two bars. -/
theorem parts_bars (r : List Char) :
    parts ('|' :: '|' :: r) =
      if r.getLast? = some '|' then ⟨.host, r.dropLast, true⟩
      else ⟨.host, (r.reverse.dropWhile isStar).reverse, false⟩ := by
  have hstart : (Start.host == Start.anywhere) = false := rfl
  by_cases h : r.getLast? = some '|'
  · simp [parts, h, hstart]
  · simp [parts, h, hstart]

theorem dropWhile_reverse_append_cons {q : Char → Bool} {c : Char} (hc : q c = false)
    (s t : List Char) :
    ((s ++ c :: t).reverse.dropWhile q).reverse = s ++ c :: (t.reverse.dropWhile q).reverse := by
  rw [List.reverse_append, List.reverse_cons, List.append_assoc, List.dropWhile_append]
  split
  · rename_i h
    rw [List.isEmpty_iff.1 h, List.singleton_append, List.dropWhile_cons_of_neg (by simp [hc])]
    simp
  · simp

section
variable {p name rest : List Char} {stop : Char} (h : NamesHost p name stop rest)
include h

/-- The parts of a pattern that names a host. -/
theorem NamesHost.parts_eq :
    ∃ tail tied, parts p = ⟨.host, name ++ stop :: tail, tied⟩ ∧
      (rest = [] → tail = [] ∧ tied = false) := by
  have hstar : isStar stop = false := by
    rcases h.stops with rfl | rfl | rfl <;> rfl
  have hbar : stop ≠ '|' := by
    rcases h.stops with rfl | rfl | rfl <;> decide
  rw [h.eq, parts_bars]
  by_cases hlast : (name ++ stop :: rest).getLast? = some '|'
  · have hrest : rest ≠ [] := by
      rintro rfl
      rw [List.getLast?_append_of_ne_nil _ (List.cons_ne_nil _ _)] at hlast
      exact hbar (Option.some.inj hlast)
    refine ⟨rest.dropLast, true, ?_, fun h => absurd h hrest⟩
    rw [if_pos hlast, List.dropLast_append_of_ne_nil (List.cons_ne_nil _ _),
      List.dropLast_cons_of_ne_nil hrest]
  · refine ⟨(rest.reverse.dropWhile isStar).reverse, false, ?_, ?_⟩
    · rw [if_neg hlast, dropWhile_reverse_append_cons hstar]
    · rintro rfl
      exact ⟨rfl, rfl⟩

end

/-! ## The expressions of a host -/

theorem bodyRegexes_append (ignoreCase tied : Bool) {name : List Char}
    (hname : ∀ c ∈ name, isHostChar c = true) (s : List Char) :
    bodyRegexes ignoreCase tied (name ++ s) =
      name.map (literalRegex ignoreCase) ++ bodyRegexes ignoreCase tied s := by
  induction name with
  | nil => rfl
  | cons c name ih =>
    have hc := hname c (.head _)
    have hstar := ne_of_isHostChar hc (show isHostChar '*' = false from rfl)
    have hcaret := ne_of_isHostChar hc (show isHostChar '^' = false from rfl)
    rw [List.cons_append, bodyRegexes, ih fun d hd => hname d (.tail _ hd), signRegex, if_neg hstar,
      if_neg hcaret, List.map_cons, List.cons_append]
    intro hc _
    exact hcaret hc

theorem bodyExpr_append (tied : Bool) {name : List Char} (hname : ∀ c ∈ name, isHostChar c = true)
    (s : List Char) : bodyExpr tied (name ++ s) = name.flatMap charExpr ++ bodyExpr tied s := by
  induction name with
  | nil => rfl
  | cons c name ih =>
    have hcaret := ne_of_isHostChar (hname c (.head _)) (show isHostChar '^' = false from rfl)
    rw [List.cons_append, bodyExpr, ih fun d hd => hname d (.tail _ hd), List.flatMap_cons,
      List.append_assoc]
    intro hc _
    exact hcaret hc

/-- The expressions for what follows the name of a host. -/
def endRegexes (ignoreCase tied : Bool) (body : List Char) : List Regex :=
  bodyRegexes ignoreCase tied body ++ (if tied then [.anchor .textEnd] else [])

/-- The expression for what follows the name of a host. -/
def endExpr (tied : Bool) (body : List Char) : List Char :=
  bodyExpr tied body ++ (if tied then ['$'] else [])

section
variable {p name tail : List Char} {stop : Char} {tied : Bool}
  (hname : ∀ c ∈ name, isHostChar c = true) (hparts : parts p = ⟨.host, name ++ stop :: tail, tied⟩)
include hname hparts

theorem regexes_of_parts (ignoreCase : Bool) :
    regexes ignoreCase p = Start.host.regexes ignoreCase ++ name.map (literalRegex ignoreCase) ++
      endRegexes ignoreCase tied (stop :: tail) := by
  rw [regexes, hparts]
  dsimp only
  rw [if_neg (by simp), bodyRegexes_append ignoreCase tied hname, endRegexes]
  simp only [List.append_assoc]

theorem expr_of_parts :
    expr p = hostAnchor ++ (name.flatMap charExpr ++ endExpr tied (stop :: tail)) := by
  rw [expr, hparts]
  dsimp only
  rw [if_neg (by simp), bodyExpr_append tied hname, endExpr, Start.expr]
  simp only [List.append_assoc]

end

/-! ## URLs that reach a host -/

/-- The place is the end of the URL, or a separator stands there. -/
def EndsHost (url : List Char) (place : Nat) : Prop :=
  place = url.length ∨
    ∃ c, url[place]? = some c ∧ (caseSet true separatorSet).contains c = true

/-- A match of two bars and the host ends where a host can end. -/
def ReachesHost (host url : List Char) : Prop :=
  ∃ i k j, SpansAll url (Start.host.regexes true) i k ∧
    SpansAll url (host.map (literalRegex true)) k j ∧ EndsHost url j

section
variable {url : List Char}

/-- Without line feeds, a star matches every part of a text. -/
theorem takes_star_anyChar (hline : '\n' ∉ url) : Takes url (.star anyChar) fun _ => True := by
  intro i j
  rw [Regex.star, anyChar, takes_repeated_chars url _ 0 i j]
  constructor
  · rintro ⟨m, -, hbetween⟩
    exact ⟨m, trivial, hbetween⟩
  · rintro ⟨m, -, hbetween⟩
    refine ⟨m, ⟨Nat.zero_le _, fun c hc => ?_⟩, hbetween⟩
    rw [CharSet.contains, CharSet.contains_char, Bool.not_eq_true', beq_eq_false_iff_ne]
    rintro rfl
    exact hline (hbetween.mem hc)

/-- A caret at the end of a pattern only matches at the end of the URL or at a separator. -/
theorem ends_of_closing {ignoreCase : Bool} {k j : Nat}
    (h : SpansAll url (closingRegexes ignoreCase) k j) :
    k = url.length ∨
    ∃ c, url[k]? = some c ∧ (caseSet ignoreCase separatorSet).contains c = true := by
  obtain ⟨l, hopt, m, hend, -⟩ := h
  obtain ⟨-, n, -, -, hreached⟩ := spans_repeated.1 hopt
  cases n with
  | zero =>
    obtain rfl := hreached
    exact .inl (spans_textEnd.1 hend).2
  | succ n =>
    obtain ⟨_, hstep, -⟩ := hreached
    obtain ⟨_, hsep, -⟩ := spans_seq.1 hstep
    exact .inr (spans_chars.1 hsep).2

/-- At the end of the URL and at a separator, a caret at the end of a pattern
matches what is left. -/
theorem closing_of_ends {ignoreCase : Bool} {k : Nat} (hline : '\n' ∉ url)
    (h : k = url.length ∨
      ∃ c, url[k]? = some c ∧ (caseSet ignoreCase separatorSet).contains c = true) :
    SpansAll url (closingRegexes ignoreCase) k url.length := by
  have hend : Spans url (.anchor .textEnd) url.length url.length := spans_textEnd.2 ⟨rfl, rfl⟩
  refine ⟨url.length, ?_, url.length, hend, rfl, Nat.le_refl _⟩
  rcases h with rfl | ⟨c, hc, hsep⟩
  · exact spans_repeated.2 ⟨Nat.le_refl _, 0, Nat.le_refl _, by simp, rfl⟩
  · have hlt := (List.getElem?_eq_some_iff.1 hc).1
    have hfirst := spans_chars.2 ⟨rfl, c, hc, hsep⟩
    have hrest := (takes_star_anyChar hline (k + 1) url.length).2 ⟨_, trivial, between_drop hlt⟩
    refine spans_repeated.2 ⟨Nat.le_of_lt hlt, 1, Nat.zero_le _, by simp, url.length, ?_, rfl⟩
    exact spans_seq.2 ⟨k + 1, hfirst, hrest⟩

theorem EndsHost.of_spans_chars {k j : Nat}
    (h : Spans url (.chars (caseSet true separatorSet)) k j) :
    EndsHost url k := .inr (spans_chars.1 h).2

/-- A character that ends the name of a host is a separator. -/
theorem EndsHost.of_stop {stop : Char} (hstop : stop = '^' ∨ stop = '/' ∨ stop = ':') {k j : Nat}
    (h : Spans url (signRegex true stop) k j) : EndsHost url k := by
  have hliteral (hsep : separatorSet.contains stop = true) :
      (literalRegex true stop).Le (.chars (caseSet true separatorSet)) := by
    refine Le.chars fun c hc => ?_
    obtain ⟨d, hd, hd'⟩ := List.any_eq_true.1 hc
    rw [CharSet.contains_char, beq_iff_eq] at hd'
    exact List.any_eq_true.2 ⟨d, hd, hd' ▸ hsep⟩
  rcases hstop with rfl | rfl | rfl
  · exact .of_spans_chars h
  · exact .of_spans_chars (hliteral (by decide) url k j h)
  · exact .of_spans_chars (hliteral (by decide) url k j h)

/-- What follows the name of a host in a pattern only matches where a host ends. -/
theorem EndsHost.of_end {stop : Char} (hstop : stop = '^' ∨ stop = '/' ∨ stop = ':') {tied : Bool}
    {tail : List Char} {k j : Nat} (h : SpansAll url (endRegexes true tied (stop :: tail)) k j) :
    EndsHost url k := by
  by_cases hclosing : tied = false ∧ stop = '^' ∧ tail = []
  · obtain ⟨rfl, rfl, rfl⟩ := hclosing
    rw [endRegexes, if_neg Bool.false_ne_true, List.append_nil] at h
    exact ends_of_closing h
  · have hfirst : ∃ rest, endRegexes true tied (stop :: tail) = signRegex true stop :: rest := by
      rw [endRegexes]
      cases tied with
      | true =>
        cases tail with
        | nil =>
          rcases hstop with rfl | rfl | rfl <;> exact ⟨_, rfl⟩
        | cons c tail =>
          rw [bodyRegexes]
          · exact ⟨_, rfl⟩
          · simp
      | false =>
        rw [bodyRegexes]
        · exact ⟨_, rfl⟩
        · intro hstop htail
          exact hclosing ⟨rfl, hstop, htail⟩
    obtain ⟨rest, hrest⟩ := hfirst
    rw [hrest] at h
    obtain ⟨_, hstop', -⟩ := h
    exact .of_stop hstop hstop'

end

/-! ## Literal characters -/

section
variable {c : Char}

theorem contains_literal {x : Char} :
    (caseSet true (.char c)).contains x = true ↔ c ∈ Unicode.CaseGroup.variants x := by
  rw [caseSet, if_pos rfl, CharSet.contains, List.any_eq_true]
  simp only [CharSet.contains_char, beq_iff_eq]
  exact exists_eq_right'

theorem le_literalRegex (hc : isHostChar c = true) :
    (literalRegex true c).Le (literalRegex true c.toLower) ∧
      (literalRegex true c.toLower).Le (literalRegex true c) := by
  have hvariants (x : Char) := Unicode.CaseGroup.toLower_mem_variants (toNat_lt_of_isHostChar hc) x
  constructor
  · refine Le.chars fun x hx => ?_
    rw [contains_literal] at hx ⊢
    exact (hvariants x).2 hx
  · refine Le.chars fun x hx => ?_
    rw [contains_literal] at hx ⊢
    exact (hvariants x).1 hx

theorem le_map_literalRegex {name : List Char} (hname : ∀ c ∈ name, isHostChar c = true) :
    List.Forall₂ Le (name.map (literalRegex true)) ((Text.lower name).map (literalRegex true)) ∧
      List.Forall₂ Le ((Text.lower name).map (literalRegex true))
        (name.map (literalRegex true)) := by
  induction name with
  | nil => exact ⟨.nil, .nil⟩
  | cons c name ih =>
    obtain ⟨hto, hfrom⟩ := le_literalRegex (hname c (.head _))
    obtain ⟨ihto, ihfrom⟩ := ih fun d hd => hname d (.tail _ hd)
    exact ⟨.cons hto ihto, .cons hfrom ihfrom⟩

theorem contains_labelSet_ascii :
    ∀ n < 128, ((Char.ofNat n).isAlphanum || Char.ofNat n == '-') = true →
      (Char.ofNat n).toLower = Char.ofNat n → labelSet.contains (Char.ofNat n) = true := by
  decide +kernel

/-- A small letter, digit or hyphen may stand in a label. -/
theorem le_labelRegex (hc : (c.isAlphanum || c == '-') = true) (hlower : c.toLower = c) :
    (literalRegex true c).Le (.chars (caseSet true labelSet)) := by
  have hascii : c.toNat < 128 := by
    rcases Bool.or_eq_true_iff.1 hc with h | h
    · exact toNat_lt_of_isAlphanum h
    · rw [beq_iff_eq.1 h]
      decide
  have hlabel := contains_labelSet_ascii c.toNat hascii
  rw [Char.ofNat_toNat] at hlabel
  refine Le.chars fun x hx => ?_
  rw [contains_literal] at hx
  exact List.any_eq_true.2 ⟨c, hx, hlabel hc hlower⟩

end

/-! ## Patterns and the hosts that they name -/

section
variable {p host url : List Char}

/-- A URL that a pattern matches reaches the host that the pattern names. -/
theorem ReachesHost.of_found {pure ignoreCase : Bool} (hhost : host? p = some (host, pure))
    (h : Found ignoreCase p url) : ReachesHost host url := by
  obtain ⟨name, stop, rest, hnames, rfl, -⟩ := host?_eq_some hhost
  obtain ⟨tail, tied, hparts, -⟩ := hnames.parts_eq
  obtain ⟨i, j, hspans⟩ : Found true p url := by
    cases ignoreCase with
    | false => exact found_ignoringCase h
    | true => exact h
  rw [regexes_of_parts hnames.chars hparts] at hspans
  obtain ⟨l, hspans, hend⟩ := spansAll_append.1 hspans
  obtain ⟨k, hstart, hname⟩ := spansAll_append.1 hspans
  exact ⟨i, k, l, hstart, hname.mono (le_map_literalRegex hnames.chars).1,
    .of_end hnames.stops hend⟩

/-- A pattern that names a host and no more matches every URL that reaches the host. -/
theorem ReachesHost.found (hhost : host? p = some (host, true)) (hline : '\n' ∉ url)
    (h : ReachesHost host url) : Found true p url := by
  obtain ⟨name, stop, rest, hnames, rfl, hpure⟩ := host?_eq_some hhost
  obtain ⟨rfl, rfl⟩ := hpure rfl
  obtain ⟨tail, tied, hparts, htail⟩ := hnames.parts_eq
  obtain ⟨rfl, rfl⟩ := htail rfl
  obtain ⟨i, k, l, hstart, hname, hend⟩ := h
  refine ⟨i, url.length, ?_⟩
  rw [regexes_of_parts hnames.chars hparts]
  refine spansAll_append.2 ⟨l, spansAll_append.2 ⟨k, hstart, ?_⟩, closing_of_ends hline hend⟩
  exact hname.mono (le_map_literalRegex hnames.chars).2

/-! ## Hosts above others -/

/-- The second host is the first one with plain labels in front. -/
def Above (host below : List Char) : Prop :=
  ∃ labels : List (List Char), (∀ l ∈ labels, CompiledEntry.isPlainLabel l = true) ∧
    below = labels.flatMap (· ++ ['.']) ++ host

theorem Above.refl (host : List Char) : Above host host := ⟨[], by simp, rfl⟩

theorem Above.trans {a b c : List Char} (h : Above a b) (h' : Above b c) : Above a c := by
  obtain ⟨labels, hplain, rfl⟩ := h
  obtain ⟨labels', hplain', rfl⟩ := h'
  refine ⟨labels' ++ labels, ?_, by rw [List.flatMap_append, List.append_assoc]⟩
  intro l hl
  rcases List.mem_append.1 hl with hl | hl
  · exact hplain' l hl
  · exact hplain l hl

/-- A URL that reaches a host reaches the host without its first label. -/
theorem ReachesHost.of_label {l : List Char} (hplain : CompiledEntry.isPlainLabel l = true)
    (hlower : Text.lower l = l) (h : ReachesHost (l ++ '.' :: host) url) :
    ReachesHost host url := by
  obtain ⟨i, k, j, hstart, hall, hend⟩ := h
  rw [List.map_append] at hall
  obtain ⟨m, hlabel, m', hdot, hname⟩ := spansAll_append.1 hall
  rw [CompiledEntry.isPlainLabel, Bool.and_eq_true, Bool.not_eq_true', List.all_eq_true] at hplain
  have hsmall := List.map_inj_left.1 (hlower.trans (List.map_id l).symm)
  have hchars : ∀ r ∈ l.map (literalRegex true), r.Le (.chars (caseSet true labelSet)) := by
    intro r hr
    obtain ⟨c, hc, rfl⟩ := List.mem_map.1 hr
    exact le_labelRegex (hplain.2 c hc) (hsmall c hc)
  have hplus : Spans url (plus (.chars (caseSet true labelSet))) k m := by
    refine spans_repeated.2 ⟨hlabel.start_le_length, _, ?_, by simp, hlabel.reached hchars⟩
    rw [List.length_map]
    exact List.length_pos_iff.2 (by simpa using hplain.1)
  have hturn := spans_seq.2 ⟨m, hplus, hdot⟩
  -- the label and the dot are one more turn of the star at the end of the start
  obtain ⟨_, hanchor, _, hscheme, _, hcolon, _, hslash, l', hslash', k', hstar, rfl, -⟩ := hstart
  obtain ⟨hle, n, -, -, hreached⟩ := spans_repeated.1 hstar
  have hstar' :
      Spans url (star (.seq (plus (.chars (caseSet true labelSet))) (literalRegex true '.')))
      l' m' := by
    refine spans_repeated.2 ⟨hle, n + 1, Nat.zero_le _, by simp, ?_⟩
    exact hreached.add ⟨m', hturn, rfl⟩
  exact ⟨i, m', j, ⟨_, hanchor, _, hscheme, _, hcolon, _, hslash, _, hslash', m', hstar', rfl,
    hname.start_le_length⟩, hname, hend⟩

/-- A URL that reaches a host reaches the hosts above it. -/
theorem ReachesHost.of_above {below : List Char} (habove : Above host below)
    (hlower : Text.lower below = below) (h : ReachesHost below url) : ReachesHost host url := by
  obtain ⟨labels, hplain, rfl⟩ := habove
  induction labels with
  | nil => exact h
  | cons l labels ih =>
    rw [List.flatMap_cons, List.append_assoc, List.append_assoc] at h hlower
    rw [Text.lower_append] at hlower
    obtain ⟨hl, hrest⟩ := List.append_inj hlower (Text.length_lower l)
    have hrest :
        Text.lower (labels.flatMap (· ++ ['.']) ++ host) = labels.flatMap (· ++ ['.']) ++ host :=
      (List.cons.inj hrest).2
    exact ih (fun l hl => hplain l (.tail _ hl)) hrest (h.of_label (hplain l (.head _)) hl)

end

/-! ## Hosts from expressions -/

theorem isMeta_ascii :
    ∀ n < 128, isHostChar (Char.ofNat n) = true →
      isMeta (Char.ofNat n) = (Char.ofNat n == '.') := by
  decide +kernel

/-- Of the characters of hosts only the dot is escaped. -/
theorem charExpr_of_isHostChar {c : Char} (hc : isHostChar c = true) :
    charExpr c = if c = '.' then ['\\', '.'] else [c] := by
  have hmeta := isMeta_ascii c.toNat (toNat_lt_of_isHostChar hc)
  rw [Char.ofNat_toNat] at hmeta
  rw [charExpr, if_neg (ne_of_isHostChar hc rfl), if_neg (ne_of_isHostChar hc rfl), hmeta hc]
  by_cases hdot : c = '.'
  · simp [hdot]
  · simp [hdot]

/-- What follows the name of a host starts with a bracket, a colon or an escaped slash. -/
theorem endExpr_eq {stop : Char} (hstop : stop = '^' ∨ stop = '/' ∨ stop = ':') (tied : Bool)
    (tail : List Char) :
    ∃ d r, endExpr tied (stop :: tail) = d :: r ∧
      (d = '[' ∨ d = '(' ∨ d = ':' ∨ d = '\\' ∧ r.head? = some '/') := by
  by_cases hclosing : stop = '^' ∧ tail = []
  · obtain ⟨rfl, rfl⟩ := hclosing
    cases tied with
    | false =>
      rw [endExpr, bodyExpr, if_neg Bool.false_ne_true, closingSeparator_eq]
      exact ⟨_, _, rfl, .inr (.inl rfl)⟩
    | true =>
      rw [endExpr, bodyExpr, if_pos rfl, separator_eq]
      exact ⟨_, _, rfl, .inl rfl⟩
  rw [endExpr, bodyExpr]
  · rcases hstop with rfl | rfl | rfl
    · rw [show charExpr '^' = separator from rfl, separator_eq]
      exact ⟨_, _, rfl, .inl rfl⟩
    · exact ⟨_, _, rfl, .inr (.inr (.inr ⟨rfl, rfl⟩))⟩
    · exact ⟨_, _, rfl, .inr (.inr (.inl rfl))⟩
  · intro hstop htail
    exact hclosing ⟨hstop, htail⟩

/-- What follows the name of a host does not go on as a name. -/
theorem endExpr_ne {stop : Char} (hstop : stop = '^' ∨ stop = '/' ∨ stop = ':') (tied : Bool)
    (tail : List Char) {c : Char} (hc : isHostChar c = true) (s : List Char) :
    endExpr tied (stop :: tail) ≠ charExpr c ++ s := by
  obtain ⟨d, r, hr, hd⟩ := endExpr_eq hstop tied tail
  rw [hr, charExpr_of_isHostChar hc]
  intro h
  by_cases hdot : c = '.'
  · rw [if_pos hdot] at h
    obtain ⟨rfl, rfl⟩ := List.cons.inj h
    rcases hd with hd | hd | hd | ⟨-, hd⟩
    · cases hd
    · cases hd
    · cases hd
    · cases hd
  · rw [if_neg hdot] at h
    obtain ⟨rfl, -⟩ := List.cons.inj h
    rcases hd with rfl | rfl | rfl | ⟨rfl, -⟩ <;> cases hc

theorem charExpr_append_inj {c d : Char} (hc : isHostChar c = true) (hd : isHostChar d = true)
    {s t : List Char} (h : charExpr c ++ s = charExpr d ++ t) : c = d ∧ s = t := by
  rw [charExpr_of_isHostChar hc, charExpr_of_isHostChar hd] at h
  have hslash := ne_of_isHostChar hc (show isHostChar '\\' = false from rfl)
  have hslash' := ne_of_isHostChar hd (show isHostChar '\\' = false from rfl)
  by_cases hdot : c = '.' <;> by_cases hdot' : d = '.'
  · rw [if_pos hdot, if_pos hdot'] at h
    exact ⟨hdot.trans hdot'.symm, List.append_cancel_left h⟩
  · rw [if_pos hdot, if_neg hdot'] at h
    exact absurd (List.cons.inj h).1.symm hslash'
  · rw [if_neg hdot, if_pos hdot'] at h
    exact absurd (List.cons.inj h).1 hslash
  · rw [if_neg hdot, if_neg hdot'] at h
    exact List.cons.inj h

theorem name_eq {name name' t t' : List Char} (hname : ∀ c ∈ name, isHostChar c = true)
    (hname' : ∀ c ∈ name', isHostChar c = true)
    (ht : ∀ c s, isHostChar c = true → t ≠ charExpr c ++ s)
    (ht' : ∀ c s, isHostChar c = true → t' ≠ charExpr c ++ s)
    (h : name.flatMap charExpr ++ t = name'.flatMap charExpr ++ t') : name = name' := by
  induction name generalizing name' with
  | nil =>
    cases name' with
    | nil => rfl
    | cons c' name' =>
      rw [List.flatMap_nil, List.nil_append, List.flatMap_cons, List.append_assoc] at h
      exact absurd h (ht c' _ (hname' c' (.head _)))
  | cons c name ih =>
    have hc := hname c (.head _)
    cases name' with
    | nil =>
      rw [List.flatMap_nil, List.nil_append, List.flatMap_cons, List.append_assoc] at h
      exact absurd h.symm (ht' c _ hc)
    | cons c' name' =>
      have hc' := hname' c' (.head _)
      rw [List.flatMap_cons, List.flatMap_cons, List.append_assoc, List.append_assoc] at h
      obtain ⟨rfl, hrest⟩ := charExpr_append_inj hc hc' h
      rw [ih (fun d hd => hname d (.tail _ hd)) (fun d hd => hname' d (.tail _ hd)) hrest]

/-- Patterns with one expression name one host. -/
theorem host_eq_of_expr_eq {p p' host host' : List Char} {pure pure' : Bool}
    (hhost : host? p = some (host, pure)) (hhost' : host? p' = some (host', pure'))
    (h : expr p = expr p') : host = host' := by
  obtain ⟨name, stop, rest, hnames, rfl, -⟩ := host?_eq_some hhost
  obtain ⟨name', stop', rest', hnames', rfl, -⟩ := host?_eq_some hhost'
  obtain ⟨tail, tied, hparts, -⟩ := hnames.parts_eq
  obtain ⟨tail', tied', hparts', -⟩ := hnames'.parts_eq
  rw [expr_of_parts hnames.chars hparts, expr_of_parts hnames'.chars hparts'] at h
  have hend := fun c s hc => @endExpr_ne stop hnames.stops tied tail c hc s
  have hend' := fun c s hc => @endExpr_ne stop' hnames'.stops tied' tail' c hc s
  rw [name_eq hnames.chars hnames'.chars hend hend' (List.append_cancel_left h)]

end ContentRules.Pattern
