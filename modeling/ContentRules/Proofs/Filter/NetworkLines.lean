import ContentRules.Filter.LineReader
import ContentRules.Proofs.Filter.HostsFiles
import ContentRules.Proofs.Native.Origin
import Mathlib.Data.List.Infix

/-!
How the line of a network rule is told from other lines and taken apart. Main statements:
`CosmeticRule.read?_eq_none_iff`, `NetworkRule.splitOptions_of_cutLast` and
`Rule.read_eq_network_iff`.
-/

namespace ContentRules

/-! ## Lines without cosmetic rules -/

namespace CosmeticRule

theorem markerAt?_eq_none_iff {s : List Char} :
    markerAt? s = none ↔ ∀ m ∈ markers, ¬m.text <+: s := by
  simp only [markerAt?, List.find?_eq_none, List.isPrefixOf_iff_prefix]

/-- The line has no marker, or one with a character before it that no list of sites holds. -/
def IsApart (line : List Char) : Prop :=
  ∀ sites m after, findMarker line = some (sites, m, after) → sites.any isForeign = true

/-- Such lines, and no others, are no cosmetic rules. -/
theorem read?_eq_none_iff {line : List Char} : read? line = .ok none ↔ IsApart line := by
  unfold read? IsApart
  cases findMarker line with
  | none => exact ⟨nofun, fun _ => rfl⟩
  | some found =>
    obtain ⟨sites, m, after⟩ := found
    dsimp only
    constructor
    · rintro h _ _ _ ⟨⟩
      by_contra hforeign
      rw [if_neg hforeign] at h
      split at h
      · cases h
      obtain ⟨_, -, h⟩ := bind_eq_ok.1 h
      obtain ⟨_, -, h⟩ := bind_eq_ok.1 h
      cases h
    · intro h
      rw [if_pos (h _ _ _ rfl)]
      rfl

theorem isApart_cons {c : Char} {r : List Char} :
    IsApart (c :: r) ↔ markerAt? (c :: r) = none ∧ (isForeign c = true ∨ IsApart r) := by
  unfold IsApart
  rw [findMarker]
  cases markerAt? (c :: r) with
  | some m =>
    refine ⟨fun h => ?_, nofun⟩
    cases h _ _ _ rfl
  | none =>
    rw [eq_self_iff_true, true_and, or_iff_not_imp_left]
    dsimp only
    constructor
    · intro h hc sites m after hfound
      have hany := h (c :: sites) m after (by rw [hfound]; rfl)
      rwa [List.any_cons, Bool.eq_false_iff.2 hc, Bool.false_or] at hany
    · intro h sites m after hfound
      obtain ⟨⟨sites', m', after'⟩, hrest, heq⟩ := Option.map_eq_some_iff.1 hfound
      cases heq
      rw [List.any_cons, Bool.or_eq_true, or_iff_not_imp_left]
      exact fun hc => h hc _ _ _ hrest

/-- A dollar sign stands in a marker only before the number sign at its end. -/
theorem eq_of_dollar_suffix {m : Marker} (hm : m ∈ markers) {t : List Char}
    (h : '$' :: t <:+ m.text) : t = ['#'] := by
  have hall : ∀ m ∈ markers, ∀ u ∈ m.text.tails, u.head? = some '$' → u.tail = ['#'] := by decide
  exact hall m hm _ ((List.mem_tails _ _).2 h) rfl

theorem markerAt?_cons_of_ne {c : Char} (hc : c ≠ '#') (r : List Char) :
    markerAt? (c :: r) = none := by
  refine markerAt?_eq_none_iff.2 fun m hm hfront => ?_
  have hhead : ∀ m ∈ markers, m.text.head? = some '#' := by decide
  obtain ⟨t, ht⟩ := List.head?_eq_some_iff.1 (hhead m hm)
  rw [ht] at hfront
  exact hc (List.cons_prefix_cons.1 hfront).1.symm

/-- A line without number signs is no cosmetic rule. -/
theorem isApart_of_not_mem {line : List Char} (h : '#' ∉ line) : IsApart line := by
  induction line with
  | nil => nofun
  | cons c line ih =>
    rw [List.mem_cons, not_or] at h
    exact isApart_cons.2 ⟨markerAt?_cons_of_ne (Ne.symm h.1) line, .inr (ih h.2)⟩

theorem isApart_blanks_append {blanks : List Char} (hblanks : ∀ c ∈ blanks, Text.isBlank c = true)
    (b : List Char) : IsApart (blanks ++ '$' :: b) := by
  induction blanks with
  | nil => exact isApart_cons.2 ⟨markerAt?_cons_of_ne (by decide) _, .inl rfl⟩
  | cons c blanks ih =>
    obtain ⟨hc, hblanks⟩ := List.forall_mem_cons.1 hblanks
    refine isApart_cons.2 ⟨markerAt?_cons_of_ne ?_ _, .inr (ih hblanks)⟩
    rintro rfl
    cases hc

/-- A line stays apart with another end if no marker reaches into it that reached into the end
before. -/
theorem IsApart.append {a s s' : List Char} (h : IsApart (a ++ s)) (hs' : IsApart s')
    (hspan : ∀ m ∈ markers, ∀ c t, c :: t <:+ m.text → c :: t <+: s' → c :: t <+: s) :
    IsApart (a ++ s') := by
  induction a with
  | nil => exact hs'
  | cons c a ih =>
    obtain ⟨hmarker, hrest⟩ := isApart_cons.1 h
    refine isApart_cons.2 ⟨markerAt?_eq_none_iff.2 fun m hm hfront => ?_, hrest.imp_right ih⟩
    apply markerAt?_eq_none_iff.1 hmarker m hm
    change m.text <+: (c :: a) ++ s' at hfront
    change m.text <+: (c :: a) ++ s
    rcases List.prefix_or_prefix_of_prefix hfront (List.prefix_append _ _) with h | ⟨t, ht⟩
    · exact h.trans (List.prefix_append _ _)
    · rw [← ht, List.prefix_append_right_inj] at hfront ⊢
      cases t with
      | nil => exact List.nil_prefix
      | cons d t => exact hspan m hm d t ⟨_, ht⟩ hfront

/-- A line stays apart with options after a dollar sign, unless they start with a number sign where
no number sign stood after a dollar sign. -/
theorem IsApart.append_options {a s blanks b : List Char} (h : IsApart (a ++ s))
    (hblanks : ∀ c ∈ blanks, Text.isBlank c = true)
    (hb : blanks = [] → ['#'] <+: b → ['$', '#'] <+: s) : IsApart (a ++ (blanks ++ '$' :: b)) := by
  refine h.append (isApart_blanks_append hblanks b) fun m hm c t hsuffix hfront => ?_
  cases blanks with
  | nil =>
    obtain ⟨rfl, hsharp⟩ := List.cons_prefix_cons.1 hfront
    rw [eq_of_dollar_suffix hm hsuffix] at hsharp ⊢
    exact hb rfl hsharp
  | cons d blanks =>
    obtain ⟨rfl, -⟩ := List.cons_prefix_cons.1 hfront
    have hvisible : markers.all (fun m => m.text.all (!Text.isBlank ·)) = true := by decide
    have hc := List.all_eq_true.1 (List.all_eq_true.1 hvisible m hm) c (hsuffix.subset (.head _))
    rw [hblanks c (.head _)] at hc
    cases hc

end CosmeticRule

namespace NetworkRule

/-! ## Where options start -/

theorem prefix_regexEnd_iff {c : Char} {r : List Char} :
    ['/', '$'] <+: c :: r ↔ c = '/' ∧ ∃ after, r = '$' :: after := by
  rw [List.cons_prefix_cons, eq_comm]
  refine and_congr_right fun _ => ?_
  constructor
  · rintro ⟨after, hafter⟩
    exact ⟨after, hafter.symm⟩
  · rintro ⟨after, rfl⟩
    exact ⟨after, rfl⟩

theorem cutInside_cons_some {r a b : List Char} (c : Char)
    (hr : cutAfterRegex.cutInside r = some (a, b)) :
    cutAfterRegex.cutInside (c :: r) = some (c :: a, b) := by
  unfold cutAfterRegex.cutInside
  rw [hr]

theorem cutInside_cons_none {r : List Char} (c : Char) (hr : cutAfterRegex.cutInside r = none) :
    cutAfterRegex.cutInside (c :: r) =
      if c = '/' ∧ r.head? = some '$' then some (['/'], r.tail) else none := by
  unfold cutAfterRegex.cutInside
  rw [hr]
  dsimp only
  split
  · rfl
  · rename_i hne
    rw [if_neg]
    rintro ⟨rfl, hhead⟩
    cases r with
    | nil => cases hhead
    | cons d r => exact hne r rfl (by rw [Option.some.inj hhead])

/-- Without a slash and a dollar sign in a row there is nothing to cut. -/
theorem cutInside_eq_none_iff {s : List Char} :
    cutAfterRegex.cutInside s = none ↔ ¬['/', '$'] <:+: s := by
  induction s with
  | nil => simp [cutAfterRegex.cutInside]
  | cons c r ih =>
    rw [List.infix_cons_iff, not_or, ← ih]
    cases hr : cutAfterRegex.cutInside r with
    | some cut =>
      rw [cutInside_cons_some c hr]
      simp
    | none =>
      rw [cutInside_cons_none c hr, prefix_regexEnd_iff]
      cases r with
      | nil => simp
      | cons d r => simp

/-- The cut is after the last slash that a dollar sign follows. -/
theorem cutInside_eq_some {s a b : List Char} (h : cutAfterRegex.cutInside s = some (a, b)) :
    (∃ a', a = a' ++ ['/']) ∧ s = a ++ '$' :: b ∧ ¬['/', '$'] <:+: '$' :: b := by
  induction s generalizing a with
  | nil => cases h
  | cons c r ih =>
    cases hr : cutAfterRegex.cutInside r with
    | some cut =>
      obtain ⟨a₁, b₁⟩ := cut
      rw [cutInside_cons_some c hr] at h
      cases h
      obtain ⟨⟨a', rfl⟩, rfl, hb⟩ := ih hr
      exact ⟨⟨c :: a', rfl⟩, rfl, hb⟩
    | none =>
      rw [cutInside_cons_none c hr] at h
      split at h
      · rename_i hcut
        cases h
        obtain ⟨rfl, hhead⟩ := hcut
        obtain ⟨r, rfl⟩ := List.head?_eq_some_iff.1 hhead
        exact ⟨⟨[], rfl⟩, rfl, cutInside_eq_none_iff.1 hr⟩
      · cases h

theorem cutInside_append {b : List Char} (hb : ¬['/', '$'] <:+: '$' :: b) (a : List Char) :
    cutAfterRegex.cutInside (a ++ '/' :: '$' :: b) = some (a ++ ['/'], b) := by
  induction a with
  | nil => exact cutInside_cons_none _ (cutInside_eq_none_iff.2 hb)
  | cons c a ih => exact cutInside_cons_some c ih

theorem cutAfterRegex_cons_eq_some {c : Char} {r : List Char} {cut : List Char × List Char} :
    cutAfterRegex (c :: r) = some cut ↔
      ∃ a b, cutAfterRegex.cutInside r = some (a, b) ∧ cut = (c :: a, b) := by
  rw [cutAfterRegex]
  cases cutAfterRegex.cutInside r with
  | none => simp
  | some cut' =>
    obtain ⟨a, b⟩ := cut'
    simp [eq_comm]

theorem cutAfterRegex_cons_eq_none {c : Char} {r : List Char} :
    cutAfterRegex (c :: r) = none ↔ ¬['/', '$'] <:+: r := by
  rw [← cutInside_eq_none_iff, cutAfterRegex]
  cases cutAfterRegex.cutInside r <;> simp

/-- The options of a regular expression follow its closing slash. -/
theorem cutAfterRegex_of_isRegex {rule options : List Char} (hrule : Pattern.isRegex rule = true)
    (hoptions : ¬['/', '$'] <:+: options) :
    cutAfterRegex (rule ++ '$' :: options) = some (rule, options) := by
  simp only [Pattern.isRegex, Bool.and_eq_true, decide_eq_true_eq, beq_iff_eq] at hrule
  obtain ⟨⟨hlength, -⟩, hlast⟩ := hrule
  obtain ⟨front, rfl⟩ := List.getLast?_eq_some_iff.1 hlast
  cases front with
  | nil => simp at hlength
  | cons c front =>
    rw [List.cons_append, List.cons_append, cutAfterRegex_cons_eq_some, List.append_assoc]
    refine ⟨front ++ ['/'], options, cutInside_append ?_ front, rfl⟩
    rw [List.infix_cons_iff, not_or]
    exact ⟨by simp, hoptions⟩

section
variable {rule pattern options : List Char}

/-- A rule without options either is a regular expression or holds no dollar sign. -/
theorem splitOptions_eq_none (h : splitOptions rule = (pattern, none)) :
    pattern = rule ∧ (Pattern.isRegex rule = true ∨ '$' ∉ rule) := by
  unfold splitOptions at h
  split at h
  · rename_i hregex
    cases h
    exact ⟨rfl, .inl hregex⟩
  split at h
  · cases h
  split at h
  · cases h
  · rename_i hcut
    cases h
    refine ⟨rfl, .inr fun hmem => ?_⟩
    cases Text.cutLast_eq_none_iff.1 hcut _ hmem

/-- Options follow a regular expression or the last dollar sign. -/
theorem splitOptions_eq_some (h : splitOptions rule = (pattern, some options)) :
    Pattern.isRegex rule = false ∧
      (rule.head? = some '/' ∧ cutAfterRegex rule = some (pattern, options) ∨
        (rule.head? = some '/' → cutAfterRegex rule = none) ∧
          Text.cutLast (· == '$') rule = some (pattern, options)) := by
  unfold splitOptions at h
  split at h
  · cases h
  rename_i hregex
  refine ⟨Bool.eq_false_iff.2 hregex, ?_⟩
  split at h
  · rename_i hcut
    cases h
    split at hcut
    · rename_i hhead
      exact .inl ⟨beq_iff_eq.1 hhead, hcut⟩
    · cases hcut
  rename_i hcut
  split at h
  · rename_i hlast
    cases h
    refine .inr ⟨fun hhead => ?_, hlast⟩
    rwa [if_pos (beq_iff_eq.2 hhead)] at hcut
  · cases h

/-- A dollar sign stands between a pattern and its options. -/
theorem eq_append_of_splitOptions (h : splitOptions rule = (pattern, some options)) :
    rule = pattern ++ '$' :: options := by
  obtain ⟨-, ⟨hhead, hcut⟩ | ⟨-, hcut⟩⟩ := splitOptions_eq_some h
  · obtain ⟨r, rfl⟩ := List.head?_eq_some_iff.1 hhead
    obtain ⟨a, b, hcut, heq⟩ := cutAfterRegex_cons_eq_some.1 hcut
    cases heq
    rw [(cutInside_eq_some hcut).2.1]
    rfl
  · obtain ⟨x, hx, rfl⟩ := Text.cutLast_eq_some _ _ _ _ hcut
    rw [beq_iff_eq.1 hx]

/-- The options follow the last dollar sign unless they follow a regular expression. -/
theorem splitOptions_of_cutLast (hregex : Pattern.isRegex rule = false)
    (hafter : rule.head? = some '/' → ∀ cut, cutAfterRegex rule = some cut →
      cut = (pattern, options))
    (hcut : Text.cutLast (· == '$') rule = some (pattern, options)) :
    splitOptions rule = (pattern, some options) := by
  rw [splitOptions, hregex, if_neg Bool.false_ne_true]
  split
  · rename_i hsome
    split at hsome
    · rename_i hhead
      cases hafter (beq_iff_eq.1 hhead) _ hsome
      rfl
    · cases hsome
  · rw [hcut]

theorem splitOptions_of_cutAfterRegex (hregex : Pattern.isRegex rule = false)
    (hhead : rule.head? = some '/') (hcut : cutAfterRegex rule = some (pattern, options)) :
    splitOptions rule = (pattern, some options) := by
  rw [splitOptions, hregex, if_neg Bool.false_ne_true, if_pos (beq_iff_eq.2 hhead), hcut]

end

/-! ## Parts of rules -/

def readOptions (isException : Bool) : Option (List Char) → Except ParseError (Options × DomainList)
  | some text => Options.read isException text
  | none => pure ({}, {})

/-- The rule of a pattern and the text of its options. -/
def readParts (isException : Bool) (patternText : List Char) (optionText : Option (List Char)) :
    Except ParseError (DomainList × RuleBody) := do
  let pattern := Text.trim patternText
  let (options, domains) ← readOptions isException optionText
  if pattern.isEmpty && (Text.trim (optionText.getD [])).isEmpty then throw .emptyPattern
  if pattern.any Text.isBlank then throw .unknownSyntax
  if Pattern.isRegex pattern && (Regex.read? false (Pattern.regexBody pattern)).isNone then
    throw .invalidRegex
  return (domains, .network isException (String.ofList pattern) options)

theorem read_excepts (rule : List Char) : read ('@' :: '@' :: rule) =
    readParts true (splitOptions (Text.trimStart rule)).1
      (splitOptions (Text.trimStart rule)).2 := by
  have hhosts : hostsFileHost? ('@' :: '@' :: rule) = none :=
    hostsFileHost?_of_mem (d := '@') (by decide) (by decide) (.head _)
  rw [read, hhosts]
  dsimp only
  cases splitOptions (Text.trimStart rule) with
  | mk pattern options => cases options <;> rfl

theorem read_blocks {line : List Char} (hhosts : hostsFileHost? line = none)
    (hline : ¬['@', '@'] <+: line) :
    read line = readParts false (splitOptions line).1 (splitOptions line).2 := by
  unfold read
  split
  · rename_i hsome
    cases hhosts.symm.trans hsome
  split
  rename_i hparts
  split at hparts
  · exact absurd (List.prefix_append ['@', '@'] _) hline
  cases hparts
  dsimp only
  cases splitOptions line with
  | mk pattern options => cases options <;> rfl

theorem readParts_eq_ok_iff {isException : Bool} {patternText : List Char}
    {optionText : Option (List Char)} {domains : DomainList} {body : RuleBody} :
    readParts isException patternText optionText = .ok (domains, body) ↔
      ∃ options, readOptions isException optionText = .ok (options, domains) ∧
        ¬((Text.trim patternText).isEmpty && (Text.trim (optionText.getD [])).isEmpty) = true ∧
        ¬(Text.trim patternText).any Text.isBlank = true ∧
        ¬(Pattern.isRegex (Text.trim patternText) &&
          (Regex.read? false (Pattern.regexBody (Text.trim patternText))).isNone) = true ∧
        body = .network isException (String.ofList (Text.trim patternText)) options := by
  constructor
  · intro h
    obtain ⟨⟨options, domains'⟩, hoptions, h⟩ := bind_eq_ok.1 h
    dsimp only at h
    split at h
    · cases h
    split at h
    · cases h
    split at h
    · cases h
    cases h
    exact ⟨options, hoptions, ‹_›, ‹_›, ‹_›, rfl⟩
  · rintro ⟨options, hoptions, hempty, hblank, hregex, rfl⟩
    refine bind_eq_ok.2 ⟨_, hoptions, ?_⟩
    dsimp only
    rw [if_neg hempty, if_neg hblank, if_neg hregex]
    rfl

end NetworkRule

namespace Rule

theorem isComment_of_ne {c : Char} (hmark : c ≠ '!') (hbracket : c ≠ '[') (hsharp : c ≠ '#')
    (s : List Char) : isComment (c :: s) = false := by
  unfold isComment
  split
  · exact absurd (List.cons.inj ‹_›).1 hmark
  · exact absurd (List.cons.inj ‹_›).1 hbracket
  · exact absurd (List.cons.inj ‹_›).1 hsharp
  · rfl

theorem isComment_cons {c : Char} (hc : c ≠ '#') (s t : List Char) :
    isComment (c :: s) = isComment (c :: t) := by
  by_cases hmark : c = '!'
  · rw [hmark]
    rfl
  by_cases hbracket : c = '['
  · rw [hbracket]
    rfl
  rw [isComment_of_ne hmark hbracket hc, isComment_of_ne hmark hbracket hc]

/-- A network rule is read from a line that is neither blank nor a comment nor cosmetic. -/
theorem read_eq_network_iff {number : Nat} {line : String} {domains : DomainList}
    {isException : Bool} {pattern : String} {o : Options} :
    Rule.read number line =
        .ok (some ⟨number, Text.trimmed line, domains, .network isException pattern o⟩) ↔
      Text.trim line.toList ≠ [] ∧ isComment (Text.trim line.toList) = false ∧
        CosmeticRule.IsApart (Text.trim line.toList) ∧
        NetworkRule.read (Text.trim line.toList) =
          .ok (domains, .network isException pattern o) := by
  rw [← CosmeticRule.read?_eq_none_iff]
  unfold Rule.read Text.trimmed
  dsimp only
  constructor
  · intro h
    split at h
    · cases h
    rename_i hline
    rw [Bool.or_eq_true, not_or, List.isEmpty_iff, Bool.not_eq_true] at hline
    obtain ⟨cosmetic, hcosmetic, h⟩ := bind_eq_ok.1 h
    cases cosmetic with
    | some rule =>
      obtain ⟨m, s, hbody⟩ := CosmeticRule.exists_of_read? hcosmetic
      have hnetwork : rule.2 = .network isException pattern o := by
        injection h with h
        injection h with h
        injection h
      exact absurd hnetwork (CosmeticRule.ne_network_of_readBody hbody _ _ _)
    | none =>
      obtain ⟨rule, hread, h⟩ := bind_eq_ok.1 h
      have hrule : rule = (domains, .network isException pattern o) := by
        injection h with h
        injection h with h
        injection h with _ _ hdomains hbody
        exact Prod.ext hdomains hbody
      rw [hrule] at hread
      exact ⟨hline.1, hline.2, hcosmetic, hread⟩
  · rintro ⟨hempty, hcomment, hcosmetic, hread⟩
    rw [if_neg, hcosmetic, hread]
    · rfl
    · rw [hcomment, Bool.or_false, List.isEmpty_iff]
      exact hempty

end Rule

end ContentRules
