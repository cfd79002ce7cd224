import ContentRules.Proofs.Filter.NetworkLines
import ContentRules.Proofs.Filter.OptionOrder
import ContentRules.Proofs.Filter.RuleLines

/-!
A network rule that is written once more with the option `badfilter`. The second rule is read
whenever the first one is, and says the same apart from the option. Main statement:
`Rule.exists_read_of_isTwinLine`.
-/

namespace ContentRules

namespace Options

open Text (isBlank)

/-- Blanks after the options do not count. -/
theorem read_append_blanks (isException : Bool) (s : List Char) {blanks : List Char}
    (hblanks : ∀ c ∈ blanks, isBlank c = true) :
    Options.read isException (s ++ blanks) = Options.read isException s := by
  have hsep : ∀ c ∈ blanks, (c == ',') = false := by
    intro c hc
    rw [beq_eq_false_iff_ne]
    rintro rfl
    exact absurd (hblanks _ hc) (by decide)
  obtain ⟨init, last, hpieces, hpieces'⟩ := Text.exists_pieces_append s hsep
  have hlast (p : Progress) : p.add isException (last ++ blanks) = p.add isException last := by
    rw [Progress.add, Progress.add, Text.trim_append_blanks hblanks]
  rw [Options.read, Options.read, hpieces, hpieces', List.foldlM_append, List.foldlM_append]
  simp only [List.foldlM_cons, hlast]

/-- The options of a twin start with the same character, unless a comma is the first one. -/
theorem AddsBadfilter.head?_eq {s s' : List Char} (h : AddsBadfilter s s') {c : Char} (hc : c ≠ ',')
    (hhead : s'.head? = some c) : s.head? = some c := by
  have hjoin (p : List Char) (ps : List (List Char)) :
      ∃ t, [','].intercalate (p :: ps) = p ++ t ∧ (ps = [] ∨ t.head? = some ',') := by
    cases ps with
    | nil => exact ⟨[], by simp, .inl rfl⟩
    | cons q ps => exact ⟨',' :: [','].intercalate (q :: ps), by simp, .inr rfl⟩
  obtain ⟨options, hoptions, rfl⟩ := h
  obtain ⟨first, rest, hpieces⟩ := List.exists_cons_of_ne_nil (Text.pieces_ne_nil (· == ',') s)
  rw [hpieces] at hoptions
  obtain ⟨first', rest', hfirst, -, rfl⟩ := List.forall₂_cons_left_iff.1 hoptions
  obtain ⟨t, ht, -⟩ := hjoin first rest
  obtain ⟨t', ht', hcomma⟩ := hjoin first' (rest' ++ ["badfilter".toList])
  have hs := Text.intercalate_pieces ',' s
  rw [hpieces, ht] at hs
  rw [List.cons_append, ht'] at hhead
  cases first' with
  | nil =>
    rcases hcomma with hnil | hcomma
    · simp at hnil
    · exact absurd (Option.some.inj (hhead.symm.trans hcomma)) hc
  | cons d first' =>
    have hd := hfirst.head?_eq
    rw [← hs, List.head?_append, ← hd]
    exact hhead

theorem AddsBadfilter.suffix {s s' : List Char} (h : AddsBadfilter s s') :
    "badfilter".toList <:+ s' := by
  obtain ⟨options, -, rfl⟩ := h
  induction options with
  | nil => exact List.suffix_refl _
  | cons option options ih =>
    rw [List.cons_append, List.intercalate_cons_of_ne_nil (by simp)]
    exact ih.trans (List.suffix_append _ _)

end Options

namespace NetworkRule

open Text (isBlank)

/-- The second text is the first one with the option `badfilter` after it. Options of sites may list
them in another order, and blanks may stand before the option, unless they would turn an address
into a line of a hosts file or part the end of a regular expression from its options. -/
inductive IsTwin (isException : Bool) : List Char → List Char → Prop
  | plain {rule blanks : List Char} (hrule : splitOptions rule = (rule, none))
      (hblanks : ∀ c ∈ blanks, isBlank c = true)
      (hapart : blanks = [] ∨
        (isException = true ∨ Host.isIpLiteral rule = false) ∧ ¬['/', '$'] <:+: rule.tail) :
      IsTwin isException rule (rule ++ blanks ++ "$badfilter".toList)
  | options {rule pattern options blanks options' : List Char}
      (hrule : splitOptions rule = (pattern, some options))
      (hblanks : ∀ c ∈ blanks, isBlank c = true)
      (hoptions : Options.AddsBadfilter (options ++ blanks) options') :
      IsTwin isException rule (pattern ++ '$' :: options')

/-- `IsTwin` for lines, which have two at signs in front of an exception. -/
inductive IsTwinLine : List Char → List Char → Prop
  | blocks {line line' : List Char} (hline : ¬['@', '@'] <+: line)
      (htwin : IsTwin false line line') :
      IsTwinLine line line'
  | excepts {blanks rule rule' : List Char} (hblanks : ∀ c ∈ blanks, isBlank c = true)
      (hrule : Text.trimStart rule = rule) (htwin : IsTwin true rule rule') :
      IsTwinLine ('@' :: '@' :: (blanks ++ rule)) ('@' :: '@' :: (blanks ++ rule'))

/-! ## Where the options of a twin start -/

theorem isRegex_of_suffix {s : List Char} (h : "badfilter".toList <:+ s) :
    Pattern.isRegex s = false := by
  obtain ⟨t, rfl⟩ := h
  rw [Pattern.isRegex, List.getLast?_append]
  simp

/-- No slash and dollar sign in a row stand in the options of a twin if none
stand in the options. -/
theorem not_infix_of_addsBadfilter {options blanks options' : List Char}
    (hblanks : ∀ c ∈ blanks, isBlank c = true)
    (hoptions : Options.AddsBadfilter (options ++ blanks) options')
    {l : List Char} (hl : ∀ c ∈ l, Options.IsOtherSign c) (hcomma : ',' ∉ l)
    (hbad : ¬l <:+: "badfilter".toList) (h : ¬l <:+: options) : ¬l <:+: options' := by
  intro hpart
  apply h
  refine Text.infix_of_append_infix ?_ (hoptions.isInfix hl hcomma hbad hpart)
  intro c hc hmem
  cases (hblanks c hc).symm.trans (hl c hmem).1

theorem splitOptions_plain {rule blanks : List Char} (hrule : splitOptions rule = (rule, none))
    (hblanks : ∀ c ∈ blanks, isBlank c = true) (hapart : blanks = [] ∨ ¬['/', '$'] <:+: rule.tail) :
    splitOptions (rule ++ blanks ++ "$badfilter".toList) =
      (rule ++ blanks, some "badfilter".toList) := by
  refine splitOptions_of_cutLast (isRegex_of_suffix ?_) ?_ ?_
  · exact ⟨rule ++ blanks ++ ['$'], by simp⟩
  · intro hhead cut hcut
    cases rule with
    | nil =>
      cases blanks with
      | nil => cases hhead
      | cons b blanks =>
        cases hhead
        exact absurd (hblanks '/' (.head _)) (by decide)
    | cons c r =>
      by_cases hregex : Pattern.isRegex (c :: r) = true ∧ blanks = []
      · obtain ⟨hregex, rfl⟩ := hregex
        rw [List.append_nil] at hcut ⊢
        exact Option.some.inj (hcut.symm.trans (cutAfterRegex_of_isRegex hregex (by decide)))
      -- no regular expression ends inside the rule
      have hinside : ¬['/', '$'] <:+: r ++ blanks := by
        intro hpart
        have hr : ['/', '$'] <:+: r := by
          refine Text.infix_of_append_infix (fun d hd hmem => ?_) hpart
          have hvisible : ∀ d ∈ ['/', '$'], isBlank d = false :=
            List.all_iff_forall_prop.1 (by decide)
          cases (hblanks d hd).symm.trans (hvisible d hmem)
        have hdollar := (splitOptions_eq_none hrule).2.resolve_right fun h =>
          h (.tail _ (hr.subset (.tail _ (.head _))))
        exact hregex ⟨hdollar, hapart.resolve_right fun h => h hr⟩
      obtain ⟨a, b, hcutInside, rfl⟩ := cutAfterRegex_cons_eq_some.1 hcut
      obtain ⟨⟨a', rfl⟩, heq, -⟩ := cutInside_eq_some hcutInside
      have hlast : a' ++ ['/'] ++ ['$'] <+: r ++ blanks ++ ['$'] :=
        Text.prefix_of_last (b := "badfilter".toList) heq (by decide)
      rcases List.prefix_concat_iff.1 hlast with hfront | hfront
      · obtain ⟨ha, -⟩ := List.append_inj' hfront rfl
        rw [ha] at heq ⊢
        cases List.append_cancel_left heq
        rfl
      · exact absurd (.trans ⟨a', [], by simp⟩ hfront.isInfix) hinside
  · exact Text.cutLast_append_cons rfl (List.all_iff_forall_prop.1 (by decide)) _

theorem splitOptions_options {rule pattern options blanks options' : List Char}
    (hrule : splitOptions rule = (pattern, some options)) (hblanks : ∀ c ∈ blanks, isBlank c = true)
    (hoptions : Options.AddsBadfilter (options ++ blanks) options') :
    splitOptions (pattern ++ '$' :: options') = (pattern, some options') := by
  have hregex : Pattern.isRegex (pattern ++ '$' :: options') = false :=
    isRegex_of_suffix
      (hoptions.suffix.trans ((List.suffix_cons _ _).trans (List.suffix_append _ _)))
  obtain ⟨-, ⟨hhead, hcut⟩ | ⟨hnone, hcut⟩⟩ := splitOptions_eq_some hrule
  · obtain ⟨r, rfl⟩ := List.head?_eq_some_iff.1 hhead
    obtain ⟨a, b, hcut, heq⟩ := cutAfterRegex_cons_eq_some.1 hcut
    cases heq
    obtain ⟨⟨a', rfl⟩, -, hnone⟩ := cutInside_eq_some hcut
    have hnone' : ¬['/', '$'] <:+: '$' :: options' := by
      rw [List.infix_cons_iff, not_or]
      have hother : ∀ c ∈ ['/', '$'], Options.IsOtherSign c :=
        List.all_iff_forall_prop.1 (by decide)
      refine ⟨by simp,
        not_infix_of_addsBadfilter hblanks hoptions hother (by decide) (by decide) ?_⟩
      exact fun h => hnone (List.infix_cons h)
    have hcut' :
        cutAfterRegex.cutInside (a' ++ ['/'] ++ '$' :: options') =
          some (a' ++ ['/'], options') := by
      rw [List.append_assoc]
      exact cutInside_append hnone' a'
    exact splitOptions_of_cutAfterRegex hregex rfl (cutAfterRegex_cons_eq_some.2 ⟨_, _, hcut', rfl⟩)
  · obtain ⟨x, hx, rfl⟩ := Text.cutLast_eq_some _ _ _ _ hcut
    cases beq_iff_eq.1 hx
    have hdollar : '$' ∉ options := fun hmem => by
      cases Text.not_sep_of_cutLast hcut '$' hmem
    have hdollar' : '$' ∉ options' := by
      rw [← List.singleton_infix_iff] at hdollar ⊢
      have hother : ∀ c ∈ ['$'], Options.IsOtherSign c := List.all_iff_forall_prop.1 (by decide)
      exact not_infix_of_addsBadfilter hblanks hoptions hother (by decide) (by decide) hdollar
    refine splitOptions_of_cutLast hregex ?_ (Text.cutLast_append_cons rfl ?_ _)
    · intro hhead cut hcut'
      cases pattern with
      | nil => cases hhead
      | cons c p =>
        obtain ⟨a, b, hcut', -⟩ := cutAfterRegex_cons_eq_some.1 hcut'
        obtain ⟨⟨a', rfl⟩, heq, -⟩ := cutInside_eq_some hcut'
        have hfront : a' ++ ['/'] ++ ['$'] <+: p ++ '$' :: options :=
          (Text.prefix_of_last heq hdollar').trans ⟨options, by simp⟩
        exact absurd (.trans ⟨a', [], by simp⟩ hfront.isInfix)
          (cutAfterRegex_cons_eq_none.1 (hnone hhead))
    · intro c hc
      rw [beq_eq_false_iff_ne]
      rintro rfl
      exact hdollar' hc

/-! ## Reading a twin -/

/-- What has a pattern and options that say the same, besides that it cancels others, is read. -/
theorem exists_readParts {isException : Bool} {patternText patternText' options' : List Char}
    {optionText : Option (List Char)} (hpattern : Text.trim patternText' = Text.trim patternText)
    (hbad : "badfilter".toList <:+ options')
    (hoptions : ∀ o domains, readOptions isException optionText = .ok (o, domains) →
      ∃ domains', Options.read isException options' = .ok ({ o with badfilter := true }, domains') ∧
        domains.IsReordered domains')
    {domains : DomainList} {body : RuleBody}
    (h : readParts isException patternText optionText = .ok (domains, body)) :
    ∃ pattern o domains', body = .network isException pattern o ∧
      readParts isException patternText' (some options') =
        .ok (domains', .network isException pattern { o with badfilter := true }) ∧
      domains.IsReordered domains' := by
  obtain ⟨o, hread, -, hblank, hregex, rfl⟩ := readParts_eq_ok_iff.1 h
  obtain ⟨domains', hread', hsame⟩ := hoptions o domains hread
  refine ⟨_, o, domains', rfl, readParts_eq_ok_iff.2 ⟨_, hread', ?_, ?_, ?_, ?_⟩, hsame⟩
  · rw [Bool.and_eq_true, List.isEmpty_iff, List.isEmpty_iff, Option.getD_some]
    rintro ⟨-, hempty⟩
    have hvisible : ∀ c ∈ "badfilter".toList, isBlank c = false :=
      List.all_iff_forall_prop.1 (by decide)
    have hpart := (Text.infix_trim_iff hvisible).2 hbad.isInfix
    rw [hempty] at hpart
    cases List.infix_nil.1 hpart
  all_goals rw [hpattern]
  · exact hblank
  · exact hregex

theorem IsTwin.exists_readParts {isException : Bool} {rule rule' : List Char}
    (h : IsTwin isException rule rule') {domains : DomainList} {body : RuleBody}
    (hread :
      readParts isException (splitOptions rule).1 (splitOptions rule).2 = .ok (domains, body)) :
    ∃ pattern o domains', body = .network isException pattern o ∧
      readParts isException (splitOptions rule').1 (splitOptions rule').2 =
        .ok (domains', .network isException pattern { o with badfilter := true }) ∧
      domains.IsReordered domains' := by
  cases h with
  | plain hrule hblanks hapart =>
    rw [splitOptions_plain hrule hblanks (hapart.imp_right And.right)]
    rw [hrule] at hread
    refine NetworkRule.exists_readParts (Text.trim_append_blanks hblanks _) (List.suffix_refl _)
      ?_ hread
    rintro o domains ⟨⟩
    exact ⟨{}, rfl, .refl _⟩
  | options hrule hblanks hoptions =>
    rw [splitOptions_options hrule hblanks hoptions]
    rw [hrule] at hread
    refine NetworkRule.exists_readParts rfl hoptions.suffix (fun o domains ho => ?_) hread
    refine Options.exists_read_of_addsBadfilter hoptions ?_
    rw [Options.read_append_blanks _ _ hblanks]
    exact ho

/-! ## Lines of twins -/

/-- Two texts are the same up to a dollar sign or up to the end of the first one. What follows the
dollar sign in the second one starts with a number sign only if it does so in the first one. -/
def DiffersInOptions (line line' : List Char) : Prop :=
  ∃ a s blanks b, line = a ++ s ∧ line' = a ++ (blanks ++ '$' :: b) ∧
    (∀ c ∈ blanks, isBlank c = true) ∧ (s = [] ∨ blanks = [] ∧ s.head? = some '$') ∧
    (blanks = [] → ['#'] <+: b → ['$', '#'] <+: s)

theorem IsTwin.differsInOptions {isException : Bool} {rule rule' : List Char}
    (h : IsTwin isException rule rule') : DiffersInOptions rule rule' := by
  cases h with
  | @plain blanks hrule hblanks hapart =>
    refine ⟨rule, [], blanks, "badfilter".toList, by simp, by simp, hblanks, .inl rfl,
      fun _ h => ?_⟩
    exact absurd h (by decide)
  | @options pattern options blanks options' hrule hblanks hoptions =>
    refine ⟨pattern, '$' :: options, [], options', eq_append_of_splitOptions hrule, rfl, nofun,
      .inr ⟨rfl, rfl⟩, fun _ h => List.cons_prefix_cons.2 ⟨rfl, ?_⟩⟩
    have hhead : options'.head? = some '#' := by
      obtain ⟨t, rfl⟩ := h
      rfl
    have hhead := hoptions.head?_eq (by decide) hhead
    cases options with
    | nil =>
      obtain ⟨t, rfl⟩ := List.head?_eq_some_iff.1 hhead
      exact absurd (hblanks '#' (.head _)) (by decide)
    | cons c options =>
      cases hhead
      exact List.prefix_append ['#'] options

section
variable {line line' : List Char} (h : DiffersInOptions line line')
include h

theorem DiffersInOptions.append_left (front : List Char) :
    DiffersInOptions (front ++ line) (front ++ line') := by
  obtain ⟨a, s, blanks, b, rfl, rfl, h⟩ := h
  exact ⟨front ++ a, s, blanks, b, by simp, by simp, h⟩

theorem DiffersInOptions.head?_eq (hne : line ≠ []) : line'.head? = line.head? := by
  obtain ⟨a, s, blanks, b, rfl, rfl, -, hs, -⟩ := h
  cases a with
  | nil =>
    obtain rfl | ⟨rfl, hhead⟩ := hs
    · exact absurd rfl hne
    · exact hhead.symm
  | cons => rfl

theorem DiffersInOptions.isApart (hline : CosmeticRule.IsApart line) :
    CosmeticRule.IsApart line' := by
  obtain ⟨a, s, blanks, b, rfl, rfl, hblanks, -, hb⟩ := h
  exact hline.append_options hblanks hb

theorem DiffersInOptions.not_prefix (hline : ¬['@', '@'] <+: line) : ¬['@', '@'] <+: line' := by
  obtain ⟨a, s, blanks, b, rfl, rfl, hblanks, -, -⟩ := h
  intro hfront
  have ha : ['@', '@'] <+: a := by
    cases blanks with
    | nil => exact Text.prefix_of_prefix_append (by decide) hfront
    | cons c blanks =>
      refine Text.prefix_of_prefix_append (fun hc => ?_) hfront
      have hvisible : ∀ d ∈ ['@', '@'], isBlank d = false := List.all_iff_forall_prop.1 (by decide)
      cases (hblanks c (.head _)).symm.trans (hvisible c hc)
  exact hline (ha.trans (List.prefix_append _ _))

end

theorem ne_nil_of_readParts {isException : Bool} {rule : List Char} {domains : DomainList}
    {body : RuleBody}
    (h : readParts isException (splitOptions rule).1 (splitOptions rule).2 = .ok (domains, body)) :
    rule ≠ [] := by
  rintro rfl
  cases h

/-! ## Lines of hosts files -/

/-- A word with options after it is no line of a hosts file, unless it is an address that
blanks part from them. -/
theorem hostsFileHost?_plain {c : Char} {rule blanks : List Char} (hc : isBlank c = false)
    (hrule : ∀ d ∈ rule, (!isBlank d) = true) (hblanks : ∀ d ∈ blanks, isBlank d = true)
    (hapart : blanks = [] ∨ Host.isIpLiteral (c :: rule) = false) (options : List Char) :
    hostsFileHost? (c :: (rule ++ (blanks ++ '$' :: options))) = none := by
  cases blanks with
  | nil =>
    refine hostsFileHost?_of_mem (d := '$') hc (by decide) (.tail _ ?_)
    rw [List.takeWhile_append_of_pos hrule]
    exact List.mem_append_right _ (.head _)
  | cons b blanks =>
    refine (hostsFileHost?_eq_none_iff hc _).2 (.inr ?_)
    have hb := hblanks b (.head _)
    rw [List.takeWhile_append_of_pos hrule, List.cons_append,
      List.takeWhile_cons_of_neg (by simp [hb]), List.append_nil]
    exact hapart.resolve_left nofun

/-- The options of a rule do not decide whether it is a line of a hosts file. -/
theorem hostsFileHost?_options {c : Char} {pattern options : List Char} (hc : isBlank c = false)
    (hhosts : hostsFileHost? (c :: (pattern ++ '$' :: options)) = none) (options' : List Char) :
    hostsFileHost? (c :: (pattern ++ '$' :: options')) = none := by
  by_cases hpattern : ∀ d ∈ pattern, (!isBlank d) = true
  · refine hostsFileHost?_of_mem (d := '$') hc (by decide) (.tail _ ?_)
    rw [List.takeWhile_append_of_pos hpattern]
    exact List.mem_append_right _ (.head _)
  -- the first word ends within the pattern, and the options are another word
  have hrest : pattern.dropWhile (!isBlank ·) ≠ [] := by
    rwa [ne_eq, List.dropWhile_eq_nil_iff]
  have hword (s : List Char) : (pattern ++ s).takeWhile (!isBlank ·) =
      pattern.takeWhile (!isBlank ·) := by
    rw [List.takeWhile_append, if_neg]
    intro hlength
    have hparts := congrArg List.length
      (List.takeWhile_append_dropWhile (p := (!isBlank ·)) (l := pattern))
    rw [List.length_append, hlength] at hparts
    exact hrest (List.length_eq_zero_iff.1 (Nat.add_eq_left.1 hparts))
  refine (hostsFileHost?_eq_none_iff hc _).2 (.inr ?_)
  rw [hword]
  rcases (hostsFileHost?_eq_none_iff hc _).1 hhosts with hblank | haddress
  · rw [List.dropWhile_append, if_neg (by simpa using hrest)] at hblank
    exact absurd (hblank '$' (List.mem_append_right _ (.head _))) (by decide)
  · rwa [hword] at haddress

/-- A twin is no line of a hosts file. -/
theorem IsTwin.hostsFileHost?_eq_none {rule rule' : List Char} (h : IsTwin false rule rule')
    (htrim : Text.trim rule = rule) (hhosts : hostsFileHost? rule = none) {domains : DomainList}
    {body : RuleBody}
    (hread : readParts false (splitOptions rule).1 (splitOptions rule).2 = .ok (domains, body)) :
    hostsFileHost? rule' = none := by
  have hstart := Text.trimStart_of_trim htrim
  cases h with
  | @plain blanks hrule hblanks hapart =>
    have hne := ne_nil_of_readParts hread
    rw [hrule] at hread
    obtain ⟨-, -, -, hvisible, -⟩ := readParts_eq_ok_iff.1 hread
    rw [htrim, Bool.not_eq_true, List.any_eq_false] at hvisible
    obtain ⟨c, rule, rfl⟩ := List.exists_cons_of_ne_nil hne
    have hrest : ∀ d ∈ rule, (!isBlank d) = true := fun d hd => by
      simpa using hvisible d (.tail _ hd)
    rw [List.append_assoc, List.cons_append]
    exact hostsFileHost?_plain (Text.not_isBlank_of_trimStart hstart) hrest hblanks
      (hapart.imp_right fun h => h.1.resolve_left nofun) _
  | @options pattern options blanks options' hrule hblanks hoptions =>
    obtain rfl := eq_append_of_splitOptions hrule
    cases pattern with
    | nil => exact hostsFileHost?_of_mem (d := '$') (by decide) (by decide) (.head _)
    | cons c pattern =>
      exact hostsFileHost?_options (Text.not_isBlank_of_trimStart hstart) hhosts options'

/-! ## Reading lines of twins -/

theorem IsTwinLine.differsInOptions {line line' : List Char} (h : IsTwinLine line line') :
    DiffersInOptions line line' := by
  cases h with
  | blocks _ htwin => exact htwin.differsInOptions
  | @excepts blanks rule rule' _ _ htwin =>
    exact htwin.differsInOptions.append_left ('@' :: '@' :: blanks)

theorem IsTwinLine.read {line line' : List Char} (h : IsTwinLine line line')
    (htrim : Text.trim line = line) (hhosts : hostsFileHost? line = none) {domains : DomainList}
    {body : RuleBody} (hread : NetworkRule.read line = .ok (domains, body)) :
    ∃ isException pattern o domains', body = .network isException pattern o ∧
      NetworkRule.read line' =
        .ok (domains', .network isException pattern { o with badfilter := true }) ∧
      domains.IsReordered domains' := by
  cases h with
  | blocks hline htwin =>
    rw [read_blocks hhosts hline] at hread
    obtain ⟨pattern, o, domains', hbody, hread', hsame⟩ := htwin.exists_readParts hread
    refine ⟨false, pattern, o, domains', hbody, ?_, hsame⟩
    rw [read_blocks (htwin.hostsFileHost?_eq_none htrim hhosts hread)
      (htwin.differsInOptions.not_prefix hline), hread']
  | @excepts blanks rule rule' hblanks hrule htwin =>
    rw [read_excepts, Text.trimStart_append hblanks, hrule] at hread
    obtain ⟨pattern, o, domains', hbody, hread', hsame⟩ := htwin.exists_readParts hread
    refine ⟨true, pattern, o, domains', hbody, ?_, hsame⟩
    have hne := ne_nil_of_readParts hread
    have hhead := htwin.differsInOptions.head?_eq hne
    have hrule' : Text.trimStart rule' = rule' := by
      cases rule with
      | nil => exact absurd rfl hne
      | cons c rule =>
        obtain ⟨t, rfl⟩ := List.head?_eq_some_iff.1 hhead
        rw [Text.trimStart_cons, Text.not_isBlank_of_trimStart hrule, if_neg Bool.false_ne_true]
    rw [read_excepts, Text.trimStart_append hblanks, hrule', hread']

end NetworkRule

/-- A line of a twin is read, and the rule cancels others and says the same apart from that. -/
theorem Rule.exists_read_of_isTwinLine {number : Nat} {line line' : String} {r : Rule}
    (h : NetworkRule.IsTwinLine (Text.trim line.toList) (Text.trim line'.toList))
    (hhosts : NetworkRule.hostsFileHost? (Text.trim line.toList) = none)
    (hread : Rule.read number line = .ok (some r)) {isException : Bool} {pattern : String}
    {o : Options} (hbody : r.body = .network isException pattern o) (number' : Nat) :
    ∃ domains, r.domains.IsReordered domains ∧ Rule.read number' line' =
      .ok (some ⟨number', Text.trimmed line', domains,
        .network isException pattern { o with badfilter := true }⟩) := by
  have hr := FilterList.eq_of_read hread
  rw [hbody] at hr
  rw [hr] at hread
  obtain ⟨hne, hcomment, hapart, hread⟩ := Rule.read_eq_network_iff.1 hread
  obtain ⟨isException', pattern', o', domains', hbody', hread', hsame⟩ :=
    h.read (Text.trim_trim _) hhosts hread
  cases hbody'
  have hdiffers := h.differsInOptions
  refine ⟨domains', hsame, Rule.read_eq_network_iff.2 ⟨?_, ?_, hdiffers.isApart hapart, hread'⟩⟩
  all_goals
    obtain ⟨c, t, ht⟩ := List.exists_cons_of_ne_nil hne
    have hhead := hdiffers.head?_eq hne
    rw [ht, List.head?_cons] at hhead
    obtain ⟨t', ht'⟩ := List.head?_eq_some_iff.1 hhead
    rw [ht']
  · exact List.cons_ne_nil _ _
  · rw [ht] at hcomment hapart
    rwa [Rule.isComment_cons ?_ t' t]
    -- with a number sign in front, a line is a comment or has a marker
    rintro rfl
    have hnone := (CosmeticRule.isApart_cons.1 hapart).1
    unfold Rule.isComment at hcomment
    rw [hnone] at hcomment
    cases hcomment

end ContentRules
