import ContentRules.Proofs.Filter.OptionStatements
import ContentRules.Proofs.Filter.Twins

/-!
Where the options of a network rule start. Dollar signs and slashes may stand in a pattern, and
slashes in options as well. A rule is taken apart where it was put together unless its pattern
starts with a slash and the options end with one, so that the whole rule is taken for a regular
expression, or the pattern holds a slash and a dollar sign in a row and does not end with a slash,
so that the options are taken to start there. Main statements: `NetworkRule.splitOptions_append_iff`
and `Rule.read_withOptions_iff`.
-/

namespace ContentRules

namespace NetworkRule

open Text (isBlank)

/-- A text that can stand on a line as the pattern of a network rule. -/
structure IsPatternText (p : List Char) : Prop where
  ne_nil : p ≠ []
  visible : ∀ c ∈ p, isBlank c = false
  apart : '#' ∉ p
  not_comment : p.head? ≠ some '!' ∧ p.head? ≠ some '['
  not_exception : ¬['@', '@'] <+: p
  regex : Pattern.isRegex p = true → (Regex.read? false (Pattern.regexBody p)).isSome = true

/-- The pattern and its options are not told apart by the last dollar sign. -/
def IsMisread (p o : List Char) : Prop :=
  p.head? = some '/' ∧ (o.getLast? = some '/' ∨ p.getLast? ≠ some '/' ∧ ['/', '$'] <:+: p.tail)

instance (p o : List Char) : Decidable (IsMisread p o) :=
  inferInstanceAs (Decidable (_ ∧ (_ ∨ _ ∧ _)))

/-- A rule with options. Two at signs stand in front of an exception. -/
def withOptions (isException : Bool) (p o : List Char) : List Char :=
  (if isException then ['@', '@'] else []) ++ (p ++ '$' :: o)

/-! ## The dollar sign before the options -/

section
variable {p o : List Char}

theorem isRegex_append_iff (hp : p ≠ []) :
    Pattern.isRegex (p ++ '$' :: o) = true ↔ p.head? = some '/' ∧ o.getLast? = some '/' := by
  have hlast : (p ++ '$' :: o).getLast? = some '/' ↔ o.getLast? = some '/' := by
    cases o with
    | nil => simp
    | cons d o => simp [List.getLast?_append, List.getLast?_cons]
  have hlength : o.getLast? = some '/' → 2 < (p ++ '$' :: o).length := by
    intro h
    have hp := List.length_pos_iff.2 hp
    have ho := List.length_pos_of_mem (List.mem_of_getLast? h)
    rw [List.length_append, List.length_cons]
    omega
  rw [Pattern.isRegex, Bool.and_eq_true, Bool.and_eq_true, decide_eq_true_eq, beq_iff_eq,
    beq_iff_eq, List.head?_append_of_ne_nil _ hp, hlast]
  exact ⟨fun h => ⟨h.1.2, h.2⟩, fun h => ⟨⟨hlength h.2, h.1⟩, h.2⟩⟩

/-- A rule is taken apart where it was put together unless it is misread. -/
theorem splitOptions_append_iff (hp : p ≠ []) (ho : '$' ∉ o) :
    splitOptions (p ++ '$' :: o) = (p, some o) ↔ ¬IsMisread p o := by
  obtain ⟨c, r, rfl⟩ := List.exists_cons_of_ne_nil hp
  constructor
  · rintro hsplit ⟨hhead, hmisread⟩
    obtain ⟨hregex, hcut⟩ := splitOptions_eq_some hsplit
    rcases hmisread with hlast | ⟨hlast, hinner⟩
    · rw [(isRegex_append_iff hp).2 ⟨hhead, hlast⟩] at hregex
      cases hregex
    rcases hcut with ⟨-, hcut⟩ | ⟨hcut, -⟩
    · obtain ⟨a, b, hinside, heq⟩ := cutAfterRegex_cons_eq_some.1 hcut
      cases heq
      obtain ⟨⟨a, rfl⟩, -, -⟩ := cutInside_eq_some hinside
      exact hlast (List.getLast?_concat (l := c :: a))
    · exact cutAfterRegex_cons_eq_none.1 (hcut hhead)
        (hinner.trans (List.prefix_append _ _).isInfix)
  · intro hread
    refine splitOptions_of_cutLast ?_ ?_ (Text.cutLast_append_cons rfl ?_ _)
    · rw [Bool.eq_false_iff]
      intro hregex
      obtain ⟨hhead, hlast⟩ := (isRegex_append_iff hp).1 hregex
      exact hread ⟨hhead, .inl hlast⟩
    · intro hhead cut hcut
      obtain ⟨a, b, hinside, rfl⟩ := cutAfterRegex_cons_eq_some.1 hcut
      obtain ⟨⟨a, rfl⟩, heq, hafter⟩ := cutInside_eq_some hinside
      change r ++ '$' :: o = a ++ ['/'] ++ '$' :: b at heq
      rcases List.prefix_concat_iff.1 (Text.prefix_of_last heq ho) with hsame | ⟨t, rfl⟩
      · obtain rfl := List.append_cancel_right hsame
        cases List.append_cancel_left heq
        rfl
      -- a cut further inside would leave the slash at the end of the pattern behind it
      exfalso
      have hlast : (t.getLast?.getD '$') = '/' := by
        by_contra hlast
        refine hread ⟨hhead, .inr ⟨fun hslash => hlast ?_, a, t, by simp⟩⟩
        simpa [List.getLast?_append, List.getLast?_cons] using hslash
      cases t using List.reverseRecOn with
      | nil => cases hlast
      | append_singleton t d =>
        obtain rfl : d = '/' := by simpa using hlast
        apply hafter
        have hb : b = t ++ '/' :: '$' :: o := by simpa using heq.symm
        rw [hb]
        exact ⟨'$' :: t, o, by simp⟩
    · intro d hd
      rw [beq_eq_false_iff_ne]
      rintro rfl
      exact ho hd

/-- A rule has been taken apart in the right place if its pattern is the right one. -/
theorem splitOptions_of_trim (hne : p ≠ []) (hp : ∀ c ∈ p, isBlank c = false) (ho : '$' ∉ o)
    (h : Text.trim (splitOptions (p ++ '$' :: o)).1 = p) :
    splitOptions (p ++ '$' :: o) = (p, some o) := by
  cases hsplit : splitOptions (p ++ '$' :: o) with
  | mk pattern options =>
    rw [hsplit] at h
    dsimp only at h
    cases options with
    | none =>
      rw [(splitOptions_eq_none hsplit).1, Text.trim_append hne hp] at h
      have hblank : Text.trimEnd ('$' :: o) = [] := List.append_right_eq_self.1 h
      have hvisible : ∀ c ∈ ['$'], isBlank c = false := List.forall_mem_singleton.2 rfl
      rw [← List.singleton_append, Text.trimEnd_append hvisible] at hblank
      cases hblank
    | some options =>
      have heq := eq_append_of_splitOptions hsplit
      rcases List.prefix_concat_iff.1 (Text.prefix_of_last heq ho) with hsame | hshort
      · obtain rfl := List.append_cancel_right hsame
        cases List.append_cancel_left heq
        rfl
      · have hle := (Text.isInfix_trim pattern).length_le
        have hlt := hshort.length_le
        rw [h] at hle
        rw [List.length_append, List.length_singleton] at hlt
        omega

end

/-! ## Rules with options -/

section
variable {p : List Char} (hp : IsPatternText p) (isException : Bool) (o : List Char)
include hp

theorem IsPatternText.trim_withOptions :
    Text.trim (withOptions isException p o) = withOptions isException p (Text.trimEnd o) := by
  have hsigns : ∀ c ∈ if isException then ['@', '@'] else [], isBlank c = false := by
    cases isException with
    | false => exact nofun
    | true => exact List.all_iff_forall_prop.1 (by decide)
  have hfront : ∀ c ∈ p ++ ['$'], isBlank c = false :=
    List.forall_mem_append.2 ⟨hp.visible, List.forall_mem_singleton.2 rfl⟩
  have hsplit (s : List Char) : withOptions isException p s =
      ((if isException then ['@', '@'] else []) ++ (p ++ ['$'])) ++ s := by simp [withOptions]
  rw [hsplit, hsplit, Text.trim_append (by simp) (List.forall_mem_append.2 ⟨hsigns, hfront⟩)]

theorem IsPatternText.read_withOptions : read (withOptions isException p o) =
    readParts isException (splitOptions (p ++ '$' :: o)).1 (splitOptions (p ++ '$' :: o)).2 := by
  obtain ⟨c, r, rfl⟩ := List.exists_cons_of_ne_nil hp.ne_nil
  obtain ⟨hc, hr⟩ := List.forall_mem_cons.1 hp.visible
  cases isException with
  | true =>
    have hstart : Text.trimStart (c :: r ++ '$' :: o) = c :: r ++ '$' :: o := by
      rw [List.cons_append, Text.trimStart_cons, if_neg (Bool.eq_false_iff.1 hc)]
    have hread := read_excepts (c :: r ++ '$' :: o)
    rwa [hstart] at hread
  | false =>
    refine read_blocks (hostsFileHost?_of_mem (d := '$') hc (by decide) (.tail _ ?_))
      fun hfront => ?_
    · change '$' ∈ (r ++ '$' :: o).takeWhile (!isBlank ·)
      rw [List.takeWhile_append_of_pos fun d hd => by simpa using hr d hd]
      exact List.mem_append_right _ (.head _)
    · exact hp.not_exception (Text.prefix_of_prefix_append (by decide) hfront)

end

/-- A pattern and options that can be read make a rule. -/
theorem IsPatternText.readParts_eq_ok {p o : List Char} (hp : IsPatternText p) {isException : Bool}
    {options : Options} {domains : DomainList}
    (ho : Options.read isException o = .ok (options, domains)) :
    readParts isException p (some o) =
      .ok (domains, .network isException (String.ofList p) options) := by
  have htrim : Text.trim p = p :=
    Text.trim_eq_self (fun c hc => hp.visible c (List.mem_of_head? hc))
      fun c hc => hp.visible c (List.mem_of_getLast? hc)
  rw [readParts_eq_ok_iff, htrim]
  refine ⟨options, ho, ?_, ?_, ?_, rfl⟩
  · rw [List.isEmpty_eq_false_iff.2 hp.ne_nil, Bool.false_and]
    exact Bool.false_ne_true
  · rw [List.any_eq_true]
    rintro ⟨c, hc, hblank⟩
    cases hblank.symm.trans (hp.visible c hc)
  · rw [Bool.and_eq_true]
    rintro ⟨hregex, hnone⟩
    cases (Option.isSome_iff_ne_none.1 (hp.regex hregex)) (Option.isNone_iff_eq_none.1 hnone)

end NetworkRule

namespace Rule

open NetworkRule Options

variable {p o : List Char} (number : Nat) {isException : Bool}

theorem isComment_withOptions (hp : IsPatternText p) :
    isComment (withOptions isException p o) = false := by
  cases isException with
  | true => rfl
  | false =>
    obtain ⟨c, r, rfl⟩ := List.exists_cons_of_ne_nil hp.ne_nil
    refine isComment_of_ne (fun hc => hp.not_comment.1 ?_) (fun hc => hp.not_comment.2 ?_)
      (fun hc => hp.apart ?_) (r ++ '$' :: o)
    · rw [hc]
      rfl
    · rw [hc]
      rfl
    · rw [hc]
      exact .head _

theorem isApart_withOptions (hp : IsPatternText p) (ho : '#' ∉ o) :
    CosmeticRule.IsApart (withOptions isException p o) := by
  apply CosmeticRule.isApart_of_not_mem
  have hsign : '#' ∉ (if isException then ['@', '@'] else []) := by cases isException <;> decide
  simp [withOptions, hsign, hp.apart, ho]

/-- A line with a pattern and options is read as a network rule, from the two parts that it is taken
apart into. -/
theorem exists_read_withOptions_iff (hp : IsPatternText p) (ho : '#' ∉ o) {pattern : String}
    {options : Options} {domains : DomainList} :
    (∃ r, Rule.read number (String.ofList (withOptions isException p o)) = .ok (some r) ∧
        r.domains = domains ∧ r.body = .network isException pattern options) ↔
      readParts isException (splitOptions (p ++ '$' :: Text.trimEnd o)).1
        (splitOptions (p ++ '$' :: Text.trimEnd o)).2 =
          .ok (domains, .network isException pattern options) := by
  have ho' : '#' ∉ Text.trimEnd o := fun h => ho ((Text.isPrefix_trimEnd o).subset h)
  have hne : withOptions isException p (Text.trimEnd o) ≠ [] := by
    simp [withOptions]
  rw [← hp.read_withOptions]
  constructor
  · rintro ⟨r, hread, rfl, hbody⟩
    rw [FilterList.eq_of_read hread, hbody] at hread
    obtain ⟨-, -, -, hline⟩ := read_eq_network_iff.1 hread
    rwa [String.toList_ofList, hp.trim_withOptions] at hline
  · intro hread
    refine ⟨_, read_eq_network_iff.2 ?_, rfl, rfl⟩
    rw [String.toList_ofList, hp.trim_withOptions]
    exact ⟨hne, isComment_withOptions hp, isApart_withOptions hp ho', hread⟩

/-- What a pattern and options are put together into is read as a rule with this pattern and what
the options say, unless the two are misread. -/
theorem read_withOptions_iff (hp : IsPatternText p) (ho : Options.IsReadable isException o)
    (hdollar : '$' ∉ o) (hsharp : '#' ∉ o) :
    (∃ r options, Rule.read number (String.ofList (withOptions isException p o)) = .ok (some r) ∧
        r.body = .network isException (String.ofList p) options ∧
        Describes (Statement.listOfText isException o) options r.domains) ↔
      ¬IsMisread p (Text.trimEnd o) := by
  have hdollar' : '$' ∉ Text.trimEnd o := fun h => hdollar ((Text.isPrefix_trimEnd o).subset h)
  rw [← splitOptions_append_iff hp.ne_nil hdollar']
  constructor
  · rintro ⟨r, options, hread, hbody, -⟩
    have hparts := (exists_read_withOptions_iff number hp hsharp).1 ⟨r, hread, rfl, hbody⟩
    obtain ⟨_, -, -, -, -, hbody⟩ := readParts_eq_ok_iff.1 hparts
    apply splitOptions_of_trim hp.ne_nil hp.visible hdollar'
    injection hbody with _ hpattern
    exact (String.ofList_injective hpattern).symm
  · intro hsplit
    obtain ⟨options, domains, hoptions⟩ := exists_read_iff.2 ho
    obtain ⟨back, hback, heq⟩ := Text.exists_trimEnd o
    have htrimmed : Options.read isException (Text.trimEnd o) = .ok (options, domains) := by
      rw [← hoptions, ← read_append_blanks isException (Text.trimEnd o) hback, ← heq]
    have hparts := hp.readParts_eq_ok htrimmed
    obtain ⟨r, hread, hdomains, hbody⟩ :=
      (exists_read_withOptions_iff number hp hsharp).2 (by rw [hsplit]; exact hparts)
    refine ⟨r, options, hread, hbody, ?_⟩
    rw [hdomains]
    exact describes_of_read hoptions

/-- Slashes and dollar signs in a regular expression, and a slash within the options. -/
theorem read_withOptions_regex :
    let p := "/ads/$|[$,/]/".toList
    let o := "~Image, csp=a/b".toList
    (IsPatternText p ∧ Options.IsReadable true o ∧ '$' ∉ o ∧ '#' ∉ o ∧
        String.ofList (withOptions true p o) = "@@/ads/$|[$,/]/$~Image, csp=a/b") ∧
      ∃ r options, Rule.read 0 (String.ofList (withOptions true p o)) = .ok (some r) ∧
        r.body = .network true (String.ofList p) options ∧
        Describes (Statement.listOfText true o) options r.domains := by
  intro p o
  have hp : IsPatternText p :=
    ⟨by decide, List.all_iff_forall_prop.1 (by decide), by decide, by decide, by decide,
      fun _ => by decide +kernel⟩
  have ho : Options.IsReadable true o := exists_read_iff.1 ⟨_, _, rfl⟩
  have hdollar : '$' ∉ o := by decide
  have hsharp : '#' ∉ o := by decide
  exact ⟨⟨hp, ho, hdollar, hsharp, by decide⟩,
    (read_withOptions_iff 0 hp ho hdollar hsharp).2 (by decide)⟩

/-- The first rule is taken for a regular expression as a whole. The options of the second one are
taken to start with the `b` of its pattern, and there is no such option. -/
theorem not_read_withOptions :
    (IsPatternText "/ads".toList ∧ Options.IsReadable false "csp=a/".toList ∧
        '$' ∉ "csp=a/".toList ∧ '#' ∉ "csp=a/".toList ∧
        ¬∃ r options, Rule.read 0 "/ads$csp=a/" = .ok (some r) ∧
          r.body = .network false "/ads" options) ∧
      IsPatternText "/a/$b".toList ∧ Options.IsReadable false "script".toList ∧
        '$' ∉ "script".toList ∧ '#' ∉ "script".toList ∧
        ¬∃ r options, Rule.read 0 "/a/$b$script" = .ok (some r) ∧
          r.body = .network false "/a/$b" options := by
  refine ⟨⟨?_, exists_read_iff.1 ⟨_, _, rfl⟩, by decide, by decide, ?_⟩,
    ?_, exists_read_iff.1 ⟨_, _, rfl⟩, by decide, by decide, ?_⟩
  · exact ⟨by decide, List.all_iff_forall_prop.1 (by decide), by decide, by decide,
      by decide, nofun⟩
  · rintro ⟨r, options, hread, hbody⟩
    have hline : Rule.read 0 "/ads$csp=a/" =
        .ok (some ⟨0, "/ads$csp=a/", {}, .network false "/ads$csp=a/" {}⟩) := by decide +kernel
    cases hline.symm.trans hread
    injection hbody with _ hpattern
    exact absurd hpattern (by decide)
  · exact ⟨by decide, List.all_iff_forall_prop.1 (by decide), by decide, by decide,
      by decide, nofun⟩
  · rintro ⟨r, options, hread, -⟩
    have hline : Rule.read 0 "/a/$b$script" = .error (.unknownModifier "b$script") := by
      decide +kernel
    cases hline.symm.trans hread

end Rule

end ContentRules
