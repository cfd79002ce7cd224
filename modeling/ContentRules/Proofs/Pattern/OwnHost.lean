import ContentRules.Proofs.Native.Cover
import ContentRules.Proofs.Pattern.Literals

/-!
A pattern that ties a host to two bars reaches URLs of its own host, and of hosts below it. The
expression of the pattern looks for the host between the scheme and the first separator. Where a
separator stands in the user information or in the host itself, it may take what stands before the
separator for the host. Main statement: `covers_of_occursIn`.
-/

namespace ContentRules

namespace UrlHost

/-- The user information of a URL: what stands before the last at sign of the authority. -/
def userInfo? (url : List Char) : Option (List Char) :=
  (authority? url).bind fun authority => (Text.cutLast (· == '@') authority).map (·.1)

theorem cutAt_scheme {scheme : List Char} (hscheme : ':' ∉ scheme) (rest : List Char) :
    Text.cutAt [':', '/', '/'] (scheme ++ "://".toList ++ rest) = some (scheme, rest) := by
  induction scheme with
  | nil => rfl
  | cons c scheme ih =>
    obtain ⟨hc, hscheme⟩ := not_or.1 (List.mem_cons.not.1 hscheme)
    have hfront : [':', '/', '/'].isPrefixOf (c :: (scheme ++ "://".toList ++ rest)) = false := by
      simp [List.isPrefixOf, hc]
    simp only [List.cons_append, Text.cutAt, hfront, ih hscheme, Option.map_some]

/-- No character that means something in an authority: none of those that end it or a part of
it, and no ampersand. -/
def IsNameChar (c : Char) : Prop := c ∉ ['/', '?', '#', '@', ':', '&']

instance : DecidablePred IsNameChar := fun c => inferInstanceAs (Decidable (c ∉ _))

theorem IsNameChar.ne {c d : Char} (h : IsNameChar c) (hd : ¬IsNameChar d) : c ≠ d := fun heq =>
  hd (heq ▸ h)

/-- A part of an authority after a name: it is empty or starts with a separator. -/
def FollowsName (rest : List Char) : Prop := rest = [] ∨ ∃ d t, (d = ':' ∨ d = '&') ∧ rest = d :: t

/-- What stands before the first separator of a part of an authority. -/
def beforeSeparator (s : List Char) : List Char := s.takeWhile fun c => c != ':' && c != '&'

theorem mem_append_separator {d : Char} (hd : d = ':' ∨ d = '&') (s t : List Char) :
    ':' ∈ s ++ d :: t ∨ '&' ∈ s ++ d :: t := by
  rcases hd with rfl | rfl
  · exact .inl (by simp)
  · exact .inr (by simp)

theorem beforeSeparator_append {s : List Char} {d : Char} (hs : ∀ c ∈ s, IsNameChar c)
    (hd : d = ':' ∨ d = '&') (t : List Char) : beforeSeparator (s ++ d :: t) = s := by
  have hpass : ∀ c ∈ s, (c != ':' && c != '&') = true := fun c hc =>
    Bool.and_eq_true_iff.2 ⟨bne_iff_ne.2 ((hs c hc).ne (by decide)),
      bne_iff_ne.2 ((hs c hc).ne (by decide))⟩
  have hstop : (d != ':' && d != '&') = false := by rcases hd with rfl | rfl <;> rfl
  rw [beforeSeparator, List.takeWhile_append_of_pos hpass,
    List.takeWhile_cons_of_neg (by simp [hstop]), List.append_nil]

/-- What starts with a separator is left out of the authority, or follows a name in it. -/
theorem followsName_takeWhile {back : List Char}
    (hback : back = [] ∨ ∃ d rest, d ∈ Pattern.separators ∧ back = d :: rest) :
    FollowsName (back.takeWhile (!endsAuthority ·)) := by
  rcases hback with rfl | ⟨d, t, hd, rfl⟩
  · exact .inl rfl
  · simp only [Pattern.separators, List.mem_cons, List.not_mem_nil, or_false] at hd
    rcases hd with rfl | rfl | rfl | rfl
    · exact .inl rfl
    · exact .inr ⟨':', _, .inl rfl, List.takeWhile_cons_of_pos rfl⟩
    · exact .inr ⟨'&', _, .inr rfl, List.takeWhile_cons_of_pos rfl⟩
    · exact .inl rfl

section
variable {scheme name rest back host : List Char}

/-- The authority of a URL that starts with a name: the name, and what follows it up to the end. -/
theorem authority?_eq (hscheme : ':' ∉ scheme) (hname : ∀ c ∈ name, IsNameChar c) :
    authority? (scheme ++ "://".toList ++ (name ++ back)) =
      some (name ++ back.takeWhile (!endsAuthority ·)) := by
  have hends : ∀ c ∈ name, (!endsAuthority c) = true := by
    intro c hc
    have hchar := hname c hc
    simp only [IsNameChar, List.mem_cons, not_or] at hchar
    simp [endsAuthority, hchar]
  rw [authority?, cutAt_scheme hscheme, Option.map_some]
  dsimp only
  rw [List.takeWhile_append_of_pos hends]

/-- A URL has the name as its host that stands before its first separator, unless this is in its
user information or its host, where the name then stands first. -/
theorem eq_name_of_ofUrl? (hscheme : ':' ∉ scheme) (hname : ∀ c ∈ name, IsNameChar c)
    (hback : back = [] ∨ ∃ d rest, d ∈ Pattern.separators ∧ back = d :: rest)
    (hhost : ofUrl? (scheme ++ "://".toList ++ (name ++ back)) = some host) :
    host = name ∨
      (∃ info, userInfo? (scheme ++ "://".toList ++ (name ++ back)) = some info ∧
        (':' ∈ info ∨ '&' ∈ info) ∧ beforeSeparator info = name) ∨
      (':' ∈ host ∨ '&' ∈ host) ∧ beforeSeparator host = name := by
  have hauthority := @authority?_eq _ _ back hscheme hname
  rw [userInfo?, hauthority, Option.bind_some]
  rw [ofUrl?, hauthority] at hhost
  have hrest := followsName_takeWhile hback
  generalize back.takeWhile (!endsAuthority ·) = rest at hhost hrest
  have hat : ∀ c ∈ name, (c == '@') = false := fun c hc =>
    beq_eq_false_iff_ne.2 ((hname c hc).ne (by decide))
  have hport : ∀ c ∈ name, (c != ':') = true := fun c hc =>
    bne_iff_ne.2 ((hname c hc).ne (by decide))
  dsimp only at hhost
  rcases hrest with rfl | ⟨d, t, hd, rfl⟩
  · have hcut : Text.cutLast (· == '@') (name ++ []) = none := Text.cutLast_append hat []
    rw [hcut] at hhost
    dsimp only at hhost
    rw [List.takeWhile_append_of_pos hport] at hhost
    split at hhost
    · cases hhost
    · exact .inl ((Option.some.inj hhost).symm.trans (List.append_nil name))
  · have hat' : ∀ c ∈ name ++ [d], (c == '@') = false := by
      refine List.forall_mem_append.2 ⟨hat, fun c hc => ?_⟩
      rw [List.mem_singleton.1 hc]
      rcases hd with rfl | rfl <;> rfl
    have hcut := Text.cutLast_append hat' t
    rw [List.append_assoc, List.singleton_append] at hcut
    cases hparts : Text.cutLast (· == '@') t with
    -- an at sign after the separator puts the separator into the user information
    | some parts =>
      rw [hcut, hparts]
      refine .inr (.inl ⟨name ++ d :: parts.1, by simp, ?_, ?_⟩)
      · exact mem_append_separator hd name parts.1
      · exact beforeSeparator_append hname hd parts.1
    | none =>
      rw [hparts, Option.map_none] at hcut
      rw [hcut] at hhost
      dsimp only at hhost
      rw [List.takeWhile_append_of_pos hport] at hhost
      split at hhost
      · cases hhost
      obtain rfl := Option.some.inj hhost
      rcases hd with rfl | rfl
      · exact .inl (List.append_nil name)
      · rw [List.takeWhile_cons_of_pos rfl]
        refine .inr (.inr ⟨mem_append_separator (.inr rfl) .., ?_⟩)
        exact beforeSeparator_append hname (.inr rfl) _

end

end UrlHost

namespace Pattern

open Regex Unicode UrlHost

theorem isNameChar_of_mem_ofLetter : ∀ n < 128, isHostChar (Char.ofNat n) = true →
    ∀ d ∈ CaseGroup.ofLetter (Char.ofNat n), IsNameChar d := by
  have h : ∀ n < 128, isHostChar (Char.ofNat n) = true →
      (CaseGroup.ofLetter (Char.ofNat n)).all (fun d => decide (IsNameChar d)) = true := by
    decide +kernel
  exact fun n hn hc => List.all_iff_forall_prop.1 (h n hn hc)

theorem isNameChar_of_isSame {ignoreCase : Bool} {c d : Char} (h : IsSame ignoreCase c d)
    (hc : isHostChar c = true) : IsNameChar d := by
  rcases h with rfl | ⟨-, -, hd⟩
  · simp only [IsNameChar, List.mem_cons, not_or, List.not_mem_nil, not_false_eq_true, and_true]
    exact ⟨ne_of_isHostChar hc rfl, ne_of_isHostChar hc rfl, ne_of_isHostChar hc rfl,
      ne_of_isHostChar hc rfl, ne_of_isHostChar hc rfl, ne_of_isHostChar hc rfl⟩
  · have hname := isNameChar_of_mem_ofLetter c.toNat (toNat_lt_of_isHostChar hc)
    rw [Char.ofNat_toNat] at hname
    exact hname hc d hd

theorem isNameChar_of_forall₂ {ignoreCase : Bool} {name t : List Char}
    (h : List.Forall₂ (IsSame ignoreCase) name t) (hname : ∀ c ∈ name, isHostChar c = true) :
    ∀ d ∈ t, IsNameChar d := by
  induction h with
  | nil => nofun
  | cons hsame _ ih =>
    obtain ⟨hc, hname⟩ := List.forall_mem_cons.1 hname
    exact List.forall_mem_cons.2 ⟨isNameChar_of_isSame hsame hc, ih hname⟩

theorem isNameChar_of_isOneOf {ignoreCase : Bool} {P : Char → Prop} {d : Char}
    (hP : ∀ c, P c → isHostChar c = true) (h : IsOneOf ignoreCase P d) : IsNameChar d := by
  obtain ⟨c, hc, hsame⟩ := h
  exact isNameChar_of_isSame hsame (hP c hc)

theorem isHostChar_of_isSchemeLetter : ∀ c, IsSchemeLetter c → isHostChar c = true :=
  List.all_iff_forall_prop.1 (by decide)

theorem isHostChar_of_isLabelSign : ∀ c, IsLabelSign c → isHostChar c = true := by
  rintro c (h | h | rfl)
  · have halpha : c.isAlphanum = true := by
      delta Char.isAlphanum Char.isAlpha
      simp [h]
    simp [isHostChar, halpha]
  · have hdigit : c.isAlphanum = true := by
      delta Char.isAlphanum
      simp [h]
    simp [isHostChar, hdigit]
  · decide

theorem isNameChar_labels {ignoreCase : Bool} {labels : List (List Char)}
    (hlabels : ∀ label ∈ labels, IsLabel ignoreCase label) :
    ∀ c ∈ labels.flatMap (· ++ ['.']), IsNameChar c := by
  intro c hc
  obtain ⟨label, hlabel, hc⟩ := List.mem_flatMap.1 hc
  rcases List.mem_append.1 hc with hc | hc
  · exact isNameChar_of_isOneOf isHostChar_of_isLabelSign ((hlabels label hlabel).2 c hc)
  · rw [List.mem_singleton.1 hc]
    decide

/-- What the pattern of a host is found in: a scheme, labels, the host up to case, and then
the end or a separator. -/
theorem exists_of_found {name url : List Char} (hname : ∀ c ∈ name, isHostChar c = true)
    (h : Found true ('|' :: '|' :: (name ++ ['^'])) url) :
    ∃ (scheme : List Char) (labels : List (List Char)) (t back : List Char),
      url = scheme ++ "://".toList ++ (labels.flatMap (· ++ ['.']) ++ t ++ back) ∧
      (∀ d ∈ scheme, IsOneOf true IsSchemeLetter d) ∧ (∀ label ∈ labels, IsLabel true label) ∧
      List.Forall₂ (IsSame true) name t ∧
      (back = [] ∨ ∃ d rest, d ∈ separators ∧ back = d :: rest) := by
  have hnames : NamesHost ('|' :: '|' :: (name ++ ['^'])) name '^' [] := ⟨rfl, hname, .inl rfl⟩
  obtain ⟨tail, tied, hparts, -⟩ := hnames.parts_eq
  obtain ⟨i, j, hspans⟩ := h
  rw [regexes_of_parts hname hparts] at hspans
  obtain ⟨l, hspans, hend⟩ := spansAll_append.1 hspans
  obtain ⟨k, hstart, hspans⟩ := spansAll_append.1 hspans
  obtain ⟨front, hadmits, hfront⟩ := (exists_spansAll_start true .host).1 ⟨i, hstart⟩
  obtain ⟨t, hsame, hbetween⟩ :=
    exists_isSame_of_spansAll hspans fun c hc => toNat_lt_of_isHostChar (hname c hc)
  obtain ⟨first, back, rfl, hfirst, hl⟩ := between_append.2 ⟨k, hfront, hbetween⟩
  obtain rfl := List.length_eq_zero_iff.1 hfirst
  cases hadmits with
  | @host scheme labels _ hscheme hlabels =>
    refine ⟨scheme, labels, t, back, by simp, hscheme, hlabels, hsame, ?_⟩
    rcases EndsHost.of_end hnames.stops hend with hl' | ⟨d, hd, hsep⟩
    · rw [List.length_append, hl] at hl'
      exact .inl (List.length_eq_zero_iff.1 (by omega))
    · rw [← hl, List.getElem?_append_right (Nat.le_refl _), Nat.sub_self] at hd
      cases back with
      | nil => cases hd
      | cons c rest =>
        obtain rfl := Option.some.inj hd
        exact .inr ⟨c, rest, (contains_separatorSet_iff true c).1 hsep, rfl⟩

/-- Labels before a host make a host below it. -/
theorem covers_labels {name t : List Char} (h : Text.lower t = Text.lower name)
    (labels : List (List Char)) :
    Domain.covers name (labels.flatMap (· ++ ['.']) ++ t) = true := by
  rw [Domain.covers_iff, Text.lower_append, h]
  rcases List.eq_nil_or_concat labels with rfl | ⟨first, last, rfl⟩
  · exact .inl rfl
  · refine .inr ⟨Text.lower (first.flatMap (· ++ ['.']) ++ last), ?_⟩
    simp [Text.lower]

/-- A part of an authority holds a separator, and in front of the first one stands the host, or one
below it; or a character stands there that is no ASCII letter but equals one up to case. -/
structure LeadsWith (name part : List Char) : Prop where
  separator : ':' ∈ part ∨ '&' ∈ part
  front : Domain.covers name (beforeSeparator part) = true ∨
    ∃ c ∈ beforeSeparator part, c ∈ CaseGroup.beyondLetters

/-- The filter of a host between two bars and a caret is only found in URLs whose host is this one
or lies below it, unless the user information or the host leads with it, or the host is written with
a character that is no ASCII letter but equals one up to case. -/
theorem covers_of_occursIn {name : List Char} (hname : ∀ c ∈ name, isHostChar c = true) :
    ∃ filter r, UrlFilter.ofPattern ('|' :: '|' :: (name ++ ['^'])) = .ok filter ∧
      read? true filter = some r ∧
      ∀ url host, UrlHost.ofUrl? url = some host →
        (∀ info, UrlHost.userInfo? url = some info → ¬LeadsWith name info) → ¬LeadsWith name host →
        (∀ c ∈ host, c ∉ CaseGroup.beyondLetters) → r.occursIn url = true →
        Domain.covers name host = true := by
  have hregex : isRegex ('|' :: '|' :: (name ++ ['^'])) = false := by simp [isRegex]
  have hascii : Text.isAscii ('|' :: '|' :: (name ++ ['^'])) = true := by
    refine List.all_eq_true.2 fun c hc => decide_eq_true (UInt32.lt_iff_toNat_lt.2 ?_)
    simp only [List.mem_cons, List.mem_append, List.not_mem_nil, or_false] at hc
    rcases hc with rfl | rfl | hc | rfl
    · decide
    · decide
    · exact toNat_lt_of_isHostChar (hname c hc)
    · decide
  have hfilter := (ofPattern_eq_ok_iff hregex).2 ⟨hascii, rfl⟩
  refine ⟨_, _, hfilter, read?_expr true _, ?_⟩
  intro url host hhost hinfo hlead hbeyond hfound
  have hfound' : Found true ('|' :: '|' :: (name ++ ['^'])) url := by
    rw [← any_occursIn_expr, read?_expr]
    exact hfound
  obtain ⟨scheme, labels, t, back, rfl, hscheme, hlabels, hsame, hback⟩ :=
    exists_of_found hname hfound'
  have hcolon : ':' ∉ scheme := fun h =>
    absurd (isNameChar_of_isOneOf isHostChar_of_isSchemeLetter (hscheme _ h)) (by decide)
  have hchars := List.forall_mem_append.2
    ⟨isNameChar_labels hlabels, isNameChar_of_forall₂ hsame hname⟩
  -- the host of the pattern ends what was found, with the letters of full case folding
  have hcovers : (∀ c ∈ t, c ∉ CaseGroup.beyondLetters) →
      Domain.covers name (labels.flatMap (· ++ ['.']) ++ t) = true := fun h =>
    covers_labels
      (folded_eq_of_isSame hsame (fun c hc => toNat_lt_of_isHostChar (hname c hc)) h) labels
  have hleads : ∀ part, (':' ∈ part ∨ '&' ∈ part) →
      beforeSeparator part = labels.flatMap (· ++ ['.']) ++ t → LeadsWith name part := by
    intro part hsep hfront
    refine ⟨hsep, ?_⟩
    rw [hfront]
    by_cases h : ∃ c ∈ t, c ∈ CaseGroup.beyondLetters
    · obtain ⟨c, hc, hmem⟩ := h
      exact .inr ⟨c, List.mem_append_right _ hc, hmem⟩
    · exact .inl (hcovers fun c hc hmem => h ⟨c, hc, hmem⟩)
  rcases UrlHost.eq_name_of_ofUrl? hcolon hchars hback hhost with
    rfl | ⟨info, hinfo?, hsep, hfront⟩ | ⟨hsep, hfront⟩
  · exact hcovers fun c hc => hbeyond c (List.mem_append_right _ hc)
  · exact absurd (hleads info hsep hfront) (hinfo info hinfo?)
  · exact absurd (hleads host hsep hfront) hlead

/-- The host stands below the one that the pattern names, before a port and a
path with separators. -/
theorem covers_of_occursIn_port :
    let name := "ads.com".toList
    let url := "https://x.ADS.com:8080/me@a&b".toList
    let host := "x.ADS.com".toList
    (∀ c ∈ name, isHostChar c = true) ∧ UrlHost.ofUrl? url = some host ∧
      (∀ info, UrlHost.userInfo? url = some info → ¬LeadsWith name info) ∧ ¬LeadsWith name host ∧
      (∀ c ∈ host, c ∉ CaseGroup.beyondLetters) ∧
      ∃ filter r, UrlFilter.ofPattern "||ads.com^".toList = .ok filter ∧
        read? true filter = some r ∧
        r.occursIn url = true ∧ Domain.covers name host = true := by
  intro name url host
  have hname : ∀ c ∈ name, isHostChar c = true := List.all_eq_true.1 (by decide)
  have hhost : UrlHost.ofUrl? url = some host := by decide
  have hnone : UrlHost.userInfo? url = none := by decide
  have hinfo : ∀ info, UrlHost.userInfo? url = some info → ¬LeadsWith name info := by
    rw [hnone]
    nofun
  have hlead : ¬LeadsWith name host := fun h => absurd h.separator (by decide)
  have hbeyond : ∀ c ∈ host, c ∉ CaseGroup.beyondLetters := List.all_iff_forall_prop.1 (by decide)
  have hall : (read? true (expr ('|' :: '|' :: (name ++ ['^'])))).all (·.occursIn url) = true := by
    decide +kernel
  obtain ⟨filter, r, hfilter, hr, hcovers⟩ := covers_of_occursIn hname
  obtain ⟨-, rfl⟩ := (ofPattern_eq_ok_iff (by decide)).1 hfilter
  have hfound : r.occursIn url = true := by rwa [hr] at hall
  exact ⟨hname, hhost, hinfo, hlead, hbeyond, _, r, hfilter, hr, hfound,
    hcovers url host hhost hinfo hlead hbeyond hfound⟩

/-- The filter of a host is found in a URL, although the host of the URL is neither that host nor
below it. -/
def IsFoundElsewhere (name url host : String) : Prop :=
  (∀ c ∈ name.toList, isHostChar c = true) ∧ UrlHost.ofUrl? url.toList = some host.toList ∧
    (∃ filter r, UrlFilter.ofPattern ('|' :: '|' :: (name.toList ++ ['^'])) = .ok filter ∧
      read? true filter = some r ∧ r.occursIn url.toList = true) ∧
    Domain.covers name.toList host.toList = false

/-- `IsFoundElsewhere`, computed. -/
def isFoundElsewhere (name url host : String) : Bool :=
  name.toList.all isHostChar && UrlHost.ofUrl? url.toList == some host.toList &&
    (UrlFilter.ofPattern ('|' :: '|' :: (name.toList ++ ['^']))).toOption.any (fun filter =>
      (read? true filter).any (·.occursIn url.toList)) &&
    !Domain.covers name.toList host.toList

theorem IsFoundElsewhere.of_computed {name url host : String}
    (h : isFoundElsewhere name url host = true) : IsFoundElsewhere name url host := by
  simp only [isFoundElsewhere, Bool.and_eq_true, List.all_eq_true, beq_iff_eq,
    Bool.not_eq_true'] at h
  obtain ⟨⟨⟨hname, hhost⟩, hfound⟩, hcovers⟩ := h
  obtain ⟨filter, hfilter, hfound⟩ := (Option.any_eq_true _ _).1 hfound
  obtain ⟨r, hr, hfound⟩ := (Option.any_eq_true _ _).1 hfound
  refine ⟨hname, hhost, ⟨filter, r, ?_, hr, hfound⟩, hcovers⟩
  cases hok : UrlFilter.ofPattern ('|' :: '|' :: (name.toList ++ ['^'])) with
  | error => rw [hok] at hfilter; cases hfilter
  | ok f => rw [hok] at hfilter; cases hfilter; rfl

/-- The filter of a host is found in URLs of other hosts: where the host is a user name, where an
ampersand follows it in a host, and where a Kelvin sign stands for a letter. -/
theorem occursIn_foreign_hosts :
    IsFoundElsewhere "ads.com" "https://ads.com:x@evil.com/" "evil.com" ∧
      IsFoundElsewhere "ads.com" "https://ads.com&x.evil.com/" "ads.com&x.evil.com" ∧
      IsFoundElsewhere "k.com" "https://\u212A.com/" "\u212A.com" := by
  refine ⟨.of_computed ?_, .of_computed ?_, .of_computed ?_⟩ <;> decide +kernel

end Pattern

end ContentRules
