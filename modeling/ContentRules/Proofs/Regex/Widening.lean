import ContentRules.Proofs.Pattern.Literals
import ContentRules.Proofs.Regex.Folding
import ContentRules.Proofs.Regex.Ordered

/-!
When an expression keeps its matches as case stops counting. A set of letters grows, and so its
complement shrinks: `[^a]` has the capital letter in it with case and does not without. The matches
are kept if no set loses a character, and no set does that unless the complement of a set with
letters is part of it. Main statement: `foundWith_of_read?`.
-/

namespace ContentRules

/-! ## Characters that equal one another up to case -/

namespace Unicode.CaseGroup

/-- The character is an ASCII character and no letter. -/
def isUncased (c : Char) : Bool := c.toNat < 128 && !c.isAlpha

theorem isUncased_iff (c : Char) : isUncased c = true ↔
    c.toNat < 65 ∨ (90 < c.toNat ∧ c.toNat < 97) ∨ (122 < c.toNat ∧ c.toNat < 128) := by
  delta isUncased Char.isAlpha Char.isUpper Char.isLower
  simp only [Bool.and_eq_true, Bool.not_eq_true', Bool.or_eq_false_iff, Bool.and_eq_false_iff,
    decide_eq_true_eq, decide_eq_false_iff_not, ge_iff_le, UInt32.le_iff_toNat_le, Char.toNat]
  simp
  omega

theorem isUncased_ascii : ∀ n < 128,
    (variants (Char.ofNat n)).all (fun d => !isUncased d || d == Char.ofNat n) = true := by
  decide +kernel

/-- Only itself equals a character without case. -/
theorem eq_of_mem_variants {c d : Char} (hd : isUncased d = true) (h : d ∈ variants c) : d = c := by
  have hletter {l : List Char} (hl : l.all (fun x => !isUncased x) = true) : d ∉ l := by
    intro hmem
    have hcased := List.all_eq_true.1 hl d hmem
    rw [hd] at hcased
    cases hcased
  have hascii : d.toNat < 128 := by
    rw [isUncased, Bool.and_eq_true, decide_eq_true_eq] at hd
    exact hd.1
  by_cases hc : c.toNat < 128
  · have hall := List.all_eq_true.1 (isUncased_ascii c.toNat hc) d (by rwa [Char.ofNat_toNat])
    rw [hd, Char.ofNat_toNat] at hall
    exact beq_iff_eq.1 hall
  rw [variants, if_neg hc] at h
  split at h
  · exact absurd h (hletter (by decide))
  split at h
  · exact absurd h (hletter (by decide))
  · cases hgroup : groups.find? (·.contains c) with
    | none =>
      rw [hgroup] at h
      exact List.mem_singleton.1 h
    | some group =>
      rw [hgroup] at h
      have hbeyond := (List.mem_filter.1 (List.mem_of_find?_eq_some hgroup)).2
      have hge : 128 ≤ d.toNat := by simpa using List.all_eq_true.1 hbeyond d h
      omega

end Unicode.CaseGroup

namespace Regex

namespace CharSet

open Unicode.CaseGroup

theorem mem_asciiVariants (c : Char) : c ∈ asciiVariants c := by
  have h : c.toLower = c ∨ c.toUpper = c := by
    delta Char.toLower Char.toUpper
    split
    · rename_i hupper
      have hle : ¬ 'a'.val ≤ c.val := UInt32.not_le.2 (UInt32.lt_of_le_of_lt hupper.2 (by decide))
      exact .inr (dif_neg fun hlower => hle hlower.1)
    · exact .inl rfl
  rcases h with h | h <;> simp [asciiVariants, h]

theorem eq_of_mem_asciiVariants {c d : Char} (hd : isUncased d = true) (h : d ∈ asciiVariants c) :
    d = c := by
  by_cases hc : c.toNat < 128
  · have hall : ∀ n < 128, (asciiVariants (Char.ofNat n)).all
        (fun d => !isUncased d || d == Char.ofNat n) = true := by decide +kernel
    have heq := List.all_eq_true.1 (hall c.toNat hc) d (by rwa [Char.ofNat_toNat])
    rw [hd, Char.ofNat_toNat] at heq
    exact beq_iff_eq.1 heq
  · -- beyond ASCII the two functions change nothing
    have hlower := Text.toLower_of_not_lt hc
    have hupper : c.toUpper = c := by
      delta Char.toUpper
      refine dif_neg fun hlower => hc ?_
      exact Nat.lt_of_le_of_lt (UInt32.le_iff_toNat_le.1 hlower.2) (by decide)
    simpa [asciiVariants, hlower, hupper] using h

/-- The set holds characters without case only. -/
def isUncasedSet : CharSet → Bool
  | empty => true
  | range first last =>
    last < 'A' || ('Z' < first && last < 'a') || ('z' < first && last.toNat < 128)
  | union a b => a.isUncasedSet && b.isUncasedSet
  | inter a b => a.isUncasedSet && b.isUncasedSet
  | folded _ a => a.isUncasedSet
  | _ => false

/-- No set with a letter in it is complemented. -/
def sparesLetters : CharSet → Bool
  | compl a => a.isUncasedSet
  | union a b => a.sparesLetters && b.sparesLetters
  | inter a b => a.sparesLetters && b.sparesLetters
  | folded _ a => a.sparesLetters
  | _ => true

/-- Every ASCII character of the first set is in the second. -/
def WidensTo (s s' : CharSet) : Prop :=
  ∀ c : Char, c.toNat < 128 → s.contains c = true → s'.contains c = true

theorem contains_folded_iff (unicode : Bool) (s : CharSet) (c : Char) :
    (folded unicode s).contains c = true ↔
      ∃ d ∈ if unicode then variants c else asciiVariants c, s.contains d = true := by
  cases unicode <;> simp [contains]

theorem mem_caseVariants (unicode : Bool) (c : Char) :
    c ∈ if unicode then variants c else asciiVariants c := by
  cases unicode with
  | false => exact mem_asciiVariants c
  | true => exact mem_variants c

theorem eq_of_mem_caseVariants {unicode : Bool} {c d : Char} (hd : isUncased d = true)
    (h : d ∈ if unicode then variants c else asciiVariants c) : d = c := by
  cases unicode with
  | false => exact eq_of_mem_asciiVariants hd h
  | true => exact eq_of_mem_variants hd h

theorem isUncased_of_contains {s : CharSet} (hs : s.isUncasedSet = true) {c : Char}
    (hc : s.contains c = true) : isUncased c = true := by
  induction s generalizing c with
  | empty => cases hc
  | range first last =>
    simp only [isUncasedSet, contains, Char.lt_def, Char.le_def, UInt32.lt_iff_toNat_lt,
      UInt32.le_iff_toNat_le, Bool.or_eq_true, Bool.and_eq_true, decide_eq_true_eq] at hs hc
    simp at hs
    rw [isUncased_iff]
    simp only [Char.toNat] at hs ⊢
    omega
  | union a b iha ihb =>
    simp only [isUncasedSet, Bool.and_eq_true, contains, Bool.or_eq_true] at hs hc
    exact hc.elim (iha hs.1) (ihb hs.2)
  | inter a b iha _ =>
    simp only [isUncasedSet, Bool.and_eq_true, contains] at hs hc
    exact iha hs.1 hc.1
  | folded unicode a ih =>
    obtain ⟨d, hd, hmem⟩ := (contains_folded_iff unicode a c).1 hc
    rw [← eq_of_mem_caseVariants (ih hs hmem) hd]
    exact ih hs hmem
  | _ => cases hs

/-- Taking case away changes no set without letters. -/
theorem MoreFolded.contains_eq {s s' : CharSet} (h : s.MoreFolded s') (hs : s.isUncasedSet = true)
    (c : Char) : s'.contains c = s.contains c := by
  induction h generalizing c with
  | refl s => rfl
  | union _ _ iha ihb =>
    obtain ⟨ha, hb⟩ := Bool.and_eq_true_iff.1 hs
    rw [contains, contains, iha ha, ihb hb]
  | inter _ _ iha ihb =>
    obtain ⟨ha, hb⟩ := Bool.and_eq_true_iff.1 hs
    rw [contains, contains, iha ha, ihb hb]
  | compl => cases hs
  | folded unicode _ ih =>
    rw [Bool.eq_iff_iff, contains_folded_iff, contains_folded_iff]
    exact exists_congr fun d => by rw [ih hs]
  | @fold unicode a _ _ ih =>
    rw [Bool.eq_iff_iff, contains_folded_iff]
    constructor
    · rintro ⟨d, hd, hmem⟩
      rw [ih hs] at hmem
      rwa [← eq_of_mem_caseVariants (isUncased_of_contains hs hmem) hd]
    · intro hmem
      exact ⟨c, mem_caseVariants unicode c, by rwa [ih hs]⟩

theorem MoreFolded.contains_of_sparesLetters {s s' : CharSet} (h : s.MoreFolded s')
    (hs : s.sparesLetters = true) {c : Char} (hc : s.contains c = true) : s'.contains c = true := by
  induction h generalizing c with
  | refl s => exact hc
  | union _ _ iha ihb =>
    obtain ⟨ha, hb⟩ := Bool.and_eq_true_iff.1 hs
    rw [contains, Bool.or_eq_true] at hc ⊢
    exact hc.imp (iha ha) (ihb hb)
  | inter _ _ iha ihb =>
    obtain ⟨ha, hb⟩ := Bool.and_eq_true_iff.1 hs
    rw [contains, Bool.and_eq_true] at hc ⊢
    exact hc.imp (iha ha) (ihb hb)
  | compl h =>
    rw [contains] at hc ⊢
    rwa [h.contains_eq hs]
  | folded unicode _ ih =>
    obtain ⟨d, hd, hmem⟩ := (contains_folded_iff unicode _ c).1 hc
    exact (contains_folded_iff unicode _ c).2 ⟨d, hd, ih hs hmem⟩
  | fold unicode _ ih =>
    exact (contains_folded_iff unicode _ c).2 ⟨c, mem_caseVariants unicode c, ih hs hc⟩

end CharSet

/-! ## Expressions -/

/-- No set of the expression complements a set with letters. -/
def sparesLetters : Regex → Bool
  | empty => true
  | chars set => set.sparesLetters
  | anchor _ => true
  | seq r s => r.sparesLetters && s.sparesLetters
  | alt r s => r.sparesLetters && s.sparesLetters
  | repeated r _ _ => r.sparesLetters

/-- The expression is a row of sets, each for one character. -/
def isRow : Regex → Bool
  | empty => true
  | chars _ => true
  | seq r s => r.isRow && s.isRow
  | _ => false

/-- The second expression is found in every ASCII text in which the first one is found. -/
def FoundWith (r r' : Regex) : Prop :=
  ∀ text, Text.isAscii text = true → r.occursIn text = true → r'.occursIn text = true

section
variable {r r' : Regex}

theorem SameTree.widensTo (h : SameTree CharSet.MoreFolded r r') (hr : r.sparesLetters = true) :
    SameTree CharSet.WidensTo r r' := by
  induction h with
  | empty => exact .empty
  | chars h => exact .chars fun _ _ hc => h.contains_of_sparesLetters hr hc
  | anchor a => exact .anchor a
  | seq _ _ ihr ihs =>
    obtain ⟨hr, hs⟩ := Bool.and_eq_true_iff.1 hr
    exact .seq (ihr hr) (ihs hs)
  | alt _ _ ihr ihs =>
    obtain ⟨hr, hs⟩ := Bool.and_eq_true_iff.1 hr
    exact .alt (ihr hr) (ihs hs)
  | repeated least most _ ih => exact .repeated least most (ih hr)

/-- Where no set loses an ASCII character, every match of ASCII characters is kept. -/
theorem SameTree.matches {p m q : List Char} (h : SameTree CharSet.WidensTo r r')
    (hmatch : Matches r p m q) (hm : ∀ c ∈ m, c.toNat < 128) : Matches r' p m q := by
  induction hmatch generalizing r' with
  | empty p q =>
    cases h
    exact .empty p q
  | @chars set c p q hc =>
    cases h with
    | chars h => exact .chars p q (h c (hm c (.head _)) hc)
  | anchor p q ha =>
    cases h
    exact .anchor p q ha
  | seq _ _ ih₁ ih₂ =>
    obtain ⟨hm, hn⟩ := List.forall_mem_append.1 hm
    cases h with
    | seq hr hs => exact .seq (ih₁ hr hm) (ih₂ hs hn)
  | altLeft _ ih =>
    cases h with
    | alt hr _ => exact .altLeft (ih hr hm)
  | altRight _ ih =>
    cases h with
    | alt _ hs => exact .altRight (ih hs hm)
  | stop p q =>
    cases h
    exact .stop p q
  | next hmost _ _ ih₁ ih₂ =>
    obtain ⟨hm, hn⟩ := List.forall_mem_append.1 hm
    cases h with
    | repeated least most hr => exact .next hmost (ih₁ hr hm) (ih₂ (hr.repeated _ _) hn)

/-- What a row matches does not depend on the text around it. -/
theorem Matches.of_isRow {p m q : List Char} (h : Matches r p m q) (hr : r.isRow = true)
    (p' q' : List Char) : Matches r p' m q' := by
  induction h generalizing p' q' with
  | empty => exact .empty p' q'
  | chars _ _ hc => exact .chars p' q' hc
  | seq _ _ ih₁ ih₂ =>
    obtain ⟨hr, hs⟩ := Bool.and_eq_true_iff.1 hr
    exact .seq (ih₁ hr _ _) (ih₂ hs _ _)
  | _ => cases hr

theorem SameTree.isRow_eq {R : CharSet → CharSet → Prop} (h : SameTree R r r') :
    r'.isRow = r.isRow := by
  induction h with
  | seq _ _ ihr ihs => rw [isRow, isRow, ihr, ihs]
  | _ => rfl

/-- The matches of a row are all of one length. -/
theorem SameTree.length_eq {R : CharSet → CharSet → Prop} (h : SameTree R r r')
    (hr : r.isRow = true) {p m q p' m' q' : List Char} (hmatch : Matches r p m q)
    (hmatch' : Matches r' p' m' q') : m.length = m'.length := by
  induction h generalizing p m q p' m' q' with
  | empty =>
    cases hmatch
    cases hmatch'
    rfl
  | chars =>
    cases hmatch
    cases hmatch'
    rfl
  | seq _ _ ihr ihs =>
    obtain ⟨hr, hs⟩ := Bool.and_eq_true_iff.1 hr
    cases hmatch with
    | seq h₁ h₂ => cases hmatch' with
      | seq h₁' h₂' => rw [List.length_append, List.length_append, ihr hr h₁ h₁', ihs hs h₂ h₂']
  | _ => cases hr

/-- A row that keeps its matches, of which there are some, loses no character of any set. -/
theorem SameTree.widensTo_of_matches {R : CharSet → CharSet → Prop} (h : SameTree R r r')
    (hr : r.isRow = true) (hsome : ∃ m, (∀ c ∈ m, c.toNat < 128) ∧ Matches r [] m [])
    (hkept : ∀ m, (∀ c ∈ m, c.toNat < 128) → Matches r [] m [] → Matches r' [] m []) :
    SameTree CharSet.WidensTo r r' := by
  induction h with
  | empty => exact .empty
  | chars =>
    refine .chars fun c hascii hc => ?_
    cases hkept [c] (by simpa using hascii) (.chars [] [] hc) with
    | chars _ _ hc => exact hc
  | @seq r r' s s' hrr' hss' ihr ihs =>
    obtain ⟨hr, hs⟩ := Bool.and_eq_true_iff.1 hr
    -- a match of the row is cut where the matches of its parts have been put together
    have hparts {k l : List Char} (hk : ∀ c ∈ k, c.toNat < 128) (hl : ∀ c ∈ l, c.toNat < 128)
        (hfirst : Matches r [] k []) (hrest : Matches s [] l []) :
        Matches r' [] k [] ∧ Matches s' [] l [] := by
      have hrow : Matches (.seq r s) [] (k ++ l) [] :=
        .seq (hfirst.of_isRow hr _ _) (hrest.of_isRow hs _ _)
      generalize htext : k ++ l = text at hrow
      cases hkept text (htext ▸ List.forall_mem_append.2 ⟨hk, hl⟩) hrow with
      | seq h₁ h₂ =>
        obtain ⟨rfl, rfl⟩ := List.append_inj htext (hrr'.length_eq hr hfirst h₁)
        exact ⟨h₁.of_isRow (hrr'.isRow_eq.trans hr) _ _, h₂.of_isRow (hss'.isRow_eq.trans hs) _ _⟩
    obtain ⟨_, hascii, hmatch⟩ := hsome
    cases hmatch with
    | @seq _ _ _ m n _ h₁ h₂ =>
      obtain ⟨hm, hn⟩ := List.forall_mem_append.1 hascii
      have hfirst := h₁.of_isRow hr [] []
      have hrest := h₂.of_isRow hs [] []
      exact .seq (ihr hr ⟨m, hm, hfirst⟩ fun k hk h => (hparts hk hn h hrest).1)
        (ihs hs ⟨n, hn, hrest⟩ fun l hl h => (hparts hm hl hfirst h).2)
  | _ => cases hr

section
variable (hordered : r.IsOrdered) (hordered' : r'.IsOrdered)
include hordered hordered'

theorem SameTree.foundWith (h : SameTree CharSet.WidensTo r r') : FoundWith r r' := by
  intro text hascii hoccurs
  obtain ⟨p, m, q, rfl, hmatch⟩ := (occursIn_iff hordered text).1 hoccurs
  have hm : ∀ c ∈ m, c.toNat < 128 := fun c hc =>
    Text.toNat_lt_of_isAscii hascii c (List.mem_append_left _ (List.mem_append_right _ hc))
  exact (occursIn_iff hordered' _).2 ⟨p, m, q, rfl, h.matches hmatch hm⟩

/-- For a row that is found in some ASCII text, nothing but the sets decides. -/
theorem SameTree.foundWith_iff {R : CharSet → CharSet → Prop} (h : SameTree R r r')
    (hr : r.isRow = true) (hsome : ∃ text, Text.isAscii text = true ∧ r.occursIn text = true) :
    FoundWith r r' ↔ SameTree CharSet.WidensTo r r' := by
  refine ⟨fun hfound => h.widensTo_of_matches hr ?_ fun m hm hmatch => ?_,
    fun hsets => hsets.foundWith hordered hordered'⟩
  · obtain ⟨text, hascii, hoccurs⟩ := hsome
    obtain ⟨p, m, q, rfl, hmatch⟩ := (occursIn_iff hordered text).1 hoccurs
    refine ⟨m, fun c hc => ?_, hmatch.of_isRow hr [] []⟩
    exact Text.toNat_lt_of_isAscii hascii c (List.mem_append_left _ (List.mem_append_right _ hc))
  · have hoccurs := hfound m (Text.isAscii_of_toNat_lt hm)
      ((occursIn_iff hordered m).2 ⟨[], m, [], by simp, hmatch⟩)
    obtain ⟨p, k, q, htext, hmatch'⟩ := (occursIn_iff hordered' m).1 hoccurs
    -- a match in the whole text that is as long as the text is the text
    have hlength := congrArg List.length htext
    rw [List.length_append, List.length_append, h.length_eq hr hmatch hmatch'] at hlength
    obtain rfl := List.length_eq_zero_iff.1 (show p.length = 0 by omega)
    obtain rfl := List.length_eq_zero_iff.1 (show q.length = 0 by omega)
    rw [List.nil_append, List.append_nil] at htext
    rwa [htext]

end

end

/-- A text that is read with case is read without, into the same tree. What is found in ASCII texts
with case is found without if no set loses an ASCII character, so if no set with letters is
complemented. For a row of sets this is the only way: if it is found in any ASCII text at all, it
loses none of them only if its sets lose nothing. -/
theorem foundWith_of_read? {body : List Char} {cased : Regex} (h : read? false body = some cased) :
    ∃ caseless, read? true body = some caseless ∧
      (SameTree CharSet.WidensTo cased caseless → FoundWith cased caseless) ∧
      (cased.sparesLetters = true → SameTree CharSet.WidensTo cased caseless) ∧
      (cased.isRow = true → (∃ text, Text.isAscii text = true ∧ cased.occursIn text = true) →
        (FoundWith cased caseless ↔ SameTree CharSet.WidensTo cased caseless)) := by
  have hrel := rel_read? body
  rw [h] at hrel
  generalize h' : read? true body = read at hrel
  cases hrel with
  | some htree =>
    have hordered := isOrdered_of_read? h
    have hordered' := isOrdered_of_read? h'
    exact ⟨_, rfl, SameTree.foundWith hordered hordered', htree.widensTo,
      SameTree.foundWith_iff hordered hordered' htree⟩

theorem foundWith_of_read?_classes :
    (∃ cased caseless, read? false "x[^/]+y".toList = some cased ∧
      read? true "x[^/]+y".toList = some caseless ∧ FoundWith cased caseless) ∧
    ∃ cased caseless, read? false "x[^a]y".toList = some cased ∧
      read? true "x[^a]y".toList = some caseless ∧ ¬SameTree CharSet.WidensTo cased caseless := by
  constructor
  · have hread : ∃ cased, read? false "x[^/]+y".toList = some cased ∧ cased.sparesLetters = true :=
      ⟨_, rfl, by decide⟩
    obtain ⟨cased, hread, hspares⟩ := hread
    obtain ⟨caseless, hread', hsets, hletters, -⟩ := foundWith_of_read? hread
    exact ⟨cased, caseless, hread, hread', hsets (hletters hspares)⟩
  · have hread : ∃ cased, read? false "x[^a]y".toList = some cased ∧ cased.isRow = true ∧
        cased.occursIn "xAy".toList = true := ⟨_, rfl, by decide, by decide +kernel⟩
    obtain ⟨cased, hread, hrow, hfound⟩ := hread
    obtain ⟨caseless, hread', -, -, hexact⟩ := foundWith_of_read? hread
    have hlost : (read? true "x[^a]y".toList).all (fun r => !r.occursIn "xAy".toList) = true := by
      decide +kernel
    rw [hread'] at hlost
    have hascii : Text.isAscii "xAy".toList = true := by decide
    refine ⟨cased, caseless, hread, hread', fun hsets => ?_⟩
    have hkept := (hexact hrow ⟨_, hascii, hfound⟩).2 hsets _ hascii hfound
    rw [Option.all_some, hkept] at hlost
    cases hlost

end Regex

end ContentRules
