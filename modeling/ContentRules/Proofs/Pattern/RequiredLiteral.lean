import ContentRules.Proofs.Pattern.Literals
import ContentRules.Proofs.Pattern.MisreadSigns
import ContentRules.Proofs.Pattern.UrlFilters
import ContentRules.Proofs.Regex.Ordered

/-!
The literal that is taken from an expression between slashes. The scan for it goes over the signs of
the expression in step with the reader, and as long as it takes the signs for what the reader takes
them for, whatever the expression matches holds the literal. Main statement:
`occursIn_of_shortcut?`.
-/

namespace ContentRules.Pattern

open Regex Regex.Reader

/-! ## Literals in what a sequence matches -/

section
variable {ignoreCase : Bool} {text : List Char} {rs : List Regex} {s : List Char}

/-- Whatever the sequence matches holds the literal. -/
def Holds (ignoreCase : Bool) (text : List Char) (rs : List Regex) (s : List Char) : Prop :=
  ∀ i j, SpansAll text rs i j →
    ∃ k l, i ≤ k ∧ l ≤ j ∧ SpansAll text (s.map (literalRegex ignoreCase)) k l

/-- Whatever the sequence matches ends with the literal. -/
def EndsIn (ignoreCase : Bool) (text : List Char) (rs : List Regex) (s : List Char) : Prop :=
  ∀ i j, SpansAll text rs i j → ∃ k, i ≤ k ∧ SpansAll text (s.map (literalRegex ignoreCase)) k j

theorem endsIn_nil (ignoreCase : Bool) (text : List Char) (rs : List Regex) :
    EndsIn ignoreCase text rs [] :=
  fun _ j h => ⟨j, h.le, rfl, h.le_length⟩

theorem EndsIn.holds (h : EndsIn ignoreCase text rs s) : Holds ignoreCase text rs s := by
  intro i j hspans
  obtain ⟨k, hk, hliteral⟩ := h i j hspans
  exact ⟨k, j, hk, Nat.le_refl j, hliteral⟩

theorem holds_nil (ignoreCase : Bool) (text : List Char) (rs : List Regex) :
    Holds ignoreCase text rs [] := (endsIn_nil ignoreCase text rs).holds

theorem Holds.append (h : Holds ignoreCase text rs s) (ss : List Regex) :
    Holds ignoreCase text (rs ++ ss) s := by
  intro i j hspans
  obtain ⟨m, hrs, hss⟩ := spansAll_append.1 hspans
  obtain ⟨k, l, hk, hl, hliteral⟩ := h i m hrs
  exact ⟨k, l, hk, Nat.le_trans hl hss.le, hliteral⟩

theorem Holds.longer {t : List Char} (hs : Holds ignoreCase text rs s)
    (ht : Holds ignoreCase text rs t) : Holds ignoreCase text rs (longer s t) := by
  unfold Pattern.longer
  split
  · exact ht
  · exact hs

/-- One more character. -/
theorem EndsIn.push (h : EndsIn ignoreCase text rs s) (c : Char) :
    EndsIn ignoreCase text (rs ++ [literalRegex ignoreCase c]) (s ++ [c]) := by
  intro i j hspans
  obtain ⟨m, hrs, hc⟩ := spansAll_append.1 hspans
  obtain ⟨k, hk, hliteral⟩ := h i m hrs
  refine ⟨k, hk, ?_⟩
  rw [List.map_append]
  exact spansAll_append.2 ⟨m, hliteral, hc⟩

/-- Repeating the last element at least once leaves a first match of it. -/
theorem Holds.repeated {r : Regex} (h : Holds ignoreCase text (rs ++ [r]) s) :
    Holds ignoreCase text (rs ++ [.repeated r 1 none]) s := by
  intro i j hspans
  obtain ⟨m, hrs, n, hn, rfl, -⟩ := spansAll_append.1 hspans
  obtain ⟨-, count, hcount, -, hreached⟩ := spans_repeated.1 hn
  cases count with
  | zero => cases hcount
  | succ count =>
    obtain ⟨first, hfirst, hrest⟩ := hreached
    have hseq : SpansAll text (rs ++ [r]) i first :=
      spansAll_append.2 ⟨m, hrs, first, hfirst, rfl, hfirst.le_length⟩
    obtain ⟨k, l, hk, hl, hliteral⟩ := h i first hseq
    exact ⟨k, l, hk, Nat.le_trans hl (hrest.le fun _ _ h => h.le), hliteral⟩

end

/-! ## The scan and the reader -/

/-- The state outside groups after a sequence. -/
def topState (ignoreCase : Bool) (names : List (List Char)) (rs : List Regex) : State :=
  ⟨{ ignoreCase }, names, [], ⟨[], (rs.map .expr).reverse⟩⟩

theorem push_topState (ignoreCase : Bool) (names : List (List Char)) (rs : List Regex) (r : Regex) :
    (topState ignoreCase names rs).push (.expr r) = topState ignoreCase names (rs ++ [r]) := by
  simp [topState, State.push]

/-- What is repeated outside groups is the last part of the sequence. -/
theorem repeat?_topState {ignoreCase : Bool} {names : List (List Char)} {rs : List Regex}
    {st' : State} {least : Nat} {most : Option Nat}
    (h : (topState ignoreCase names rs).repeat? least most = some st') :
    ∃ before r, rs = before ++ [r] ∧
      st' = topState ignoreCase names (before ++ [.repeated r least most]) := by
  rcases List.eq_nil_or_concat' rs with rfl | ⟨before, r, rfl⟩
  · cases h
  · refine ⟨before, r, rfl, ?_⟩
    simp only [topState, State.repeat?, List.map_append, List.map_cons, List.map_nil,
      List.reverse_append, List.reverse_cons, List.reverse_nil, List.nil_append,
      List.singleton_append, Option.some.injEq] at h ⊢
    exact h.symm

/-- The scan is where the reader is, and what it has found so far is certain. In a group, the
literal stands in what the sequence before the outermost group matches. -/
inductive Agrees (ignoreCase : Bool) (text : List Char) :
    State → List Char → List Char → Nat → LastElement → Prop
  | top {names : List (List Char)} {rs : List Regex} {best current : List Char} {last : LastElement}
      (hbest : Holds ignoreCase text rs best) (hcurrent : EndsIn ignoreCase text rs current)
      (hfree : last = .free → current = [] ∧ Holds ignoreCase text rs.dropLast best) :
      Agrees ignoreCase text (topState ignoreCase names rs) best current 0 last
  | inside {names : List (List Char)} {groups : List Group} {level : Level} {rs : List Regex}
      {best : List Char} (hgroups : ∀ g ∈ groups, g.modes = { ignoreCase })
      (hbest : Holds ignoreCase text rs best) :
      Agrees ignoreCase text ⟨{ ignoreCase }, names,
        groups ++ [⟨(topState ignoreCase names rs).level, { ignoreCase }⟩], level⟩ best []
        (groups.length + 1) .free

section
variable {ignoreCase : Bool} {text : List Char} {st st' : State} {best current : List Char}
    {d : Nat}
  {last : LastElement} (h : Agrees ignoreCase text st best current d last)
include h

theorem Agrees.modes_eq : st.modes = { ignoreCase } := by
  cases h <;> rfl

theorem Agrees.current_eq_nil (hd : 0 < d) : current = [] := by
  cases h with
  | top => cases hd
  | inside => rfl

/-- An element that no character of the literal comes from. -/
theorem Agrees.push (r : Regex) :
    Agrees ignoreCase text (st.push (.expr r)) (longer best current) [] d .free := by
  cases h with
  | top hbest hcurrent hfree =>
    have hlonger := hbest.longer hcurrent.holds
    rw [push_topState]
    exact .top (hlonger.append [r]) (endsIn_nil _ _ _) fun _ => ⟨rfl, by simpa using hlonger⟩
  | inside hgroups hbest =>
    rw [longer_nil]
    exact .inside hgroups hbest

/-- A character of the literal. -/
theorem Agrees.push_literal (hd : d = 0) (c : Char) :
    Agrees ignoreCase text (st.push (.expr (literalRegex ignoreCase c))) best (current ++ [c]) 0
      .counted := by
  cases h with
  | top hbest hcurrent hfree =>
    rw [push_topState]
    exact .top (hbest.append _) (hcurrent.push c) nofun
  | inside => cases hd

theorem Agrees.openGroup :
    Agrees ignoreCase text (st.openGroup st.modes) (longer best current) [] (d + 1) .free := by
  cases h with
  | top hbest hcurrent hfree =>
    exact @Agrees.inside _ _ _ [] _ _ _ nofun (hbest.longer hcurrent.holds)
  | @inside names groups level rs best hgroups hbest =>
    rw [longer_nil]
    exact @Agrees.inside _ _ _ (⟨level, { ignoreCase }⟩ :: groups) _ _ _
      (List.forall_mem_cons.2 ⟨rfl, hgroups⟩) hbest

theorem Agrees.closeGroup? (hclose : st.closeGroup? = some st') :
    Agrees ignoreCase text st' (longer best current) [] (d - 1) .free := by
  cases h with
  | top => cases hclose
  | @inside names groups level rs best hgroups hbest =>
    rw [longer_nil]
    cases groups with
    | nil =>
      cases hclose
      -- the group is one more part of the sequence
      have hpush :=
        (@Agrees.top _ _ names _ _ _ .counted hbest (endsIn_nil _ _ _) nofun).push level.expr
      rwa [longer_nil] at hpush
    | cons g groups =>
      cases hclose
      obtain ⟨hg, hgroups⟩ := List.forall_mem_cons.1 hgroups
      unfold State.push
      dsimp only
      rw [hg]
      exact .inside hgroups hbest

/-- A repetition of an element that no character of the literal comes from. -/
theorem Agrees.repeat?_free (hlast : last = .free) {least : Nat} {most : Option Nat}
    (hrepeat : st.repeat? least most = some st') :
    Agrees ignoreCase text st' (longer best current) [] d .free := by
  cases h with
  | top hbest hcurrent hfree =>
    obtain ⟨rfl, hbest⟩ := hfree hlast
    obtain ⟨before, r, rfl, rfl⟩ := repeat?_topState hrepeat
    rw [longer_nil]
    rw [List.dropLast_concat] at hbest
    exact .top (hbest.append _) (endsIn_nil _ _ _) fun _ => ⟨rfl, by simpa using hbest⟩
  | inside hgroups hbest =>
    rw [longer_nil]
    unfold State.repeat? at hrepeat
    split at hrepeat
    · cases hrepeat
      exact .inside hgroups hbest
    · cases hrepeat

/-- A plus leaves the literal before it in what is matched. -/
theorem Agrees.repeat?_plus (hrepeat : st.repeat? 1 none = some st') :
    Agrees ignoreCase text st' (longer best current) [] d
      (if last = .free then .free else .repeated) := by
  by_cases hlast : last = .free
  · rw [if_pos hlast]
    exact h.repeat?_free hlast hrepeat
  rw [if_neg hlast]
  cases h with
  | top hbest hcurrent hfree =>
    obtain ⟨before, r, rfl, rfl⟩ := repeat?_topState hrepeat
    exact .top (hbest.longer hcurrent.holds).repeated (endsIn_nil _ _ _) nofun
  | inside => exact absurd rfl hlast

/-- A question mark that only makes a repetition prefer few matches. -/
theorem Agrees.lazy (hlast : last = .repeated) :
    Agrees ignoreCase text st best current d .counted := by
  cases h with
  | top hbest hcurrent => exact .top hbest hcurrent nofun
  | inside => cases hlast

end

/-! ## Scanning -/

/-- The scan goes on in step with the reader and comes to a literal. -/
structure Scanning (ignoreCase : Bool) (text literal : List Char) (st : State)
    (s best current : List Char) (d : Nat) (last : LastElement) : Prop where
  agrees : Agrees ignoreCase text st best current d last
  check : UrlFilter.missingConstruct? false s = none
  misreads : misreads last (.outside d) s = false
  lazy : last = .repeated → s.head? ≠ some '?'
  literal : requiredLiteral best current (.outside d) s = some literal

/-- Some literals are certain with which the scan goes on. -/
def Scans (ignoreCase : Bool) (text literal : List Char) (st : State) (s : List Char) : Prop :=
  ∃ best current d last, Scanning ignoreCase text literal st s best current d last

section
variable {ignoreCase : Bool} {text literal : List Char} {st st' : State}
  {best current r s rest : List Char} {d : Nat} {last : LastElement}

theorem Agrees.scans (h : Agrees ignoreCase text st best current d last) (hlast : last ≠ .repeated)
    (hcheck : UrlFilter.missingConstruct? false s = none)
    (hmisreads : misreads last (.outside d) s = false)
    (hliteral : requiredLiteral best current (.outside d) s = some literal) :
    Scans ignoreCase text literal st s :=
  ⟨_, _, _, _, h, hcheck, hmisreads, fun hrepeated => absurd hrepeated hlast, hliteral⟩

/-- A question mark after a repetition counts for nothing. -/
theorem Agrees.scans_dropLazy (h : Agrees ignoreCase text st best [] d last)
    (hlast : last ≠ .counted) (hcheck : UrlFilter.missingConstruct? false r = none)
    (hmisreads : misreads last (.outside d) r = false)
    (hliteral : requiredLiteral best [] (.outside d) r = some literal) :
    Scans ignoreCase text literal st (dropLazy r) := by
  unfold dropLazy
  split
  · rename_i r
    have hliteral : requiredLiteral (longer best []) [] (.outside d) r = some literal := hliteral
    rw [longer_nil] at hliteral
    cases last with
    | counted => exact absurd rfl hlast
    | free => exact h.scans (by decide) hcheck hmisreads hliteral
    | repeated => exact (h.lazy rfl).scans (by decide) hcheck hmisreads hliteral
  · rename_i hlazy
    refine ⟨_, _, _, _, h, hcheck, hmisreads, fun _ hhead => ?_, hliteral⟩
    obtain ⟨r', rfl⟩ := List.head?_eq_some_iff.1 hhead
    exact hlazy r' rfl

theorem Scanning.openGroup (h : Scanning ignoreCase text literal st ('(' :: r) best current d last)
    (hgroup : group? st r = some (st', rest)) : Scans ignoreCase text literal st' rest := by
  have hcheck : (if r.head? == some '?' then some .groupFlags
      else UrlFilter.missingConstruct? false r) = none := h.check
  split at hcheck
  · cases hcheck
  rename_i hflags
  unfold group? at hgroup
  rw [skipGaps_of_not_verbose (by rw [h.agrees.modes_eq])] at hgroup
  split at hgroup
  any_goals exact absurd (beq_self_eq_true _) hflags
  cases hgroup
  exact h.agrees.openGroup.scans (by decide) hcheck h.misreads h.literal

theorem Scanning.bracket (h : Scanning ignoreCase text literal st ('[' :: r) best current d last)
    {set : CharSet} (hread : Bracket.read? st.modes r = some (set, rest)) :
    Scans ignoreCase text literal (st.push (.expr (.chars set))) rest := by
  rw [h.agrees.modes_eq] at hread
  obtain ⟨hend, hmisreads⟩ := Bool.or_eq_false_iff.1 h.misreads
  have hafter := afterBracket_eq hread hend
  have hliteral : requiredLiteral (longer best current) [] (.inBrackets d) r = some literal :=
    h.literal
  rw [requiredLiteral_inBrackets hafter] at hliteral
  rw [misreads_inBrackets hafter] at hmisreads
  exact (h.agrees.push _).scans (by decide) (missingConstruct?_inBrackets hafter h.check) hmisreads
    hliteral

theorem Scanning.star (h : Scanning ignoreCase text literal st ('*' :: r) best current d last)
    (hrepeat : st.repeat? 0 none = some st') : Scans ignoreCase text literal st' (dropLazy r) := by
  obtain ⟨hlast, hmisreads⟩ := Bool.or_eq_false_iff.1 h.misreads
  exact (h.agrees.repeat?_free (bne_eq_false_iff_eq.1 hlast) hrepeat).scans_dropLazy nofun h.check
    hmisreads h.literal

theorem Scanning.questionMark
    (h : Scanning ignoreCase text literal st ('?' :: r) best current d last)
    (hrepeat : st.repeat? 0 (some 1) = some st') :
    Scans ignoreCase text literal st' (dropLazy r) := by
  obtain ⟨hcounted, hmisreads⟩ := Bool.or_eq_false_iff.1 h.misreads
  cases last with
  | counted => cases hcounted
  | repeated => exact absurd rfl (h.lazy rfl)
  | free =>
    exact (h.agrees.repeat?_free rfl hrepeat).scans_dropLazy nofun h.check hmisreads h.literal

theorem Scanning.plus (h : Scanning ignoreCase text literal st ('+' :: r) best current d last)
    (hrepeat : st.repeat? 1 none = some st') : Scans ignoreCase text literal st' (dropLazy r) := by
  refine (h.agrees.repeat?_plus hrepeat).scans_dropLazy ?_ h.check h.misreads h.literal
  split <;> nofun

theorem Scanning.escape (h : Scanning ignoreCase text literal st ('\\' :: r) best current d last)
    {a : Atom} (hread : escape? st.modes r = some (a, rest)) :
    Scans ignoreCase text literal (st.push (.expr (atomExpr st.modes a))) rest := by
  cases r with
  | nil => cases hread
  | cons e r =>
    obtain ⟨hmisread, hmisreads⟩ := Bool.or_eq_false_iff.1 h.misreads
    have hcheck := h.check
    rw [UrlFilter.missingConstruct?] at hcheck
    split at hcheck
    · cases hcheck
    rename_i hmissing
    obtain ⟨rfl, hsign⟩ := escape?_eq_of_not_misread hread hmisread (Bool.eq_false_iff.2 hmissing)
    have hliteral := h.literal
    rw [requiredLiteral] at hliteral
    split at hliteral
    · rename_i hcounted
      rw [if_pos hcounted] at hmisreads
      simp only [Bool.and_eq_true, decide_eq_true_eq] at hcounted
      obtain ⟨⟨hpunctuation, rfl⟩, -⟩ := hcounted
      rw [hsign hpunctuation, h.agrees.modes_eq]
      exact (h.agrees.push_literal rfl e).scans (by decide) hcheck hmisreads hliteral
    · rename_i hfree
      rw [if_neg hfree] at hmisreads
      exact (h.agrees.push _).scans (by decide) hcheck hmisreads hliteral

/-- A sign that stands for itself. -/
theorem Scanning.sign {c : Char}
    (h : Scanning ignoreCase text literal st (c :: r) best current d last) (hc : c ∉ specialSigns) :
    Scans ignoreCase text literal (st.push (.expr (literalExpr st.modes c))) r := by
  obtain ⟨hagrees, hcheck, hmisreads, -, hliteral⟩ := h
  rw [misreads_plain hc] at hmisreads
  rw [requiredLiteral_plain hc] at hliteral
  have hescape : c ≠ '\\' := fun h => hc (h ▸ by decide)
  have hopening : c ≠ '[' := fun h => hc (h ▸ by decide)
  have hcheck := (missingConstruct?_tail hescape hopening hcheck).1
  split at hliteral
  · rename_i hd
    -- in a group nothing has been collected, so that there is nothing to end
    have hpush := hagrees.push (literalExpr st.modes c)
    rw [hagrees.current_eq_nil hd] at hpush hliteral
    rw [longer_nil] at hpush
    exact hpush.scans (by decide) hcheck (by simpa [hd] using hmisreads) hliteral
  rename_i hd
  split at hliteral
  · rename_i hmissing
    exact (hagrees.push _).scans (by decide) hcheck (by simpa [hmissing] using hmisreads) hliteral
  · rename_i hmissing
    obtain rfl : d = 0 := by omega
    rw [hagrees.modes_eq]
    exact (hagrees.push_literal rfl c).scans (by decide) hcheck
      (by simpa [hmissing] using hmisreads)
      hliteral

/-- One step of the reader. -/
theorem Scanning.step? (h : Scanning ignoreCase text literal st s best current d last)
    (hstep : step? st s = some (st', rest)) : Scans ignoreCase text literal st' rest := by
  unfold Reader.step? at hstep
  split at hstep
  · cases hstep
  · exact h.openGroup hstep
  · obtain ⟨_, hclose, heq⟩ := Option.map_eq_some_iff.1 hstep
    cases heq
    exact (h.agrees.closeGroup? hclose).scans (by decide) h.check h.misreads h.literal
  · cases h.check
  · obtain ⟨⟨set, rest⟩, hread, heq⟩ := Option.map_eq_some_iff.1 hstep
    cases heq
    exact h.bracket hread
  · obtain ⟨_, hrepeat, heq⟩ := Option.map_eq_some_iff.1 hstep
    cases heq
    exact h.questionMark hrepeat
  · obtain ⟨_, hrepeat, heq⟩ := Option.map_eq_some_iff.1 hstep
    cases heq
    exact h.star hrepeat
  · obtain ⟨_, hrepeat, heq⟩ := Option.map_eq_some_iff.1 hstep
    cases heq
    exact h.plus hrepeat
  · cases h.check
  · obtain ⟨⟨a, rest⟩, hread, heq⟩ := Option.map_eq_some_iff.1 hstep
    cases heq
    exact h.escape hread
  · obtain ⟨set, -, heq⟩ := Option.map_eq_some_iff.1 hstep
    cases heq
    exact (h.agrees.push _).scans (by decide) h.check h.misreads h.literal
  · cases hstep
    exact (h.agrees.push _).scans (by decide) h.check h.misreads h.literal
  · cases hstep
    exact (h.agrees.push _).scans (by decide) h.check h.misreads h.literal
  · cases hstep
    rename_i hescape _ _ _
    have hbrace := (missingConstruct?_tail hescape ‹_› h.check).2
    refine h.sign ?_
    simp only [specialSigns, List.mem_cons, List.not_mem_nil, or_false, not_or]
    and_intros <;> assumption

/-- Reading to the end comes to an expression that matches only what holds the literal. -/
theorem Scans.readFrom {fuel : Nat} {result : Regex} (h : Scans ignoreCase text literal st s)
    (hread : readFrom st fuel s = some result) {i j : Nat} (hspans : Spans text result i j) :
    ∃ k l, SpansAll text (literal.map (literalRegex ignoreCase)) k l := by
  induction fuel generalizing st s with
  | zero => cases hread
  | succ fuel ih =>
    obtain ⟨best, current, d, last, h⟩ := h
    unfold Reader.readFrom at hread
    rw [skipGaps_of_not_verbose (by rw [h.agrees.modes_eq])] at hread
    split at hread
    · split at hread
      · rename_i hgroups
        cases hread
        cases h.literal
        cases h.agrees with
        | top hbest hcurrent =>
          obtain ⟨k, l, -, -, hliteral⟩ :=
            (hbest.longer hcurrent.holds) i j (spans_sequenceExpr.1 hspans)
          exact ⟨k, l, hliteral⟩
        | inside => simp at hgroups
      · cases hread
    · split at hread
      · cases hread
      · rename_i hstep
        exact ih (h.step? hstep) hread

end

/-! ## Shortcuts -/

/-- The shortcut of a regular expression is the literal that the scan comes to. -/
theorem exists_of_shortcut? {p s : List Char} {matchCase : Bool} (hp : isRegex p = true)
    (h : shortcut? p matchCase = some s) :
    ∃ literal, requiredLiteral [] [] (.outside 0) (regexBody p) = some literal ∧
      s = folded (!matchCase) literal := by
  simp only [shortcut?, hp, if_true, Option.bind_eq_bind] at h
  obtain ⟨literal, hliteral, h⟩ := Option.bind_eq_some_iff.1 h
  refine ⟨literal, hliteral, ?_⟩
  split at h
  · cases h
  · cases matchCase <;> exact (Option.some.inj h).symm

/-- Where the scan misreads no sign, a URL that the expression of a rule matches holds the
shortcut of the rule. -/
theorem occursIn_of_shortcut? {p url s : List Char} {matchCase : Bool} {r : Regex}
    (hp : isRegex p = true) (hcheck : UrlFilter.check (regexBody p) = .ok ())
    (hread : Regex.read? (!matchCase) (regexBody p) = some r) (hurl : Text.isAscii url = true)
    (hmatch : r.occursIn url = true) (hshortcut : shortcut? p matchCase = some s)
    (hmisreads : misreads .free (.outside 0) (regexBody p) = false) :
    Text.occursIn s (folded (!matchCase) url) = true := by
  obtain ⟨hascii, hmissing⟩ := UrlFilter.check_eq_ok_iff.1 hcheck
  obtain ⟨literal, hliteral, rfl⟩ := exists_of_shortcut? hp hshortcut
  obtain ⟨i, j, hspans⟩ := (occursIn_iff_of_read? hread url).1 hmatch
  have hstart : Agrees (!matchCase) url (topState (!matchCase) [] []) [] [] 0 .free :=
    .top (holds_nil _ _ _) (endsIn_nil _ _ _) fun _ => ⟨rfl, holds_nil _ _ _⟩
  have hscans : Scans (!matchCase) url literal (topState (!matchCase) [] []) (regexBody p) :=
    hstart.scans (by decide) hmissing hmisreads hliteral
  obtain ⟨k, l, hspans⟩ := hscans.readFrom hread hspans
  rw [Text.occursIn_iff]
  refine folded_infix_of_spansAll hspans ?_ (Text.toNat_lt_of_isAscii hurl)
  intro c hc
  have hbody := mem_of_requiredLiteral hliteral c hc
  simp only [List.not_mem_nil, false_or] at hbody
  exact Text.toNat_lt_of_isAscii hascii c hbody

/-- A group that is repeated ends the first literal, and a plus the second one. -/
theorem occursIn_of_shortcut?_plus :
    let p := "/ads\\.(x)+com+/".toList
    let url := "https://Ads.xxcomm/".toList
    isRegex p = true ∧ UrlFilter.check (regexBody p) = .ok () ∧ Text.isAscii url = true ∧
      shortcut? p false = some "ads.".toList ∧ misreads .free (.outside 0) (regexBody p) = false ∧
      ∃ r, Regex.read? true (regexBody p) = some r ∧ r.occursIn url = true ∧
        Text.occursIn "ads.".toList (folded true url) = true := by
  intro p url
  have hp : isRegex p = true := by decide
  have hcheck : UrlFilter.check (regexBody p) = .ok () :=
    UrlFilter.check_eq_ok_iff.2 (by decide +kernel)
  have hurl : Text.isAscii url = true := by decide
  have hshortcut : shortcut? p false = some "ads.".toList := by decide +kernel
  have hmisreads : misreads .free (.outside 0) (regexBody p) = false := by decide +kernel
  have hfound : (Regex.read? true (regexBody p)).any (·.occursIn url) = true := by decide +kernel
  obtain ⟨r, hread, hmatch⟩ := (Option.any_eq_true _ _).1 hfound
  have hholds :=
    @occursIn_of_shortcut? p url _ false r hp hcheck hread hurl hmatch hshortcut hmisreads
  exact ⟨hp, hcheck, hurl, hshortcut, hmisreads, r, hread, hmatch, hholds⟩

/-- A star after a plus: nothing of what they repeat needs to be there. -/
example :
    let p := "/ab+*c/".toList
    let url := "https://x.com/ac".toList
    misreads .free (.outside 0) (regexBody p) = true ∧ shortcut? p true = some "ab".toList ∧
      (Regex.read? false (regexBody p)).any (·.occursIn url) = true ∧
      Text.occursIn "ab".toList url = false := by
  decide +kernel

end ContentRules.Pattern
