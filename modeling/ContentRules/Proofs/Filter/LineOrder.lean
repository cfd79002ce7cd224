import ContentRules.Filter.Badfilter
import ContentRules.Filter.CosmeticException
import ContentRules.Filter.LineReader

/-!
The order of the lines of a filter list decides neither which rules remain of it nor what these
rules say: the number of a line is not looked at, a rule cancels others wherever they stand, and
exceptions narrow the sites of a rule to the same sites in every order. Main statement:
`SameRules.applyCosmeticExceptions`.
-/

namespace ContentRules

namespace DomainList

/-- The lists name the same sites. -/
structure Same (l m : DomainList) : Prop where
  permitted : ∀ s, s ∈ l.permitted ↔ s ∈ m.permitted
  restricted : ∀ s, s ∈ l.restricted ↔ s ∈ m.restricted

theorem Same.symm {l m : DomainList} (h : l.Same m) : m.Same l :=
  ⟨fun s => (h.permitted s).symm, fun s => (h.restricted s).symm⟩

/-! ## Narrowing -/

/-- What remains of a list of sites when several lists are taken from it. -/
structure Narrowed (l : DomainList) (excluded : List (List String)) (m : DomainList) : Prop where
  notEverywhere : ∀ x ∈ excluded, x ≠ []
  limited : l.permitted = [] ↔ m.permitted = []
  permitted : ∀ s, s ∈ m.permitted ↔ s ∈ l.permitted ∧ ∀ x ∈ excluded, s ∉ x
  restricted : ∀ s, s ∈ m.restricted ↔
    s ∈ l.restricted ∨ (l.permitted = [] ∧ ∃ x ∈ excluded, s ∈ x)

theorem Narrowed.refl (l : DomainList) : l.Narrowed [] l := ⟨nofun, .rfl, by simp, by simp⟩

/-- The order of the lists that are taken, and how often each is, does not matter. -/
theorem Narrowed.congr {l m : DomainList} {excluded excluded' : List (List String)}
    (h : l.Narrowed excluded m) (hsame : ∀ x, x ∈ excluded ↔ x ∈ excluded') :
    l.Narrowed excluded' m := by
  obtain ⟨hne, hlimited, hpermitted, hrestricted⟩ := h
  simp only [hsame] at hne hpermitted hrestricted
  exact ⟨hne, hlimited, hpermitted, hrestricted⟩

theorem Narrowed.same {l m m' : DomainList} {excluded : List (List String)}
    (h : l.Narrowed excluded m) (h' : l.Narrowed excluded m') : m.Same m' :=
  ⟨fun s => (h.permitted s).trans (h'.permitted s).symm,
    fun s => (h.restricted s).trans (h'.restricted s).symm⟩

theorem narrowed_without {l m : DomainList} {excluded : List String}
    (h : l.without excluded = some m) : l.Narrowed [excluded] m := by
  unfold without at h
  split at h
  · cases h
  rename_i hne
  have hne : excluded ≠ [] := by simpa using hne
  split at h
  · rename_i hp
    have hp : l.permitted = [] := by simpa using hp
    cases h
    exact ⟨by simpa using hne, .rfl, by simp [hp], by simp [mem_addMissing, hp]⟩
  · rename_i hp
    have hp : l.permitted ≠ [] := by simpa using hp
    split at h
    · cases h
    · rename_i d rest hfilter
      cases h
      refine ⟨by simpa using hne, by simp [hp], fun s => ?_, by simp [hp]⟩
      rw [← hfilter]
      simp

theorem exists_without {l m : DomainList} {excluded : List (List String)}
    (h : l.Narrowed excluded m) {x : List String} (hx : x ∈ excluded) :
    ∃ m', l.without x = some m' := by
  have hne := h.notEverywhere x hx
  unfold without
  rw [if_neg (by simpa using hne)]
  split
  · exact ⟨_, rfl⟩
  rename_i hp
  split
  · rename_i hfilter
    have hm : m.permitted ≠ [] := fun h' => hp (by simp [h.limited.2 h'])
    obtain ⟨s, hs⟩ := List.exists_mem_of_ne_nil _ hm
    obtain ⟨hs, hs'⟩ := (h.permitted s).1 hs
    have := List.filter_eq_nil_iff.1 hfilter s hs
    simp [hs' x hx] at this
  · exact ⟨_, rfl⟩

/-- Taking lists one after the other. -/
theorem Narrowed.append_iff {l l' m : DomainList} {excluded excluded' : List (List String)}
    (h : l.Narrowed excluded l') :
    l.Narrowed (excluded ++ excluded') m ↔ l'.Narrowed excluded' m := by
  have hpermitted (s : String) : (s ∈ l.permitted ∧ ∀ x ∈ excluded ++ excluded', s ∉ x) ↔
      s ∈ l'.permitted ∧ ∀ x ∈ excluded', s ∉ x := by
    rw [h.permitted, List.forall_mem_append, and_assoc]
  have hrestricted (s : String) :
      (s ∈ l.restricted ∨ (l.permitted = [] ∧ ∃ x ∈ excluded ++ excluded', s ∈ x)) ↔
        s ∈ l'.restricted ∨ (l'.permitted = [] ∧ ∃ x ∈ excluded', s ∈ x) := by
    rw [h.restricted, ← h.limited]
    by_cases hp : l.permitted = [] <;> simp [hp, or_and_right, exists_or, or_assoc]
  constructor
  · intro h'
    exact ⟨fun x hx => h'.notEverywhere x (List.mem_append_right _ hx),
      h.limited.symm.trans h'.limited, fun s => (h'.permitted s).trans (hpermitted s),
      fun s => (h'.restricted s).trans (hrestricted s)⟩
  · intro h'
    exact ⟨List.forall_mem_append.2 ⟨h.notEverywhere, h'.notEverywhere⟩,
      h.limited.trans h'.limited, fun s => (h'.permitted s).trans (hpermitted s).symm,
      fun s => (h'.restricted s).trans (hrestricted s).symm⟩

theorem narrowed_foldlM {excluded : List (List String)} {l m : DomainList}
    (h : excluded.foldlM without l = some m) : l.Narrowed excluded m := by
  induction excluded generalizing l with
  | nil =>
    cases h
    exact .refl _
  | cons x excluded ih =>
    rw [List.foldlM_cons] at h
    obtain ⟨l', hl', h⟩ := Option.bind_eq_some_iff.1 h
    exact (narrowed_without hl').append_iff.2 (ih h)

theorem exists_foldlM {excluded : List (List String)} {l m : DomainList}
    (h : l.Narrowed excluded m) : ∃ m', excluded.foldlM without l = some m' := by
  induction excluded generalizing l with
  | nil => exact ⟨l, rfl⟩
  | cons x excluded ih =>
    obtain ⟨l', hl'⟩ := exists_without h (.head _)
    obtain ⟨m', hm'⟩ := ih ((narrowed_without hl').append_iff.1 h)
    exact ⟨m', by rw [List.foldlM_cons, hl', Option.bind_eq_bind, Option.bind_some, hm']⟩

end DomainList

namespace Rule

/-- What a rule says, its line aside. -/
def said (r : Rule) : DomainList × RuleBody := (r.domains, r.body)

/-- The rules say the same, up to the order of their sites. -/
structure Same (r s : Rule) : Prop where
  body : r.body = s.body
  domains : r.domains.Same s.domains

theorem Same.symm {r s : Rule} (h : r.Same s) : s.Same r := ⟨h.body.symm, h.domains.symm⟩

variable {r s : Rule} (h : r.said = s.said)
include h

theorem body_of_said : r.body = s.body := congrArg Prod.snd h

theorem domains_of_said : r.domains = s.domains := congrArg Prod.fst h

theorem isBadfilter_of_said : r.isBadfilter = s.isBadfilter := by
  rw [isBadfilter, isBadfilter, body_of_said h]

theorem key_of_said : RuleKey.ofRule? r = RuleKey.ofRule? s := by
  rw [RuleKey.ofRule?, RuleKey.ofRule?, body_of_said h, domains_of_said h]

theorem isCosmeticException_of_said : r.isCosmeticException = s.isCosmeticException := by
  rw [isCosmeticException, isCosmeticException, body_of_said h]

end Rule

/-- Every rule of the first list says what some rule of the second says. -/
def SaidIn (rules rules' : List Rule) : Prop := ∀ r ∈ rules, ∃ s ∈ rules', r.said = s.said

/-! ## Reading -/

/-- A rule does not depend on the number of its line. -/
theorem Rule.read_eq_map (number : Nat) (rawLine : String) :
    Rule.read number rawLine =
      (Rule.read 0 rawLine).map (·.map fun r => { r with line := number }) := by
  unfold Rule.read
  dsimp only
  split
  · rfl
  · cases CosmeticRule.read? (Text.trim rawLine.toList) with
    | error => rfl
    | ok cosmetic =>
      cases cosmetic with
      | some => rfl
      | none =>
        dsimp only [bind, Except.bind]
        cases NetworkRule.read (Text.trim rawLine.toList) <;> rfl

theorem Rule.read_eq_some_iff {number : Nat} {rawLine : String} {r : Rule} :
    Rule.read number rawLine = .ok (some r) ↔
      ∃ s, Rule.read 0 rawLine = .ok (some s) ∧ { s with line := number } = r := by
  rw [read_eq_map]
  cases Rule.read 0 rawLine with
  | error => simp [Except.map]
  | ok result => simp [Except.map]

theorem FilterList.mem_rules {lines : List String} {r : Rule} :
    r ∈ (FilterList.read lines).rules ↔
      ∃ line number, (line, number) ∈ lines.zipIdx ∧ Rule.read number line = .ok (some r) := by
  simp only [FilterList.read, FilterList.ofResults, List.mem_filterMap]
  constructor
  · rintro ⟨_, ⟨⟨line, number⟩, hline, hread⟩, hr⟩
    refine ⟨line, number, hline, ?_⟩
    simp only [FilterList.readLine] at hread
    split at hread
    · cases hread
    · cases hread
      cases hr
      assumption
    · cases hread
      cases hr
  · rintro ⟨line, number, hline, hread⟩
    exact ⟨.ok r, ⟨(line, number), hline, by simp only [FilterList.readLine, hread]⟩, rfl⟩

/-- The rules of a list say what its lines say, in whatever order these come. -/
theorem FilterList.saidIn_of_subset {lines lines' : List String} (h : ∀ l ∈ lines, l ∈ lines') :
    SaidIn (FilterList.read lines).rules (FilterList.read lines').rules := by
  intro r hr
  obtain ⟨line, number, hline, hread⟩ := mem_rules.1 hr
  obtain ⟨number', hline'⟩ := List.mem_iff_getElem?.1 (h line (List.fst_mem_of_mem_zipIdx hline))
  obtain ⟨s, hs, rfl⟩ := Rule.read_eq_some_iff.1 hread
  exact ⟨{ s with line := number' }, mem_rules.2 ⟨line, number',
    List.mem_zipIdx_iff_getElem?.2 hline', Rule.read_eq_some_iff.2 ⟨s, hs, rfl⟩⟩, rfl⟩

/-! ## Cancelling -/

theorem Cancellation.mem_rules {rules : List Rule} {r : Rule} :
    r ∈ (Cancellation.ofRules rules).rules ↔ r ∈ rules ∧ r.isBadfilter = false ∧
      ∀ b ∈ rules, b.isBadfilter = true → ∀ k, RuleKey.ofRule? r = some k →
        RuleKey.ofRule? b ≠ some k := by
  simp only [Cancellation.ofRules, List.mem_filter, Rule.hasKeyIn, Bool.not_eq_true', and_assoc]
  refine and_congr_right fun _ => and_congr_right fun _ => ?_
  cases hk : RuleKey.ofRule? r with
  | none => simp
  | some k =>
    rw [Option.any_some, Bool.eq_false_iff, ne_eq, Std.HashSet.contains_ofList]
    simp [List.mem_filterMap]

/-- The rules that are left say the same if the rules before did. -/
theorem SaidIn.cancellation {rules rules' : List Rule} (h : SaidIn rules rules')
    (h' : SaidIn rules' rules) :
    SaidIn (Cancellation.ofRules rules).rules (Cancellation.ofRules rules').rules := by
  intro r hr
  obtain ⟨hr, hbad, hkeys⟩ := Cancellation.mem_rules.1 hr
  obtain ⟨s, hs, hsaid⟩ := h r hr
  refine ⟨s, Cancellation.mem_rules.2 ⟨hs, Rule.isBadfilter_of_said hsaid ▸ hbad, ?_⟩, hsaid⟩
  intro b hb hbbad k hk
  obtain ⟨b', hb', hbsaid⟩ := h' b hb
  rw [Rule.key_of_said hbsaid]
  exact hkeys b' hb' (Rule.isBadfilter_of_said hbsaid ▸ hbbad) k ((Rule.key_of_said hsaid).trans hk)

/-! ## Exceptions of cosmetic rules -/

/-- The exceptions that name a rule are found wherever they stand. -/
theorem Rule.mem_exceptionsFor {exceptions : List Rule} {r e : Rule} :
    e ∈ r.exceptionsFor (Index.ofList (fun e => e.body.target?) exceptions) ↔
      e ∈ exceptions ∧ ∃ target, r.body.target? = some target ∧
        ((e.body.target? = some target ∧ e.body.acceptsArguments r.body = true) ∨
          (∃ name, target = .scriptlet name) ∧ e.body.target? = some .anyScriptlet) := by
  unfold Rule.exceptionsFor
  cases r.body.target? with
  | none => simp
  | some target =>
    simp only [Option.some.injEq, exists_eq_left']
    cases target <;>
      simp [Index.find_ofList, and_or_left, and_comm]

theorem permitted_of_saidIn {rules rules' : List Rule} (h : SaidIn rules rules') (x : List String)
    (hx : x ∈ rules.map fun e => e.domains.permitted) :
    x ∈ rules'.map fun e => e.domains.permitted := by
  obtain ⟨e, he, rfl⟩ := List.mem_map.1 hx
  obtain ⟨e', he', hsaid⟩ := h e he
  exact List.mem_map.2 ⟨e', he', by rw [Rule.domains_of_said hsaid]⟩

theorem Rule.exceptionsFor_saidIn {exceptions exceptions' : List Rule}
    (h : SaidIn exceptions exceptions') {r s : Rule} (hsaid : r.said = s.said) :
    SaidIn (r.exceptionsFor (Index.ofList (fun e => e.body.target?) exceptions))
      (s.exceptionsFor (Index.ofList (fun e => e.body.target?) exceptions')) := by
  intro e he
  obtain ⟨he, target, htarget, hmatch⟩ := Rule.mem_exceptionsFor.1 he
  obtain ⟨e', he', hsaid'⟩ := h e he
  refine ⟨e', Rule.mem_exceptionsFor.2 ⟨he', target, ?_, ?_⟩, hsaid'⟩
  · rw [← Rule.body_of_said hsaid, htarget]
  · rwa [← Rule.body_of_said hsaid', ← Rule.body_of_said hsaid]

/-- Every rule of the first list has one in the second that says the same up to the order of
sites. -/
def SameRules (rules rules' : List Rule) : Prop := ∀ r ∈ rules, ∃ s ∈ rules', r.Same s

/-- The rules that the exceptions leave say the same if the rules before did. -/
theorem SaidIn.applyCosmeticExceptions {rules rules' : List Rule} (h : SaidIn rules rules')
    (h' : SaidIn rules' rules) :
    SameRules (applyCosmeticExceptions rules).1 (applyCosmeticExceptions rules').1 := by
  have hexceptions {rules rules' : List Rule} (h : SaidIn rules rules') :
      SaidIn (rules.filter Rule.isCosmeticException) (rules'.filter Rule.isCosmeticException) := by
    intro e he
    obtain ⟨he, hexception⟩ := List.mem_filter.1 he
    obtain ⟨e', he', hsaid⟩ := h e he
    exact ⟨e', List.mem_filter.2 ⟨he', Rule.isCosmeticException_of_said hsaid ▸ hexception⟩, hsaid⟩
  intro r' hr'
  obtain ⟨r, hr, hnarrow⟩ := List.mem_filterMap.1 hr'
  obtain ⟨hr, hexception⟩ := List.mem_filter.1 hr
  obtain ⟨s, hs, hsaid⟩ := h r hr
  obtain ⟨domains, hdomains, rfl⟩ := Option.map_eq_some_iff.1 hnarrow
  -- the exceptions for both rules exclude the same lists of sites
  have hsame := fun x => show x ∈ _ ↔ x ∈ _ from ⟨
    permitted_of_saidIn (Rule.exceptionsFor_saidIn (hexceptions h) hsaid) x,
    permitted_of_saidIn (Rule.exceptionsFor_saidIn (hexceptions h') hsaid.symm) x⟩
  have hnarrowed := (DomainList.narrowed_foldlM hdomains).congr hsame
  rw [Rule.domains_of_said hsaid] at hnarrowed
  obtain ⟨domains', hdomains'⟩ := DomainList.exists_foldlM hnarrowed
  refine ⟨{ s with domains := domains' },
    List.mem_filterMap.2 ⟨s, List.mem_filter.2 ⟨hs, ?_⟩, ?_⟩, ?_⟩
  · rw [← Rule.isCosmeticException_of_said hsaid]
    exact hexception
  · exact Option.map_eq_some_iff.2 ⟨domains', hdomains', rfl⟩
  · have hbody := Rule.body_of_said hsaid
    exact ⟨hbody, hnarrowed.same (DomainList.narrowed_foldlM hdomains')⟩

end ContentRules
