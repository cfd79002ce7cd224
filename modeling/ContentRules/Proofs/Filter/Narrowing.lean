import ContentRules.Proofs.Filter.Rereading
import ContentRules.Proofs.Native.Precedence

/-!
On which pages a rule applies once the exceptions of cosmetic rules have narrowed its sites. Only
the sites that an exception is limited to are taken from the rule, and they are compared as texts.
So the rule does not apply on the sites that an exception spares, and applies on pages that an
exception names by another text than the rule does. Everywhere else it applies where its own sites
admit the page and those of no exception for it do. Main statement: `appliesAfter_iff_admits_iff`.
-/

namespace ContentRules

/-! ## Pages that sites admit -/

namespace DomainList

/-- One of the sites is that of the page. -/
def Names (sites : List String) (host : List Char) : Prop :=
  ∃ s ∈ sites, (DomainValue.ofText s).admits host = true

/-- The page is on a permitted site, if there are any, and on none that is spared. -/
structure Admits (l : DomainList) (host : List Char) : Prop where
  permitted : l.permitted = [] ∨ Names l.permitted host
  restricted : ¬Names l.restricted host

/-- The condition that the sites make holds on the page. -/
def AppliesOn (l : DomainList) (host : List Char) : Prop :=
  ∃ c, l.condition = .ok c ∧ DomainCondition.admits? c host = true

/-- Sites are permitted, and all of these are spared. -/
def Conflicts (l : DomainList) : Prop := l.permitted ≠ [] ∧ ∀ s ∈ l.permitted, s ∈ l.restricted

variable {l m : DomainList} {excluded : List (List String)} {host : List Char}

theorem any_admits_iff {sites : List String} :
    (sites.map DomainValue.ofText).any (·.admits host) = true ↔ Names sites host := by
  simp [Names]

theorem appliesOn_iff : l.AppliesOn host ↔
    (l.permitted = [] ∧ ¬Names l.restricted host) ∨
      ∃ s ∈ l.permitted, s ∉ l.restricted ∧ (DomainValue.ofText s).admits host = true := by
  unfold AppliesOn condition
  by_cases hp : l.permitted = []
  · simp [hp, DomainCondition.admits_except, ← any_admits_iff]
  rw [if_neg (by simpa using hp)]
  have hnames : Names (l.permitted.filter fun s => !l.restricted.contains s) host ↔
      ∃ s ∈ l.permitted, s ∉ l.restricted ∧ (DomainValue.ofText s).admits host = true := by
    simp [Names, and_assoc]
  rw [← hnames]
  split
  · rename_i hnil
    rw [hnil]
    simp [hp, Names]
  · rename_i d rest hfilter
    rw [hfilter]
    simp only [hp, false_and, false_or, Except.ok.injEq, exists_eq_left',
      DomainCondition.admits_only]
    exact any_admits_iff

/-- Sites make a condition unless they conflict. -/
theorem exists_condition_iff : (∃ c, l.condition = .ok c) ↔ ¬l.Conflicts := by
  unfold condition Conflicts
  by_cases hp : l.permitted = []
  · simp [hp]
  rw [if_neg (by simpa using hp)]
  split
  · rename_i hnil
    simpa [hp, List.filter_eq_nil_iff] using hnil
  · rename_i d rest hfilter
    have hd : d ∈ l.permitted ∧ d ∉ l.restricted := by
      simpa using (hfilter ▸ List.mem_cons_self :
        d ∈ l.permitted.filter fun d => !l.restricted.contains d)
    exact ⟨fun _ hconflicts => hd.2 (hconflicts.2 d hd.1), fun _ => ⟨_, rfl⟩⟩

/-! ## Pages that narrowed sites admit -/

/-- Something is left when several lists are taken from sites: none of the lists stands for all
sites, and if the sites are limited, one of them is in no list. -/
theorem exists_foldlM_iff : (∃ m, excluded.foldlM without l = some m) ↔
    (∀ x ∈ excluded, x ≠ []) ∧ (l.permitted = [] ∨ ∃ s ∈ l.permitted, ∀ x ∈ excluded, s ∉ x) := by
  constructor
  · rintro ⟨m, hm⟩
    have h := narrowed_foldlM hm
    refine ⟨h.notEverywhere, or_iff_not_imp_left.2 fun hp => ?_⟩
    obtain ⟨s, hs⟩ := List.exists_mem_of_ne_nil _ (mt h.limited.2 hp)
    exact ⟨s, (h.permitted s).1 hs⟩
  · rintro ⟨hne, hleft⟩
    by_cases hp : l.permitted = []
    · have h : l.Narrowed excluded ⟨[], l.restricted ++ excluded.flatten⟩ :=
        ⟨hne, by simp [hp], by simp [hp], by simp [hp]⟩
      exact exists_foldlM h
    · obtain ⟨s, hs⟩ := hleft.resolve_left hp
      have hs' : l.permitted.filter (fun s => decide (∀ x ∈ excluded, s ∉ x)) ≠ [] :=
        List.ne_nil_of_mem (List.mem_filter.2 ⟨hs.1, decide_eq_true hs.2⟩)
      have h : l.Narrowed excluded
          ⟨l.permitted.filter fun s => decide (∀ x ∈ excluded, s ∉ x), l.restricted⟩ :=
        ⟨hne, by simp only [hp, hs'], by simp, by simp [hp]⟩
      exact exists_foldlM h

/-- On which pages the sites apply that several lists have been taken from. -/
theorem Narrowed.appliesOn_iff (h : l.Narrowed excluded m) : m.AppliesOn host ↔
    (l.permitted = [] ∧ ¬Names l.restricted host ∧ ∀ x ∈ excluded, ¬Names x host) ∨
      ∃ s ∈ l.permitted, s ∉ l.restricted ∧ (∀ x ∈ excluded, s ∉ x) ∧
        (DomainValue.ofText s).admits host = true := by
  rw [DomainList.appliesOn_iff, ← h.limited]
  by_cases hp : l.permitted = []
  · have hnone (s : String) : s ∉ m.permitted := by simp [h.permitted, hp]
    have hnames : Names m.restricted host ↔
        Names l.restricted host ∨ ∃ x ∈ excluded, Names x host := by
      simp only [Names, h.restricted, hp, true_and]
      grind
    simp [hp, hnone, hnames]
  · have hsame (s : String) : s ∈ m.restricted ↔ s ∈ l.restricted := by simp [h.restricted, hp]
    simp only [hp, false_and, false_or, h.permitted, hsame]
    grind

/-- Narrowed sites conflict if all permitted ones that are left are spared. -/
theorem Narrowed.conflicts_iff (h : l.Narrowed excluded m) : m.Conflicts ↔
    (∃ s ∈ l.permitted, ∀ x ∈ excluded, s ∉ x) ∧
      ∀ s ∈ l.permitted, (∀ x ∈ excluded, s ∉ x) → s ∈ l.restricted := by
  have hne : m.permitted ≠ [] ↔ ∃ s, s ∈ m.permitted :=
    ⟨List.exists_mem_of_ne_nil _, fun ⟨_, hs⟩ => List.ne_nil_of_mem hs⟩
  simp only [Conflicts, hne, h.permitted, h.restricted, and_imp]
  refine and_congr_right fun _ => forall₃_congr fun s hs _ => or_iff_left ?_
  rintro ⟨hp, -⟩
  exact List.ne_nil_of_mem hs hp

/-- Sites from which several lists are taken still apply on a page. -/
theorem exists_foldlM_appliesOn_iff :
    (∃ m, excluded.foldlM without l = some m ∧ m.AppliesOn host) ↔ (∀ x ∈ excluded, x ≠ []) ∧
      ((l.permitted = [] ∧ ¬Names l.restricted host ∧ ∀ x ∈ excluded, ¬Names x host) ∨
        ∃ s ∈ l.permitted, s ∉ l.restricted ∧ (∀ x ∈ excluded, s ∉ x) ∧
          (DomainValue.ofText s).admits host = true) := by
  constructor
  · rintro ⟨m, hm, happlies⟩
    have h := narrowed_foldlM hm
    exact ⟨h.notEverywhere, h.appliesOn_iff.1 happlies⟩
  · rintro ⟨hne, happlies⟩
    have hleft : l.permitted = [] ∨ ∃ s ∈ l.permitted, ∀ x ∈ excluded, s ∉ x :=
      happlies.imp (·.1) fun ⟨s, hs, _, hnot, _⟩ => ⟨s, hs, hnot⟩
    obtain ⟨m, hm⟩ := exists_foldlM_iff.2 ⟨hne, hleft⟩
    exact ⟨m, hm, (narrowed_foldlM hm).appliesOn_iff.2 happlies⟩

end DomainList

open DomainList

/-! ## Exceptions for a rule -/

/-- An exception names what it repeats: a cosmetic rule by flavour and body, a
scriptlet by its name, with all arguments or only with the given ones. One that names
no scriptlet is for all of them. -/
inductive RuleBody.Targets : RuleBody → RuleBody → Prop
  | cosmetic {flavour : Flavour} {body : String} :
    Targets (.cosmetic true flavour body) (.cosmetic false flavour body)
  | scriptlet {e call : ScriptletCall} (name : e.name = call.name)
    (args : e.args = [] ∨ e.args = call.args) : Targets (.scriptlet true e) (.scriptlet false call)
  | everyScriptlet {e call : ScriptletCall} (name : e.name = "") :
    Targets (.scriptlet true e) (.scriptlet false call)

/-- The body calls a scriptlet by name, unless it makes an exception. -/
def RuleBody.IsNamed (body : RuleBody) : Prop :=
  ∀ call, body = .scriptlet false call → call.name ≠ ""

/-- The rule is that of a line of text. -/
def Rule.IsRead (r : Rule) : Prop := ∃ line, Rule.read r.line line = .ok (some r)

/-- A rule is determined by its line and its text. -/
theorem Rule.IsRead.eq_of_text {r s : Rule} (hr : r.IsRead) (hs : s.IsRead)
    (hline : r.line = s.line) (htext : r.text = s.text) : r = s := by
  obtain ⟨_, hr⟩ := hr
  obtain ⟨_, hs⟩ := hs
  have hagain := read_text hr r.line
  rw [htext, hline, read_text hs] at hagain
  have hsame := Option.some.inj (Except.ok.inj hagain)
  cases r
  cases s
  simp_all

theorem ScriptletCall.name_ne_of_ofTexts {source : List Char} {texts : List (List Char)}
    {call : ScriptletCall} (h : ofTexts false source texts = .ok call) : call.name ≠ "" := by
  unfold ofTexts at h
  dsimp only at h
  split at h
  · cases h
  · rename_i hname
    cases h
    simpa [String.ext_iff] using hname

/-- The call of a body that is read is the call of some texts. -/
theorem CosmeticRule.ofTexts_of_readBody {m : Marker} {s : List Char} {isException : Bool}
    {call : ScriptletCall} (h : readBody m s = .ok (.scriptlet isException call)) :
    ∃ source texts, ScriptletCall.ofTexts isException source texts = .ok call := by
  unfold readBody at h
  dsimp only at h
  split at h
  · split at h
    · obtain ⟨_, -, h⟩ := bind_eq_ok.1 h
      obtain ⟨_, hcall, h⟩ := bind_eq_ok.1 h
      obtain ⟨hexception, rfl⟩ := RuleBody.scriptlet.inj (Except.ok.inj h)
      rw [hexception] at hcall
      exact ⟨_, _, hcall⟩
    · split at h <;> cases h
  · split at h
    · obtain ⟨_, -, h⟩ := bind_eq_ok.1 h
      obtain ⟨_, hcall, h⟩ := bind_eq_ok.1 h
      obtain ⟨hexception, rfl⟩ := RuleBody.scriptlet.inj (Except.ok.inj h)
      rw [hexception, ScriptletCall.readQuoted] at hcall
      split at hcall
      · cases hcall
      · exact ⟨_, _, hcall⟩
    · cases h
  all_goals split at h <;> cases h

theorem Rule.isNamed_of_read {number : Nat} {line : String} {r : Rule}
    (h : Rule.read number line = .ok (some r)) : r.body.IsNamed := by
  rintro call hcall
  rcases Rule.body_of_read h with ⟨m, s, hbody⟩ | ⟨s, hread⟩
  · obtain ⟨source, texts, hcall⟩ := CosmeticRule.ofTexts_of_readBody (hcall ▸ hbody)
    exact ScriptletCall.name_ne_of_ofTexts hcall
  · obtain ⟨_, _, _, hbody, -⟩ := NetworkRule.exists_of_read hread
    cases hbody.symm.trans hcall

theorem RuleBody.scriptlet_targets_iff {e call : ScriptletCall} :
    (scriptlet true e).Targets (.scriptlet false call) ↔
      e.name = call.name ∧ (e.args = [] ∨ e.args = call.args) ∨ e.name = "" := by
  constructor
  · rintro (_ | ⟨hname, hargs⟩ | hname)
    · exact .inl ⟨hname, hargs⟩
    · exact .inr hname
  · rintro (⟨hname, hargs⟩ | hname)
    · exact .scriptlet hname hargs
    · exact .everyScriptlet hname

/-- How the name and the arguments of a rule are compared with those of an exception. -/
theorem RuleBody.targets_iff {e body : RuleBody} (hrule : body.isCosmeticException = false)
    (hnamed : body.IsNamed) :
    e.Targets body ↔ e.isCosmeticException = true ∧ ∃ target, body.target? = some target ∧
      ((e.target? = some target ∧ e.acceptsArguments body = true) ∨
        (∃ name, target = .scriptlet name) ∧ e.target? = some .anyScriptlet) := by
  cases body with
  | network => exact ⟨nofun, nofun⟩
  | cosmetic isException flavour text =>
    cases hrule
    constructor
    · rintro ⟨⟩
      exact ⟨rfl, _, rfl, .inl ⟨rfl, rfl⟩⟩
    · rintro ⟨hexception, _, ⟨⟩, ⟨htarget, -⟩ | ⟨⟨_, ⟨⟩⟩, -⟩⟩
      cases e with
      | network => cases htarget
      | cosmetic =>
        cases hexception
        cases htarget
        exact .cosmetic
      | scriptlet =>
        have htarget := Option.some.inj htarget
        split at htarget <;> cases htarget
  | scriptlet isException call =>
    cases hrule
    have hname : call.name ≠ "" := hnamed call rfl
    cases e with
    | network => exact ⟨nofun, nofun⟩
    | cosmetic =>
      refine ⟨nofun, ?_⟩
      simp [target?, hname]
    | scriptlet isException e =>
      cases isException with
      | false => exact ⟨nofun, nofun⟩
      | true =>
        rw [scriptlet_targets_iff]
        by_cases he : e.name = "" <;>
          simp [target?, isCosmeticException, acceptsArguments, hname, he]

/-- The lists of sites that the exceptions in a list of rules take from a rule. -/
def Rule.excluded (rules : List Rule) (r : Rule) : List (List String) :=
  (r.exceptionsFor (Index.ofList (fun e => e.body.target?)
    (rules.filter Rule.isCosmeticException))).map (·.domains.permitted)

theorem Rule.mem_excluded {rules : List Rule} {r : Rule} (hrule : r.isCosmeticException = false)
    (hnamed : r.body.IsNamed) {x : List String} :
    x ∈ r.excluded rules ↔ ∃ e ∈ rules, e.body.Targets r.body ∧ e.domains.permitted = x := by
  rw [Rule.excluded, List.mem_map]
  refine exists_congr fun e => ?_
  rw [Rule.mem_exceptionsFor, List.mem_filter, and_assoc (a := e ∈ rules),
    RuleBody.targets_iff hrule hnamed, and_assoc]
  rfl

/-- A rule is left if something is left of its sites. -/
theorem mem_applyCosmeticExceptions_iff {rules : List Rule} {s : Rule} :
    s ∈ (applyCosmeticExceptions rules).1 ↔ ∃ r ∈ rules, r.isCosmeticException = false ∧
      ∃ m, (r.excluded rules).foldlM without r.domains = some m ∧ s = { r with domains := m } := by
  simp only [applyCosmeticExceptions, List.mem_filterMap, List.mem_filter, Bool.not_eq_true',
    Rule.narrow?, Option.map_eq_some_iff, and_assoc, Rule.excluded, eq_comm (b := s)]

section
variable (rules : List Rule) (r : Rule) (host : List Char)

/-- An exception that names the rule admits the page. -/
def Rule.IsExcepted : Prop := ∃ e ∈ rules, e.body.Targets r.body ∧ e.domains.Admits host

/-- An exception that names the rule is for the page if the sites that it spares do not count. -/
def Rule.IsReached : Prop :=
  ∃ e ∈ rules, e.body.Targets r.body ∧
    (e.domains.permitted = [] ∨ Names e.domains.permitted host)

/-- The page is on a permitted site of the rule that neither the rule nor an exception for it
repeats, yet one of them names the page by another text. -/
structure Rule.Escapes : Prop where
  site : ∃ s ∈ r.domains.permitted, (DomainValue.ofText s).admits host = true ∧
    s ∉ r.domains.restricted ∧
    ∀ e ∈ rules, e.body.Targets r.body → e.domains.permitted ≠ [] ∧ s ∉ e.domains.permitted
  other : Names r.domains.restricted host ∨
    ∃ e ∈ rules, e.body.Targets r.body ∧ Names e.domains.permitted host

/-- The rule is left by the exceptions of a list, on sites that make a condition that holds on the
page. -/
def AppliesAfter : Prop :=
  ∃ s ∈ (applyCosmeticExceptions rules).1,
    s.line = r.line ∧ s.text = r.text ∧ s.domains.AppliesOn host

end

section
variable {rules : List Rule} (hread : ∀ r ∈ rules, r.IsRead) {r : Rule} (hr : r ∈ rules)
  (hrule : r.isCosmeticException = false) {host : List Char}
include hread hr hrule

/-- What the exceptions leave of a rule are the sites that they do not name. -/
theorem appliesAfter_iff_foldlM : AppliesAfter rules r host ↔
    ∃ m, (r.excluded rules).foldlM without r.domains = some m ∧ m.AppliesOn host := by
  constructor
  · rintro ⟨s, hs, hline, htext, happlies⟩
    obtain ⟨r', hr', -, m, hm, rfl⟩ := mem_applyCosmeticExceptions_iff.1 hs
    obtain rfl : r' = r := (hread r' hr').eq_of_text (hread r hr) hline htext
    exact ⟨m, hm, happlies⟩
  · rintro ⟨m, hm, happlies⟩
    exact ⟨{ r with domains := m },
      mem_applyCosmeticExceptions_iff.2 ⟨r, hr, hrule, m, hm, rfl⟩, rfl, rfl, happlies⟩

/-- A rule applies where its own sites admit the page and no exception for it does, the sites that
exceptions spare left aside, and on the pages that escape. -/
theorem appliesAfter_iff : AppliesAfter rules r host ↔
    (r.domains.Admits host ∧ ¬r.IsReached rules host) ∨ r.Escapes rules host := by
  obtain ⟨line, hr'⟩ := hread r hr
  have hall {p : List String → Prop} : (∀ x ∈ r.excluded rules, p x) ↔
      ∀ e ∈ rules, e.body.Targets r.body → p e.domains.permitted := by
    simp only [Rule.mem_excluded hrule (Rule.isNamed_of_read hr')]
    grind
  rw [appliesAfter_iff_foldlM hread hr hrule, exists_foldlM_appliesOn_iff]
  simp only [hall]
  constructor
  · rintro ⟨hne, ⟨hp, hrestricted, hnames⟩ | ⟨s, hs, hs', hnot, hadmits⟩⟩
    · refine .inl ⟨⟨.inl hp, hrestricted⟩, ?_⟩
      rintro ⟨e, he, htargets, hpermitted | hnamed⟩
      · exact hne e he htargets hpermitted
      · exact hnames e he htargets hnamed
    · by_cases hother : Names r.domains.restricted host ∨
          ∃ e ∈ rules, e.body.Targets r.body ∧ Names e.domains.permitted host
      · exact .inr ⟨⟨s, hs, hadmits, hs', fun e he htargets =>
          ⟨hne e he htargets, hnot e he htargets⟩⟩, hother⟩
      · rw [not_or] at hother
        refine .inl ⟨⟨.inr ⟨s, hs, hadmits⟩, hother.1⟩, ?_⟩
        rintro ⟨e, he, htargets, hpermitted | hnamed⟩
        · exact hne e he htargets hpermitted
        · exact hother.2 ⟨e, he, htargets, hnamed⟩
  · rintro (⟨⟨hp | ⟨s, hs, hadmits⟩, hrestricted⟩, hreached⟩ | ⟨⟨s, hs, hadmits, hs', hnot⟩, -⟩)
    · exact ⟨fun e he htargets hpermitted => hreached ⟨e, he, htargets, .inl hpermitted⟩,
        .inl ⟨hp, hrestricted, fun e he htargets hnamed => hreached ⟨e, he, htargets, .inr hnamed⟩⟩⟩
    · exact ⟨fun e he htargets hpermitted => hreached ⟨e, he, htargets, .inl hpermitted⟩,
        .inr ⟨s, hs, fun hs' => hrestricted ⟨s, hs', hadmits⟩,
          fun e he htargets hs' => hreached ⟨e, he, htargets, .inr ⟨s, hs', hadmits⟩⟩, hadmits⟩⟩
    · exact ⟨fun e he htargets => (hnot e he htargets).1,
        .inr ⟨s, hs, hs', fun e he htargets => (hnot e he htargets).2, hadmits⟩⟩

end

theorem Rule.IsExcepted.isReached {rules : List Rule} {r : Rule} {host : List Char}
    (h : r.IsExcepted rules host) : r.IsReached rules host := by
  obtain ⟨e, he, htargets, hadmits⟩ := h
  exact ⟨e, he, htargets, hadmits.permitted⟩

/-- Exceptions narrow a rule to the pages that its own sites admit and those of no exception for it
do, save on pages that escape, and on pages that an exception for it is for but spares. -/
theorem appliesAfter_iff_admits_iff {rules : List Rule} (hread : ∀ r ∈ rules, r.IsRead)
    {r : Rule} (hr : r ∈ rules) (hrule : r.isCosmeticException = false) (host : List Char) :
    (AppliesAfter rules r host ↔ r.domains.Admits host ∧ ¬r.IsExcepted rules host) ↔
      (r.Escapes rules host → r.domains.Admits host ∧ ¬r.IsExcepted rules host) ∧
        (¬r.Escapes rules host → r.domains.Admits host → r.IsReached rules host →
          r.IsExcepted rules host) := by
  rw [appliesAfter_iff hread hr hrule]
  have hreached : r.IsExcepted rules host → r.IsReached rules host := Rule.IsExcepted.isReached
  by_cases hescapes : r.Escapes rules host
  · simp [hescapes]
  · simp only [hescapes, or_false, false_imp_iff, true_and, not_false_eq_true, true_imp_iff]
    constructor
    · intro h hadmits hr'
      by_contra hexcepted
      exact (h.2 ⟨hadmits, hexcepted⟩).2 hr'
    · intro h
      refine and_congr_right fun hadmits => not_congr ⟨h hadmits, hreached⟩

/-- An exception for all sites but one leaves nothing of a rule, not even on that site. -/
theorem appliesAfter_iff_admits_iff_spared :
    let rule : Rule := ⟨0, "##.ad", {}, .cosmetic false .elementHiding ".ad"⟩
    let exception : Rule :=
      ⟨1, "~a.com#@#.ad", ⟨[], ["a.com"]⟩, .cosmetic true .elementHiding ".ad"⟩
    (∀ r ∈ [rule, exception], r.IsRead) ∧
      ¬(AppliesAfter [rule, exception] rule "a.com".toList ↔ rule.domains.Admits "a.com".toList ∧
        ¬rule.IsExcepted [rule, exception] "a.com".toList) := by
  intro rule exception
  have hrule : Rule.read 0 rule.text = .ok (some rule) := by decide +kernel
  have hexception : Rule.read 1 exception.text = .ok (some exception) := by decide +kernel
  have hread : ∀ r ∈ [rule, exception], r.IsRead := by
    simpa using ⟨⟨_, hrule⟩, ⟨_, hexception⟩⟩
  refine ⟨hread, fun h => ?_⟩
  have hadmits : rule.domains.Admits "a.com".toList := ⟨.inl rfl, nofun⟩
  have hreached : rule.IsReached [rule, exception] "a.com".toList :=
    ⟨exception, .tail _ (.head _), .cosmetic, .inl rfl⟩
  have hescapes : ¬rule.Escapes [rule, exception] "a.com".toList := by
    rintro ⟨⟨_, ⟨⟩, -⟩, -⟩
  obtain ⟨e, he, htargets, hexcepted⟩ := ((appliesAfter_iff_admits_iff hread (.head _) rfl
    "a.com".toList).1 h).2 hescapes hadmits hreached
  have he : e = rule ∨ e = exception := by simpa using he
  rcases he with rfl | rfl
  · cases htargets
  · exact hexcepted.restricted ⟨"a.com", .head _, by decide +kernel⟩

end ContentRules
