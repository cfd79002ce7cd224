import ContentRules.Proofs.Filter.LineOrder
import ContentRules.Proofs.Native.Groups
import ContentRules.Proofs.Native.Origin

/-!
Which rules win. A blocking rule yields to exceptions for requests and to exceptions for whole
pages; rules with `important` only yield to exceptions that have the option too, and to exceptions
that switch everything off. A hiding rule yields to all of these exceptions but not to `important`,
and to the exceptions for the hiding rules of a page. Neither the groups of entries nor the order of
lines show in this. Main statement: `native_precedence`.
-/

namespace ContentRules

/-- The scope of an exception that counts: the widest one. -/
def Scopes.widest? (scopes : Scopes) : Option Scope :=
  [.document, .elemhide, .generichide].find? scopes.contains

namespace Rule

/-- The rule blocks requests, with or without the option `important`. -/
def Blocks (important : Bool) (r : Rule) : Prop :=
  ∃ pattern o, r.body = .network false pattern o ∧ o.important = important

/-- The rule excepts requests, with or without the option `important`; it has no scope. -/
def Excepts (important : Bool) (r : Rule) : Prop :=
  ∃ pattern o, r.body = .network true pattern o ∧ o.scopes.isEmpty = true ∧ o.important = important

/-- The rule is an exception for pages, and the given scope is the one that counts. -/
def SwitchesOff (scope : Scope) (r : Rule) : Prop :=
  ∃ pattern o, r.body = .network true pattern o ∧ o.scopes.widest? = some scope

/-- The rule hides what a selector selects. -/
def Hides (selector : String) (r : Rule) : Prop :=
  ∃ body, r.body = .cosmetic false .elementHiding body ∧ Text.trimmed body = selector

/-- The rule is limited to some sites. -/
def IsLimited (r : Rule) : Prop := r.domains.permitted ≠ []

/-- The rule compiles to an entry that counts for the request. -/
def Counts (q : Request) (r : Rule) : Prop :=
  ∃ entries, r.compile = .ok entries ∧ ∃ c ∈ entries, c.entry.counts q = true

end Rule

/-- Some rule of a kind counts for a request. -/
def SomeCounts (rules : List Rule) (q : Request) (kind : Rule → Prop) : Prop :=
  ∃ r ∈ rules, kind r ∧ r.Counts q

/-- The rules block the request. -/
def Blocked (rules : List Rule) (q : Request) : Prop :=
  (SomeCounts rules q (Rule.Blocks false) ∧ ¬SomeCounts rules q (Rule.Excepts false) ∧
      ¬SomeCounts rules q (Rule.Excepts true) ∧ ¬SomeCounts rules q (Rule.SwitchesOff .document)) ∨
    (SomeCounts rules q (Rule.Blocks true) ∧ ¬SomeCounts rules q (Rule.Excepts true) ∧
      ¬SomeCounts rules q (Rule.SwitchesOff .document))

/-- The rules hide what a selector selects. -/
def Hidden (rules : List Rule) (q : Request) (selector : String) : Prop :=
  (SomeCounts rules q (fun r => r.Hides selector ∧ ¬r.IsLimited) ∧
      ¬SomeCounts rules q (Rule.SwitchesOff .generichide) ∧
      ¬SomeCounts rules q (Rule.SwitchesOff .elemhide) ∧ ¬SomeCounts rules q (Rule.Excepts false) ∧
      ¬SomeCounts rules q (Rule.Excepts true) ∧ ¬SomeCounts rules q (Rule.SwitchesOff .document)) ∨
    (SomeCounts rules q (fun r => r.Hides selector ∧ r.IsLimited) ∧
      ¬SomeCounts rules q (Rule.SwitchesOff .elemhide) ∧ ¬SomeCounts rules q (Rule.Excepts false) ∧
      ¬SomeCounts rules q (Rule.Excepts true) ∧ ¬SomeCounts rules q (Rule.SwitchesOff .document))

/-! ## Roles of rules -/

section
variable {r : Rule} {isException : Bool} {pattern : String} {o : Options}
  (hbody : r.body = .network isException pattern o)
include hbody

theorem Rule.blocks_of_network {important : Bool} :
    r.Blocks important ↔ isException = false ∧ o.important = important := by
  constructor
  · rintro ⟨_, _, h, ho⟩
    cases hbody.symm.trans h
    exact ⟨rfl, ho⟩
  · rintro ⟨rfl, ho⟩
    exact ⟨_, _, hbody, ho⟩

theorem Rule.excepts_of_network {important : Bool} :
    r.Excepts important ↔
      isException = true ∧ o.scopes.isEmpty = true ∧ o.important = important := by
  constructor
  · rintro ⟨_, _, h, ho⟩
    cases hbody.symm.trans h
    exact ⟨rfl, ho⟩
  · rintro ⟨rfl, ho⟩
    exact ⟨_, _, hbody, ho⟩

theorem Rule.switchesOff_of_network {scope : Scope} :
    r.SwitchesOff scope ↔ isException = true ∧ o.scopes.widest? = some scope := by
  constructor
  · rintro ⟨_, _, h, ho⟩
    cases hbody.symm.trans h
    exact ⟨rfl, ho⟩
  · rintro ⟨rfl, ho⟩
    exact ⟨_, _, hbody, ho⟩

end

/-! ## Groups -/

/-- The group of exceptions for pages with the given scope. -/
def Scope.group : Scope → EntryGroup
  | document => .documentExceptions
  | elemhide => .elemhideExceptions
  | _ => .genericHideExceptions

theorem Scopes.pageGroup?_eq (scopes : Scopes) :
    scopes.pageGroup? = scopes.widest?.map Scope.group := by
  unfold pageGroup? widest?
  simp only [List.find?]
  cases scopes.contains .document <;> cases scopes.contains .elemhide <;>
    cases scopes.contains .generichide <;> rfl

theorem Scopes.widest?_cases {scopes : Scopes} {scope : Scope} (h : scopes.widest? = some scope) :
    scope = .document ∨ scope = .elemhide ∨ scope = .generichide := by
  have := List.mem_of_find?_eq_some h
  simpa using this

theorem Scope.group_inj {s t : Scope} (hs : s = .document ∨ s = .elemhide ∨ s = .generichide)
    (ht : t = .document ∨ t = .elemhide ∨ t = .generichide) : s.group = t.group ↔ s = t := by
  rcases hs with rfl | rfl | rfl <;> rcases ht with rfl | rfl | rfl <;> decide

/-- Conditions of sites that are listed make the group of hiding rules for some pages. -/
theorem DomainList.ofCondition_eq {l : DomainList} {c : Option DomainCondition}
    (h : l.condition = .ok c) :
    EntryGroup.ofCondition c = .cssDomainSensitive ↔ l.permitted ≠ [] := by
  unfold DomainList.condition at h
  split at h
  · rename_i hp
    have hp : l.permitted = [] := by simpa using hp
    cases h
    cases hr : l.restricted <;> simp [hp, DomainCondition.except?, EntryGroup.ofCondition]
  · rename_i hp
    have hp : l.permitted ≠ [] := by simpa using hp
    split at h
    · cases h
    · cases h
      simp [hp, EntryGroup.ofCondition]

namespace Rule.Yields

variable {r : Rule} {c : CompiledEntry}

/-- The group of an entry, by the shape of its rule. -/
theorem group_cases (h : r.Yields c) :
    (∃ pattern o, r.body = .network false pattern o ∧
      c.group = if o.important then .important else .urlBlocking) ∨
    (∃ pattern o, r.body = .network true pattern o ∧ o.scopes.isEmpty = true ∧
      c.group = if o.important then .importantExceptions else .otherExceptions) ∨
    (∃ pattern o scope, r.body = .network true pattern o ∧ o.scopes.widest? = some scope ∧
      c.group = scope.group) ∨
    (∃ body, r.body = .cosmetic false .elementHiding body ∧
      c.entry.action = .cssDisplayNone (some (Text.trimmed body)) ∧
      (c.group = .cssDomainSensitive ↔ r.IsLimited) ∧
      (c.group = .cssWide ∨ c.group = .cssGenericDomainSensitive ∨
        c.group = .cssDomainSensitive)) := by
  cases h with
  | blocks hbody h =>
    obtain ⟨_, -, rfl⟩ := CompiledEntry.of_ofRequests h
    exact .inl ⟨_, _, hbody, rfl⟩
  | excepts hbody hscopes h =>
    obtain ⟨_, -, rfl⟩ := CompiledEntry.of_ofRequests h
    exact .inr (.inl ⟨_, _, hbody, hscopes, rfl⟩)
  | page hbody _ hscope =>
    rw [Scopes.pageGroup?_eq] at hscope
    obtain ⟨scope, hwidest, rfl⟩ := Option.map_eq_some_iff.1 hscope
    exact .inr (.inr (.inl ⟨_, _, scope, hbody, hwidest, rfl⟩))
  | @hides _ condition hbody _ hcondition =>
    refine .inr (.inr (.inr ⟨_, hbody, rfl, DomainList.ofCondition_eq hcondition, ?_⟩))
    rcases condition with _ | ⟨_ | _⟩ <;> simp [EntryGroup.ofCondition]

/-- Entries of one group have one kind of action. -/
theorem kind_eq (h : r.Yields c) : c.entry.action.kind = c.group.kind := by
  cases h with
  | @blocks pattern o _ _ h =>
    obtain ⟨_, -, rfl⟩ := CompiledEntry.of_ofRequests h
    cases ho : o.important <;> simp [CompiledEntry.ofLine, EntryGroup.kind, Action.kind]
  | @excepts pattern o _ _ _ h =>
    obtain ⟨_, -, rfl⟩ := CompiledEntry.of_ofRequests h
    cases ho : o.important <;> simp [CompiledEntry.ofLine, EntryGroup.kind, Action.kind]
  | page _ _ hscope =>
    rw [Scopes.pageGroup?_eq] at hscope
    obtain ⟨scope, hwidest, rfl⟩ := Option.map_eq_some_iff.1 hscope
    rcases Scopes.widest?_cases hwidest with rfl | rfl | rfl <;> rfl
  | @hides _ condition => rcases condition with _ | ⟨_ | _⟩ <;> rfl

theorem blocks_iff (h : r.Yields c) (important : Bool) :
    r.Blocks important ↔ c.group = if important then .important else .urlBlocking := by
  obtain ⟨_, o, hbody, hg⟩ | ⟨_, o, hbody, -, hg⟩ | ⟨_, o, scope, hbody, hw, hg⟩ |
    ⟨_, hbody, -, -, hg⟩ := h.group_cases
  · rw [hg, blocks_of_network hbody]
    cases o.important <;> cases important <;> decide
  · rw [hg, blocks_of_network hbody]
    cases o.important <;> cases important <;> decide
  · rw [hg, blocks_of_network hbody]
    rcases Scopes.widest?_cases hw with rfl | rfl | rfl <;> cases important <;> simp [Scope.group]
  · rcases hg with hg | hg | hg <;> cases important <;> simp [Blocks, hbody, hg]

theorem excepts_iff (h : r.Yields c) (important : Bool) :
    r.Excepts important ↔
      c.group = if important then .importantExceptions else .otherExceptions := by
  obtain ⟨_, o, hbody, hg⟩ | ⟨_, o, hbody, hscopes, hg⟩ | ⟨_, o, scope, hbody, hw, hg⟩ |
    ⟨_, hbody, -, -, hg⟩ := h.group_cases
  · rw [hg, excepts_of_network hbody]
    cases o.important <;> cases important <;> simp
  · rw [hg, excepts_of_network hbody]
    cases o.important <;> cases important <;> simp [hscopes]
  · have hscopes : o.scopes.isEmpty = false := by
      rw [Bool.eq_false_iff]
      intro hempty
      have := List.find?_some hw
      rw [Scopes.contains_of_isEmpty hempty] at this
      cases this
    rw [hg, excepts_of_network hbody, hscopes]
    rcases Scopes.widest?_cases hw with rfl | rfl | rfl <;> cases important <;> simp [Scope.group]
  · rcases hg with hg | hg | hg <;> cases important <;> simp [Excepts, hbody, hg]

theorem switchesOff_iff (h : r.Yields c) {scope : Scope}
    (hscope : scope = .document ∨ scope = .elemhide ∨ scope = .generichide) :
    r.SwitchesOff scope ↔ c.group = scope.group := by
  obtain ⟨_, o, hbody, hg⟩ | ⟨_, o, hbody, hscopes, hg⟩ | ⟨_, o, scope', hbody, hw, hg⟩ |
    ⟨_, hbody, -, -, hg⟩ := h.group_cases
  · rw [hg, switchesOff_of_network hbody]
    rcases hscope with rfl | rfl | rfl <;> cases o.important <;> simp [Scope.group]
  · have hw : o.scopes.widest? = none :=
      List.find?_eq_none.2 fun s _ => by simp [Scopes.contains_of_isEmpty hscopes]
    rw [hg, switchesOff_of_network hbody, hw]
    rcases hscope with rfl | rfl | rfl <;> cases o.important <;> simp [Scope.group]
  · rw [hg, switchesOff_of_network hbody, Scope.group_inj (Scopes.widest?_cases hw) hscope, hw]
    simp
  · rcases hscope with rfl | rfl | rfl <;> rcases hg with hg | hg | hg <;>
      simp [SwitchesOff, hbody, hg, Scope.group]

theorem hides_iff (h : r.Yields c) (selector : String) :
    r.Hides selector ↔ c.entry.action = .cssDisplayNone (some selector) := by
  cases h with
  | blocks hbody h =>
    obtain ⟨_, -, rfl⟩ := CompiledEntry.of_ofRequests h
    simp [Hides, hbody, CompiledEntry.ofLine]
  | excepts hbody _ h =>
    obtain ⟨_, -, rfl⟩ := CompiledEntry.of_ofRequests h
    simp [Hides, hbody, CompiledEntry.ofLine]
  | page hbody => simp [Hides, hbody, CompiledEntry.ofLine]
  | hides hbody => simp [Hides, hbody]

/-- Of the rules that hide, those limited to sites make a group of their own. -/
theorem isLimited_iff (h : r.Yields c) {selector : String} (hr : r.Hides selector) :
    r.IsLimited ↔ c.group = .cssDomainSensitive := by
  obtain ⟨body, hbody, -⟩ := hr
  obtain ⟨_, o, hbody', -⟩ | ⟨_, o, hbody', -⟩ | ⟨_, o, scope, hbody', -⟩ |
    ⟨_, -, -, hlimited, -⟩ := h.group_cases
  · cases hbody.symm.trans hbody'
  · cases hbody.symm.trans hbody'
  · cases hbody.symm.trans hbody'
  · exact hlimited.symm

end Rule.Yields

/-! ## Which entries count -/

theorem Rule.counts_iff {r : Rule} {q : Request} :
    r.Counts q ↔ ∃ c, r.Yields c ∧ c.entry.counts q = true := by
  simp only [Rule.Counts, Rule.yields_iff]
  exact ⟨fun ⟨cs, h, c, hc, hq⟩ => ⟨c, ⟨cs, h, hc⟩, hq⟩, fun ⟨c, ⟨cs, h, hc⟩, hq⟩ =>
    ⟨cs, h, c, hc, hq⟩⟩

section
variable (rules : List Rule) (q : Request)

/-- Kinds of rules that are told from their entries. -/
theorem someCounts_iff {kind : Rule → Prop} {kind' : CompiledEntry → Prop}
    (h : ∀ r c, r.Yields c → (kind r ↔ kind' c)) :
    SomeCounts rules q kind ↔ SomeEntryCounts (nativeEntries rules) q kind' := by
  constructor
  · rintro ⟨r, hr, hkind, hcounts⟩
    obtain ⟨c, hyields, hcounts⟩ := Rule.counts_iff.1 hcounts
    exact ⟨c, mem_nativeEntries.2 ⟨r, hr, hyields⟩, (h r c hyields).1 hkind, hcounts⟩
  · rintro ⟨c, hc, hkind, hcounts⟩
    obtain ⟨r, hr, hyields⟩ := mem_nativeEntries.1 hc
    exact ⟨r, hr, (h r c hyields).2 hkind, Rule.counts_iff.2 ⟨c, hyields, hcounts⟩⟩

end

theorem haveKinds_nativeEntries (rules : List Rule) : HaveKinds (nativeEntries rules) := by
  intro c hc
  obtain ⟨r, -, hyields⟩ := mem_nativeEntries.1 hc
  exact hyields.kind_eq

/-! ## The verdict -/

theorem EntryGroup.overriding_urlBlocking :
    overriding .urlBlocking = [.otherExceptions, .importantExceptions, .documentExceptions] := by
  decide

theorem EntryGroup.overriding_important :
    overriding .important = [.importantExceptions, .documentExceptions] := by
  decide

theorem EntryGroup.overriding_cssWide :
    overriding .cssWide = [.genericHideExceptions, .elemhideExceptions, .otherExceptions,
      .importantExceptions, .documentExceptions] := by
  decide

theorem EntryGroup.overriding_cssGenericDomainSensitive :
    overriding .cssGenericDomainSensitive = overriding .cssWide := by
  decide

theorem EntryGroup.overriding_cssDomainSensitive :
    overriding .cssDomainSensitive = [.elemhideExceptions, .otherExceptions, .importantExceptions,
      .documentExceptions] := by
  decide

section
variable (rules : List Rule) (q : Request)

theorem someCounts_blocks (important : Bool) :
    SomeCounts rules q (Rule.Blocks important) ↔
      SomeEntryCounts (nativeEntries rules) q
        (·.group = if important then .important else .urlBlocking) :=
  someCounts_iff rules q fun _ _ h => h.blocks_iff important

theorem someCounts_excepts (important : Bool) :
    SomeCounts rules q (Rule.Excepts important) ↔
      SomeEntryCounts (nativeEntries rules) q
        (·.group = if important then .importantExceptions else .otherExceptions) :=
  someCounts_iff rules q fun _ _ h => h.excepts_iff important

theorem someCounts_switchesOff {scope : Scope}
    (hscope : scope = .document ∨ scope = .elemhide ∨ scope = .generichide) :
    SomeCounts rules q (Rule.SwitchesOff scope) ↔
      SomeEntryCounts (nativeEntries rules) q (·.group = scope.group) :=
  someCounts_iff rules q fun _ _ h => h.switchesOff_iff hscope

/-- Exceptions for requests and for whole pages override blocking rules. -/
theorem not_overridden_blocks (important : Bool) :
    (∀ h ∈ (if important then EntryGroup.important else .urlBlocking).overriding,
        ¬SomeEntryCounts (nativeEntries rules) q (·.group = h)) ↔
      (important = false → ¬SomeCounts rules q (Rule.Excepts false)) ∧
        ¬SomeCounts rules q (Rule.Excepts true) ∧
        ¬SomeCounts rules q (Rule.SwitchesOff .document) := by
  rw [someCounts_excepts, someCounts_excepts, someCounts_switchesOff rules q (.inl rfl)]
  cases important <;> simp [EntryGroup.overriding_urlBlocking, EntryGroup.overriding_important,
    Scope.group]

theorem someEntryCounts_block {g : EntryGroup} :
    SomeEntryCounts (nativeEntries rules) q (fun c => c.group = g ∧ c.entry.action = .block) ↔
      g.kind = .block ∧ SomeEntryCounts (nativeEntries rules) q (·.group = g) := by
  constructor
  · rintro ⟨c, hc, ⟨rfl, hact⟩, hcounts⟩
    exact ⟨by rw [← haveKinds_nativeEntries rules c hc, hact]; rfl, c, hc, rfl, hcounts⟩
  · rintro ⟨hkind, c, hc, rfl, hcounts⟩
    rw [← haveKinds_nativeEntries rules c hc] at hkind
    refine ⟨c, hc, ⟨rfl, ?_⟩, hcounts⟩
    cases hact : c.entry.action <;> simp_all [Action.kind]

theorem EntryGroup.kind_eq_block {g : EntryGroup} :
    g.kind = .block ↔ ∃ important : Bool, g = if important then .important else .urlBlocking := by
  cases g <;> decide

/-- A request is blocked by what remains in effect if and only if the rules block it. -/
theorem mem_effects_block :
    .block ∈ Matcher.effects ((nativeEntries rules).map (·.entry)) q ↔ Blocked rules q := by
  have hblock : Action.block ≠ .ignorePreviousRules := by decide
  rw [mem_effects_of_sorted (haveKinds_nativeEntries rules)
    (CompiledEntry.sortByGroup_idem _) hblock]
  simp only [someEntryCounts_block, EntryGroup.kind_eq_block]
  constructor
  · rintro ⟨_, ⟨⟨important, rfl⟩, hcounts⟩, hover⟩
    rw [← someCounts_blocks] at hcounts
    obtain ⟨hplain, hrest⟩ := (not_overridden_blocks rules q important).1 hover
    cases important with
    | false => exact .inl ⟨hcounts, hplain rfl, hrest⟩
    | true => exact .inr ⟨hcounts, hrest⟩
  · rintro (⟨hcounts, hplain, hrest⟩ | ⟨hcounts, hrest⟩)
    · rw [someCounts_blocks] at hcounts
      exact ⟨_, ⟨⟨false, rfl⟩, hcounts⟩,
        (not_overridden_blocks rules q false).2 ⟨fun _ => hplain, hrest⟩⟩
    · rw [someCounts_blocks] at hcounts
      exact ⟨_, ⟨⟨true, rfl⟩, hcounts⟩, (not_overridden_blocks rules q true).2 ⟨nofun, hrest⟩⟩

theorem someCounts_hides (selector : String) (isLimited : Bool) :
    SomeCounts rules q (fun r => r.Hides selector ∧ (r.IsLimited ↔ isLimited = true)) ↔
      SomeEntryCounts (nativeEntries rules) q
        fun c => c.entry.action = .cssDisplayNone (some selector) ∧
        (c.group = .cssDomainSensitive ↔ isLimited = true) :=
  someCounts_iff rules q fun r c h => by
    rw [← h.hides_iff]
    exact and_congr_right fun hr => by rw [h.isLimited_iff hr]

/-- Exceptions for hiding, for requests and for whole pages override hiding rules. -/
theorem not_overridden_hides {g : EntryGroup} (hg : g.kind = .cssDisplayNone) :
    (∀ h ∈ g.overriding, ¬SomeEntryCounts (nativeEntries rules) q (·.group = h)) ↔
      (g ≠ .cssDomainSensitive → ¬SomeCounts rules q (Rule.SwitchesOff .generichide)) ∧
        ¬SomeCounts rules q (Rule.SwitchesOff .elemhide) ∧
        ¬SomeCounts rules q (Rule.Excepts false) ∧ ¬SomeCounts rules q (Rule.Excepts true) ∧
        ¬SomeCounts rules q (Rule.SwitchesOff .document) := by
  rw [someCounts_excepts, someCounts_excepts, someCounts_switchesOff rules q (.inl rfl),
    someCounts_switchesOff rules q (.inr (.inl rfl)),
    someCounts_switchesOff rules q (.inr (.inr rfl))]
  cases g <;> first
    | exact absurd hg (by decide)
    | simp [EntryGroup.overriding_cssWide, EntryGroup.overriding_cssGenericDomainSensitive,
        EntryGroup.overriding_cssDomainSensitive, Scope.group]

/-- A selector is among what remains in effect if and only if the rules hide it. -/
theorem mem_effects_cssDisplayNone (selector : String) :
    .cssDisplayNone (some selector) ∈ Matcher.effects ((nativeEntries rules).map (·.entry)) q ↔
      Hidden rules q selector := by
  have hhide : Action.cssDisplayNone (some selector) ≠ .ignorePreviousRules := nofun
  rw [mem_effects_of_sorted (haveKinds_nativeEntries rules)
    (CompiledEntry.sortByGroup_idem _) hhide]
  have hgeneric := someCounts_hides rules q selector false
  have hlimited := someCounts_hides rules q selector true
  simp only [Bool.false_eq_true, iff_false, iff_true] at hgeneric hlimited
  rw [Hidden, hgeneric, hlimited]
  constructor
  · rintro ⟨_, ⟨c, hc, ⟨rfl, hact⟩, hcounts⟩, hover⟩
    have hkind : c.group.kind = .cssDisplayNone := by
      rw [← haveKinds_nativeEntries rules c hc, hact]
      rfl
    obtain ⟨hgh, hrest⟩ := (not_overridden_hides rules q hkind).1 hover
    by_cases hg : c.group = .cssDomainSensitive
    · exact .inr ⟨⟨c, hc, ⟨hact, hg⟩, hcounts⟩, hrest⟩
    · exact .inl ⟨⟨c, hc, ⟨hact, hg⟩, hcounts⟩, hgh hg, hrest⟩
  · have hkind {c : CompiledEntry} (hc : c ∈ nativeEntries rules)
        (hact : c.entry.action = .cssDisplayNone (some selector)) :
        c.group.kind = .cssDisplayNone := by
      rw [← haveKinds_nativeEntries rules c hc, hact]
      rfl
    rintro (⟨⟨c, hc, ⟨hact, hg⟩, hcounts⟩, hgh, hrest⟩ | ⟨⟨c, hc, ⟨hact, hg⟩, hcounts⟩, hrest⟩)
    · exact ⟨c.group, ⟨c, hc, ⟨rfl, hact⟩, hcounts⟩,
        (not_overridden_hides rules q (hkind hc hact)).2 ⟨fun _ => hgh, hrest⟩⟩
    · exact ⟨c.group, ⟨c, hc, ⟨rfl, hact⟩, hcounts⟩,
        (not_overridden_hides rules q (hkind hc hact)).2 ⟨fun h => absurd hg h, hrest⟩⟩

end

/-! ## The order of lines -/

namespace Trigger

/-- The triggers differ at most in how their conditions on pages are written. -/
def Alike (t t' : Trigger) : Prop :=
  ∃ condition, t' = { t with domains := condition } ∧
    ∀ host, DomainCondition.admits? t.domains host = DomainCondition.admits? condition host

theorem Alike.counts_eq {t t' : Trigger} (h : t.Alike t') (a a' : Action) (q : Request) :
    (Entry.mk t a).counts q = (Entry.mk t' a').counts q := by
  obtain ⟨condition, rfl, hadmits⟩ := h
  rw [Entry.counts_eq, Entry.counts_eq, hadmits]
  rfl

end Trigger

theorem DomainCondition.admits_only (values : List DomainValue) (host : List Char) :
    admits? (some (.only values)) host = values.any (·.admits host) := rfl

theorem DomainCondition.admits_except (values : List DomainValue) (host : List Char) :
    admits? (except? values) host = !values.any (·.admits host) := by
  cases values <;> rfl

theorem any_congr_mem {α : Type} {l m : List α} (h : ∀ a, a ∈ l ↔ a ∈ m) (p : α → Bool) :
    l.any p = m.any p := by
  rw [Bool.eq_iff_iff, List.any_eq_true, List.any_eq_true]
  simp only [h]

section
variable {l m : DomainList} (h : l.Same m)
include h

theorem DomainList.Same.permitted_isEmpty : l.permitted.isEmpty = m.permitted.isEmpty := by
  rw [Bool.eq_iff_iff, List.isEmpty_iff, List.isEmpty_iff, List.eq_nil_iff_forall_not_mem,
    List.eq_nil_iff_forall_not_mem]
  simp only [h.permitted]

theorem DomainList.Same.isEmpty : l.isEmpty = m.isEmpty := by
  rw [DomainList.isEmpty, DomainList.isEmpty, h.permitted_isEmpty]
  congr 1
  rw [Bool.eq_iff_iff, List.isEmpty_iff, List.isEmpty_iff, List.eq_nil_iff_forall_not_mem,
    List.eq_nil_iff_forall_not_mem]
  simp only [h.restricted]

/-- The same sites make conditions that admit the same pages. -/
theorem DomainList.Same.condition {c : Option DomainCondition} (hc : l.condition = .ok c) :
    ∃ d, m.condition = .ok d ∧
      ∀ host, DomainCondition.admits? c host = DomainCondition.admits? d host := by
  unfold DomainList.condition at hc ⊢
  rw [← h.permitted_isEmpty]
  split at hc
  · rename_i hp
    rw [if_pos hp]
    cases hc
    refine ⟨_, rfl, fun host => ?_⟩
    rw [DomainCondition.admits_except, DomainCondition.admits_except]
    congr 1
    refine any_congr_mem (fun v => ?_) _
    simp only [List.mem_map, h.restricted]
  · rename_i hp
    rw [if_neg hp]
    have hfilter (s : String) : s ∈ l.permitted.filter (fun d => !l.restricted.contains d) ↔
        s ∈ m.permitted.filter (fun d => !m.restricted.contains d) := by
      simp [h.permitted, h.restricted]
    split at hc
    · cases hc
    rename_i d rest hd
    cases hc
    rw [hd] at hfilter
    split
    · rename_i hnil
      have := (hfilter d).1 (.head _)
      rw [hnil] at this
      cases this
    · rename_i d' rest' hd'
      refine ⟨_, rfl, fun host => ?_⟩
      rw [DomainCondition.admits_only, DomainCondition.admits_only]
      refine any_congr_mem (fun v => ?_) _
      rw [hd'] at hfilter
      simp only [List.mem_map, hfilter]

variable {pattern : String} {o : Options} {t : Trigger}

theorem Trigger.ofPattern_same (ht : Trigger.ofPattern pattern o l = .ok t) :
    ∃ t', Trigger.ofPattern pattern o m = .ok t' ∧ t.Alike t' := by
  obtain ⟨_, hsupported, ht⟩ := bind_eq_ok.1 ht
  obtain ⟨filter, hfilter, ht⟩ := bind_eq_ok.1 ht
  obtain ⟨c, hc, ht⟩ := bind_eq_ok.1 ht
  cases ht
  obtain ⟨d, hd, hadmits⟩ := h.condition hc
  refine ⟨_, bind_eq_ok.2 ⟨_, hsupported, ?_⟩, d, rfl, hadmits⟩
  exact bind_eq_ok.2 ⟨_, hfilter, bind_eq_ok.2 ⟨d, hd, rfl⟩⟩

theorem Trigger.ofRequest_same (ht : Trigger.ofRequest pattern o l = .ok t) :
    ∃ t', Trigger.ofRequest pattern o m = .ok t' ∧ t.Alike t' := by
  obtain ⟨u, hu, ht⟩ := bind_eq_ok.1 ht
  obtain ⟨u', hu', d, rfl, hadmits⟩ := Trigger.ofPattern_same h hu
  unfold Trigger.ofRequest
  rw [hu']
  dsimp only [bind, Except.bind]
  split at ht
  · cases ht
    exact ⟨_, rfl, d, rfl, hadmits⟩
  · obtain ⟨resources, hresources, ht⟩ := bind_eq_ok.1 ht
    cases ht
    rw [hresources]
    exact ⟨_, rfl, d, rfl, hadmits⟩

theorem Trigger.ofPage_same (ht : Trigger.ofPage pattern o l = .ok t) :
    ∃ t', Trigger.ofPage pattern o m = .ok t' ∧ t.Alike t' := by
  obtain ⟨_, hsupported, ht⟩ := bind_eq_ok.1 ht
  unfold Trigger.ofPage
  rw [hsupported, ← h.isEmpty]
  dsimp only [bind, Except.bind]
  split at ht
  · cases ht
    exact ⟨_, rfl, _, rfl, fun _ => rfl⟩
  · exact Trigger.ofPattern_same h ht

end

theorem CompiledEntry.ofRequests_same {l m : DomainList} (line' : Nat) (h : l.Same m)
    {pattern : String} {o : Options} {line : Nat} {group : EntryGroup} {action : Action}
    {c : CompiledEntry}
    (hc : CompiledEntry.ofRequests line group action pattern o l = .ok c) (q : Request) :
    ∃ c', CompiledEntry.ofRequests line' group action pattern o m = .ok c' ∧
      c'.entry.counts q = c.entry.counts q := by
  obtain ⟨t, ht, rfl⟩ := CompiledEntry.of_ofRequests hc
  obtain ⟨t', ht', halike⟩ := Trigger.ofRequest_same h ht
  exact ⟨_, bind_eq_ok.2 ⟨t', ht', rfl⟩, (halike.counts_eq action action q).symm⟩

/-- Rules that say the same count for the same requests. -/
theorem Rule.Same.counts {r s : Rule} (h : r.Same s) {q : Request} (hr : r.Counts q) :
    s.Counts q := by
  obtain ⟨c, hyields, hcounts⟩ := Rule.counts_iff.1 hr
  rw [Rule.counts_iff]
  cases hyields with
  | blocks hbody hc =>
    obtain ⟨c', hc', hsame⟩ := CompiledEntry.ofRequests_same s.line h.domains hc q
    exact ⟨c', .blocks (h.body ▸ hbody) hc', hsame.trans hcounts⟩
  | excepts hbody hscopes hc =>
    obtain ⟨c', hc', hsame⟩ := CompiledEntry.ofRequests_same s.line h.domains hc q
    exact ⟨c', .excepts (h.body ▸ hbody) hscopes hc', hsame.trans hcounts⟩
  | page hbody hexpressible hscope ht =>
    obtain ⟨t', ht', halike⟩ := Trigger.ofPage_same h.domains ht
    exact ⟨_, .page (h.body ▸ hbody) hexpressible hscope ht',
      (halike.counts_eq _ _ q).symm.trans hcounts⟩
  | hides hbody hselector hcondition =>
    obtain ⟨d, hd, hadmits⟩ := h.domains.condition hcondition
    have halike : Trigger.Alike { domains := _ } { domains := d } := ⟨d, rfl, hadmits⟩
    exact ⟨_, .hides (h.body ▸ hbody) hselector hd, (halike.counts_eq _ _ q).symm.trans hcounts⟩

theorem Rule.Same.isLimited {r s : Rule} (h : r.Same s) (hr : r.IsLimited) : s.IsLimited := by
  intro hs
  refine hr (List.eq_nil_iff_forall_not_mem.2 fun d hd => ?_)
  rw [h.domains.permitted, hs] at hd
  cases hd

section
variable {rules rules' : List Rule} (h : SameRules rules rules')
include h

theorem SameRules.someCounts {q : Request} {kind : Rule → Prop}
    (hkind : ∀ r s, r.Same s → kind r → kind s) (hr : SomeCounts rules q kind) :
    SomeCounts rules' q kind := by
  obtain ⟨r, hr, hk, hcounts⟩ := hr
  obtain ⟨s, hs, hsame⟩ := h r hr
  exact ⟨s, hs, hkind r s hsame hk, hsame.counts hcounts⟩

variable (h' : SameRules rules' rules) (q : Request)
include h'

theorem SameRules.someCounts_iff (kind : Rule → Prop) (hkind : ∀ r s, r.Same s → kind r → kind s) :
    SomeCounts rules q kind ↔ SomeCounts rules' q kind :=
  ⟨h.someCounts hkind, h'.someCounts hkind⟩

theorem SameRules.blocked : Blocked rules q ↔ Blocked rules' q := by
  have hblocks (b : Bool) := h.someCounts_iff h' q (Rule.Blocks b)
    fun r s hs => by rw [Rule.Blocks, Rule.Blocks, hs.body]; exact id
  have hexcepts (b : Bool) := h.someCounts_iff h' q (Rule.Excepts b)
    fun r s hs => by rw [Rule.Excepts, Rule.Excepts, hs.body]; exact id
  have hdocument := h.someCounts_iff h' q (Rule.SwitchesOff .document)
    fun r s hs => by rw [Rule.SwitchesOff, Rule.SwitchesOff, hs.body]; exact id
  rw [Blocked, Blocked, hblocks, hblocks, hexcepts, hexcepts, hdocument]

theorem SameRules.hidden (selector : String) :
    Hidden rules q selector ↔ Hidden rules' q selector := by
  have hexcepts (b : Bool) := h.someCounts_iff h' q (Rule.Excepts b)
    fun r s hs => by rw [Rule.Excepts, Rule.Excepts, hs.body]; exact id
  have hscope (scope : Scope) := h.someCounts_iff h' q (Rule.SwitchesOff scope)
    fun r s hs => by rw [Rule.SwitchesOff, Rule.SwitchesOff, hs.body]; exact id
  have hlimited := h.someCounts_iff h' q (fun r => r.Hides selector ∧ r.IsLimited)
    fun r s hs => by
      rw [Rule.Hides, Rule.Hides, hs.body]
      exact And.imp_right hs.isLimited
  have hgeneric := h.someCounts_iff h' q (fun r => r.Hides selector ∧ ¬r.IsLimited)
    fun r s hs => by
      rw [Rule.Hides, Rule.Hides, hs.body]
      exact And.imp_right fun hr hs' => hr (hs.symm.isLimited hs')
  rw [Hidden, Hidden, hexcepts, hexcepts, hscope, hscope, hscope, hlimited, hgeneric]

end

theorem sameRules_nativeRules {lines lines' : List String} (h : lines.Perm lines') :
    SameRules (nativeRules lines) (nativeRules lines') := by
  have hread := FilterList.saidIn_of_subset fun _ hl => h.mem_iff.1 hl
  have hread' := FilterList.saidIn_of_subset fun _ hl => h.mem_iff.2 hl
  exact (hread.cancellation hread').applyCosmeticExceptions (hread'.cancellation hread)

/-- What a matcher of native entries says of a request is decided by the rules that count for it: by
those that block, except, switch off and hide. -/
theorem Matcher.verdict_nativeEntries {rules : List Rule} {m : Matcher}
    (hm : Matcher.ofEntries? ((nativeEntries rules).map (·.entry)) = some m) (q : Request) :
    (m.isBlocked q = true ↔ Blocked rules q) ∧
      ∀ s, s ∈ m.hiddenSelectors q ↔ Hidden rules q s := by
  rw [Matcher.isBlocked_iff hm, mem_effects_block]
  exact ⟨Iff.rfl, fun s => by rw [Matcher.mem_hiddenSelectors hm, mem_effects_cssDisplayNone]⟩

/-- Native precedence: the rules that are left of a filter list compile to entries that have a
matcher; it blocks a request and hides selectors as the rules that count for the request say, and
does so in whatever order the lines of the list stand. -/
theorem native_precedence (lines : List String) (q : Request) :
    ∃ m, Matcher.ofEntries? ((nativeEntries (nativeRules lines)).map (·.entry)) = some m ∧
      (m.isBlocked q = true ↔ Blocked (nativeRules lines) q) ∧
      (∀ s, s ∈ m.hiddenSelectors q ↔ Hidden (nativeRules lines) q s) ∧
      ∀ lines' : List String, lines.Perm lines' →
        ∃ m', Matcher.ofEntries? ((nativeEntries (nativeRules lines')).map (·.entry)) = some m' ∧
          m'.isBlocked q = m.isBlocked q ∧
          ∀ s, s ∈ m'.hiddenSelectors q ↔ s ∈ m.hiddenSelectors q := by
  have hmatcher (lines : List String) :
      ∃ m, Matcher.ofEntries? ((nativeEntries (nativeRules lines)).map (·.entry)) = some m :=
    exists_matcher_nativeEntries fun _ => isReadable_of_mem_nativeRules
  obtain ⟨m, hm⟩ := hmatcher lines
  obtain ⟨hblocked, hhidden⟩ := Matcher.verdict_nativeEntries hm q
  refine ⟨m, hm, hblocked, hhidden, fun lines' hperm => ?_⟩
  obtain ⟨m', hm'⟩ := hmatcher lines'
  obtain ⟨hblocked', hhidden'⟩ := Matcher.verdict_nativeEntries hm' q
  have hsame := sameRules_nativeRules hperm
  have hsame' := sameRules_nativeRules hperm.symm
  refine ⟨m', hm', ?_, fun s => ?_⟩
  · rw [Bool.eq_iff_iff, hblocked, hblocked', hsame.blocked hsame']
  · rw [hhidden, hhidden', hsame.hidden hsame']

end ContentRules
