import ContentRules.Advanced.Payload
import ContentRules.Proofs.Native.Origin
import ContentRules.Proofs.Ordered.Counting

/-!
What the exceptions of the advanced payload cancel. The payload is one list, and an exception takes
back whatever stands before it. So exceptions for hiding rules also reach the scripts and
scriptlets, which stand first, although they are aimed at styles only. Main statement:
`payload_exceptions`, which gives the actions that are left and says exactly when these are the ones
that the scopes of the exceptions name.
-/

namespace ContentRules

open AdvancedPayload

/-- The scopes of an exception are aimed at the entries of a section: `jsinject` at scripts and
scriptlets, `generichide` at styles for all pages, `elemhide` at all styles and `document` at
everything. -/
def Scopes.targets (scopes : Scopes) : PayloadSection → Bool
  | .scripts => scopes.contains .document || scopes.contains .jsinject
  | .genericCss =>
    scopes.contains .document || scopes.contains .elemhide || scopes.contains .generichide
  | .domainCss => scopes.contains .document || scopes.contains .elemhide
  | _ => false

/-- An exception with the scopes stands after the entries of a section. -/
def Scopes.reaches (scopes : Scopes) (s : PayloadSection) : Bool :=
  scopes.payloadSections.any fun s' => decide ([s, s'].Sublist PayloadSection.all)

namespace Rule

/-- The entry that the payload carries for a rule. Exceptions have none of this kind. -/
def payloadEntry? (r : Rule) : Option Entry :=
  if r.isAdvanced && !r.isException then (ruleEntry r).toOption else none

/-- The rule is an exception for pages that counts for the request and whose scopes concern a
section. -/
def cancels (concern : Scopes → PayloadSection → Bool) (s : PayloadSection) (q : Request)
    (r : Rule) : Bool :=
  match r.body with
  | .network true pattern o =>
    concern o.scopes s &&
      (Trigger.ofPage pattern o r.domains).toOption.any fun t =>
        (Entry.mk t .ignorePreviousRules).counts q
  | _ => false

end Rule

/-- The actions of the advanced rules that count for a request and that no exception among the rules
cancels, each as often as a rule has it. -/
def remainingActions (concern : Scopes → PayloadSection → Bool) (rules : List Rule) (q : Request) :
    List Action :=
  rules.filterMap fun r =>
    (r.payloadEntry?.filter
      fun e => e.counts q && !rules.any (·.cancels concern (sectionOf e) q)).map
      (·.action)

/-! ## Scopes and sections -/

/-- The section holds exceptions. -/
def PayloadSection.isException : PayloadSection → Bool
  | scripts | genericCss | domainCss => false
  | _ => true

theorem Scopes.isException_of_mem_payloadSections (scopes : Scopes) :
    ∀ s ∈ scopes.payloadSections, s.isException = true := by
  unfold payloadSections
  cases scopes.contains .document <;> cases scopes.contains .jsinject <;>
    cases scopes.contains .elemhide <;> cases scopes.contains .generichide <;> decide

/-- An exception reaches the styles that it is aimed at and no others. -/
theorem Scopes.reaches_css (scopes : Scopes) {s : PayloadSection}
    (hs : s = .genericCss ∨ s = .domainCss) : scopes.reaches s = scopes.targets s := by
  unfold reaches targets payloadSections
  rcases hs with rfl | rfl <;> cases scopes.contains .document <;>
    cases scopes.contains .jsinject <;> cases scopes.contains .elemhide <;>
    cases scopes.contains .generichide <;> decide

/-- An exception reaches scripts whenever it has an entry at all. -/
theorem Scopes.reaches_scripts (scopes : Scopes) :
    scopes.reaches .scripts = (scopes.targets .scripts || scopes.targets .genericCss) := by
  unfold reaches targets payloadSections
  cases scopes.contains .document <;> cases scopes.contains .jsinject <;>
    cases scopes.contains .elemhide <;> cases scopes.contains .generichide <;> decide

/-! ## Entries and sections -/

theorem AdvancedPayload.action_ne_ignorePreviousRules {body : RuleBody} {a : Action}
    (h : AdvancedPayload.action body = .ok a) : a ≠ .ignorePreviousRules := by
  unfold AdvancedPayload.action at h
  rintro rfl
  split at h
  · cases h
  · dsimp only at h
    split at h
    · cases h
    · split at h <;> cases h
  · cases h

theorem PayloadSection.isException_sectionOf (e : Entry) : (sectionOf e).isException = false := by
  unfold sectionOf
  split
  · split <;> rfl
  · split <;> rfl
  · rfl

theorem Rule.payloadEntry?_eq_some {r : Rule} {e : Entry} (h : r.payloadEntry? = some e) :
    r.isAdvanced = true ∧ r.isException = false ∧ ruleEntry r = .ok e := by
  unfold payloadEntry? at h
  split at h
  · rename_i hr
    obtain ⟨hr, hexception⟩ := Bool.and_eq_true_iff.1 hr
    exact ⟨hr, by simpa using hexception, toOption_eq_some.1 h⟩
  · cases h

theorem AdvancedPayload.ruleEntry_eq_ok {r : Rule} {e : Entry} (h : ruleEntry r = .ok e) :
    ∃ condition, r.domains.condition = .ok condition ∧ e.trigger = { domains := condition } ∧
      AdvancedPayload.action r.body = .ok e.action := by
  obtain ⟨condition, hcondition, h⟩ := bind_eq_ok.1 h
  obtain ⟨a, ha, h⟩ := bind_eq_ok.1 h
  cases h
  exact ⟨condition, hcondition, rfl, ha⟩

/-- An exception for pages contributes an entry to each section that its scopes name. -/
theorem AdvancedPayload.placed_of_exception {r : Rule} {pattern : String} {o : Options}
    (hbody : r.body = .network true pattern o) :
    (contribution r).placed = (Trigger.ofPage pattern o r.domains).toOption.toList.flatMap fun t =>
      o.scopes.payloadSections.map fun s => (s, ⟨t, .ignorePreviousRules⟩) := by
  unfold contribution
  rw [hbody]
  dsimp only [pageException]
  cases Trigger.ofPage pattern o r.domains <;> simp [Except.toOption]

/-- Any other rule contributes the entry that the payload carries for it. -/
theorem AdvancedPayload.placed_of_rule {r : Rule}
    (hbody : ∀ pattern o, r.body ≠ .network true pattern o) :
    (contribution r).placed = r.payloadEntry?.toList.map fun e => (sectionOf e, e) := by
  unfold contribution Rule.payloadEntry? Rule.isAdvanced Rule.isException
  split
  · rename_i pattern o h
    exact absurd h (hbody pattern o)
  · rename_i h
    rw [h]
    rfl
  · split
    · rename_i h
      rw [if_neg]
      · rfl
      · cases hadv : r.body.isAdvanced <;> simp_all
    · rename_i h
      rw [if_pos]
      · cases ruleEntry r <;> rfl
      · cases hadv : r.body.isAdvanced <;> simp_all

theorem Rule.payloadEntry?_of_exception {r : Rule} {pattern : String} {o : Options}
    (hbody : r.body = .network true pattern o) : r.payloadEntry? = none := by
  simp [Rule.payloadEntry?, isAdvanced, RuleBody.isAdvanced, hbody]

/-- An entry that a rule contributes is that of an exception for pages, in a section that its scopes
name, or the one that the payload carries for the rule, in its own section. -/
theorem AdvancedPayload.mem_placed_iff {r : Rule} {s : PayloadSection} {e : Entry} :
    (s, e) ∈ (contribution r).placed ↔
      (∃ pattern o t, r.body = .network true pattern o ∧
        Trigger.ofPage pattern o r.domains = .ok t ∧
        s ∈ o.scopes.payloadSections ∧ e = ⟨t, .ignorePreviousRules⟩) ∨
      r.payloadEntry? = some e ∧ s = sectionOf e := by
  by_cases hbody : ∃ pattern o, r.body = .network true pattern o
  · obtain ⟨pattern, o, hbody⟩ := hbody
    rw [placed_of_exception hbody, Rule.payloadEntry?_of_exception hbody]
    simp only [List.mem_flatMap, Option.mem_toList, List.mem_map, Prod.mk.injEq, reduceCtorEq,
      false_and, or_false]
    constructor
    · rintro ⟨t, ht, s', hs', rfl, rfl⟩
      exact ⟨pattern, o, t, hbody, toOption_eq_some.1 ht, hs', rfl⟩
    · rintro ⟨pattern', o', t, hbody', ht, hs, rfl⟩
      cases hbody.symm.trans hbody'
      exact ⟨t, toOption_eq_some.2 ht, s, hs, rfl, rfl⟩
  · have hrule (pattern : String) (o : Options) : r.body ≠ .network true pattern o := fun h =>
      hbody ⟨pattern, o, h⟩
    rw [placed_of_rule hrule]
    simp only [List.mem_map, Option.mem_toList, Prod.mk.injEq, hrule, false_and, exists_false,
      false_or]
    constructor
    · rintro ⟨e, he, rfl, rfl⟩
      exact ⟨he, rfl⟩
    · rintro ⟨he, rfl⟩
      exact ⟨e, he, rfl, rfl⟩

/-- What the rules contribute, each entry with its section. -/
def AdvancedPayload.placedEntries (rules : List Rule) : List (PayloadSection × Entry) :=
  rules.flatMap fun r => (contribution r).placed

theorem AdvancedPayload.entries_ofRules (rules : List Rule) :
    (ofRules rules).entries =
      (arrange PayloadSection.all (·.1) (placedEntries rules)).map (·.2) := by
  rw [ofRules, placedEntries, List.flatMap_map]

/-- What a rule contributes is in the payload of every list that holds the rule. -/
theorem AdvancedPayload.mem_entries_of_placed {rules : List Rule} {r : Rule} {s : PayloadSection}
    {e : Entry} (hr : r ∈ rules) (he : (s, e) ∈ (contribution r).placed) :
    e ∈ (ofRules rules).entries := by
  have hplaced : (s, e) ∈ placedEntries rules := List.mem_flatMap.2 ⟨r, hr, he⟩
  rw [entries_ofRules]
  exact List.mem_map.2 ⟨(s, e), mem_arrange.2 ⟨hplaced, PayloadSection.mem_all s⟩, rfl⟩

section
variable {rules : List Rule} {s : PayloadSection} {e : Entry}

/-- Sections of exceptions only ignore previous rules, and the others never do. -/
theorem AdvancedPayload.action_of_mem_placedEntries (h : (s, e) ∈ placedEntries rules) :
    e.action = .ignorePreviousRules ↔ s.isException = true := by
  obtain ⟨r, -, h⟩ := List.mem_flatMap.1 h
  rcases mem_placed_iff.1 h with ⟨pattern, o, t, -, -, hs, rfl⟩ | ⟨hentry, rfl⟩
  · simp [Scopes.isException_of_mem_payloadSections o.scopes s hs]
  · obtain ⟨-, -, hok⟩ := Rule.payloadEntry?_eq_some hentry
    obtain ⟨_, -, -, haction⟩ := ruleEntry_eq_ok hok
    simp [action_ne_ignorePreviousRules haction, PayloadSection.isException_sectionOf]

/-- The trigger of an entry of the payload is that of an exception for pages, or it is for all
URLs. -/
theorem AdvancedPayload.trigger_of_mem_placedEntries (h : (s, e) ∈ placedEntries rules) :
    (∃ r ∈ rules, ∃ pattern o, r.body = .network true pattern o ∧
        Trigger.ofPage pattern o r.domains = .ok e.trigger) ∨
      e.trigger.matchesAllUrls = true := by
  obtain ⟨r, hr, h⟩ := List.mem_flatMap.1 h
  rcases mem_placed_iff.1 h with ⟨pattern, o, t, hbody, ht, -, rfl⟩ | ⟨hentry, -⟩
  · exact .inl ⟨r, hr, pattern, o, hbody, ht⟩
  · obtain ⟨-, -, hok⟩ := Rule.payloadEntry?_eq_some hentry
    obtain ⟨_, -, htrigger, -⟩ := ruleEntry_eq_ok hok
    exact .inr (by rw [htrigger]; rfl)

/-- The url filters of the payload are ones that rule lists can hold. -/
theorem AdvancedPayload.isAcceptable_of_mem_placedEntries (hrules : ∀ r ∈ rules, r.body.IsReadable)
    (h : (s, e) ∈ placedEntries rules) : UrlFilter.IsAcceptable e.trigger.urlFilter.toList := by
  rcases trigger_of_mem_placedEntries h with ⟨r, hr, pattern, o, hbody, ht⟩ | hall
  · exact Trigger.isAcceptable_of_ofPage (hbody ▸ hrules r hr) ht
  · exact Trigger.isAcceptable_of_matchesAllUrls hall

theorem AdvancedPayload.isReadable_of_mem_placedEntries (hrules : ∀ r ∈ rules, r.body.IsReadable)
    (h : (s, e) ∈ placedEntries rules) : e.trigger.isReadable = true :=
  Trigger.isReadable_of_isAcceptable (isAcceptable_of_mem_placedEntries hrules h)

/-- An exception in the payload takes a section back if some exception among the rules reaches
it. -/
theorem AdvancedPayload.exists_exception_iff (q : Request) :
    (∃ d ∈ placedEntries rules, d.2.counts q = true ∧ d.2.action = .ignorePreviousRules ∧
        [s, d.1].Sublist PayloadSection.all) ↔
      ∃ r ∈ rules, r.cancels Scopes.reaches s q = true := by
  constructor
  · rintro ⟨⟨s', d⟩, hd, hcounts, hignores, hsub⟩
    obtain ⟨r, hr, h⟩ := List.mem_flatMap.1 hd
    refine ⟨r, hr, ?_⟩
    rcases mem_placed_iff.1 h with ⟨pattern, o, t, hbody, ht, hs', rfl⟩ | ⟨-, rfl⟩
    · simp only [Rule.cancels, hbody, Scopes.reaches, Bool.and_eq_true, List.any_eq_true,
        decide_eq_true_eq, Option.any_eq_true]
      exact ⟨⟨s', hs', hsub⟩, t, toOption_eq_some.2 ht, hcounts⟩
    · have hexception := (action_of_mem_placedEntries hd).1 hignores
      rw [PayloadSection.isException_sectionOf] at hexception
      cases hexception
  · rintro ⟨r, hr, h⟩
    unfold Rule.cancels at h
    split at h
    · rename_i pattern o hbody
      obtain ⟨hreaches, hcounts⟩ := Bool.and_eq_true_iff.1 h
      obtain ⟨s', hs', hsub⟩ := List.any_eq_true.1 hreaches
      obtain ⟨t, ht, hcounts⟩ := (Option.any_eq_true _ _).1 hcounts
      refine ⟨(s', ⟨t, .ignorePreviousRules⟩), List.mem_flatMap.2 ⟨r, hr, ?_⟩, hcounts, rfl,
        of_decide_eq_true hsub⟩
      exact mem_placed_iff.2 (.inl ⟨pattern, o, t, hbody, toOption_eq_some.1 ht, hs', rfl⟩)
    · cases h

end

/-! ## What remains -/

/-- The entry of a rule is in effect if it counts and no exception reaches it. -/
theorem isInEffect_payloadEntry (rules : List Rule) (q : Request) {r : Rule} {e : Entry}
    (hentry : r.payloadEntry? = some e) :
    Matcher.isInEffect (·.1) (·.2) PayloadSection.all (placedEntries rules) q (sectionOf e, e) =
      (e.counts q && !rules.any (·.cancels Scopes.reaches (sectionOf e) q)) := by
  obtain ⟨-, -, hok⟩ := Rule.payloadEntry?_eq_some hentry
  obtain ⟨_, -, -, haction⟩ := ruleEntry_eq_ok hok
  have hreach := @exists_exception_iff rules (sectionOf e) q
  rw [Bool.eq_iff_iff, Matcher.isInEffect_iff, Bool.and_eq_true, Bool.not_eq_true',
    List.any_eq_false]
  refine and_congr_right fun _ => ⟨fun ⟨_, h⟩ r hr hcancels => ?_,
    fun h => ⟨action_ne_ignorePreviousRules haction, fun d hd hcounts hignores hsub => ?_⟩⟩
  · obtain ⟨d, hd, hcounts, hignores, hsub⟩ := hreach.2 ⟨r, hr, hcancels⟩
    exact h d hd hcounts hignores hsub
  · obtain ⟨r, hr, hcancels⟩ := hreach.1 ⟨d, hd, hcounts, hignores, hsub⟩
    exact h r hr hcancels

/-- The actions in effect after the payload are those of the rules that no exception reaches. -/
theorem AdvancedPayload.effects_perm (rules : List Rule) (q : Request) :
    (Matcher.effects (ofRules rules).entries q).Perm
      (remainingActions Scopes.reaches rules q) := by
  have hsections : ∀ c ∈ placedEntries rules, ∀ d ∈ placedEntries rules, c.1 = d.1 →
      c.2.action = .ignorePreviousRules → d.2.action = .ignorePreviousRules := by
    rintro ⟨s, e⟩ hc ⟨s', e'⟩ hd hs
    cases hs
    exact fun h => (action_of_mem_placedEntries hd).2 ((action_of_mem_placedEntries hc).1 h)
  rw [entries_ofRules, Matcher.effects_arrange hsections PayloadSection.nodup_all]
  refine ((perm_arrange PayloadSection.nodup_all
    fun c _ => PayloadSection.mem_all c.1).filter _).map _ |>.trans (.of_eq ?_)
  rw [placedEntries, List.filter_flatMap, List.map_flatMap, remainingActions,
    List.filterMap_eq_flatMap_toList]
  refine List.flatMap_congr fun r hr => ?_
  by_cases hbody : ∃ pattern o, r.body = .network true pattern o
  · obtain ⟨pattern, o, hbody⟩ := hbody
    rw [Rule.payloadEntry?_of_exception hbody, List.filter_eq_nil_iff.2]
    · rfl
    rintro ⟨s, e⟩ h hin
    rcases mem_placed_iff.1 h with ⟨_, _, _, -, -, -, rfl⟩ | ⟨hentry, -⟩
    · exact (Matcher.isInEffect_iff.1 hin).2.1 rfl
    · cases hentry.symm.trans (Rule.payloadEntry?_of_exception hbody)
  · rw [placed_of_rule fun pattern o h => hbody ⟨pattern, o, h⟩]
    cases hentry : r.payloadEntry? with
    | none => rfl
    | some e =>
      have hin := isInEffect_payloadEntry rules q hentry
      rw [placedEntries] at hin
      simp only [Option.toList_some, List.map_cons, List.map_nil, List.filter_cons, List.filter_nil,
        hin, Option.filter_some]
      split <;> rfl

/-! ## Where scripts are taken back -/

theorem any_cancels_css {rules : List Rule} {q : Request} {s : PayloadSection}
    (hs : s = .genericCss ∨ s = .domainCss) :
    rules.any (·.cancels Scopes.reaches s q) = rules.any (·.cancels Scopes.targets s q) := by
  congr 1
  funext r
  unfold Rule.cancels
  split
  · rw [Scopes.reaches_css _ hs]
  · rfl

/-- Scripts are reached by the exceptions that are aimed at them, and by those aimed at styles. -/
theorem any_cancels_scripts (rules : List Rule) (q : Request) :
    rules.any (·.cancels Scopes.reaches .scripts q) =
      (rules.any (·.cancels Scopes.targets .scripts q) ||
        rules.any (·.cancels Scopes.targets .genericCss q)) := by
  have hreach (r : Rule) : r.cancels Scopes.reaches .scripts q =
      (r.cancels Scopes.targets .scripts q || r.cancels Scopes.targets .genericCss q) := by
    unfold Rule.cancels
    split
    · rw [Scopes.reaches_scripts, Bool.and_or_distrib_right]
    · rfl
  induction rules with
  | nil => rfl
  | cons r rules ih =>
    rw [List.any_cons, List.any_cons, List.any_cons, ih, hreach]
    simp only [Bool.or_assoc, Bool.or_left_comm]

/-- A script or scriptlet counts for the request, no exception that counts is aimed at it, and one
that counts is aimed at styles. -/
def TakesBackScripts (rules : List Rule) (q : Request) : Prop :=
  (∃ r ∈ rules, ∃ e, r.payloadEntry? = some e ∧ sectionOf e = .scripts ∧ e.counts q = true) ∧
    (∀ r ∈ rules, r.cancels Scopes.targets .scripts q = false) ∧
    ∃ r ∈ rules, r.cancels Scopes.targets .genericCss q = true

theorem PayloadSection.sectionOf_cases (e : Entry) :
    sectionOf e = .scripts ∨ sectionOf e = .genericCss ∨ sectionOf e = .domainCss := by
  have := PayloadSection.isException_sectionOf e
  cases hs : sectionOf e <;> simp_all [PayloadSection.isException]

/-- Where scripts are taken back, fewer actions remain than the scopes of the exceptions name. -/
theorem length_remainingActions_lt {rules : List Rule} {q : Request}
    (h : TakesBackScripts rules q) :
    (remainingActions Scopes.reaches rules q).length <
      (remainingActions Scopes.targets rules q).length := by
  obtain ⟨⟨r, hr, e, hentry, hsection, hcounts⟩, htargets, r', hr', hcancels⟩ := h
  have hnone : rules.any (·.cancels Scopes.targets .scripts q) = false :=
    List.any_eq_false.2 fun x hx => by simp [htargets x hx]
  have hsome : rules.any (·.cancels Scopes.targets .genericCss q) = true :=
    List.any_eq_true.2 ⟨r', hr', hcancels⟩
  have hreached : rules.any (·.cancels Scopes.reaches .scripts q) = true := by
    rw [any_cancels_scripts, hsome, Bool.or_true]
  rw [remainingActions, remainingActions, List.length_filterMap_eq_countP,
    List.length_filterMap_eq_countP]
  refine countP_lt_countP ?_ ⟨r, hr, ?_, ?_⟩
  · intro x _ hx
    cases hx' : x.payloadEntry? with
    | none => simp [hx'] at hx
    | some d =>
      rw [hx'] at hx
      rcases PayloadSection.sectionOf_cases d with hd | hd
      · simp only [Option.filter_some, hd, hreached, Bool.not_true, Bool.and_false,
          Bool.false_eq_true, if_false, Option.map_none, Option.isSome_none] at hx
      · simpa [any_cancels_css hd] using hx
  · simp only [hentry, Option.filter_some, hsection, hreached, Bool.not_true, Bool.and_false,
      Bool.false_eq_true, if_false, Option.map_none, Option.isSome_none]
  · simp only [hentry, Option.filter_some, hsection, hcounts, hnone, Bool.not_false, Bool.and_true,
      if_true, Option.map_some, Option.isSome_some]

/-- Where none are taken back, an entry that counts is reached by the exceptions
whose scopes name it. -/
theorem counts_and_any_cancels_eq {rules : List Rule} {q : Request} (h : ¬TakesBackScripts rules q)
    {r : Rule} (hr : r ∈ rules) {e : Entry} (hentry : r.payloadEntry? = some e) :
    (e.counts q && !rules.any (·.cancels Scopes.reaches (sectionOf e) q)) =
      (e.counts q && !rules.any (·.cancels Scopes.targets (sectionOf e) q)) := by
  rcases PayloadSection.sectionOf_cases e with hs | hs
  · rw [hs, any_cancels_scripts]
    cases hcounts : e.counts q with
    | false => rfl
    | true =>
      cases hnone : rules.any (·.cancels Scopes.targets .scripts q) with
      | true => rfl
      | false =>
        have hgeneric : rules.any (·.cancels Scopes.targets .genericCss q) = false := by
          rw [List.any_eq_false]
          intro r' hr' hcancels
          refine h ⟨⟨r, hr, e, hentry, hs, hcounts⟩, fun x hx => ?_, r', hr', hcancels⟩
          simpa using List.any_eq_false.1 hnone x hx
        rw [hgeneric]
        rfl
  · rw [any_cancels_css hs]

/-- The actions that remain are those that the scopes of the exceptions name, unless exceptions
aimed at styles take back scripts. -/
theorem remainingActions_perm_iff (rules : List Rule) (q : Request) :
    (remainingActions Scopes.reaches rules q).Perm (remainingActions Scopes.targets rules q) ↔
      ¬TakesBackScripts rules q := by
  constructor
  · exact fun hperm htakes =>
      absurd hperm.length_eq (Nat.ne_of_lt (length_remainingActions_lt htakes))
  · intro hnot
    refine .of_eq (List.filterMap_congr fun r hr => ?_)
    cases hentry : r.payloadEntry? with
    | none => rfl
    | some e =>
      rw [Option.filter_some, Option.filter_some, counts_and_any_cancels_eq hnot hr hentry]

/-- The rules that the advanced payload of a filter list is made of. -/
def payloadRules (lines : List String) : List Rule :=
  (applyCosmeticExceptions (FilterList.read lines).rules).1

/-- What the exceptions of the advanced payload cancel: the payload of a filter list has a matcher,
and the actions that it leaves are those of the advanced rules that count and that no exception
reaches. These are the actions that no exception is aimed at, unless a script counts that only
exceptions aimed at styles reach; then they are others. -/
theorem payload_exceptions (lines : List String) (q : Request) :
    ∃ m, Matcher.ofEntries? (AdvancedPayload.ofRules (payloadRules lines)).entries = some m ∧
      (m.actions q).Perm (remainingActions Scopes.reaches (payloadRules lines) q) ∧
      ((m.actions q).Perm (remainingActions Scopes.targets (payloadRules lines) q) ↔
        ¬TakesBackScripts (payloadRules lines) q) := by
  have hreadable (r : Rule) (hr : r ∈ payloadRules lines) : r.body.IsReadable := by
    obtain ⟨s, hs, -, domains, rfl⟩ := mem_applyCosmeticExceptions hr
    exact FilterList.isReadable_of_mem (r := s) hs
  have hpatterns : ∀ e ∈ (AdvancedPayload.ofRules (payloadRules lines)).entries,
      e.trigger.isReadable = true := by
    intro e he
    rw [AdvancedPayload.entries_ofRules] at he
    obtain ⟨⟨s, e⟩, hs, rfl⟩ := List.mem_map.1 he
    exact AdvancedPayload.isReadable_of_mem_placedEntries hreadable (mem_arrange.1 hs).1
  obtain ⟨m, hm⟩ := Matcher.exists_ofEntries? hpatterns
  have hperm := AdvancedPayload.effects_perm (payloadRules lines) q
  rw [← Matcher.actions_eq hm] at hperm
  refine ⟨m, hm, hperm, ?_⟩
  rw [← remainingActions_perm_iff]
  exact ⟨hperm.symm.trans, hperm.trans⟩

end ContentRules
