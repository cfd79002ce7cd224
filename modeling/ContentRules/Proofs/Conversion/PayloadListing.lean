import ContentRules.Proofs.Advanced.Exceptions
import ContentRules.Proofs.Conversion.Switches
import ContentRules.Proofs.Filter.Rereading
import ContentRules.Proofs.Ordered.Labels

/-!
The rules whose texts the advanced payload lists, and what comes of them when they are converted
again. A rule with entries in the payload is listed, and so is each exception of advanced rules. A
hiding rule that goes to the payload for its `:has()` is listed without the exceptions that narrowed
it, since these are exceptions of hiding rules. Main statements: `ruleTexts_eq` and
`entries_listed_iff`.
-/

namespace ContentRules

open AdvancedPayload

/-- The rule as exceptions leave it. -/
def Rule.narrowedBy? (exceptions : List Rule) (r : Rule) : Option Rule :=
  r.narrow? (r.exceptionsFor (Index.ofList (fun e => e.body.target?) exceptions))

/-- An exception keeps a hiding rule that goes to the payload off some pages; it is not listed
there, for it is aimed at hiding rules. -/
def LosesException (version : Version) (rules : List Rule) : Prop :=
  version.knowsHas = false ∧ ∃ r ∈ rules, r.hidesByHas = true ∧ ∃ s condition,
    r.narrowedBy? (rules.filter Rule.isCosmeticException) = some s ∧
      s.domains.condition = .ok condition ∧ r.domains.condition ≠ .ok condition

/-- Only the advanced payload can carry what has the target. -/
def CosmeticTarget.isAdvanced : CosmeticTarget → Bool
  | cosmetic flavour _ => flavour != .elementHiding
  | scriptlet _ | anyScriptlet => true

namespace Conversion

section
variable (config : Config) (exceptions : List Rule)

/-- The entries of a rule in the payload, after exceptions. -/
def payloadEntries (r : Rule) : List (PayloadSection × Entry) :=
  ((r.narrowedBy? exceptions).map fun s => (contribution (placed config s)).placed).getD []

/-- The payload lists the text of the rule. -/
def isListed (r : Rule) : Bool :=
  if r.isCosmeticException then r.isAdvanced else !(payloadEntries config exceptions r).isEmpty

end

section
variable {config : Config} {rules : List Rule}

theorem applyCosmeticExceptions_fst (rules : List Rule) :
    (applyCosmeticExceptions rules).1 = (rules.filter (!·.isCosmeticException)).filterMap
      (Rule.narrowedBy? (rules.filter Rule.isCosmeticException)) := rfl

theorem placedEntries_prepared :
    placedEntries ((applyCosmeticExceptions rules).1.map (placed config)) =
      (rules.filter (!·.isCosmeticException)).flatMap
        (payloadEntries config (rules.filter Rule.isCosmeticException)) := by
  rw [placedEntries, List.flatMap_map, applyCosmeticExceptions_fst, flatMap_filterMap]
  rfl

theorem mem_sources {n : Nat} :
    n ∈ (ofRules rules).sources ↔ ∃ s ∈ rules, (contribution s).placed ≠ [] ∧ s.line = n := by
  simp only [ofRules, List.filterMap_map, List.mem_filterMap, Function.comp_apply]
  refine exists_congr fun s => and_congr_right fun _ => ?_
  cases (contribution s).placed <;> simp

/-- The rules before they are placed in the payload. -/
theorem mem_placed {s : Rule} :
    s ∈ (applyCosmeticExceptions rules).1.map (placed config) ↔
      ∃ r ∈ rules, r.isCosmeticException = false ∧
        ∃ t, r.narrowedBy? (rules.filter Rule.isCosmeticException) = some t ∧
          placed config t = s := by
  simp only [applyCosmeticExceptions_fst, List.mem_map, List.mem_filterMap, List.mem_filter,
    Bool.not_eq_true']
  constructor
  · rintro ⟨t, ⟨r, ⟨hr, hexception⟩, ht⟩, hs⟩
    exact ⟨r, hr, hexception, t, ht, hs⟩
  · rintro ⟨r, hr, hexception, t, ht, hs⟩
    exact ⟨t, ⟨r, ⟨hr, hexception⟩, ht⟩, hs⟩

/-- Narrowing and placing a rule leaves its line and its text. -/
theorem line_text_placed (config : Config) {r t : Rule} {exceptions : List Rule}
    (h : r.narrowedBy? exceptions = some t) :
    (placed config t).line = r.line ∧ (placed config t).text = r.text := by
  obtain ⟨domains, rfl⟩ := Rule.narrow?_eq_some h
  exact ⟨line_placed config _, text_placed config _⟩

/-- A rule that is no exception is listed if it has entries in the payload. -/
theorem isListed_iff {exceptions : List Rule} {r : Rule}
    (hexception : r.isCosmeticException = false) :
    isListed config exceptions r = true ↔
      ∃ t, r.narrowedBy? exceptions = some t ∧ (contribution (placed config t)).placed ≠ [] := by
  rw [isListed, if_neg (by simp [hexception]), payloadEntries]
  cases r.narrowedBy? exceptions with
  | none => simp
  | some t => simp

/-- The exceptions that are listed are those of advanced rules. -/
theorem exceptions_listed (exceptions : List Rule) :
    (rules.filter (isListed config exceptions)).filter Rule.isCosmeticException =
      (rules.filter Rule.isCosmeticException).filter Rule.isAdvanced := by
  rw [List.filter_filter, List.filter_filter]
  refine List.filter_congr fun r _ => ?_
  cases hexception : r.isCosmeticException with
  | true => rw [isListed, if_pos hexception, Bool.true_and, Bool.and_true]
  | false => rw [Bool.false_and, Bool.and_false]

theorem others_listed (exceptions : List Rule) :
    (rules.filter (isListed config exceptions)).filter (!·.isCosmeticException) =
      (rules.filter (!·.isCosmeticException)).filter (isListed config exceptions) := by
  rw [List.filter_filter, List.filter_filter]
  exact List.filter_congr fun _ _ => Bool.and_comm _ _

section
variable (h : rules.Pairwise fun r s => r.line < s.line)
include h

theorem eq_of_line {r s : Rule} (hr : r ∈ rules) (hs : s ∈ rules) (hline : r.line = s.line) :
    r = s := by
  refine List.inj_on_of_nodup_map (f := (·.line)) ?_ hr hs hline
  exact List.pairwise_map.2 (h.imp Nat.ne_of_lt)

/-- The line of a rule is a source of the payload if and only if the rule has entries there. -/
theorem line_mem_sources {r t : Rule} (hr : r ∈ rules) (hexception : r.isCosmeticException = false)
    (ht : r.narrowedBy? (rules.filter Rule.isCosmeticException) = some t) :
    (placed config t).line ∈
        (ofRules ((applyCosmeticExceptions rules).1.map (placed config))).sources ↔
      (contribution (placed config t)).placed ≠ [] := by
  rw [mem_sources]
  constructor
  · rintro ⟨s, hs, hplaced, hline⟩
    obtain ⟨r', hr', -, t', ht', rfl⟩ := mem_placed.1 hs
    rw [(line_text_placed config ht).1, (line_text_placed config ht').1] at hline
    obtain rfl := eq_of_line h hr' hr hline
    cases ht.symm.trans ht'
    exact hplaced
  · intro hplaced
    exact ⟨_, mem_placed.2 ⟨r, hr, hexception, t, ht, rfl⟩, hplaced, rfl⟩

/-- The rules that the payload carries and the exceptions that it lists are the listed rules. -/
theorem exists_carried_iff {x : Nat × String} :
    (∃ s, (s ∈ (applyCosmeticExceptions rules).1.map (placed config) ∧
          s.line ∈ (ofRules ((applyCosmeticExceptions rules).1.map (placed config))).sources ∨
        s ∈ rules.filter Rule.isCosmeticException ∧ s.isAdvanced = true) ∧ (s.line, s.text) = x) ↔
      ∃ r, (r ∈ rules ∧ isListed config (rules.filter Rule.isCosmeticException) r = true) ∧
        (r.line, r.text) = x := by
  constructor
  · rintro ⟨s, ⟨hs, hsource⟩ | ⟨hs, hadvanced⟩, rfl⟩
    · obtain ⟨r, hr, hexception, t, ht, rfl⟩ := mem_placed.1 hs
      have hplaced := (line_mem_sources h hr hexception ht).1 hsource
      obtain ⟨hline, htext⟩ := line_text_placed config ht
      exact ⟨r, ⟨hr, (isListed_iff hexception).2 ⟨t, ht, hplaced⟩⟩, by rw [hline, htext]⟩
    · obtain ⟨hs, hexception⟩ := List.mem_filter.1 hs
      exact ⟨s, ⟨hs, by rw [isListed, if_pos hexception, hadvanced]⟩, rfl⟩
  · rintro ⟨r, ⟨hr, hlisted⟩, rfl⟩
    cases hexception : r.isCosmeticException with
    | true =>
      rw [isListed, if_pos hexception] at hlisted
      exact ⟨r, .inr ⟨List.mem_filter.2 ⟨hr, hexception⟩, hlisted⟩, rfl⟩
    | false =>
      obtain ⟨t, ht, hplaced⟩ := (isListed_iff hexception).1 hlisted
      obtain ⟨hline, htext⟩ := line_text_placed config ht
      refine ⟨placed config t, .inl ⟨mem_placed.2 ⟨r, hr, hexception, t, ht, rfl⟩, ?_⟩, ?_⟩
      · exact (line_mem_sources h hr hexception ht).2 hplaced
      · rw [hline, htext]

/-- The payload lists the texts of the listed rules, in the order of their lines. -/
theorem ruleTexts_eq :
    (ofRules ((applyCosmeticExceptions rules).1.map (placed config))).ruleTexts
        ((applyCosmeticExceptions rules).1.map (placed config))
        (rules.filter Rule.isCosmeticException) =
      (rules.filter (isListed config (rules.filter Rule.isCosmeticException))).map (·.text) := by
  have hcarried (x : Nat × String) := @exists_carried_iff config rules h x
  have hsublist := lines_placed_sublist config rules
  generalize (applyCosmeticExceptions rules).1.map (placed config) = prepared at hcarried hsublist ⊢
  unfold ruleTexts
  dsimp only
  simp only [Std.HashSet.contains_ofList]
  have hnodup : ((prepared.filter (fun r => (ofRules prepared).sources.contains r.line) ++
      (rules.filter Rule.isCosmeticException).filter Rule.isAdvanced).map (·.line)).Nodup := by
    have hrules : (rules.map (·.line)).Nodup := List.pairwise_map.2 (h.imp Nat.ne_of_lt)
    have hsplit := (List.perm_append_comm.trans
      (List.filter_append_perm Rule.isCosmeticException rules)).map (·.line)
    refine ((hsplit.nodup_iff).2 hrules).sublist ?_
    rw [List.map_append, List.map_append]
    exact ((List.filter_sublist.map _).trans hsublist).append (List.filter_sublist.map _)
  apply map_mergeSort_eq hnodup (h.sublist List.filter_sublist)
  intro x
  simp only [List.mem_append, List.mem_filter, List.contains_iff_mem]
  simpa only [List.mem_filter] using hcarried x

end

end

/-! ## Listed rules once more -/

theorem isAdvanced_of_target {b : RuleBody} {target : CosmeticTarget}
    (h : b.target? = some target) : b.isAdvanced = target.isAdvanced := by
  cases b with
  | network => cases h
  | cosmetic =>
    cases h
    rfl
  | scriptlet _ call =>
    cases h
    split <;> rfl

/-- An advanced rule, and one that no exception names, is narrowed by the exceptions of
advanced rules alone. -/
theorem narrowedBy?_isAdvanced {r : Rule} (hr : r.body.target? = none ∨ r.isAdvanced = true)
    (exceptions : List Rule) :
    r.narrowedBy? (exceptions.filter Rule.isAdvanced) = r.narrowedBy? exceptions := by
  have hfilter {target : CosmeticTarget}
      (htarget : ∀ e ∈ exceptions, e.body.target? = some target → e.isAdvanced = true) :
      (exceptions.filter Rule.isAdvanced).filter (fun e => e.body.target? == some target) =
        exceptions.filter fun e => e.body.target? == some target := by
    rw [List.filter_filter]
    refine List.filter_congr fun e he => ?_
    cases hmatch : e.body.target? == some target with
    | false => rfl
    | true => rw [htarget e he (beq_iff_eq.1 hmatch), Bool.true_and]
  unfold Rule.narrowedBy? Rule.exceptionsFor
  cases htarget : r.body.target? with
  | none => rfl
  | some target =>
    have hadvanced : r.isAdvanced = true := hr.resolve_left (by simp [htarget])
    simp only [Index.find_ofList]
    have htargetAdvanced : target.isAdvanced = true :=
      (isAdvanced_of_target htarget).symm.trans hadvanced
    rw [hfilter fun e _ he => (isAdvanced_of_target he).trans htargetAdvanced]
    cases target with
    | scriptlet => rw [hfilter fun e _ he => (isAdvanced_of_target he).trans rfl]
    | cosmetic => rfl
    | anyScriptlet => rfl

/-- A cosmetic rule is narrowed by the exceptions of its flavour and body. -/
theorem narrowedBy?_cosmetic {r : Rule} {flavour : Flavour} {body : String}
    (h : r.body.target? = some (.cosmetic flavour body)) (exceptions : List Rule) :
    r.narrowedBy? exceptions =
      r.narrow? ((exceptions.filter fun e => e.body.target? == r.body.target?).filter
        fun e => e.body.acceptsArguments r.body) := by
  unfold Rule.narrowedBy? Rule.exceptionsFor
  rw [h]
  simp only [Index.find_ofList, List.append_nil]

/-- The exceptions of advanced rules do not narrow a hiding rule. -/
theorem narrowedBy?_elementHiding {r : Rule} {body : String}
    (hr : r.body = .cosmetic false .elementHiding body) (exceptions : List Rule) :
    r.narrowedBy? (exceptions.filter Rule.isAdvanced) = some r := by
  have htarget : r.body.target? = some (.cosmetic .elementHiding body) := by
    rw [hr]
    rfl
  have hnone : (exceptions.filter Rule.isAdvanced).filter
      (fun e => e.body.target? == r.body.target?) = [] := by
    rw [List.filter_eq_nil_iff, htarget]
    intro e he hsame
    have hadvanced :=
      (isAdvanced_of_target (beq_iff_eq.1 hsame)).symm.trans (List.mem_filter.1 he).2
    cases hadvanced
  rw [narrowedBy?_cosmetic htarget, hnone]
  rfl

/-- A hiding rule that an exception keeps off one site, for the standard version. -/
theorem losesException_has :
    LosesException .standard
      [⟨0, "##div:has(.ad)", {}, .cosmetic false .elementHiding "div:has(.ad)"⟩,
        ⟨1, "example.com#@#div:has(.ad)", ⟨["example.com"], []⟩,
          .cosmetic true .elementHiding "div:has(.ad)"⟩] := by
  refine ⟨by decide, _, .head _, by decide, ⟨0, "##div:has(.ad)", ⟨[], ["example.com"]⟩,
    .cosmetic false .elementHiding "div:has(.ad)"⟩, _, ?_, rfl, nofun⟩
  rw [narrowedBy?_cosmetic rfl]
  decide

/-! ## Hiding rules in the payload -/

/-- The entry of a hiding rule in the payload. -/
def hasEntry (body : String) (condition : Option DomainCondition) : PayloadSection × Entry :=
  let e : Entry := ⟨{ domains := condition }, .cssExtended (Text.trimmed body)⟩
  (sectionOf e, e)

theorem hasEntry_inj {body : String} {condition condition' : Option DomainCondition} :
    hasEntry body condition = hasEntry body condition' ↔ condition = condition' :=
  ⟨fun h => congrArg (fun x : PayloadSection × Entry => x.2.trigger.domains) h, fun h => h ▸ rfl⟩

theorem placed_promoted {r : Rule} {body : String}
    (hr : r.body = .cosmetic false .elementHiding body) (hhas : usesHas body = true) :
    (contribution r.promoted).placed = r.domains.condition.toOption.toList.map (hasEntry body) := by
  have hnonempty : (Text.trimmed body).isEmpty = false := by
    rw [Bool.eq_false_iff, ne_eq, String.isEmpty_iff]
    intro hempty
    rw [← usesHas_trimmed, hempty] at hhas
    cases hhas
  have haction : AdvancedPayload.action (.cosmetic false .extendedCss body) =
      .ok (.cssExtended (Text.trimmed body)) := by
    simp only [AdvancedPayload.action, hnonempty, Bool.false_eq_true, if_false]
  have hentry : ruleEntry { r with body := .cosmetic false .extendedCss body } =
      r.domains.condition.map fun c => (hasEntry body c).2 := by
    rw [ruleEntry, haction]
    cases r.domains.condition <;> rfl
  rw [Rule.promoted, hr, contribution]
  simp only [hentry]
  cases r.domains.condition <;> rfl

/-- Whether the entry is limited to pages shows in its section. -/
theorem hasEntry_fst {l m : DomainList} {c c' : Option DomainCondition} (body : String)
    (hl : l.condition = .ok c) (hm : m.condition = .ok c')
    (hlimited : l.permitted = [] ↔ m.permitted = []) :
    (hasEntry body c).1 = (hasEntry body c').1 := by
  have hsection {l : DomainList} {c : Option DomainCondition} (hl : l.condition = .ok c) :
      (hasEntry body c).1 = if l.permitted = [] then .genericCss else .domainCss := by
    unfold DomainList.condition at hl
    split at hl
    case isTrue hempty =>
      rw [if_pos (by simpa using hempty)]
      cases hl
      cases l.restricted <;> rfl
    case isFalse hne =>
      rw [if_neg (by simpa using hne)]
      split at hl
      · cases hl
      · cases hl
        rfl
  rw [hsection hl, hsection hm]
  simp only [hlimited]

/-! ## What comes of the listed rules -/

/-- The entries of a rule if only the listed rules are converted. -/
def entriesAgain (config : Config) (exceptions : List Rule) (r : Rule) :
    List (PayloadSection × Entry) :=
  if isListed config exceptions r then payloadEntries config (exceptions.filter Rule.isAdvanced) r
  else []

section
variable {config : Config} {exceptions : List Rule} {r : Rule}

theorem payloadEntries_of_not_isListed (hexception : r.isCosmeticException = false)
    (h : isListed config exceptions r = false) : payloadEntries config exceptions r = [] := by
  rw [isListed, if_neg (by simp [hexception])] at h
  simpa using h

/-- A rule with entries in the payload that are not those of a promoted rule is found by the
exceptions of advanced rules alone. -/
theorem narrowedBy?_of_placed {s : Rule} (hbody : s.body = r.body)
    (h : (contribution s).placed ≠ []) (exceptions : List Rule) :
    r.narrowedBy? (exceptions.filter Rule.isAdvanced) = r.narrowedBy? exceptions := by
  apply narrowedBy?_isAdvanced
  rw [← hbody]
  by_cases hnetwork : ∃ pattern o, s.body = .network true pattern o
  · obtain ⟨pattern, o, hnetwork⟩ := hnetwork
    rw [hnetwork]
    exact .inl rfl
  · cases hadvanced : s.isAdvanced with
    | true => exact .inr (by rw [Rule.isAdvanced, ← hbody]; exact hadvanced)
    | false => exact absurd (placed_of_not_isAdvanced hadvanced fun p o h => hnetwork ⟨p, o, h⟩) h

/-- A hiding rule goes to the payload for its `:has()`, and exceptions leave of it what is named. -/
structure GoesToPayload (config : Config) (exceptions : List Rule) (r t : Rule) (body : String) :
    Prop where
  wanted : config.advanced.isSome = true
  version : config.version.knowsHas = false
  hides : r.body = .cosmetic false .elementHiding body
  has : usesHas body = true
  narrowed : r.narrowedBy? exceptions = some t

namespace GoesToPayload

variable {t : Rule} {body : String}

theorem of_hidesByHas (hwanted : config.advanced.isSome = true)
    (hversion : config.version.knowsHas = false) (hhas : r.hidesByHas = true)
    (ht : r.narrowedBy? exceptions = some t) :
    ∃ body, GoesToPayload config exceptions r t body := by
  obtain ⟨body, hr, hbody⟩ := Rule.hidesByHas_iff.1 hhas
  exact ⟨body, hwanted, hversion, hr, hbody, ht⟩

section
variable (h : GoesToPayload config exceptions r t body)
include h

theorem hidesByHas : r.hidesByHas = true := Rule.hidesByHas_iff.2 ⟨body, h.hides, h.has⟩

theorem isCosmeticException : r.isCosmeticException = false := by
  rw [Rule.isCosmeticException, h.hides]
  rfl

/-- The rule goes to the payload again, without its exceptions. -/
theorem again : GoesToPayload config (exceptions.filter Rule.isAdvanced) r r body :=
  { h with narrowed := narrowedBy?_elementHiding h.hides exceptions }

/-- The rule has an entry for the pages that exceptions leave. -/
theorem payloadEntries_eq :
    payloadEntries config exceptions r =
      t.domains.condition.toOption.toList.map (hasEntry body) := by
  have hbody : t.body = .cosmetic false .elementHiding body := by
    obtain ⟨domains, rfl⟩ := Rule.narrow?_eq_some h.narrowed
    exact h.hides
  have hplaced : placed config t = t.promoted := by
    rw [placed, h.wanted, h.version, Rule.hidesByHas_iff.2 ⟨body, hbody, h.has⟩]
    rfl
  rw [payloadEntries, h.narrowed, Option.map_some, Option.getD_some, hplaced,
    placed_promoted hbody h.has]

/-- Once more it has one for all pages that its own text names. -/
theorem entriesAgain_eq {condition : Option DomainCondition}
    (hcondition : t.domains.condition = .ok condition) :
    entriesAgain config exceptions r = r.domains.condition.toOption.toList.map (hasEntry body) := by
  have hlisted : isListed config exceptions r = true := by
    rw [isListed, h.isCosmeticException, if_neg Bool.false_ne_true, h.payloadEntries_eq, hcondition]
    rfl
  rw [entriesAgain, if_pos hlisted, h.again.payloadEntries_eq]

end

end GoesToPayload

/-- A rule has the same entries again, unless it is a hiding rule that goes to the payload. -/
theorem entriesAgain_cases (hwanted : config.advanced.isSome = true)
    (hexception : r.isCosmeticException = false) :
    entriesAgain config exceptions r = payloadEntries config exceptions r ∨
      ∃ t body condition, GoesToPayload config exceptions r t body ∧
        t.domains.condition = .ok condition := by
  cases hlisted : isListed config exceptions r with
  | false =>
    rw [entriesAgain, hlisted, payloadEntries_of_not_isListed hexception hlisted]
    exact .inl rfl
  | true =>
    obtain ⟨t, ht, hplaced⟩ := (isListed_iff hexception).1 hlisted
    by_cases hpromoted : config.version.knowsHas = false ∧ r.hidesByHas = true
    · obtain ⟨body, hgoes⟩ := GoesToPayload.of_hidesByHas hwanted hpromoted.1 hpromoted.2 ht
      have hentries :
          payloadEntries config exceptions r = (contribution (placed config t)).placed := by
        rw [payloadEntries, ht]
        rfl
      rw [← hentries, hgoes.payloadEntries_eq] at hplaced
      cases hcondition : t.domains.condition with
      | error =>
        rw [hcondition] at hplaced
        exact absurd rfl hplaced
      | ok condition => exact .inr ⟨t, body, condition, hgoes, hcondition⟩
    · obtain ⟨domains, rfl⟩ := Rule.narrow?_eq_some ht
      have hsame : placed config { r with domains } = { r with domains } := by
        rw [placed, if_neg]
        intro h
        simp only [hwanted, Bool.true_and, Bool.and_eq_true, Bool.not_eq_true'] at h
        exact hpromoted h
      rw [hsame] at hplaced
      have hbody : ({ r with domains } : Rule).body = r.body := rfl
      refine .inl ?_
      rw [entriesAgain, if_pos hlisted, payloadEntries, narrowedBy?_of_placed hbody hplaced,
        payloadEntries]

end

section
variable {config : Config} (hwanted : config.advanced.isSome = true) {exceptions : List Rule}
    {r : Rule}
  (hexception : r.isCosmeticException = false)
include hwanted hexception

/-- No rule has more entries than before. -/
theorem length_entriesAgain_le :
    (entriesAgain config exceptions r).length ≤ (payloadEntries config exceptions r).length := by
  obtain hsame | ⟨t, body, condition, hgoes, hcondition⟩ := entriesAgain_cases hwanted hexception
  · rw [hsame]
  · rw [hgoes.payloadEntries_eq, hgoes.entriesAgain_eq hcondition, hcondition]
    cases r.domains.condition with
    | error => exact Nat.zero_le _
    | ok => exact Nat.le_refl _

/-- Entries that remain stay in their sections. -/
theorem map_fst_entriesAgain
    (hlength :
      (entriesAgain config exceptions r).length = (payloadEntries config exceptions r).length) :
    (payloadEntries config exceptions r).map (·.1) =
      (entriesAgain config exceptions r).map (·.1) := by
  obtain hsame | ⟨t, body, condition, hgoes, hcondition⟩ := entriesAgain_cases hwanted hexception
  · rw [hsame]
  · rw [hgoes.payloadEntries_eq, hgoes.entriesAgain_eq hcondition, hcondition] at hlength ⊢
    cases hcondition' : r.domains.condition with
    | error =>
      rw [hcondition'] at hlength
      cases hlength
    | ok condition' =>
      obtain ⟨domains, hnarrowed, rfl⟩ := Option.map_eq_some_iff.1 hgoes.narrowed
      have hlimited := (DomainList.narrowed_foldlM hnarrowed).limited
      exact congrArg (fun s => [s]) (hasEntry_fst body hcondition hcondition' hlimited.symm)

end

/-- The payload has the same entries again if and only if no exception is lost. -/
theorem entries_listed_iff {config : Config} (hwanted : config.advanced.isSome = true)
    (rules : List Rule) :
    (arrange PayloadSection.all (·.1) ((rules.filter (!·.isCosmeticException)).flatMap
        (payloadEntries config (rules.filter Rule.isCosmeticException)))).map (·.2) =
      (arrange PayloadSection.all (·.1) ((rules.filter (!·.isCosmeticException)).flatMap
        (entriesAgain config (rules.filter Rule.isCosmeticException)))).map (·.2) ↔
      ¬LosesException config.version rules := by
  have hexception {r : Rule} (hr : r ∈ rules.filter (!·.isCosmeticException)) :
      r.isCosmeticException = false := by simpa using (List.mem_filter.1 hr).2
  rw [arrange_flatMap_eq_iff PayloadSection.nodup_all PayloadSection.mem_all
    (fun r hr => length_entriesAgain_le hwanted (hexception hr))
    (fun r hr => map_fst_entriesAgain hwanted (hexception hr))]
  constructor
  · -- the conditions of the two entries of the rule differ
    rintro hsame ⟨hversion, r, hr, hhas, t, condition, ht, hcondition, hne⟩
    obtain ⟨body, hgoes⟩ := GoesToPayload.of_hidesByHas hwanted hversion hhas ht
    have hsame := hsame r (List.mem_filter.2 ⟨hr, by rw [hgoes.isCosmeticException]; rfl⟩)
    rw [hgoes.payloadEntries_eq, hgoes.entriesAgain_eq hcondition, hcondition] at hsame
    cases hcondition' : r.domains.condition with
    | error =>
      rw [hcondition'] at hsame
      cases hsame
    | ok condition' =>
      rw [hcondition'] at hsame
      rw [hcondition', hasEntry_inj.1 (List.cons.inj hsame).1] at hne
      exact hne rfl
  · intro hkeeps r hr
    obtain hsame | ⟨t, body, condition, hgoes, hcondition⟩ :=
      @entriesAgain_cases config (rules.filter Rule.isCosmeticException) r hwanted (hexception hr)
    · exact hsame.symm
    · have hcondition' : r.domains.condition = .ok condition := by
        by_contra hne
        exact hkeeps ⟨hgoes.version, r, (List.mem_filter.1 hr).1, hgoes.hidesByHas, t, condition,
          hgoes.narrowed, hcondition, hne⟩
      rw [hgoes.payloadEntries_eq, hgoes.entriesAgain_eq hcondition, hcondition, hcondition']

end Conversion

end ContentRules
