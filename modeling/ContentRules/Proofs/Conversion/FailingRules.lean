import ContentRules.Proofs.Advanced.Exceptions
import ContentRules.Proofs.Conversion.Stages
import ContentRules.Proofs.Filter.Narrowing

/-!
For which reasons a rule fails, by the kind of the rule. A cosmetic rule or a scriptlet fails by its
body, which may be empty or beyond the version, or because its sites conflict. An exception for
pages fails if its options cannot be followed, and for its pattern and its sites only if the native
list has an entry for it. Main statements: `Rule.fails_iff_conflicts` and
`Rule.fails_iff_of_exception`.
-/

namespace ContentRules

open DomainList

theorem Scopes.ensureExpressible_ne_ok {scopes : Scopes} :
    scopes.ensureExpressible ≠ .ok () ↔
      scopes.contains .urlblock = true ∨ scopes.contains .genericblock = true := by
  unfold ensureExpressible
  cases scopes.contains .urlblock <;> cases scopes.contains .genericblock <;> simp

namespace Rule

variable {config : Config} {r : Rule}

/-- A rule that hides fails if it has no selector or one that the version cannot carry, or if its
sites conflict. -/
theorem fails_iff_of_hides {text : String} (hbody : r.body = .cosmetic false .elementHiding text) :
    r.fails config = true ↔ (Text.trimmed text).isEmpty = true ∨
      (!config.version.knowsHas && usesHas (Text.trimmed text)) = true ∨ r.domains.Conflicts := by
  have hadvanced : r.isAdvanced = false := by rw [isAdvanced, hbody]; rfl
  have hcompile : r.compile = hidingEntries r.line text r.domains := by rw [compile, hbody]
  have hcondition : (∃ c, r.domains.condition = .ok c) ↔ ¬r.domains.Conflicts :=
    exists_condition_iff
  rw [fails, hadvanced, hcompile]
  unfold hidingEntries
  dsimp only
  by_cases hselector : (Text.trimmed text).isEmpty = true
  · rw [if_pos hselector]
    simp [hselector, throw, throwThe, MonadExceptOf.throw, bind, Except.bind]
  · rw [if_neg hselector]
    cases hc : r.domains.condition with
    | error e =>
      have hconflicts : r.domains.Conflicts := by simpa [hc] using hcondition
      simp [hconflicts, bind, Except.bind]
    | ok c =>
      have hconflicts : ¬r.domains.Conflicts := by simpa [hc] using hcondition
      simp [hconflicts, hselector, bind, Except.bind, pure, Except.pure, CompiledEntry.isCarried,
        Entry.unsupportedReason?]

/-- A rule for the payload fails if no payload is wanted or the payload cannot say what the rule
does, or if its sites conflict. -/
theorem fails_iff_of_isAdvanced (hadvanced : r.isAdvanced = true)
    (hr : r.isCosmeticException = false) :
    r.fails config = true ↔ config.advanced.isNone = true ∨
      (¬∃ a, AdvancedPayload.action r.body = .ok a) ∨ r.domains.Conflicts := by
  have hfailure : (AdvancedPayload.contribution r).failure.isSome = true ↔
      ¬∃ e, AdvancedPayload.ruleEntry r = .ok e := by
    unfold AdvancedPayload.contribution
    unfold isAdvanced at hadvanced
    unfold isCosmeticException at hr
    cases hbody : r.body with
    | network => rw [hbody] at hadvanced; cases hadvanced
    | cosmetic | scriptlet =>
      rw [hbody] at hadvanced hr
      cases hr
      dsimp only
      rw [if_neg (by simp [hadvanced, RuleBody.isException])]
      cases AdvancedPayload.ruleEntry r <;> simp
  have hentry : (∃ e, AdvancedPayload.ruleEntry r = .ok e) ↔
      (∃ c, r.domains.condition = .ok c) ∧ ∃ a, AdvancedPayload.action r.body = .ok a := by
    constructor
    · rintro ⟨e, he⟩
      obtain ⟨c, hc, -, ha⟩ := AdvancedPayload.ruleEntry_eq_ok he
      exact ⟨⟨c, hc⟩, _, ha⟩
    · rintro ⟨⟨c, hc⟩, a, ha⟩
      exact ⟨_, bind_eq_ok.2 ⟨c, hc, bind_eq_ok.2 ⟨a, ha, rfl⟩⟩⟩
  rw [fails, if_pos hadvanced, Bool.or_eq_true, hfailure, hentry, exists_condition_iff, not_and_or,
    not_not, or_comm (a := r.domains.Conflicts)]

/-- A cosmetic rule or a scriptlet fails if it does without its sites, or if they conflict. -/
theorem fails_iff_conflicts (hr : r.isCosmeticException = false)
    (htarget : r.body.target?.isSome = true) :
    r.fails config = true ↔
      ({ r with domains := {} } : Rule).fails config = true ∨ r.domains.Conflicts := by
  have hnone : ¬({} : DomainList).Conflicts := fun h => h.1 rfl
  cases hadvanced : r.isAdvanced with
  | true =>
    have hsame : ({ r with domains := {} } : Rule).fails config = true ↔
        config.advanced.isNone = true ∨ (¬∃ a, AdvancedPayload.action r.body = .ok a) ∨
          ({} : DomainList).Conflicts := fails_iff_of_isAdvanced hadvanced hr
    rw [fails_iff_of_isAdvanced hadvanced hr, hsame, or_iff_left hnone, or_assoc]
  | false =>
    obtain ⟨text, hbody⟩ : ∃ text, r.body = .cosmetic false .elementHiding text := by
      unfold isAdvanced at hadvanced
      unfold isCosmeticException at hr
      cases hbody : r.body with
      | network => rw [hbody] at htarget; cases htarget
      | cosmetic isException flavour text =>
        rw [hbody] at hadvanced hr
        cases hr
        exact ⟨text, by simpa [RuleBody.isAdvanced] using hadvanced⟩
      | scriptlet => rw [hbody] at hadvanced; cases hadvanced
    have hsame : ({ r with domains := {} } : Rule).fails config = true ↔
        (Text.trimmed text).isEmpty = true ∨
          (!config.version.knowsHas && usesHas (Text.trimmed text)) = true ∨
            ({} : DomainList).Conflicts := fails_iff_of_hides hbody
    rw [fails_iff_of_hides hbody, hsame, or_iff_left hnone, or_assoc]

/-- An exception for pages fails if its options cannot be followed, or if the native list has an
entry for it whose trigger cannot be made. -/
theorem fails_iff_of_exception {pattern : String} {o : Options}
    (hbody : r.body = .network true pattern o) (hscopes : o.scopes.isEmpty = false) :
    r.fails config = true ↔ o.scopes.ensureExpressible ≠ .ok () ∨ o.unsupported ≠ [] ∨
      (o.scopes.pageGroup? ≠ none ∧ ¬∃ t, Trigger.ofPage pattern o r.domains = .ok t) := by
  have hadvanced : r.isAdvanced = false := by rw [isAdvanced, hbody]; rfl
  have hcompile : r.compile = exceptionEntries r.line pattern o r.domains := by rw [compile, hbody]
  rw [fails, hadvanced, hcompile, ne_eq, ne_eq, ← Options.ensureSupported_iff]
  unfold exceptionEntries
  cases o.scopes.ensureExpressible with
  | error e => simp [bind, Except.bind]
  | ok _ =>
    cases o.ensureSupported with
    | error e => simp [bind, Except.bind]
    | ok _ =>
      cases o.scopes.pageGroup? with
      | none => simp [hscopes, bind, Except.bind, pure, Except.pure]
      | some group =>
        cases Trigger.ofPage pattern o r.domains with
        | error e => simp [bind, Except.bind]
        | ok t =>
          simp [bind, Except.bind, pure, Except.pure, CompiledEntry.ofLine, CompiledEntry.isCarried,
            Entry.unsupportedReason?]

end Rule

end ContentRules
