import ContentRules.Proofs.Conversion.FailedLines
import ContentRules.Proofs.Filter.Narrowing

/-!
What an exception of cosmetic rules does to the lines before it when it is added to a list. The
rules that it does not name stay as they are. Of those that it names some are left out, and the
others keep their bodies and lose sites. So a line fails that did not fail before if and only if the
exception leaves permitted sites of its rule, but only such as the rule also spares. Main statement:
`convert_append_exception`.
-/

namespace ContentRules

/-! ## Sites that conflict once more are taken -/

namespace DomainList

/-- Some permitted sites are left without the excluded ones, and all of these are spared. -/
structure StrandedBy (l : DomainList) (excluded : List String) : Prop where
  notEverywhere : excluded ≠ []
  left : ∃ s ∈ l.permitted, s ∉ excluded
  spared : ∀ s ∈ l.permitted, s ∉ excluded → s ∈ l.restricted

variable {l m m' : DomainList} {excluded excluded' : List (List String)} {x : List String}

theorem Narrowed.conflicts_iff_strandedBy (h : l.Narrowed [x] m) :
    m.Conflicts ↔ l.StrandedBy x := by
  rw [h.conflicts_iff]
  simp only [List.forall_mem_singleton]
  exact ⟨fun ⟨hleft, hspared⟩ => ⟨h.notEverywhere x (.head _), hleft, hspared⟩,
    fun h => ⟨h.left, h.spared⟩⟩

/-- Narrowed sites are left if more narrowing leaves some. -/
theorem exists_foldlM_of_subset (h : ∀ y ∈ excluded, y ∈ excluded')
    (hleft : ∃ m, excluded'.foldlM without l = some m) :
    ∃ m, excluded.foldlM without l = some m := by
  rw [exists_foldlM_iff] at hleft ⊢
  obtain ⟨hne, hleft⟩ := hleft
  exact ⟨fun y hy => hne y (h y hy),
    hleft.imp_right fun ⟨s, hs, hnot⟩ => ⟨s, hs, fun y hy => hnot y (h y hy)⟩⟩

/-- Sites conflict after one more list is taken if and only if this one strands them. -/
theorem exists_foldlM_conflicts_iff (h : ∀ y, y ∈ excluded' ↔ y ∈ excluded ++ [x]) :
    (∃ m, excluded'.foldlM without l = some m ∧ m.Conflicts) ↔
      ∃ m, excluded.foldlM without l = some m ∧ m.StrandedBy x := by
  constructor
  · rintro ⟨m', hm', hconflicts⟩
    obtain ⟨m, hm⟩ := exists_foldlM_of_subset (fun y hy => (h y).2 (List.mem_append_left _ hy))
      ⟨m', hm'⟩
    have hlast : m.Narrowed [x] m' :=
      (narrowed_foldlM hm).append_iff.1 ((narrowed_foldlM hm').congr h)
    exact ⟨m, hm, hlast.conflicts_iff_strandedBy.1 hconflicts⟩
  · rintro ⟨m, hm, hstranded⟩
    have hnarrowed := narrowed_foldlM hm
    obtain ⟨m'', hm''⟩ : ∃ m'', [x].foldlM without m = some m'' :=
      exists_foldlM_iff.2
        ⟨by simpa using hstranded.notEverywhere, .inr (by simpa using hstranded.left)⟩
    obtain ⟨m', hm'⟩ := exists_foldlM
      ((hnarrowed.append_iff.2 (narrowed_foldlM hm'')).congr fun y => (h y).symm)
    have hlast : m.Narrowed [x] m' := hnarrowed.append_iff.1 ((narrowed_foldlM hm').congr h)
    exact ⟨m', hm', hlast.conflicts_iff_strandedBy.2 hstranded⟩

end DomainList

open DomainList

/-! ## A list with one more exception -/

theorem FilterList.read_append {lines : List String} {line : String} {e : Rule}
    (h : Rule.read lines.length line = .ok (some e)) :
    (read (lines ++ [line])).rules = (read lines).rules ++ [e] ∧
      (read (lines ++ [line])).failures = (read lines).failures := by
  have hline : readLine lines.length line = some (.ok e) := by rw [readLine, h]
  have hresults : results (lines ++ [line]) = results lines ++ [.ok e] := by
    simp [results, List.zipIdx_append, hline]
  simp [read_eq, hresults, ofResults]

section
variable {e : Rule} (he : e.isCosmeticException = true)
include he

theorem Cancellation.rules_append (rules : List Rule) :
    (ofRules (rules ++ [e])).rules = (ofRules rules).rules ++ [e] := by
  unfold Rule.isCosmeticException at he
  have hbad : e.isBadfilter = false := by
    unfold Rule.isBadfilter
    cases hbody : e.body with
    | network => rw [hbody] at he; cases he
    | _ => rfl
  have hkey : RuleKey.ofRule? e = none := by
    unfold RuleKey.ofRule?
    cases hbody : e.body with
    | network => rw [hbody] at he; cases he
    | _ => rfl
  simp [ofRules, hbad, Rule.hasKeyIn, hkey]

end

section
variable {e r : Rule} (hrule : r.isCosmeticException = false) (hnamed : r.body.IsNamed)
  (rules : List Rule)
include hrule hnamed

theorem Rule.mem_excluded_append (htargets : e.body.Targets r.body) (x : List String) :
    x ∈ r.excluded (rules ++ [e]) ↔ x ∈ r.excluded rules ++ [e.domains.permitted] := by
  rw [List.mem_append, List.mem_singleton, mem_excluded hrule hnamed, mem_excluded hrule hnamed]
  simp [or_and_right, exists_or, htargets, eq_comm]

/-- An exception changes nothing for a rule that it does not name. -/
theorem Rule.excluded_append (htargets : ¬e.body.Targets r.body) :
    r.excluded (rules ++ [e]) = r.excluded rules := by
  have hnone (x : List String) : x ∉ r.excluded [e] := by
    rw [mem_excluded hrule hnamed]
    rintro ⟨_, he, htargets', -⟩
    cases List.mem_singleton.1 he
    exact htargets htargets'
  have hnone : r.excluded [e] = [] := List.eq_nil_iff_forall_not_mem.2 hnone
  unfold excluded exceptionsFor at hnone ⊢
  cases htarget : r.body.target? with
  | none => rfl
  | some target =>
    rw [htarget] at hnone
    simp only [List.map_eq_nil_iff, List.append_eq_nil_iff] at hnone
    obtain ⟨hnamed, hall⟩ := hnone
    cases target <;> simp_all [Index.find_ofList]

end

namespace Conversion

variable {config : Config} {r : Rule}

/-- A cosmetic rule or a scriptlet still is one where it is placed. -/
theorem placed_target (config : Config) (htarget : r.body.target?.isSome = true) :
    (placed config r).isCosmeticException = r.isCosmeticException ∧
      (placed config r).body.target?.isSome = true := by
  unfold placed Rule.promoted
  split
  · cases hbody : r.body with
    | network => rw [hbody] at htarget; cases htarget
    | _ => simp [Rule.isCosmeticException, RuleBody.isCosmeticException, RuleBody.target?, hbody]
  · exact ⟨rfl, htarget⟩

/-- With some of its sites a rule fails if it does without sites, or if these conflict. -/
theorem fails_placed_iff (hr : r.isCosmeticException = false)
    (htarget : r.body.target?.isSome = true) (domains : DomainList) :
    (placed config { r with domains }).fails config = true ↔
      (placed config { r with domains := {} }).fails config = true ∨ domains.Conflicts := by
  obtain ⟨hexception, htarget⟩ := placed_target config htarget
  rw [placed_congr config (s := { r with domains }) (r := r) rfl,
    placed_congr config (s := { r with domains := {} }) (r := r) rfl]
  exact Rule.fails_iff_conflicts (r := { r with domains, body := (placed config r).body })
    (hexception.trans hr) htarget

/-- A line fails if it cannot be read, or if its rule fails with the sites that exceptions leave. -/
theorem hasFailed_iff_nativeRules {lines : List String} {n : Nat} :
    (ofLines config lines).hasFailed n = true ↔
      n ∈ (FilterList.read lines).failures.map (·.line) ∨
        ∃ r ∈ nativeRules lines, (placed config r).fails config = true ∧ r.line = n := by
  rw [hasFailed_iff, mem_failures_ofLines, rules_prepare]
  simp only [List.mem_map, exists_exists_and_eq_and, line_placed]
  rfl

end Conversion

theorem RuleBody.Targets.isSome_target? {e body : RuleBody} (h : e.Targets body) :
    body.target?.isSome = true := by
  cases h <;> rfl

open Conversion

theorem isNamed_of_mem_remaining {lines : List String} {r : Rule} (hr : r ∈ remaining lines) :
    r.body.IsNamed := by
  obtain ⟨line, number, -, hread⟩ := FilterList.mem_rules.1 (mem_of_mem_cancellation hr)
  exact Rule.isNamed_of_read hread

theorem mem_nativeRules {lines : List String} {s : Rule} :
    s ∈ nativeRules lines ↔ ∃ r ∈ remaining lines, r.isCosmeticException = false ∧
      ∃ m, (r.excluded (remaining lines)).foldlM without r.domains = some m ∧
        s = { r with domains := m } :=
  mem_applyCosmeticExceptions_iff

theorem mem_nativeRules_append {lines : List String} {line : String} {e s : Rule}
    (hline : Rule.read lines.length line = .ok (some e)) (he : e.isCosmeticException = true) :
    s ∈ nativeRules (lines ++ [line]) ↔ ∃ r ∈ remaining lines, r.isCosmeticException = false ∧
      ∃ m, (r.excluded (remaining lines ++ [e])).foldlM without r.domains = some m ∧
        s = { r with domains := m } := by
  rw [nativeRules, (FilterList.read_append hline).1, Cancellation.rules_append he,
    mem_applyCosmeticExceptions_iff]
  simp only [List.mem_append, List.mem_singleton, or_and_right, exists_or, exists_eq_left, he,
    Bool.true_eq_false, false_and, or_false]
  rfl

/-- Once an exception is added to a list, a line fails that did not before if and only if the
exception names its rule and leaves permitted sites of it, all of which the rule spares. -/
theorem convert_append_exception {config : Config} {lines : List String} {line : String} {e : Rule}
    (hline : Rule.read lines.length line = .ok (some e)) (he : e.isCosmeticException = true)
    {c : Conversion} (h : convert config lines = .ok c) :
    ∃ c', convert config (lines ++ [line]) = .ok c' ∧
      ∀ n < lines.length, c.hasFailed n = false →
        (c'.hasFailed n = true ↔ ∃ r ∈ nativeRules lines, r.line = n ∧ e.body.Targets r.body ∧
          r.domains.StrandedBy e.domains.permitted) := by
  obtain ⟨_, hcheck, h⟩ := bind_eq_ok.1 h
  cases h
  refine ⟨ofLines config (lines ++ [line]), bind_eq_ok.2 ⟨_, hcheck, rfl⟩, fun n _ hbefore => ?_⟩
  have hnone : ¬(ofLines config lines).hasFailed n = true := by simp [hbefore]
  rw [hasFailed_iff_nativeRules] at hnone ⊢
  rw [(FilterList.read_append hline).2]
  constructor
  · rintro (hfailure | ⟨s, hs, hfails, rfl⟩)
    · exact absurd (.inl hfailure) hnone
    obtain ⟨r, hr, hrule, m', hm', rfl⟩ := (mem_nativeRules_append hline he).1 hs
    have hnamed := isNamed_of_mem_remaining hr
    by_cases htargets : e.body.Targets r.body
    · have hmem := Rule.mem_excluded_append hrule hnamed (remaining lines) htargets
      rcases (fails_placed_iff hrule htargets.isSome_target? m').1 hfails with hbody | hconflicts
      · -- the rule fails by its body, so it did before
        obtain ⟨m, hm⟩ :=
          exists_foldlM_of_subset (fun x hx => (hmem x).2 (List.mem_append_left _ hx))
          ⟨m', hm'⟩
        exact absurd (.inr ⟨_, mem_nativeRules.2 ⟨r, hr, hrule, m, hm, rfl⟩,
          (fails_placed_iff hrule htargets.isSome_target? m).2 (.inl hbody), rfl⟩) hnone
      · obtain ⟨m, hm, hstranded⟩ := (exists_foldlM_conflicts_iff hmem).1 ⟨m', hm', hconflicts⟩
        exact ⟨_, mem_nativeRules.2 ⟨r, hr, hrule, m, hm, rfl⟩, rfl, htargets, hstranded⟩
    · rw [Rule.excluded_append hrule hnamed _ htargets] at hm'
      exact absurd (.inr ⟨_, mem_nativeRules.2 ⟨r, hr, hrule, m', hm', rfl⟩, hfails, rfl⟩) hnone
  · rintro ⟨s, hs, rfl, htargets, hstranded⟩
    obtain ⟨r, hr, hrule, m, hm, rfl⟩ := mem_nativeRules.1 hs
    have hmem := Rule.mem_excluded_append hrule (isNamed_of_mem_remaining hr)
      (remaining lines) htargets
    obtain ⟨m', hm', hconflicts⟩ := (exists_foldlM_conflicts_iff hmem).2 ⟨m, hm, hstranded⟩
    exact .inr ⟨_, (mem_nativeRules_append hline he).2 ⟨r, hr, hrule, m', hm', rfl⟩,
      (fails_placed_iff hrule htargets.isSome_target? m').2 (.inr hconflicts), rfl⟩

/-- Of two permitted sites one is spared; once an exception takes the other, the rule fails. -/
theorem convert_append_exception_spared :
    let lines := ["a.com,b.com,~a.com##.ad"]
    ∃ c c', convert {} lines = .ok c ∧ convert {} (lines ++ ["b.com#@#.ad"]) = .ok c' ∧
      c.hasFailed 0 = false ∧ c'.hasFailed 0 = true := by
  intro lines
  let rule : Rule :=
    ⟨0, "a.com,b.com,~a.com##.ad", ⟨["a.com", "b.com"], ["a.com"]⟩,
      .cosmetic false .elementHiding ".ad"⟩
  let exception : Rule := ⟨1, "b.com#@#.ad", ⟨["b.com"], []⟩, .cosmetic true .elementHiding ".ad"⟩
  have hrules : (FilterList.read lines).rules = [rule] := by decide +kernel
  have hfailures : (FilterList.read lines).failures = [] := by decide +kernel
  have hline : Rule.read lines.length exception.text = .ok (some exception) := by decide +kernel
  have hnative : nativeRules lines = [rule] := by
    rw [nativeRules_of_none, hrules]
    rw [hrules]
    simp [rule, Rule.isBadfilter, Rule.isCosmeticException, RuleBody.isCosmeticException]
  have hfails : (placed {} rule).fails {} = false := by decide +kernel
  have hbefore : (ofLines {} lines).hasFailed 0 = false := by
    rw [Bool.eq_false_iff, ne_eq, hasFailed_iff_nativeRules, hfailures, hnative]
    simp [hfails]
  obtain ⟨c', hc', hfailed⟩ := @convert_append_exception {} lines _ exception hline rfl _ rfl
  refine ⟨_, c', rfl, hc', hbefore, (hfailed 0 (by decide) hbefore).2 ?_⟩
  rw [hnative]
  exact ⟨rule, .head _, rfl, .cosmetic, by decide, ⟨"a.com", .head _, by decide⟩, by decide⟩

end ContentRules
