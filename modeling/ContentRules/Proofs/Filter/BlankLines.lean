import ContentRules.Proofs.Filter.LineOrder
import ContentRules.Proofs.Ordered.Counting

/-!
Leaving lines of a filter list blank. The other lines keep their numbers, so what is read from them
stays the same; and if the rules of the blank lines neither cancel others nor except from them, the
rules that remain of the list are the same ones without those of the blank lines.
-/

namespace ContentRules

/-- The lines with those of some numbers left blank. -/
def blankAt (blank : Nat → Bool) (lines : List String) : List String :=
  lines.zipIdx.map fun (line, number) => if blank number then "" else line

theorem zipIdx_blankAt (blank : Nat → Bool) (lines : List String) :
    (blankAt blank lines).zipIdx =
      lines.zipIdx.map fun (line, number) => (if blank number then "" else line, number) := by
  have h (n : Nat) : (((lines.zipIdx n).map fun (line, number) =>
        if blank number then "" else line).zipIdx n) =
      (lines.zipIdx n).map fun (line, number) => (if blank number then "" else line, number) := by
    induction lines generalizing n with
    | nil => rfl
    | cons line lines ih => simp [List.zipIdx_cons, ih]
  exact h 0

namespace FilterList

/-- What the lines of a list come to. -/
def results (lines : List String) : List (Except ParseFailure Rule) :=
  lines.zipIdx.filterMap fun (line, number) => readLine number line

/-- The number of the line that a rule or a failure comes from. -/
def lineOf : Except ParseFailure Rule → Nat
  | .ok rule => rule.line
  | .error failure => failure.line

theorem lineOf_readLine {number : Nat} {line : String} {result : Except ParseFailure Rule}
    (h : readLine number line = some result) : lineOf result = number := by
  unfold readLine at h
  split at h
  · cases h
  · rename_i r hread
    cases h
    obtain ⟨s, -, rfl⟩ := Rule.read_eq_some_iff.1 hread
    rfl
  · cases h
    rfl

theorem readLine_blank (number : Nat) : readLine number "" = none := rfl

/-- Blank lines come to nothing, and the others to what they came to before. -/
theorem results_blankAt (blank : Nat → Bool) (lines : List String) :
    results (blankAt blank lines) = (results lines).filter fun x => !blank (lineOf x) := by
  rw [results, zipIdx_blankAt, List.filterMap_map, results, List.filter_filterMap]
  refine List.filterMap_congr fun ⟨line, number⟩ _ => ?_
  dsimp only [Function.comp_apply]
  cases hblank : blank number with
  | true =>
    rw [if_pos rfl, readLine_blank]
    cases hread : readLine number line with
    | none => rfl
    | some result => simp [Option.filter_some, lineOf_readLine hread, hblank]
  | false =>
    rw [if_neg Bool.false_ne_true]
    cases hread : readLine number line with
    | none => rfl
    | some result => simp [Option.filter_some, lineOf_readLine hread, hblank]

/-- No two rules or failures come from one line. -/
theorem nodup_lineOf_results (lines : List String) : ((results lines).map lineOf).Nodup := by
  have hnodup : (lines.zipIdx.map (·.2)).Nodup := by
    rw [List.zipIdx_map_snd]
    exact List.nodup_range' _
  exact hnodup.sublist (map_filterMap_sublist (fun _ _ => lineOf_readLine) _)

theorem read_eq (lines : List String) : read lines = ofResults (results lines) := rfl

theorem rules_ofResults_filter (p : Nat → Bool) (l : List (Except ParseFailure Rule)) :
    (ofResults (l.filter fun x => p (lineOf x))).rules = (ofResults l).rules.filter (p ·.line) := by
  simp only [ofResults, List.filterMap_filter, List.filter_filterMap]
  refine List.filterMap_congr fun x _ => ?_
  cases x with
  | ok r => cases h : p r.line <;> simp [Option.filter_some, lineOf, h]
  | error f => cases h : p f.line <;> simp [lineOf, h]

theorem failures_ofResults_filter (p : Nat → Bool) (l : List (Except ParseFailure Rule)) :
    (ofResults (l.filter fun x => p (lineOf x))).failures =
      (ofResults l).failures.filter (p ·.line) := by
  simp only [ofResults, List.filterMap_filter, List.filter_filterMap]
  refine List.filterMap_congr fun x _ => ?_
  cases x with
  | ok r => cases h : p r.line <;> simp [lineOf, h]
  | error f => cases h : p f.line <;> simp [Option.filter_some, lineOf, h]

end FilterList

/-! ## Rules of blank lines -/

section
variable {rules : List Rule} {keep : Rule → Bool}

/-- Leaving out rules that cancel none commutes with cancelling. -/
theorem Cancellation.rules_filter (h : ∀ r ∈ rules, r.isBadfilter = true → keep r = true) :
    (ofRules (rules.filter keep)).rules = (ofRules rules).rules.filter keep := by
  have hcancelling :
      (rules.filter keep).filter Rule.isBadfilter = rules.filter Rule.isBadfilter := by
    rw [List.filter_filter]
    refine List.filter_congr fun r hr => ?_
    cases hbad : r.isBadfilter with
    | false => rfl
    | true => rw [h r hr hbad, Bool.and_self]
  simp only [ofRules, hcancelling]
  simp only [List.filter_filter]
  refine List.filter_congr fun r _ => ?_
  rw [Bool.and_comm (keep r), Bool.and_assoc]

variable (h : ∀ r ∈ rules, r.isCosmeticException = true → keep r = true)
include h

theorem exceptions_filter : (applyCosmeticExceptions (rules.filter keep)).2 =
    (applyCosmeticExceptions rules).2 := by
  dsimp only [applyCosmeticExceptions]
  rw [List.filter_filter]
  refine List.filter_congr fun r hr => ?_
  cases hexception : r.isCosmeticException with
  | false => rfl
  | true => rw [h r hr hexception, Bool.and_self]

/-- Leaving out rules that are no exceptions commutes with applying these. -/
theorem applyCosmeticExceptions_filter (hkeep : ∀ r domains, keep { r with domains } = keep r) :
    (applyCosmeticExceptions (rules.filter keep)).1 =
      (applyCosmeticExceptions rules).1.filter keep := by
  have hexceptions := exceptions_filter h
  have hnarrow (r : Rule) (exceptions : List Rule) :
      (r.narrow? exceptions).filter keep = if keep r then r.narrow? exceptions else none := by
    unfold Rule.narrow?
    dsimp only
    generalize (exceptions.map fun e => e.domains.permitted).foldlM DomainList.without r.domains = l
    cases l with
    | none => simp
    | some domains => simp [Option.filter_some, hkeep]
  dsimp only [applyCosmeticExceptions] at hexceptions ⊢
  rw [hexceptions, List.filter_filter, List.filterMap_filter, List.filterMap_filter,
    List.filter_filterMap]
  refine List.filterMap_congr fun r _ => ?_
  cases hexception : r.isCosmeticException with
  | true => simp
  | false => simpa using (hnarrow r _).symm

end

end ContentRules
