import ContentRules.Conversion.Report
import Mathlib.Data.List.Induction

/-!
What the log of a conversion holds. The lines that have failed and the failures are kept apart; each
event keeps them in step, so there are as many of the one as of the other, and each line fails once.
Main statements: `FailureLog.isCounted_ofEvents` and `FailureLog.mem_lines_ofEvents`.
-/

namespace ContentRules

/-- The rule that failed. -/
def Event.failure? : Event → Option RuleFailure
  | noted _ => none
  | failed failure => some failure

namespace FailureLog

/-- The lines of the failures. -/
def lines (log : FailureLog) : List Nat := log.failures.toList.map (·.line)

/-- The lines that have failed are those of the failures, and none of them is there twice. -/
structure IsCounted (log : FailureLog) : Prop where
  mem_failed_iff (n : Nat) : n ∈ log.failed ↔ n ∈ log.lines
  nodup : log.lines.Nodup
  size_eq : log.failed.size = log.failures.size

theorem isCounted_empty : IsCounted {} where
  mem_failed_iff n := by simp [lines]
  nodup := List.nodup_nil
  size_eq := Std.HashSet.size_empty

theorem lines_push (log : FailureLog) (f : RuleFailure) (notes : Array Note) :
    lines { failed := log.failed.insert f.line, failures := log.failures.push f, notes } =
      log.lines ++ [f.line] := by
  simp [lines]

section
variable {log : FailureLog}

/-- A failure counts if its line has not failed before. -/
theorem IsCounted.record (h : log.IsCounted) (f : RuleFailure) : (log.record f).IsCounted := by
  unfold FailureLog.record
  split
  · exact h
  next hnew =>
    refine ⟨fun n => ?_, ?_, ?_⟩
    · rw [lines_push, List.mem_append, ← h.mem_failed_iff, Std.HashSet.mem_insert, beq_iff_eq,
        List.mem_singleton, or_comm, eq_comm]
    · rw [lines_push, List.nodup_append]
      refine ⟨h.nodup, List.nodup_cons.2 ⟨List.not_mem_nil, .nil⟩, fun n hn m hm => ?_⟩
      rintro rfl
      rw [List.mem_singleton.1 hm, ← h.mem_failed_iff] at hn
      exact hnew hn
    · rw [Std.HashSet.size_insert, if_neg hnew, Array.size_push, h.size_eq]

theorem IsCounted.take (h : log.IsCounted) (e : Event) : (log.take e).IsCounted := by
  cases e with
  | noted note => exact ⟨h.mem_failed_iff, h.nodup, h.size_eq⟩
  | failed f => exact h.record f

end

variable (events : List Event)

theorem isCounted_ofEvents : (ofEvents events).IsCounted :=
  List.foldlRecOn events _ isCounted_empty fun _ h e _ => h.take e

theorem ofEvents_concat (e : Event) : ofEvents (events ++ [e]) = (ofEvents events).take e := by
  simp [ofEvents]

/-- A failure that is reported was one of the events. -/
theorem mem_of_mem_failures {events : List Event} {f : RuleFailure}
    (hf : f ∈ (ofEvents events).failures) : Event.failed f ∈ events := by
  induction events using List.reverseRecOn with
  | nil => simp [ofEvents] at hf
  | append_singleton events e ih =>
    rw [List.mem_append]
    rw [ofEvents_concat] at hf
    cases e with
    | noted note => exact .inl (ih hf)
    | failed f' =>
      rw [take, record] at hf
      split at hf
      · exact .inl (ih hf)
      · obtain hf | rfl := Array.mem_push.1 hf
        · exact .inl (ih hf)
        · exact .inr (.head _)

/-- The lines that are reported are those of the failures among the events. -/
theorem mem_lines_ofEvents {n : Nat} : n ∈ (ofEvents events).lines ↔
    n ∈ events.filterMap fun e => e.failure?.map (·.line) := by
  induction events using List.reverseRecOn with
  | nil => simp [ofEvents, lines]
  | append_singleton events e ih =>
    rw [ofEvents_concat, List.filterMap_append, List.mem_append, ← ih]
    cases e with
    | noted note => simp [take, lines, Event.failure?]
    | failed f =>
      have hlast : [Event.failed f].filterMap (fun e => e.failure?.map (·.line)) = [f.line] := rfl
      rw [hlast, take, record, List.mem_singleton]
      split
      case isTrue hold =>
        rw [(isCounted_ofEvents events).mem_failed_iff] at hold
        exact ⟨.inl, fun h => h.elim id fun h => h ▸ hold⟩
      case isFalse => rw [lines_push, List.mem_append, List.mem_singleton]

/-- Notes make no difference to the failures. -/
theorem failures_ofEvents_filter :
    (ofEvents events).failures =
      (ofEvents (events.filter (·.failure?.isSome))).failures := by
  have hfold : ∀ log log' : FailureLog, log.failed = log'.failed → log.failures = log'.failures →
      (events.foldl take log).failures =
        ((events.filter (·.failure?.isSome)).foldl take log').failures := by
    induction events with
    | nil => exact fun _ _ _ hfailures => hfailures
    | cons e events ih =>
      intro log log' hfailed hfailures
      cases e with
      | noted note => exact ih _ _ hfailed hfailures
      | failed f =>
        have hkeep : (Event.failed f :: events).filter (·.failure?.isSome) =
            .failed f :: events.filter (·.failure?.isSome) := rfl
        rw [hkeep, List.foldl_cons, List.foldl_cons]
        by_cases hold : f.line ∈ log'.failed
        · simp only [take, record, hfailed, if_pos hold]
          exact ih _ _ hfailed hfailures
        · simp only [take, record, hfailed, hfailures, if_neg hold]
          exact ih _ _ rfl rfl
  exact hfold _ _ rfl rfl

end FailureLog

end ContentRules
