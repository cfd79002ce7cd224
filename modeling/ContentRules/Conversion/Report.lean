import ContentRules.Filter.ParseError
import ContentRules.Native.CompileError
import ContentRules.Native.VersionFit
import Std.Data.HashSet

/-!
What a conversion reports: the rules that failed, each line once, and notes for the log.
-/

namespace ContentRules

/-- Why a rule could not be converted. -/
inductive RuleError where
  | parse (error : ParseError)
  | compile (error : CompileError)
  /-- The version is given by its text. -/
  | unsupported (version : String) (reason : UnsupportedReason)
  deriving DecidableEq

/-- The reason in words. -/
def RuleError.message : RuleError → String
  | parse error => error.message
  | compile error => error.message
  | unsupported version reason =>
    "not supported by Safari " ++ version ++ ": " ++ reason.message

/-- A rule that failed. -/
structure RuleFailure where
  line : Nat
  text : String
  error : RuleError
  deriving DecidableEq

/-- How much a note matters. -/
inductive NoteLevel where
  | debug | info | warn
  deriving DecidableEq, Repr

/-- A line of the log. -/
structure Note where
  level : NoteLevel
  message : String
  deriving DecidableEq, Repr

namespace Note

def debug (message : String) : Note := ⟨.debug, message⟩
def info (message : String) : Note := ⟨.info, message⟩
def warn (message : String) : Note := ⟨.warn, message⟩

/-- The note on a rule that failed; people count lines from one. -/
def ofFailure (f : RuleFailure) : Note :=
  debug ("line " ++ toString (f.line + 1) ++ ": " ++ f.error.message ++ ": " ++ f.text)

end Note

/-- Something that a conversion reports. -/
inductive Event where
  | noted (note : Note)
  | failed (failure : RuleFailure)
  deriving DecidableEq

/-- What a conversion has reported so far. -/
structure FailureLog where
  /-- The lines that have failed. -/
  failed : Std.HashSet Nat := ∅
  failures : Array RuleFailure := #[]
  notes : Array Note := #[]

namespace FailureLog

/-- The log with a failure and its note, unless the line has failed before. -/
def record (log : FailureLog) (f : RuleFailure) : FailureLog :=
  if f.line ∈ log.failed then log
  else
    { failed := log.failed.insert f.line
      failures := log.failures.push f
      notes := log.notes.push (.ofFailure f) }

/-- The log after an event. -/
def take (log : FailureLog) : Event → FailureLog
  | .noted note => { log with notes := log.notes.push note }
  | .failed failure => log.record failure

/-- The log of events in their order. -/
def ofEvents (events : List Event) : FailureLog := events.foldl take {}

end FailureLog

end ContentRules
