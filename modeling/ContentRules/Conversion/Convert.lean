import ContentRules.Conversion.Config
import ContentRules.Conversion.Notes
import ContentRules.Filter.CosmeticException
import ContentRules.Filter.LineReader
import ContentRules.Ordered.Search

/-!
Converting filter lists into rule lists. Lines are read, rules that others cancel are left out,
exceptions of cosmetic rules narrow what they name, and each remaining rule is compiled; the entries
are put in order, made fewer if this is wanted, fitted to the version and cut to the limits. What
Safari cannot do itself goes into the advanced payload, if this is wanted. A rule that fails costs
nothing but itself.
-/

namespace ContentRules

/-- The advanced payload as it is written. -/
structure WrittenPayload where
  format : PayloadFormat
  entries : List Entry
  text : String

/-- The outcome of a conversion. -/
structure Conversion where
  /-- The number of lines that are neither blank nor comments. -/
  total : Nat
  /-- The rule list. -/
  list : LimitedList
  /-- The number of entries before the list was cut. -/
  entriesBeforeCut : Nat
  advanced : Option WrittenPayload
  /-- The number of lines that failed. -/
  errorsCount : Nat
  failures : List RuleFailure
  log : List Note

namespace Conversion

/-- The number of rules that did not fail. -/
def convertedCount (c : Conversion) : Nat := c.total - c.errorsCount

/-- The number of entries of the rule list. -/
def entriesCount (c : Conversion) : Nat := c.list.entries.length

/-- The number of entries of the advanced payload. -/
def advancedCount (c : Conversion) : Nat := (c.advanced.map (·.entries.length)).getD 0

/-- The rules of a list as a conversion compiles them, with the exceptions of cosmetic rules and
what happened on the way. -/
structure Prepared where
  rules : List Rule
  exceptions : List Rule
  events : List Event

/-- The rules that remain of a list. -/
def prepare (config : Config) (rules : List Rule) : Prepared :=
  let cancellation := Cancellation.ofRules rules
  let (rules, exceptions) := applyCosmeticExceptions cancellation.rules
  let (rules, promoted) :=
    if config.advanced.isSome then promoteHasSelectors config.version rules else (rules, 0)
  { rules, exceptions
    events := (cancellation.notes ++ promotionNotes config.version promoted).map .noted }

/-- What a rule comes to: its native entries and its events. -/
def compileRule (config : Config) (r : Rule) : List CompiledEntry × List Event :=
  if r.isAdvanced then
    if config.advanced.isSome then ([], [])
    else ([], [.failed ⟨r.line, r.text, .compile .advancedBlockingDisabled⟩])
  else
    match r.compile with
    | .ok entries => (entries, r.notes.map .noted)
    | .error error => ([], r.notes.map .noted ++ [.failed ⟨r.line, r.text, .compile error⟩])

/-- The entries of rules, in order and made fewer if this is wanted. -/
def compileRules (config : Config) (rules : List Rule) : List CompiledEntry × List Event :=
  let compiled := rules.map (compileRule config)
  let entries := CompiledEntry.sortByGroup (compiled.flatMap (·.1))
  let events := compiled.flatMap (·.2)
  if config.optimize then
    let optimized := Optimized.ofEntries entries
    (optimized.entries, events ++ [.noted optimized.note])
  else (entries, events)

/-- The failures of the rules of the given lines. Rules stand in the order of their lines, so a line
is searched for by halving; one that is not found has no text. -/
def failuresOf (rules : List Rule) (errors : List (Nat × RuleError)) : List Event :=
  let rules := rules.toArray
  errors.map fun (line, error) =>
    .failed ⟨line, ((search? Rule.line rules line).map (·.text)).getD "", error⟩

/-- The advanced payload of rules, with its events. -/
def advancedPart (config : Config) (prepared : Prepared) : Option WrittenPayload × List Event :=
  match config.advanced with
  | none => (none, [])
  | some format =>
    let payload := AdvancedPayload.ofRules prepared.rules
    let text := payload.render prepared.rules prepared.exceptions format
    (some { format, text, entries := payload.entries },
      failuresOf prepared.rules (payload.failures.map fun (line, error) => (line, .compile error)))

/-- The last note of a conversion. -/
def summary (c : Conversion) : Note :=
  .info ("converted " ++ toString c.convertedCount ++ " of " ++ toString c.total ++
    " rules into " ++ toString c.entriesCount ++ " entries")

/-- The outcome for a list of rules. A list without rules leaves the log empty. -/
def ofList (config : Config) (list : FilterList) : Conversion :=
  let parseEvents := list.failures.map fun f => Event.failed ⟨f.line, f.text, .parse f.error⟩
  let prepared := prepare config list.rules
  let (entries, compileEvents) := compileRules config prepared.rules
  let fit := VersionFit.ofEntries config.version entries
  let versionText := config.version.text
  let fitEvents := (fit.notes config.version).map Event.noted ++
    failuresOf prepared.rules
      (fit.errored.map fun (line, reason) => (line, .unsupported versionText reason))
  let limited := LimitedList.ofEntries config.maxBytes config.version.rulesLimit
    (fit.entries.map (·.entry))
  let limitEvents := (limited.notes fit.entries.length).map Event.noted
  let (advanced, advancedEvents) := advancedPart config prepared
  let log := FailureLog.ofEvents
    (parseEvents ++ prepared.events ++ compileEvents ++ fitEvents ++ limitEvents ++ advancedEvents)
  let outcome : Conversion :=
    { total := list.total, list := limited, entriesBeforeCut := fit.entries.length, advanced
      errorsCount := log.failed.size, failures := log.failures.toList, log := [] }
  if list.total = 0 then outcome
  else { outcome with log := log.notes.toList ++ [outcome.summary] }

/-- The outcome for the lines of a filter list. -/
def ofLines (config : Config) (lines : List String) : Conversion :=
  ofList config (FilterList.read lines)

end Conversion

/-- The rule list for lines of filters. Only a setting that cannot be followed is an error. -/
def convert (config : Config) (lines : List String) : Except ConfigError Conversion := do
  config.check
  return .ofLines config lines

end ContentRules
