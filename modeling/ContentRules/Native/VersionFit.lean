import ContentRules.Filter.HasSelector
import ContentRules.Native.CompiledEntry
import Std.Data.HashSet

/-!
Fitting entries to a version of Safari. Entries whose selector the version cannot apply are left
out, and their rules count as unsupported; resource types that the version has no word for become
`raw`.
-/

namespace ContentRules

/-- What keeps a version of Safari from carrying an entry. -/
inductive UnsupportedReason where
  | hasSelector
  deriving DecidableEq, Repr

/-- The reason in words. -/
def UnsupportedReason.message : UnsupportedReason → String
  | hasSelector => ":has() selectors require Safari 16.4"

namespace Entry

/-- Why the version cannot carry the entry. -/
def unsupportedReason? (e : Entry) (version : Version) : Option UnsupportedReason :=
  match e.action with
  | .cssDisplayNone (some selector) =>
    if !version.knowsHas && usesHas selector then some .hasSelector else none
  | _ => none

end Entry

namespace ResourceTypes

/-- The words that `raw` replaces for the version. -/
def foldedInto (version : Version) : ResourceTypes :=
  (if version.knowsFineTypes then ∅ else .ofList [.fetch, .websocket, .other]) ∪
    (if version.knowsPing then ∅ else .single .ping)

/-- The types in the words of the version; `none` if it knows them all. -/
def downgraded? (types : ResourceTypes) (version : Version) : Option ResourceTypes :=
  let folded := types ∩ foldedInto version
  if folded.isEmpty then none else some ((types \ folded) ∪ .single .raw)

end ResourceTypes

namespace CompiledEntry

/-- The entry in the words of the version; `none` if nothing has to change. -/
def downgraded? (c : CompiledEntry) (version : Version) : Option CompiledEntry := do
  let types ← c.entry.trigger.resourceTypes
  let types ← types.downgraded? version
  let trigger := { c.entry.trigger with resourceTypes := some types }
  return { c with entry := { c.entry with trigger } }

end CompiledEntry

/-- Entries in the words of a version, with the lines of the rules that it cannot carry, in order,
and the number of entries that had to change. -/
structure VersionFit where
  entries : List CompiledEntry
  errored : List (Nat × UnsupportedReason)
  downgraded : Nat

namespace VersionFit

/-- The lines of entries that the version cannot carry, each once, in order. -/
def erroredLines (version : Version) (entries : List CompiledEntry) :
    List (Nat × UnsupportedReason) :=
  let lines := entries.flatMap fun c =>
    match c.entry.unsupportedReason? version with
    | none => []
    | some reason => c.sources.map fun line => (line, reason)
  (lines.mergeSort fun a b => decide (a.1 ≤ b.1)).eraseReps

/-- An entry is left out if the version cannot carry it or any of the rules it stands for. -/
def ofEntries (version : Version) (entries : List CompiledEntry) : VersionFit :=
  let errored := erroredLines version entries
  let lines := Std.HashSet.ofList (errored.map (·.1))
  let carried := entries.filter fun c => (c.entry.unsupportedReason? version).isNone
  let adapted := carried.map fun c => (c.downgraded? version).getD c
  { entries := adapted.filter fun c => !c.sources.all lines.contains
    errored
    downgraded := carried.countP fun c => (c.downgraded? version).isSome }

end VersionFit

end ContentRules
