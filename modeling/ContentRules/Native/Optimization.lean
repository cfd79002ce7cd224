import ContentRules.Native.Covering
import ContentRules.Native.Merging

/-!
Making a rule list shorter without changing what it does. Only entries of one group that stand
together are compared. They have the same kind of action, so nothing between them can cancel one of
them.
-/

namespace ContentRules

/-- A shorter list, with the length of the list before and the number of entries left out as equal
to others, as needless, and as joined with others. -/
structure Optimized where
  entries : List CompiledEntry
  before : Nat
  deduped : Nat
  subsumed : Nat
  merged : Nat

namespace Optimized

/-- The number of entries that are left. -/
def after (o : Optimized) : Nat := o.entries.length

def append (o p : Optimized) : Optimized :=
  { entries := o.entries ++ p.entries
    before := o.before + p.before
    deduped := o.deduped + p.deduped
    subsumed := o.subsumed + p.subsumed
    merged := o.merged + p.merged }

/-- The list as it is. -/
def unchanged (entries : List CompiledEntry) : Optimized := ⟨entries, entries.length, 0, 0, 0⟩

/-- Entries of one group. -/
def ofRun (run : List CompiledEntry) : Optimized :=
  if run.length < 2 then unchanged run
  else
    let distinct := CompiledEntry.mergeEqual run
    let needed := CompiledEntry.removeSubsumed distinct
    let joined := CompiledEntry.mergeDomains needed
    { entries := joined
      before := run.length
      deduped := run.length - distinct.length
      subsumed := distinct.length - needed.length
      merged := needed.length - joined.length }

/-- A list, run by run. -/
def ofEntries (entries : List CompiledEntry) : Optimized :=
  (entries.splitBy fun c d => c.group == d.group).foldr (fun run o => (ofRun run).append o)
    (unchanged [])

end Optimized

end ContentRules
