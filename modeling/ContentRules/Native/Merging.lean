import ContentRules.Native.CompiledEntry
import ContentRules.Ordered.AddMissing
import ContentRules.Ordered.MergeByKey

/-!
Joining entries that say the same, or the same for different pages.
-/

namespace ContentRules.CompiledEntry

/-- The first entry with the sources of both. -/
def joinSources (c d : CompiledEntry) : CompiledEntry :=
  { c with sources := addMissing c.sources d.sources }

/-- One entry for each that occurs. -/
def mergeEqual (entries : List CompiledEntry) : List CompiledEntry :=
  mergeByKey (fun c => some c.entry) joinSources entries

/-- The pages that an entry is limited to. -/
def onlyDomains? (c : CompiledEntry) : Option (List DomainValue) :=
  match c.entry.trigger.domains with
  | some (.only values) => some values
  | _ => none

/-- The entry without a condition on pages. -/
def withoutDomains (c : CompiledEntry) : Entry :=
  { c.entry with trigger := { c.entry.trigger with domains := none } }

/-- The first entry, for the pages of both. -/
def joinDomains (c d : CompiledEntry) : CompiledEntry :=
  match c.onlyDomains?, d.onlyDomains? with
  | some left, some right =>
    let trigger := { c.entry.trigger with domains := some (.only (addMissing left right)) }
    { c.joinSources d with entry := { c.entry with trigger } }
  | _, _ => c.joinSources d

/-- One entry for those that are limited to pages and differ in these pages only. -/
def mergeDomains (entries : List CompiledEntry) : List CompiledEntry :=
  mergeByKey (fun c => c.onlyDomains?.map fun _ => c.withoutDomains) joinDomains entries

end ContentRules.CompiledEntry
