import ContentRules.Native.Subsumption
import ContentRules.Ordered.AddMissing
import ContentRules.Ordered.Index

/-!
Leaving out entries that others make needless. An entry is only compared with those that can subsume
it: those that match every URL and have its action, those with its url filter, and those whose
pattern is its host or a domain above it. Of two entries that subsume each other the earlier stays.
The sources of an entry that is left out go to the entry that stays for it.
-/

namespace ContentRules.CompiledEntry

/-- The entries of a list by what lets them subsume another, each with its place. -/
structure Candidates where
  matchingAll : Index Action (CompiledEntry × Nat)
  byFilter : Index String (CompiledEntry × Nat)
  byHost : Index String (CompiledEntry × Nat)

/-- The host and the domains above it. -/
def parentDomains (host : List Char) : List (List Char) := host :: above host
where
  above : List Char → List (List Char)
    | [] => []
    | c :: r => if c = '.' then r :: above r else above r

namespace Candidates

def ofList (placed : List (CompiledEntry × Nat)) : Candidates where
  matchingAll := .ofList
    (fun (c, _) => if c.entry.trigger.matchesAllUrls then some c.entry.action else none) placed
  byFilter := .ofList
    (fun (c, _) => if c.entry.trigger.matchesAllUrls then none else some c.entry.trigger.urlFilter)
    placed
  byHost := .ofList (fun (c, _) => if c.pureHost then c.host else none) placed

/-- The entries that an entry is compared with, in the order in which they are tried. -/
def forEntry (candidates : Candidates) (c : CompiledEntry) : List (CompiledEntry × Nat) :=
  let hosts :=
    match c.host with
    | none => []
    | some host => (parentDomains host.toList).map String.ofList
  candidates.matchingAll.find c.entry.action ++
    candidates.byFilter.find c.entry.trigger.urlFilter ++
    hosts.flatMap candidates.byHost.find

end Candidates

/-- The other entry makes this one needless, and does not come later where each does so. -/
def yieldsTo (c other : CompiledEntry × Nat) : Bool :=
  other.2 != c.2 && subsumes other.1 c.1 && !(c.2 < other.2 && subsumes c.1 other.1)

/-- The place of the entry that stands for the given one. -/
def coveredBy? (candidates : Candidates) (c : CompiledEntry × Nat) : Option Nat :=
  ((candidates.forEntry c.1).find? (yieldsTo c)).map (·.2)

/-- The end of a chain of links. -/
def followLinks (links : Array (Option Nat)) : (fuel place : Nat) → Nat
  | 0, place => place
  | fuel + 1, place =>
    match links[place]?.join with
    | some next => followLinks links fuel next
    | none => place

/-- The entries that no other makes needless, with the sources of those that they stand for. -/
def removeSubsumed (entries : List CompiledEntry) : List CompiledEntry :=
  let placed := entries.zipIdx
  let candidates := Candidates.ofList placed
  let linked := placed.map fun c => (c, coveredBy? candidates c)
  let links := (linked.map (·.2)).toArray
  let heirs := Index.ofList
    (fun (l : (CompiledEntry × Nat) × Option Nat) => l.2.map (followLinks links (links.size + 1)))
    linked
  linked.filterMap fun ((c, place), link) =>
    match link with
    | some _ => none
    | none =>
      some { c with sources := addMissing c.sources ((heirs.find place).flatMap (·.1.1.sources)) }

end ContentRules.CompiledEntry
