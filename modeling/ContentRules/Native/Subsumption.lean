import ContentRules.Native.CompiledEntry
import ContentRules.Text.Ascii
import ContentRules.Text.Pieces

/-!
When one entry makes another needless: both have the same action, and the first counts for every
request that the second counts for. The test is a cautious one. It compares url filters by their
text, by the literals that URLs have to hold, and by the hosts that patterns name.
-/

namespace ContentRules

namespace DomainValue

/-- The first value admits every host that the second admits. -/
def covers : (broad narrow : DomainValue) → Bool
  | ⟨broad, true⟩, ⟨narrow, true⟩ => Domain.covers broad narrow
  | ⟨_, false⟩, ⟨_, true⟩ => false
  | broad, ⟨narrow, false⟩ => broad.admits narrow

/-- No host is admitted by both values. -/
def disjoint : DomainValue → DomainValue → Bool
  | ⟨a, true⟩, ⟨b, true⟩ => !Domain.covers b a && !Domain.covers a b
  | ⟨a, false⟩, ⟨b, true⟩ => !admits ⟨b, true⟩ a
  | a, ⟨b, false⟩ => !a.admits b

end DomainValue

namespace DomainCondition

/-- The first condition admits every page that the second admits; no condition admits all. -/
def covers : (broad narrow : Option DomainCondition) → Bool
  | none, _ => true
  | some _, none => false
  | some (only broad), some (only narrow) =>
    narrow.all fun n => broad.any fun b => b.covers n
  | some (except broad), some (except narrow) =>
    broad.all fun b => narrow.any fun n => n.covers b
  | some (except excluded), some (only narrow) =>
    narrow.all fun n => excluded.all fun e => e.disjoint n
  | some (only _), some (except _) => false

end DomainCondition

/-- The first optional set includes the second; no set stands for all words. -/
def WordSet.covers {α : Type} [DecidableEq α] [Vocabulary α] :
    (broad narrow : Option (WordSet α)) → Bool
  | none, _ => true
  | some broad, some narrow => broad.includes narrow
  | some _, none => false

namespace CompiledEntry

/-- Every URL of the second entry holds the literal that the first one needs. -/
def shortcutContained (broad narrow : CompiledEntry) : Bool :=
  match broad.shortcut, narrow.shortcut with
  | none, _ => true
  | some _, none => false
  | some needed, some literal =>
    let literal :=
      if broad.entry.trigger.caseSensitive then literal.toList else Text.lower literal.toList
    Text.occursIn needed.toList literal

/-- The label can stand in front of the host that a pattern names. -/
def isPlainLabel (label : List Char) : Bool :=
  !label.isEmpty && label.all fun c => c.isAlphanum || c == '-'

/-- The pattern for the first host reaches the second: the host itself, or one with plain labels in
front. -/
def hostCovers (broad narrow : List Char) : Bool :=
  Text.sameIgnoringCase narrow broad ||
    (Domain.covers broad narrow &&
      (Text.pieces (· == '.') (narrow.take (narrow.length - broad.length - 1))).all isPlainLabel)

/-- The url filter of the first entry matches every URL that the second's matches. -/
def coversUrl (broad narrow : CompiledEntry) : Bool :=
  let a := broad.entry.trigger
  let b := narrow.entry.trigger
  a.matchesAllUrls ||
    ((!a.caseSensitive || b.caseSensitive) &&
      shortcutContained broad narrow &&
      (a.urlFilter == b.urlFilter ||
        (match broad.host, narrow.host with
          | some broadHost, some narrowHost =>
            broad.pureHost && !a.caseSensitive && hostCovers broadHost.toList narrowHost.toList
          | _, _ => false)))

/-- The first entry makes the second needless. -/
def subsumes (broad narrow : CompiledEntry) : Bool :=
  let a := broad.entry.trigger
  let b := narrow.entry.trigger
  broad.entry.action == narrow.entry.action &&
    coversUrl broad narrow &&
    WordSet.covers a.resourceTypes b.resourceTypes &&
    WordSet.covers a.loadTypes b.loadTypes &&
    DomainCondition.covers a.domains b.domains

end CompiledEntry

end ContentRules
