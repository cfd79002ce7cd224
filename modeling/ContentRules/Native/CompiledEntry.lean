import ContentRules.Ordered.Arrange
import ContentRules.Native.Group
import ContentRules.Safari.Entry

/-!
Entries on their way into a rule list, with what is known of the rules that they come from.
-/

namespace ContentRules

/-- An entry with its place and origin. -/
structure CompiledEntry where
  entry : Entry
  /-- A literal that every URL holds which the url filter matches. -/
  shortcut : Option String := none
  /-- The host that the pattern names. -/
  host : Option String := none
  /-- The pattern names the host and no more. -/
  pureHost : Bool := false
  group : EntryGroup
  /-- The lines of the rules that the entry stands for. -/
  sources : List Nat
  deriving DecidableEq

namespace CompiledEntry

/-- The entries in the order of their groups; within a group the order stays. -/
def sortByGroup (entries : List CompiledEntry) : List CompiledEntry :=
  arrange EntryGroup.all (·.group) entries

theorem mem_sortByGroup {entries : List CompiledEntry} {c : CompiledEntry} :
    c ∈ sortByGroup entries ↔ c ∈ entries := by
  simp [sortByGroup, mem_arrange, EntryGroup.mem_all]

end CompiledEntry

end ContentRules
