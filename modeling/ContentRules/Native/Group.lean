/-!
The places of entries in a rule list. Safari reads a list from top to bottom, and an exception
cancels only what stands before it, so exceptions follow the rules that they override.
-/

namespace ContentRules

/-- The kinds of entries in the order in which a rule list holds them. -/
inductive EntryGroup where
  /-- Hides on all pages. -/
  | cssWide
  /-- Hides on all pages but some. -/
  | cssGenericDomainSensitive
  | genericHideExceptions
  /-- Hides on some pages only. -/
  | cssDomainSensitive
  | elemhideExceptions
  | urlBlocking
  /-- Exceptions for requests. -/
  | otherExceptions
  | important
  | importantExceptions
  /-- Exceptions that switch everything off. -/
  | documentExceptions
  deriving DecidableEq, Repr

namespace EntryGroup

/-- All groups, in order. -/
def all : List EntryGroup :=
  [cssWide, cssGenericDomainSensitive, genericHideExceptions, cssDomainSensitive,
    elemhideExceptions, urlBlocking, otherExceptions, important, importantExceptions,
    documentExceptions]

theorem mem_all (g : EntryGroup) : g ∈ all := by cases g <;> decide

theorem nodup_all : all.Nodup := by decide

end EntryGroup

end ContentRules
