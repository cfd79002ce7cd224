import ContentRules.Filter.Scope

/-!
The parts of the advanced payload. An exception cancels what stands before it, so the exceptions of
each kind follow the entries that they concern and precede those that they spare.
-/

namespace ContentRules

/-- The parts of the payload, in order. -/
inductive PayloadSection where
  /-- Scripts and scriptlets. -/
  | scripts
  | scriptExceptions
  /-- Styles for all pages, or for all but some. -/
  | genericCss
  | genericHideExceptions
  /-- Styles for some pages only. -/
  | domainCss
  | elemhideExceptions
  | documentExceptions
  deriving DecidableEq, Repr

namespace PayloadSection

/-- All sections, in order. -/
def all : List PayloadSection :=
  [scripts, scriptExceptions, genericCss, genericHideExceptions, domainCss, elemhideExceptions,
    documentExceptions]

theorem mem_all (s : PayloadSection) : s ∈ all := by cases s <;> decide

theorem nodup_all : all.Nodup := by decide

end PayloadSection

/-- The sections that an exception with the given scopes has an entry in. The widest scope for
styles counts, and `document` stands for all others. -/
def Scopes.payloadSections (scopes : Scopes) : List PayloadSection :=
  if scopes.contains .document then [.documentExceptions]
  else
    (if scopes.contains .jsinject then [.scriptExceptions] else []) ++
      (if scopes.contains .elemhide then [.elemhideExceptions]
        else if scopes.contains .generichide then [.genericHideExceptions]
        else [])

end ContentRules
