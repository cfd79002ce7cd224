import ContentRules.Conversion.Report
import ContentRules.Filter.Badfilter
import ContentRules.Native.OfRule
import ContentRules.Native.Optimization
import ContentRules.Native.SizeLimit

/-!
The notes of the stages of a conversion.
-/

namespace ContentRules

/-- The rules that cancelled others and were cancelled. -/
def Cancellation.notes (c : Cancellation) : List Note :=
  if c.badfilterRules = 0 then []
  else [.info (toString c.badfilterRules ++ " badfilter rules cancelled " ++
    toString c.badfilteredRules ++ " rules")]

/-- The rules that moved to the advanced payload. -/
def promotionNotes (version : Version) (promoted : Nat) : List Note :=
  if promoted = 0 then []
  else [.info ("Safari " ++ version.text ++ ": " ++ toString promoted ++
    " :has() rules moved to advanced blocking")]

/-- The kinds of content that a rule's entry leaves out. -/
def Rule.notes (r : Rule) : List Note :=
  if r.dropsContentTypes then
    [.warn ("dropping object/webrtc resource types, Safari has no equivalent: " ++ r.text)]
  else []

/-- The entries that were left out or joined. -/
def Optimized.note (o : Optimized) : Note :=
  .info ("optimized " ++ toString o.before ++ " entries to " ++ toString o.after ++ " (" ++
    toString o.deduped ++ " duplicates, " ++ toString o.subsumed ++ " subsumed, " ++
    toString o.merged ++ " merged)")

/-- The entries that the version cannot carry or has other words for. -/
def VersionFit.notes (v : VersionFit) (version : Version) : List Note :=
  if v.errored.isEmpty && v.downgraded = 0 then []
  else [.info ("Safari " ++ version.text ++ ": " ++ toString v.errored.length ++
    " rules unsupported, " ++ toString v.downgraded ++ " entries downgraded")]

/-- The entries that did not fit. -/
def LimitedList.notes (l : LimitedList) (total : Nat) : List Note :=
  if l.overLimit then
    [.warn ("content blocker truncated to " ++ toString l.entries.length ++
      " of " ++ toString total ++ " entries")]
  else []

end ContentRules
