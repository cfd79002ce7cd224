import ContentRules.Proofs.Advanced.Exceptions
import ContentRules.Proofs.Conversion.Stages
import ContentRules.Proofs.Native.LongestFit
import ContentRules.Proofs.Native.Optimizing

/-!
The url filters of whatever a conversion writes are ones that rule lists can hold. Each of them is
the filter of the pattern of a rule, or the one for all URLs: making entries fewer joins their sites
and their lines only, and fitting them to a version changes their resource types only. So the rule
list and the payload of every conversion have a matcher. Main statement: `urlFilters_acceptable`.
-/

namespace ContentRules

open UrlFilter

/-! ## Entries -/

/-- Making entries fewer and fitting them to a version leaves no url filter that no entry had. -/
theorem CompiledEntry.exists_urlFilter_eq {optimize : Bool} {version : Version}
    {entries : List CompiledEntry} {d : CompiledEntry}
    (hd : d ∈ (VersionFit.ofEntries version (inOrder optimize entries)).entries) :
    ∃ c ∈ entries, d.entry.trigger.urlFilter = c.entry.trigger.urlFilter := by
  obtain ⟨e, he, rfl⟩ := VersionFit.exists_mem_of_mem_entries hd
  obtain ⟨types, hadapted⟩ := VersionFit.exists_adapted version e
  obtain ⟨c, hc, hsame, -⟩ := exists_mem_of_mem_inOrder he
  have hfilter : e.entry.trigger.urlFilter = c.entry.trigger.urlFilter :=
    congrArg (·.trigger.urlFilter) hsame
  exact ⟨c, hc, by rw [hadapted, hfilter]⟩

/-! ## Matchers -/

/-- The url filters of the entries are ones that rule lists can hold, and the entries have a
matcher, with or without literals that are looked for first. -/
structure Entry.AreMatchable (entries : List Entry) : Prop where
  acceptable : ∀ e ∈ entries, IsAcceptable e.trigger.urlFilter.toList
  matcher : ∃ m, Matcher.ofEntries? entries = some m
  prefiltered : ∀ l, l.map (·.1) = entries → ∃ m, Matcher.withShortcuts? l = some m

theorem Entry.AreMatchable.of_acceptable {entries : List Entry}
    (h : ∀ e ∈ entries, IsAcceptable e.trigger.urlFilter.toList) : AreMatchable entries where
  acceptable := h
  matcher := Matcher.exists_ofEntries? fun e he => Trigger.isReadable_of_isAcceptable (h e he)
  prefiltered _ hl := Matcher.exists_withShortcuts? fun x hx =>
    Trigger.isReadable_of_isAcceptable (h x.1 (hl ▸ List.mem_map_of_mem hx))

/-! ## Conversions -/

namespace Conversion

variable {config : Config} {lines : List String}

/-- The rules that a conversion compiles have patterns that can be read. -/
theorem isReadable_of_mem_prepare {r : Rule}
    (hr : r ∈ (prepare config (FilterList.read lines).rules).rules) : r.body.IsReadable := by
  rw [rules_prepare] at hr
  obtain ⟨s, hs, rfl⟩ := List.mem_map.1 hr
  have hreadable : s.body.IsReadable := isReadable_of_mem_nativeRules hs
  unfold placed
  split
  · unfold Rule.promoted
    split
    · exact nofun
    · exact hreadable
  · exact hreadable

theorem isAcceptable_of_mem_list {e : Entry} (he : e ∈ (ofLines config lines).list.entries) :
    IsAcceptable e.trigger.urlFilter.toList := by
  rw [ofLines, list_ofList, compileRules_fst] at he
  obtain ⟨d, hd, rfl⟩ := List.mem_map.1 ((LimitedList.entries_ofEntries_prefix ..).subset he)
  obtain ⟨c, hc, hfilter⟩ := CompiledEntry.exists_urlFilter_eq hd
  obtain ⟨r, hr, hyields⟩ := mem_flatMap_compile.1 hc
  rw [hfilter]
  exact hyields.isAcceptable (isReadable_of_mem_prepare hr)

theorem isAcceptable_of_mem_advanced {p : WrittenPayload}
    (hp : (ofLines config lines).advanced = some p)
    {e : Entry} (he : e ∈ p.entries) : IsAcceptable e.trigger.urlFilter.toList := by
  rw [ofLines, advanced_ofList, advancedPart] at hp
  split at hp
  · cases hp
  cases hp
  dsimp only at he
  rw [AdvancedPayload.entries_ofRules] at he
  obtain ⟨⟨s, e⟩, hplaced, rfl⟩ := List.mem_map.1 he
  exact AdvancedPayload.isAcceptable_of_mem_placedEntries (fun _ => isReadable_of_mem_prepare)
    (mem_arrange.1 hplaced).1

end Conversion

/-- The url filters of the entries of a rule that is read, and those of the triggers for pages that
the payload has for it, are ASCII, pass the check and are regular expressions in both modes of case;
and so are those of all entries that a conversion writes, in the rule list and in the payload, which
therefore have a matcher. -/
theorem urlFilters_acceptable :
    (∀ number line r, Rule.read number line = .ok (some r) →
      (∀ cs, r.compile = .ok cs → ∀ c ∈ cs, IsAcceptable c.entry.trigger.urlFilter.toList) ∧
        ∀ isException pattern o t, r.body = .network isException pattern o →
          Trigger.ofPage pattern o r.domains = .ok t → IsAcceptable t.urlFilter.toList) ∧
      ∀ config lines c, convert config lines = .ok c →
        Entry.AreMatchable c.list.entries ∧ ∀ p, c.advanced = some p →
          Entry.AreMatchable p.entries := by
  constructor
  · intro number line r hread
    have hreadable := Rule.isReadable_of_read hread
    refine ⟨fun cs hcs c hc => ?_, fun isException pattern o t hbody ht => ?_⟩
    · exact (Rule.yields_of_mem_compile hcs hc).isAcceptable hreadable
    · exact Trigger.isAcceptable_of_ofPage (hbody ▸ hreadable) ht
  · intro config lines c hc
    obtain ⟨-, -, hc⟩ := bind_eq_ok.1 hc
    cases hc
    exact ⟨.of_acceptable fun _ => Conversion.isAcceptable_of_mem_list,
      fun p hp => .of_acceptable fun _ => Conversion.isAcceptable_of_mem_advanced hp⟩

/-- A pattern full of signs that mean something in an expression. -/
theorem urlFilters_acceptable_signs :
    let line := "||ads\\d\x7b2\x7d(?x|y)[^"
    let filter :=
      "^[htpsw]+:\\/\\/([a-z0-9-]+\\.)*ads\\\\d\\\x7b2\\\x7d\\(\\?x\\|y\\)\\[([\\/:&\\?].*)?$"
    let r : Rule := ⟨0, line, {}, .network false line {}⟩
    let c : CompiledEntry :=
      .ofLine 0 .urlBlocking line (some "ads\\d\x7b2\x7d(?x") ⟨{ urlFilter := filter }, .block⟩
    Rule.read 0 line = .ok (some r) ∧ r.compile = .ok [c] ∧ IsAcceptable filter.toList ∧
      ∃ m, Matcher.ofEntries? (Conversion.ofLines {} [line]).list.entries = some m := by
  intro line filter r c
  have hread : Rule.read 0 line = .ok (some r) := by decide +kernel
  have hcompile : r.compile = .ok [c] := by decide +kernel
  exact ⟨hread, hcompile, (urlFilters_acceptable.1 0 line r hread).1 _ hcompile c (.head _),
    (urlFilters_acceptable.2 {} [line] _ rfl).1.matcher⟩

end ContentRules
