import ContentRules.Proofs.Native.Origin
import ContentRules.Proofs.Pattern.Literals

/-!
Looking for a literal first changes no answer for patterns that are no regular expressions: an entry
that counts for a request with an ASCII URL passes the search for its literal. Main statement:
`shortcuts_change_nothing`.
-/

namespace ContentRules

open Pattern

namespace EntryMatcher

/-- Every ASCII URL that the url filter matches passes the search for the literal. -/
def Requires (m : EntryMatcher) (shortcut : Option String) : Prop :=
  ∀ url, Text.isAscii url = true → m.regex.occursIn url = true →
    (m.withShortcut shortcut).passesShortcut url = true

section
variable (m : EntryMatcher) (shortcut : Option String)

@[simp] theorem entry_withShortcut : (m.withShortcut shortcut).entry = m.entry := by
  unfold withShortcut
  split
  · rfl
  split
  · rfl
  split <;> rfl

@[simp] theorem regex_withShortcut : (m.withShortcut shortcut).regex = m.regex := by
  unfold withShortcut
  split
  · rfl
  split
  · rfl
  split <;> rfl

/-- A literal is sought in the URL, both with small letters unless case counts. -/
theorem passesShortcut_withShortcut (literal : String) (url : List Char) :
    (m.withShortcut (some literal)).passesShortcut url = (literal.isEmpty ||
      Text.occursIn (folded (!m.entry.trigger.caseSensitive) literal.toList)
        (folded (!m.entry.trigger.caseSensitive) url)) := by
  unfold passesShortcut withShortcut folded
  cases hempty : literal.isEmpty <;> cases hcase : m.entry.trigger.caseSensitive <;>
    simp only [hempty, hcase, if_true, if_false, Bool.false_eq_true, Bool.not_true, Bool.not_false,
      Bool.true_or, Bool.false_or]

end

/-- A literal that is required does not change what the entry counts for. -/
theorem Requires.matchesRequest_eq {m : EntryMatcher} {shortcut : Option String}
    (h : m.Requires shortcut) (hnone : m.shortcut = none) {q : Request}
    (hurl : Text.isAscii q.url.toList = true) :
    (m.withShortcut shortcut).matchesRequest q = m.matchesRequest q := by
  have hpasses : m.passesShortcut q.url.toList = true := by rw [passesShortcut, hnone]
  unfold matchesRequest
  rw [entry_withShortcut, regex_withShortcut, hpasses]
  cases hfound : m.regex.occursIn q.url.toList with
  | false => simp only [Bool.and_false]
  | true => rw [h _ hurl hfound]

theorem requires_none (m : EntryMatcher) : m.Requires none := fun _ _ _ => rfl

/-- The shortcut of a pattern is required by the url filter of the pattern. -/
theorem requires_shortcut? {p : List Char} (hp : isRegex p = false) (hascii : Text.isAscii p = true)
    {e : Entry} (hfilter : e.trigger.urlFilter = String.ofList (expr p)) :
    ∃ m, ofEntry? e = some m ∧
      m.Requires ((shortcut? p e.trigger.caseSensitive).map String.ofList) := by
  have hread := read?_expr (!e.trigger.caseSensitive) p
  rw [EntryMatcher.ofEntry?, hfilter, String.toList_ofList, hread]
  refine ⟨_, rfl, fun url hurl hfound => ?_⟩
  cases hs : shortcut? p e.trigger.caseSensitive with
  | none => rfl
  | some s =>
    have hfound' : Found (!e.trigger.caseSensitive) p url := by
      rw [← any_occursIn_expr, hread]
      exact hfound
    have hin := occursIn_of_found hp hascii hurl hfound' hs
    -- the literal of the pattern is folded already
    have hfold : folded (!e.trigger.caseSensitive) s = s := by
      rw [eq_of_shortcut? hp hs, folded_folded]
    rw [Option.map_some, passesShortcut_withShortcut, String.toList_ofList, hfold, hin,
      Bool.or_true]

end EntryMatcher

namespace Matcher

/-- A list whose entries require their literals has a matcher with them and one without, and for
requests with an ASCII URL the two have the same actions. -/
theorem actions_withShortcuts? {l : List (Entry × Option String)}
    (h : ∀ x ∈ l, ∃ m, EntryMatcher.ofEntry? x.1 = some m ∧ m.Requires x.2) :
    ∃ m m', ofEntries? (l.map (·.1)) = some m ∧ withShortcuts? l = some m' ∧
      ∀ q : Request, Text.isAscii q.url.toList = true → m'.actions q = m.actions q := by
  suffices ∃ ms ms', (l.map (·.1)).mapM EntryMatcher.ofEntry? = some ms ∧
      (l.mapM fun (e, shortcut) => (EntryMatcher.ofEntry? e).map
        fun (m : EntryMatcher) => m.withShortcut shortcut) = some ms' ∧
      ∀ q : Request, Text.isAscii q.url.toList = true →
        (ms'.filter (·.matchesRequest q)).map (·.entry.action) =
          (ms.filter (·.matchesRequest q)).map (·.entry.action) by
    obtain ⟨ms, ms', hms, hms', hsame⟩ := this
    refine ⟨⟨ms⟩, ⟨ms'⟩, by rw [ofEntries?, hms, Option.map_some],
      by rw [withShortcuts?, hms', Option.map_some], fun q hurl => ?_⟩
    rw [actions, hsame q hurl, actions]
  induction l with
  | nil => exact ⟨[], [], rfl, rfl, fun _ _ => rfl⟩
  | cons x l ih =>
    obtain ⟨⟨m, hm, hrequires⟩, hl⟩ := List.forall_mem_cons.1 h
    obtain ⟨ms, ms', hms, hms', hsame⟩ := ih hl
    have hnone : m.shortcut = none := by
      obtain ⟨regex, -, rfl⟩ := Option.map_eq_some_iff.1 hm
      rfl
    refine ⟨m :: ms, m.withShortcut x.2 :: ms', by simp [hm, hms], by simp [hm, hms'], ?_⟩
    intro q hurl
    rw [List.filter_cons, List.filter_cons, hrequires.matchesRequest_eq hnone hurl]
    split
    · rw [List.map_cons, List.map_cons, hsame q hurl, EntryMatcher.entry_withShortcut]
    · exact hsame q hurl

end Matcher

/-! ## Rules -/

/-- The pattern of the rule, if it has one, is no regular expression. -/
def Rule.IsWithoutRegex (r : Rule) : Prop :=
  ∀ isException pattern o, r.body = .network isException pattern o → isRegex pattern.toList = false

namespace CompiledEntry

theorem requires_ofRequests {line : Nat} {group : EntryGroup} {action : Action} {pattern : String}
    {o : Options} {domains : DomainList} {c : CompiledEntry}
    (h : ofRequests line group action pattern o domains = .ok c)
    (hpattern : isRegex pattern.toList = false) :
    ∃ m, EntryMatcher.ofEntry? c.entry = some m ∧ m.Requires c.shortcut := by
  obtain ⟨t, ht, rfl⟩ := of_ofRequests h
  obtain ⟨t', resources, ht', rfl⟩ := Trigger.of_ofRequest ht
  obtain ⟨filter, condition, hfilter, -, rfl⟩ := Trigger.of_ofPattern ht'
  obtain ⟨hascii, rfl⟩ := (ofPattern_eq_ok_iff hpattern).1 hfilter
  exact EntryMatcher.requires_shortcut? hpattern hascii rfl

/-- Every entry of a rule without regular expressions requires its literal. -/
theorem requires_of_yields {r : Rule} (hr : r.IsWithoutRegex) {c : CompiledEntry} (h : r.Yields c) :
    ∃ m, EntryMatcher.ofEntry? c.entry = some m ∧ m.Requires c.shortcut := by
  have hread := h.isReadable fun isException pattern o hbody hregex => by
    cases (hr isException pattern o hbody).symm.trans hregex
  have hnone (hshortcut : c.shortcut = none) :
      ∃ m, EntryMatcher.ofEntry? c.entry = some m ∧ m.Requires c.shortcut := by
    obtain ⟨regex, hregex⟩ := Option.isSome_iff_exists.1 hread
    refine ⟨_, by rw [EntryMatcher.ofEntry?, hregex, Option.map_some], ?_⟩
    rw [hshortcut]
    exact EntryMatcher.requires_none _
  cases h with
  | blocks hbody h => exact requires_ofRequests h (hr _ _ _ hbody)
  | excepts hbody _ h => exact requires_ofRequests h (hr _ _ _ hbody)
  | page => exact hnone rfl
  | hides => exact hnone rfl

end CompiledEntry

/-- A URL that the url filter of a pattern matches passes the search for the shortcut of the
pattern, and so entries of rules without regular expressions come to the same with their
literals and without. -/
theorem shortcuts_change_nothing :
    (∀ (p : List Char) (matchCase : Bool), isRegex p = false → Text.isAscii p = true →
      ∃ filter, UrlFilter.ofPattern p = .ok filter ∧
        ∀ e : Entry, e.trigger.urlFilter = String.ofList filter →
          e.trigger.caseSensitive = matchCase →
          ∃ m, EntryMatcher.ofEntry? e = some m ∧
            ∀ url, Text.isAscii url = true → m.regex.occursIn url = true →
              (m.withShortcut ((shortcut? p matchCase).map String.ofList)).passesShortcut
                url = true) ∧
    ∀ cs : List CompiledEntry,
      (∀ c ∈ cs, ∃ r : Rule, r.IsWithoutRegex ∧ ∃ ns, r.compile = .ok ns ∧ c ∈ ns) →
      ∃ m m', Matcher.ofEntries? (cs.map (·.entry)) = some m ∧
        Matcher.withShortcuts? (cs.map fun c => (c.entry, c.shortcut)) = some m' ∧
        ∀ q : Request, Text.isAscii q.url.toList = true → m'.actions q = m.actions q := by
  constructor
  · intro p matchCase hp hascii
    refine ⟨expr p, (ofPattern_eq_ok_iff hp).2 ⟨hascii, rfl⟩, ?_⟩
    rintro e hfilter rfl
    exact EntryMatcher.requires_shortcut? hp hascii hfilter
  · intro cs hcs
    have hrequires : ∀ x ∈ cs.map (fun c => (c.entry, c.shortcut)),
        ∃ m, EntryMatcher.ofEntry? x.1 = some m ∧ m.Requires x.2 := by
      intro x hx
      obtain ⟨c, hc, rfl⟩ := List.mem_map.1 hx
      obtain ⟨r, hr, ns, hns, hmem⟩ := hcs c hc
      exact CompiledEntry.requires_of_yields hr (Rule.yields_of_mem_compile hns hmem)
    have hsame := Matcher.actions_withShortcuts? hrequires
    rw [List.map_map] at hsame
    exact hsame

/-- The literal of the exception is sought as it is written, that of the blocking rule with small
letters. -/
theorem shortcuts_change_nothing_pair :
    let p := "||ADS.com^*/Banner".toList
    let url := "https://x.ads.COM/a/banner.js".toList
    let r : Rule := ⟨0, "||ADS.com^", {}, .network false "||ADS.com^" {}⟩
    let s : Rule := ⟨1, "@@||ads.com/Ok^$match-case", {},
      .network true "||ads.com/Ok^" { matchCase := true }⟩
    let q := Request.ofPage "https://x.ads.com/Ok?id" "b.com" (.single .script)
    (∃ filter e m, UrlFilter.ofPattern p = .ok filter ∧ EntryMatcher.ofEntry? e = some m ∧
      m.regex.occursIn url = true ∧
      (m.withShortcut ((shortcut? p false).map String.ofList)).passesShortcut url = true) ∧
    ∃ cs ds m m', r.compile = .ok cs ∧ s.compile = .ok ds ∧ cs ≠ [] ∧ ds ≠ [] ∧
      Matcher.ofEntries? ((cs ++ ds).map (·.entry)) = some m ∧
      Matcher.withShortcuts? ((cs ++ ds).map fun c => (c.entry, c.shortcut)) = some m' ∧
      m'.actions q = m.actions q := by
  intro p url r s q
  constructor
  · obtain ⟨filter, hfilter, h⟩ := shortcuts_change_nothing.1 p false (by decide) (by decide)
    obtain ⟨m, hm, hpasses⟩ := h ⟨{ urlFilter := String.ofList filter }, .block⟩ rfl rfl
    have hfound : m.regex.occursIn url = true := by
      obtain rfl := ((ofPattern_eq_ok_iff (by decide)).1 hfilter).2
      have hall : (EntryMatcher.ofEntry? ⟨{ urlFilter := String.ofList (expr p) }, .block⟩).all
          (·.regex.occursIn url) = true := by decide +kernel
      rwa [hm] at hall
    exact ⟨filter, _, m, hfilter, hm, hfound, hpasses url (by decide) hfound⟩
  · have hcs : ∃ c ∈ r.compile.toOption.getD [], ∃ d ∈ s.compile.toOption.getD [], c ≠ d := by
      decide +kernel
    obtain ⟨c, hc, d, hd, -⟩ := hcs
    have hr := Rule.mem_compile_of_yields (Rule.mem_toOption_compile.1 hc)
    have hs := Rule.mem_compile_of_yields (Rule.mem_toOption_compile.1 hd)
    have hplain : ∀ x ∈ [r, s], x.IsWithoutRegex := by
      rintro x hx isException pattern o hbody
      rcases List.mem_pair.1 hx with rfl | rfl <;> cases hbody <;> decide +kernel
    obtain ⟨m, m', hm, hm', hsame⟩ := shortcuts_change_nothing.2 [c, d] fun x hx => by
      rcases List.mem_pair.1 hx with rfl | rfl
      · exact ⟨r, hplain r (by simp), _, hr, .head _⟩
      · exact ⟨s, hplain s (by simp), _, hs, .head _⟩
    exact ⟨[c], [d], m, m', hr, hs, List.cons_ne_nil _ _, List.cons_ne_nil _ _, hm, hm',
      hsame q (by decide +kernel)⟩

end ContentRules
