import ContentRules.Matching.Matcher
import ContentRules.Ordered.Arrange
import ContentRules.Proofs.Ordered.Related

/-!
What a rule list does to a request, said of the entries themselves. In a list that is arranged by
sections, each of which either only ignores previous rules or never does, an action is in effect
when its entry counts and no entry that counts ignores previous rules in a later section. Main
statement: `mem_effects_arrange`.
-/

namespace ContentRules

namespace Trigger

/-- The url filter of the trigger is a regular expression. -/
def isReadable (t : Trigger) : Bool :=
  (Regex.read? (!t.caseSensitive) t.urlFilter.toList).isSome

/-- The url filter of the trigger matches a URL. -/
def matchesUrl (t : Trigger) (url : List Char) : Bool :=
  (Regex.read? (!t.caseSensitive) t.urlFilter.toList).any (·.occursIn url)

/-- The trigger is for requests of the kinds of the given one. -/
def matchesKinds (t : Trigger) (q : Request) : Bool :=
  (t.resourceTypes.map (·.expanded.meets q.resourceTypes)).getD true &&
    (t.loadTypes.map (·.meets q.loadTypes)).getD true

end Trigger

namespace Entry

/-- The entry counts for the request. -/
def counts (e : Entry) (q : Request) : Bool :=
  (EntryMatcher.ofEntry? e).any (·.matchesRequest q)

/-- An entry counts if its trigger is for the page, the kinds and the URL of the request. -/
theorem counts_eq (e : Entry) (q : Request) :
    e.counts q = (DomainCondition.admits? e.trigger.domains q.pageHost.toList &&
      e.trigger.matchesKinds q && e.trigger.matchesUrl q.url.toList) := by
  rw [counts, EntryMatcher.ofEntry?, Trigger.matchesUrl]
  cases Regex.read? (!e.trigger.caseSensitive) e.trigger.urlFilter.toList with
  | none => simp
  | some regex =>
    simp [EntryMatcher.matchesRequest, EntryMatcher.passesShortcut, Trigger.matchesKinds,
      Bool.and_assoc]

end Entry

theorem EntryMatcher.entry_of_ofEntry? {e : Entry} {m : EntryMatcher}
    (h : EntryMatcher.ofEntry? e = some m) : m.entry = e := by
  obtain ⟨regex, _, rfl⟩ := Option.map_eq_some_iff.1 h
  rfl

namespace Matcher

/-- What is in effect for a request after a list of entries. -/
def effects (entries : List Entry) (q : Request) : List Action :=
  ((entries.filter (·.counts q)).map (·.action)).foldl applyAction []

/-- An entry of the list counts and ignores previous rules. -/
def clears (entries : List Entry) (q : Request) : Bool :=
  entries.any fun e => e.counts q && e.action == .ignorePreviousRules

/-- Every list whose url filters can be read has a matcher. -/
theorem exists_ofEntries? {entries : List Entry} (h : ∀ e ∈ entries, e.trigger.isReadable = true) :
    ∃ m, ofEntries? entries = some m := by
  have hread : ∀ e ∈ entries, (EntryMatcher.ofEntry? e).isSome = true := fun e he => by
    rw [EntryMatcher.ofEntry?, Option.isSome_map]
    exact h e he
  obtain ⟨ms, hms⟩ := exists_mapM_eq_some hread
  exact ⟨⟨ms⟩, by rw [ofEntries?, hms, Option.map_some]⟩

/-- The same with literals that are looked for first. -/
theorem exists_withShortcuts? {l : List (Entry × Option String)}
    (h : ∀ x ∈ l, x.1.trigger.isReadable = true) : ∃ m, withShortcuts? l = some m := by
  have hread : ∀ x ∈ l, ((EntryMatcher.ofEntry? x.1).map fun (m : EntryMatcher) =>
      m.withShortcut x.2).isSome = true := fun x hx => by
    rw [EntryMatcher.ofEntry?, Option.isSome_map, Option.isSome_map]
    exact h x hx
  obtain ⟨ms, hms⟩ := exists_mapM_eq_some hread
  exact ⟨⟨ms⟩, by rw [withShortcuts?, hms, Option.map_some]⟩

/-- A matcher computes the effects of its entries. -/
theorem actions_eq {entries : List Entry} {m : Matcher} (h : ofEntries? entries = some m)
    (q : Request) : m.actions q = effects entries q := by
  obtain ⟨ms, hms, rfl⟩ := Option.map_eq_some_iff.1 h
  suffices (ms.filter (·.matchesRequest q)).map (·.entry.action) =
      (entries.filter (·.counts q)).map (·.action) by rw [actions, this, effects]
  have hread := mapM_eq_some_iff.1 hms
  clear h hms
  induction hread with
  | nil => rfl
  | @cons e m _ _ hm _ ih =>
    have hcounts : e.counts q = m.matchesRequest q := by rw [Entry.counts, hm, Option.any_some]
    rw [List.filter_cons, List.filter_cons, hcounts]
    split
    · rw [List.map_cons, List.map_cons, ih, EntryMatcher.entry_of_ofEntry? hm]
    · exact ih

section
variable {entries : List Entry} {m : Matcher} (h : ofEntries? entries = some m) (q : Request)
include h

/-- A request is blocked if blocking is in effect. -/
theorem isBlocked_iff : m.isBlocked q = true ↔ .block ∈ effects entries q := by
  rw [isBlocked, actions_eq h, List.any_eq_true]
  simp

/-- A selector is hidden if hiding what it selects is in effect. -/
theorem mem_hiddenSelectors {s : String} :
    s ∈ m.hiddenSelectors q ↔ .cssDisplayNone (some s) ∈ effects entries q := by
  rw [hiddenSelectors, actions_eq h, List.mem_filterMap]
  constructor
  · rintro ⟨a, ha, hs⟩
    split at hs
    · exact hs ▸ ha
    · cases hs
  · intro ha
    exact ⟨_, ha, rfl⟩

end

/-! ## Clearing -/

theorem foldl_applyAction (actions inEffect : List Action) :
    actions.foldl applyAction inEffect =
      (if actions.contains .ignorePreviousRules then [] else inEffect) ++
        actions.foldl applyAction [] := by
  induction actions generalizing inEffect with
  | nil => simp
  | cons a actions ih =>
    rw [List.foldl_cons, List.foldl_cons, ih (applyAction inEffect a), ih (applyAction [] a),
      List.contains_cons]
    cases a <;> simp [applyAction] <;> split <;> simp

theorem contains_ignorePreviousRules (entries : List Entry) (q : Request) :
    ((entries.filter (·.counts q)).map (·.action)).contains .ignorePreviousRules =
      clears entries q := by
  rw [clears, Bool.eq_iff_iff]
  simp [and_assoc]

/-- A list takes back what was in effect before it if one of its entries ignores previous rules. -/
theorem effects_append (entries later : List Entry) (q : Request) :
    effects (entries ++ later) q =
      (if clears later q then [] else effects entries q) ++ effects later q := by
  rw [effects, List.filter_append, List.map_append, List.foldl_append, foldl_applyAction,
    contains_ignorePreviousRules]
  rfl

/-- Entries that ignore no previous rules all take effect. -/
theorem effects_of_not_ignoring {entries : List Entry}
    (h : ∀ e ∈ entries, e.action ≠ .ignorePreviousRules) (q : Request) :
    effects entries q = (entries.filter (·.counts q)).map (·.action) := by
  induction entries with
  | nil => rfl
  | cons e entries ih =>
    have hlater : ∀ d ∈ entries, d.action ≠ .ignorePreviousRules := fun d hd => h d (.tail _ hd)
    have hclears : clears entries q = false := by
      rw [clears, List.any_eq_false]
      intro d hd
      simp [hlater d hd]
    have he : applyAction [] e.action = [e.action] := by
      have := h e (.head _)
      cases haction : e.action <;> simp_all [applyAction]
    rw [show e :: entries = [e] ++ entries from rfl, effects_append, hclears, ih hlater]
    by_cases hcounts : e.counts q = true <;> simp [effects, hcounts, he]

/-- Entries that all ignore previous rules leave nothing in effect. -/
theorem effects_of_ignoring {entries : List Entry}
    (h : ∀ e ∈ entries, e.action = .ignorePreviousRules) (q : Request) :
    effects entries q = [] := by
  induction entries with
  | nil => rfl
  | cons e entries ih =>
    rw [show e :: entries = [e] ++ entries from rfl, effects_append,
      ih fun d hd => h d (.tail _ hd)]
    by_cases hcounts : e.counts q = true <;> simp [effects, hcounts, h e (.head _), applyAction]

/-! ## Sections -/

section
variable {κ α : Type} [DecidableEq κ] (key : α → κ) (entry : α → Entry)

theorem clears_arrange (keys : List κ) (l : List α) (q : Request) :
    clears ((arrange keys key l).map entry) q = true ↔
      ∃ d ∈ l, key d ∈ keys ∧ (entry d).counts q = true ∧
        (entry d).action = .ignorePreviousRules := by
  simp only [clears, List.any_map, List.any_eq_true, mem_arrange, Function.comp_apply,
    Bool.and_eq_true, beq_iff_eq, and_assoc]

/-- The entry counts, and no later section has an entry that counts and ignores previous rules. -/
def isInEffect (keys : List κ) (l : List α) (q : Request) (c : α) : Bool :=
  (entry c).counts q && (entry c).action != .ignorePreviousRules &&
    !l.any fun d => (entry d).counts q && (entry d).action == .ignorePreviousRules &&
      decide ([key c, key d].Sublist keys)

variable {key entry}

theorem isInEffect_iff {keys : List κ} {l : List α} {q : Request} {c : α} :
    isInEffect key entry keys l q c = true ↔
      (entry c).counts q = true ∧ (entry c).action ≠ .ignorePreviousRules ∧
        ∀ d ∈ l, (entry d).counts q = true → (entry d).action = .ignorePreviousRules →
          ¬[key c, key d].Sublist keys := by
  simp only [isInEffect, Bool.and_eq_true, bne_iff_ne, Bool.not_eq_true', List.any_eq_false,
    beq_iff_eq, decide_eq_true_eq, and_assoc, not_and]

section
variable {l : List α}
  (hl : ∀ c ∈ l, ∀ d ∈ l, key c = key d → (entry c).action = .ignorePreviousRules →
    (entry d).action = .ignorePreviousRules)
include hl

/-- What is in effect after one section. -/
theorem effects_section (k : κ) (q : Request) :
    effects ((l.filter (key · == k)).map entry) q =
      ((l.filter (key · == k)).filter fun c =>
        (entry c).counts q && (entry c).action != .ignorePreviousRules).map
          fun c => (entry c).action := by
  by_cases h : ∃ c ∈ l, key c = k ∧ (entry c).action = .ignorePreviousRules
  · obtain ⟨c, hc, hkey, hignores⟩ := h
    have hall (d : α) (hd : d ∈ l.filter (key · == k)) :
        (entry d).action = .ignorePreviousRules := by
      obtain ⟨hd, hkey'⟩ := List.mem_filter.1 hd
      exact hl c hc d hd (hkey.trans (beq_iff_eq.1 hkey').symm) hignores
    rw [effects_of_ignoring, List.filter_eq_nil_iff.2, List.map_nil]
    · intro d hd
      simp [hall d hd]
    · intro e he
      obtain ⟨d, hd, rfl⟩ := List.mem_map.1 he
      exact hall d hd
  · have hnone (d : α) (hd : d ∈ l.filter (key · == k)) :
      (entry d).action ≠ .ignorePreviousRules := by
      obtain ⟨hd, hkey⟩ := List.mem_filter.1 hd
      exact fun hignores => h ⟨d, hd, beq_iff_eq.1 hkey, hignores⟩
    rw [effects_of_not_ignoring, List.filter_map, List.map_map]
    · congr 1
      refine List.filter_congr fun d hd => ?_
      simp [hnone d hd]
    · intro e he
      obtain ⟨d, hd, rfl⟩ := List.mem_map.1 he
      exact hnone d hd

/-- What is in effect after a list that is arranged by sections. -/
theorem effects_arrange {keys : List κ} (hkeys : keys.Nodup) (q : Request) :
    effects ((arrange keys key l).map entry) q =
      ((arrange keys key l).filter (isInEffect key entry keys l q)).map
        fun c => (entry c).action := by
  induction keys with
  | nil => rfl
  | cons k keys ih =>
    obtain ⟨hk, hkeys⟩ := List.nodup_cons.1 hkeys
    have hsplit : arrange (k :: keys) key l = l.filter (key · == k) ++ arrange keys key l := by
      rw [arrange, List.flatMap_cons]
      rfl
    have hclears := clears_arrange key entry keys l q
    -- a later section takes back the first one, and later sections each other as before
    have hfirst (c d : α) (hc : key c = k) :
        [key c, key d].Sublist (k :: keys) ↔ key d ∈ keys := by
      rw [hc, List.cons_sublist_cons, List.singleton_sublist]
    have hlater (c d : α) (hc : key c ∈ keys) :
        [key c, key d].Sublist (k :: keys) ↔ [key c, key d].Sublist keys := by
      refine ⟨fun h => ?_, fun h => h.cons k⟩
      cases h with
      | cons _ h => exact h
      | cons_cons _ h => exact absurd hc hk
    rw [hsplit, List.map_append, effects_append, effects_section hl, ih hkeys, List.filter_append,
      List.map_append]
    congr 1
    · split
      · rename_i h
        obtain ⟨d, hd, hd', hcounts, hignores⟩ := hclears.1 h
        rw [List.filter_eq_nil_iff.2, List.map_nil]
        intro c hc hin
        have hkey := beq_iff_eq.1 (List.mem_filter.1 hc).2
        exact (isInEffect_iff.1 hin).2.2 d hd hcounts hignores ((hfirst c d hkey).2 hd')
      · rename_i h
        congr 1
        refine List.filter_congr fun c hc => ?_
        have hkey := beq_iff_eq.1 (List.mem_filter.1 hc).2
        rw [Bool.eq_iff_iff, isInEffect_iff, Bool.and_eq_true, bne_iff_ne]
        refine and_congr_right fun _ => (and_iff_left_of_imp fun _ => ?_).symm
        intro d hd hcounts hignores hsub
        exact h (hclears.2 ⟨d, hd, (hfirst c d hkey).1 hsub, hcounts, hignores⟩)
    · congr 1
      refine List.filter_congr fun c hc => ?_
      have hkey := (mem_arrange.1 hc).2
      rw [Bool.eq_iff_iff, isInEffect_iff, isInEffect_iff]
      simp only [hlater c _ hkey]

theorem mem_effects_arrange {keys : List κ} (hkeys : keys.Nodup) (q : Request) (a : Action) :
    a ∈ effects ((arrange keys key l).map entry) q ↔
      ∃ c ∈ l, key c ∈ keys ∧ (entry c).action = a ∧ isInEffect key entry keys l q c = true := by
  rw [effects_arrange hl hkeys]
  simp only [List.mem_map, List.mem_filter, mem_arrange]
  exact ⟨fun ⟨c, ⟨⟨hc, hkey⟩, hin⟩, ha⟩ => ⟨c, hc, hkey, ha, hin⟩,
    fun ⟨c, hc, hkey, ha, hin⟩ => ⟨c, ⟨⟨hc, hkey⟩, hin⟩, ha⟩⟩

end

end

end Matcher

end ContentRules
