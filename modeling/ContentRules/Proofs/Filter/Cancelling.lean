import ContentRules.Proofs.Filter.LineOrder
import ContentRules.Proofs.Filter.NetworkLines
import ContentRules.Proofs.Filter.OptionStatements
import ContentRules.Proofs.Filter.RuleLines
import Mathlib.Tactic.MkIffOfInductiveProp

/-!
Which rules others cancel, in terms of what the lines of both say. A rule that cancels has the kind
and the pattern of the cancelled one and options that say the same, values of options without a
counterpart in rule lists aside: these are not kept when a line is read. Main statement:
`Cancellation.not_mem_rules_iff`.
-/

namespace ContentRules

/-! ## Keys -/

theorem sortedTexts_eq_iff {l m : List String} : sortedTexts l = sortedTexts m ↔ l.Perm m := by
  constructor
  · intro h
    have hl : (sortedTexts l).Perm l := List.mergeSort_perm l _
    rw [h] at hl
    exact hl.symm.trans (List.mergeSort_perm m _)
  · intro h
    have hsorted (l : List String) : (sortedTexts l).Pairwise (· ≤ ·) := by
      have hsort := @List.pairwise_mergeSort String (fun s t => decide (s ≤ t))
        (fun a b c hab hbc => by
          simpa using String.le_trans (of_decide_eq_true hab) (of_decide_eq_true hbc))
        (fun a b => by simpa using String.le_total a b) l
      simpa [sortedTexts] using hsort
    have hperm : (sortedTexts l).Perm (sortedTexts m) :=
      (List.mergeSort_perm l _).trans (h.trans (List.mergeSort_perm m _).symm)
    exact hperm.eq_of_pairwise (fun a b _ _ hab hba => String.le_antisymm hab hba) (hsorted l)
      (hsorted m)

namespace Options

/-- The options and sites are the same, whether or not they cancel others; the order of the lists of
sites and of unsupported options does not matter. -/
@[mk_iff]
structure SameKey (o o' : Options) (d d' : DomainList) : Prop where
  contentTypes : o.contentTypes = o'.contentTypes
  thirdParty : o.thirdParty = o'.thirdParty
  matchCase : o.matchCase = o'.matchCase
  important : o.important = o'.important
  scopes : o.scopes = o'.scopes
  unsupported : o.unsupported.Perm o'.unsupported
  permitted : d.permitted.Perm d'.permitted
  restricted : d.restricted.Perm d'.restricted

end Options

theorem RuleKey.exists_body_of_ofRule? {r : Rule} {k : RuleKey} (h : ofRule? r = some k) :
    ∃ isException pattern o, r.body = .network isException pattern o := by
  unfold ofRule? at h
  split at h
  · exact ⟨_, _, _, ‹_›⟩
  · cases h

theorem RuleKey.ofRule?_eq_iff {r s : Rule} {isException isException' : Bool}
    {pattern pattern' : String} {o o' : Options} (hr : r.body = .network isException pattern o)
    (hs : s.body = .network isException' pattern' o') :
    ofRule? r = ofRule? s ↔
      isException = isException' ∧ pattern = pattern' ∧ o.SameKey o' r.domains s.domains := by
  rw [ofRule?, ofRule?, hr, hs]
  simp only [Option.some.injEq, RuleKey.mk.injEq, Options.mk.injEq, DomainList.mk.injEq,
    sortedTexts_eq_iff, Options.sameKey_iff, true_and, and_assoc]

/-! ## Options that say the same -/

namespace Options

open Statement

/-- The statements say the same, in whatever order, and whether or not they cancel others. -/
@[mk_iff]
structure SaySame (l m : List Statement) : Prop where
  contentTypes : ∀ t, CountsFor l t ↔ CountsFor m t
  thirdParty : Statement.thirdParty l = Statement.thirdParty m
  matchCase : .matchCase ∈ l ↔ .matchCase ∈ m
  important : .important ∈ l ↔ .important ∈ m
  scopes : ∀ s, .scope s ∈ l ↔ .scope s ∈ m
  others : (Statement.others l).Perm (Statement.others m)
  permitted : (Statement.permitted l).Perm (Statement.permitted m)
  restricted : (Statement.restricted l).Perm (Statement.restricted m)

/-- The statement without the value of an option without counterpart. -/
def Statement.withoutValue : Statement → Statement
  | other name _ => other name none
  | st => st

/-- The statements as they are kept of a line. -/
def withoutValues (l : List Statement) : List Statement := l.map withoutValue

theorem mem_withoutValues {l : List Statement} {s : Statement} (hs : s.other? = none) :
    s ∈ withoutValues l ↔ s ∈ l := by
  have heq (a : Statement) : a.withoutValue = s ↔ a = s := by
    cases a with
    | other name value =>
      constructor
      all_goals
        rintro rfl
        cases hs
    | _ => rfl
  simp [withoutValues, heq]

theorem filterMap_withoutValues {α : Type} {f : Statement → Option α}
    (hf : ∀ name value, f (.other name value) = none) (l : List Statement) :
    (withoutValues l).filterMap f = l.filterMap f := by
  rw [withoutValues, List.filterMap_map]
  refine List.filterMap_congr fun st _ => ?_
  cases st with
  | other name value => exact (hf name none).trans (hf name value).symm
  | _ => rfl

theorem others_withoutValues (l : List Statement) :
    others (withoutValues l) = (others l).map fun x => (x.1, none) := by
  rw [others, others, withoutValues, List.filterMap_map, List.map_filterMap]
  refine List.filterMap_congr fun st _ => ?_
  cases st <;> rfl

/-- The set of content types is determined by its members. -/
theorem contentTypes_eq_iff {types types' : Option ContentTypes} (h : types ≠ some .default)
    (h' : types' ≠ some .default) :
    (∀ t, t ∈ types.getD .default ↔ t ∈ types'.getD .default) ↔ types = types' := by
  refine ⟨fun hsame => ?_, fun heq t => by rw [heq]⟩
  have hset := WordSet.ext hsame
  cases types with
  | none =>
    cases types' with
    | none => rfl
    | some set' => exact absurd (congrArg some hset).symm h'
  | some set =>
    cases types' with
    | none => exact absurd (congrArg some hset) h
    | some set' => exact congrArg some hset

section
variable {l m : List Statement} {o o' : Options} {d d' : DomainList}
  (h : Describes l o d) (h' : Describes m o' d')
include h h'

theorem contentTypes_withoutValues_iff :
    (∀ t, CountsFor (withoutValues l) t ↔ CountsFor (withoutValues m) t) ↔
      o.contentTypes = o'.contentTypes := by
  rw [← contentTypes_eq_iff h.ne_default h'.ne_default]
  simp only [h.contentTypes, h'.contentTypes, CountsFor, mem_withoutValues (s := .includes _) rfl,
    mem_withoutValues (s := .excludes _) rfl]

theorem others_withoutValues_iff :
    (others (withoutValues l)).Perm (others (withoutValues m)) ↔
      o.unsupported.Perm o'.unsupported := by
  rw [h.unsupported, h'.unsupported, others_withoutValues, others_withoutValues]
  constructor
  · intro hperm
    have hnames := hperm.map Prod.fst
    rwa [List.map_map, List.map_map] at hnames
  · intro hperm
    have hpairs := hperm.map fun name => (name, (none : Option String))
    rwa [List.map_map, List.map_map] at hpairs

/-- Without values, the statements say the same if all that is kept of them is the same. -/
theorem saySame_withoutValues_iff :
    SaySame (withoutValues l) (withoutValues m) ↔ o.SameKey o' d d' := by
  have hflag {b b' : Bool} {st : Statement} (hst : st.other? = none) (hl : b = true ↔ st ∈ l)
      (hm : b' = true ↔ st ∈ m) : (st ∈ withoutValues l ↔ st ∈ withoutValues m) ↔ b = b' := by
    rw [mem_withoutValues hst, mem_withoutValues hst, ← hl, ← hm]
    exact Bool.eq_iff_iff.symm
  have hscopes :
      (∀ s, .scope s ∈ withoutValues l ↔ .scope s ∈ withoutValues m) ↔ o.scopes = o'.scopes := by
    simp only [mem_withoutValues (s := .scope _) rfl, ← h.scopes, ← h'.scopes]
    exact ⟨WordSet.ext, fun heq s => by rw [heq]⟩
  have hparty (l : List Statement) :
      Statement.thirdParty (withoutValues l) = Statement.thirdParty l :=
    congrArg List.getLast? (filterMap_withoutValues (fun _ _ => rfl) l)
  have hpermitted (l : List Statement) :
      Statement.permitted (withoutValues l) = Statement.permitted l :=
    congrArg (List.flatMap _) (filterMap_withoutValues (fun _ _ => rfl) l)
  have hrestricted (l : List Statement) :
      Statement.restricted (withoutValues l) = Statement.restricted l :=
    congrArg (List.flatMap _) (filterMap_withoutValues (fun _ _ => rfl) l)
  rw [saySame_iff, sameKey_iff, contentTypes_withoutValues_iff h h', hparty, hparty, ← h.thirdParty,
    ← h'.thirdParty, hflag rfl h.matchCase h'.matchCase, hflag rfl h.important h'.important,
    hscopes, others_withoutValues_iff h h', hpermitted, hpermitted, ← h.permitted, ← h'.permitted,
    hrestricted, hrestricted, ← h.restricted, ← h'.restricted]

end

end Options

/-! ## Options of lines -/

namespace NetworkRule

/-- The text of the options of a line, if it has any. A line of a hosts file has none. -/
def optionText? (line : List Char) : Option (List Char) :=
  if (hostsFileHost? line).isSome then none
  else
    match line with
    | '@' :: '@' :: rule => (splitOptions (Text.trimStart rule)).2
    | rule => (splitOptions rule).2

/-- What the options of a line say. -/
def statements (isException : Bool) (line : List Char) : List Options.Statement :=
  (optionText? line).elim [] (Options.Statement.listOfText isException)

section
variable {isException : Bool} {d : DomainList} {pattern : String} {o : Options}

theorem describes_of_readParts {isException' : Bool} {patternText : List Char}
    {optionText : Option (List Char)}
    (h : readParts isException' patternText optionText = .ok (d, .network isException pattern o)) :
    Options.Describes (optionText.elim [] (Options.Statement.listOfText isException)) o d := by
  obtain ⟨o', hread, -, -, -, heq⟩ := readParts_eq_ok_iff.1 h
  cases heq
  cases optionText with
  | none =>
    cases hread
    exact Options.describes_nil
  | some text => exact Options.describes_of_read hread

/-- The options and sites of a rule are what its line says. -/
theorem describes_of_read {line : List Char}
    (h : NetworkRule.read line = .ok (d, .network isException pattern o)) :
    Options.Describes (statements isException line) o d := by
  unfold statements optionText?
  by_cases hhosts : (hostsFileHost? line).isSome = true
  · obtain ⟨host, hhost⟩ := Option.isSome_iff_exists.1 hhosts
    unfold NetworkRule.read at h
    rw [hhost] at h
    obtain ⟨site, -, h⟩ := bind_eq_ok.1 h
    cases h
    rw [if_pos hhosts]
    exact Options.describes_nil
  rw [if_neg hhosts]
  split
  · rw [read_excepts] at h
    exact describes_of_readParts h
  · rename_i hline
    have hmark : ¬['@', '@'] <+: line := by
      rintro ⟨rule, rfl⟩
      exact hline rule rfl
    rw [read_blocks (by simpa using hhosts) hmark] at h
    exact describes_of_readParts h

end

end NetworkRule

namespace Rule

/-- What the options of a rule say; only network rules have options. -/
def statements (r : Rule) : List Options.Statement :=
  match r.body with
  | .network isException _ _ => NetworkRule.statements isException r.text.toList
  | _ => []

/-- The rules block alike or make exceptions alike, and have one pattern. -/
def SharesPattern (r s : Rule) : Prop :=
  ∃ isException pattern o o', r.body = .network isException pattern o ∧
    s.body = .network isException pattern o'

theorem describes_statements {number : Nat} {line : String} {r : Rule}
    (h : Rule.read number line = .ok (some r)) {isException : Bool} {pattern : String} {o : Options}
    (hbody : r.body = .network isException pattern o) :
    Options.Describes r.statements o r.domains := by
  have hr := FilterList.eq_of_read h
  have htext : r.text.toList = Text.trim line.toList := by
    rw [congrArg Rule.text hr, Text.trimmed, String.toList_ofList]
  rw [hbody] at hr
  rw [hr] at h
  rw [statements, hbody]
  dsimp only
  rw [htext]
  exact NetworkRule.describes_of_read (read_eq_network_iff.1 h).2.2.2

/-- A rule cancels others if its line says so. -/
theorem isBadfilter_iff {number : Nat} {line : String} {r : Rule}
    (h : Rule.read number line = .ok (some r)) :
    r.isBadfilter = true ↔ .badfilter ∈ r.statements := by
  cases hbody : r.body with
  | network isException pattern o =>
    rw [← (describes_statements h hbody).badfilter, isBadfilter, hbody]
  | _ => simp [isBadfilter, statements, hbody]

/-- Rules have one key if they have one kind and pattern and say the same, values aside. -/
theorem exists_key_iff {number number' : Nat} {line line' : String} {r s : Rule}
    (hr : Rule.read number line = .ok (some r)) (hs : Rule.read number' line' = .ok (some s)) :
    (∃ k, RuleKey.ofRule? r = some k ∧ RuleKey.ofRule? s = some k) ↔ r.SharesPattern s ∧
      Options.SaySame (Options.withoutValues r.statements)
        (Options.withoutValues s.statements) := by
  constructor
  · rintro ⟨k, hkr, hks⟩
    obtain ⟨_, _, o, hbody⟩ := RuleKey.exists_body_of_ofRule? hkr
    obtain ⟨_, _, o', hbody'⟩ := RuleKey.exists_body_of_ofRule? hks
    obtain ⟨rfl, rfl, hsame⟩ := (RuleKey.ofRule?_eq_iff hbody hbody').1 (hkr.trans hks.symm)
    refine ⟨⟨_, _, o, o', hbody, hbody'⟩, ?_⟩
    exact (Options.saySame_withoutValues_iff (describes_statements hr hbody)
      (describes_statements hs hbody')).2 hsame
  · rintro ⟨⟨isException, pattern, o, o', hbody, hbody'⟩, hsay⟩
    have hsame := (Options.saySame_withoutValues_iff (describes_statements hr hbody)
      (describes_statements hs hbody')).1 hsay
    have hkey := (RuleKey.ofRule?_eq_iff hbody hbody').2 ⟨rfl, rfl, hsame⟩
    cases hk : RuleKey.ofRule? r with
    | none =>
      rw [RuleKey.ofRule?, hbody] at hk
      cases hk
    | some k => exact ⟨k, rfl, hkey.symm.trans hk⟩

end Rule

/-! ## Cancelled rules -/

namespace Cancellation

/-- A rule of a filter list that does not cancel others is itself cancelled if and only if some
rule of the list that cancels has its kind and pattern and says the same, values of options
without counterpart aside. -/
theorem not_mem_rules_iff {lines : List String} {r : Rule}
    (hr : r ∈ (FilterList.read lines).rules) (hbad : .badfilter ∉ r.statements) :
    r ∉ (ofRules (FilterList.read lines).rules).rules ↔
      ∃ b ∈ (FilterList.read lines).rules, .badfilter ∈ b.statements ∧ r.SharesPattern b ∧
        Options.SaySame (Options.withoutValues r.statements)
          (Options.withoutValues b.statements) := by
  obtain ⟨_, _, -, hread⟩ := FilterList.mem_rules.1 hr
  rw [← Rule.isBadfilter_iff hread, Bool.not_eq_true] at hbad
  rw [mem_rules]
  simp only [hr, hbad, true_and, not_forall, not_not, exists_prop]
  refine exists_congr fun b => and_congr_right fun hb => ?_
  obtain ⟨_, _, -, hreadb⟩ := FilterList.mem_rules.1 hb
  rw [Rule.isBadfilter_iff hreadb, Rule.exists_key_iff hread hreadb]

/-- A rule is cancelled although the rule that cancels gives its option another value. -/
theorem not_mem_rules_iff_values :
    let lines := ["||ads.com^$csp=a", "||ads.com^$csp=b,badfilter"]
    let r : Rule :=
      ⟨0, "||ads.com^$csp=a", {}, .network false "||ads.com^" { unsupported := ["csp"] }⟩
    r ∈ (FilterList.read lines).rules ∧ .badfilter ∉ r.statements ∧
      r ∉ (ofRules (FilterList.read lines).rules).rules ∧
      ∀ b ∈ (FilterList.read lines).rules, .badfilter ∈ b.statements →
        ¬Options.SaySame r.statements b.statements := by
  intro lines r
  let b : Rule := ⟨1, "||ads.com^$csp=b,badfilter", {},
    .network false "||ads.com^" { unsupported := ["csp"], badfilter := true }⟩
  have hrules : (FilterList.read lines).rules = [r, b] := by decide +kernel
  have hr : r.statements = [.other "csp" (some "a")] := by decide +kernel
  have hb : b.statements = [.other "csp" (some "b"), .badfilter] := by decide +kernel
  have hmem : r ∈ (FilterList.read lines).rules := by
    rw [hrules]
    exact .head _
  have hbad : .badfilter ∉ r.statements := by
    rw [hr]
    decide
  refine ⟨hmem, hbad, (not_mem_rules_iff hmem hbad).2 ⟨b, ?_, ?_, ⟨_, _, _, _, rfl, rfl⟩, ?_⟩, ?_⟩
  · rw [hrules]
    exact .tail _ (.head _)
  · rw [hb]
    exact .tail _ (.head _)
  · have hread : Rule.read 0 "||ads.com^$csp=a" = .ok (some r) := by decide +kernel
    have hread' : Rule.read 1 "||ads.com^$csp=b,badfilter" = .ok (some b) := by decide +kernel
    exact ((Rule.exists_key_iff hread hread').1 ⟨_, rfl, rfl⟩).2
  · intro b' hb' hcancels hsame
    rw [hrules] at hb'
    have heq : b' = b := by
      rcases List.mem_pair.1 hb' with rfl | rfl
      · exact absurd hcancels hbad
      · rfl
    rw [heq, hr, hb] at hsame
    exact absurd hsame.others (by decide)

end Cancellation

end ContentRules
