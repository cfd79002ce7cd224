import ContentRules.Proofs.Filter.RuleLines
import ContentRules.Proofs.Text.Trimming
import ContentRules.Text.Pieces

/-!
Rules that are read from the texts of other rules. They say the same, on lines of their own, and
nothing that is done to rules looks at their lines and texts. Main statements:
`anonymous_read_texts` and `applyCosmeticExceptions_anonymous`.
-/

namespace ContentRules

/-- The lines of a text. -/
def linesOf (text : String) : List String := (Text.pieces (· == '\n') text.toList).map String.ofList

theorem linesOf_intercalate {l : List String} (hne : l ≠ []) (hl : ∀ s ∈ l, '\n' ∉ s.toList) :
    linesOf ("\n".intercalate l) = l := by
  have hpieces : Text.pieces (· == '\n') ("\n".intercalate l).toList = l.map String.toList := by
    rw [String.toList_intercalate]
    apply Text.pieces_intercalate
    · exact mt List.map_eq_nil_iff.1 hne
    · intro s hs
      obtain ⟨t, ht, rfl⟩ := List.mem_map.1 hs
      exact hl t ht
  rw [linesOf, hpieces, List.map_map]
  exact (List.map_congr_left fun _ _ => String.ofList_toList).trans (List.map_id _)

namespace Rule

/-- What a rule says, without its line and its text. -/
def anonymous (r : Rule) : Rule := { r with line := 0, text := "" }

/-! ## Reading -/

/-- Blanks around a line do not count. -/
theorem read_trimmed (number : Nat) (rawLine : String) :
    read number (Text.trimmed rawLine) = read number rawLine := by
  unfold read
  rw [Text.trimmed, String.toList_ofList, Text.trim_trim]

/-- The text of a rule is read as the same rule on any line. -/
theorem read_text {number : Nat} {line : String} {r : Rule}
    (h : read number line = .ok (some r)) (number' : Nat) :
    read number' r.text = .ok (some { r with line := number' }) := by
  have htext : r.text = Text.trimmed line := congrArg Rule.text (FilterList.eq_of_read h)
  have hsame : read number' r.text = read number' line := by rw [htext, read_trimmed]
  obtain ⟨s, hs, hr⟩ := read_eq_some_iff.1 h
  rw [hsame]
  exact read_eq_some_iff.2 ⟨s, hs, by rw [← hr]⟩

end Rule

open Rule

/-- The texts of rules are read as these rules, in their order. -/
theorem anonymous_read_texts {rules : List Rule}
    (h : ∀ r ∈ rules, ∀ number, Rule.read number r.text = .ok (some { r with line := number })) :
    (FilterList.read (rules.map (·.text))).rules.map anonymous = rules.map anonymous := by
  have hread (n : Nat) : (FilterList.ofResults (((rules.map (·.text)).zipIdx n).filterMap
      fun x => FilterList.readLine x.2 x.1)).rules.map anonymous = rules.map anonymous := by
    induction rules generalizing n with
    | nil => rfl
    | cons r rules ih =>
      have hline : FilterList.readLine n r.text = some (.ok { r with line := n }) := by
        rw [FilterList.readLine, h r (.head _)]
      have hrest := ih (fun s hs => h s (.tail _ hs)) (n + 1)
      rw [List.map_cons, List.zipIdx_cons, List.filterMap_cons, hline, List.map_cons, ← hrest]
      rfl
  exact hread 0

/-! ## Exceptions -/

theorem exceptionsFor_anonymous (r : Rule) (exceptions : List Rule) :
    r.anonymous.exceptionsFor (Index.ofList (fun e => e.body.target?) (exceptions.map anonymous)) =
      (r.exceptionsFor (Index.ofList (fun e => e.body.target?) exceptions)).map anonymous := by
  have hbody : r.anonymous.body = r.body := rfl
  have hfilter (p : RuleBody → Bool) (l : List Rule) :
      (l.map anonymous).filter (fun e => p e.body) =
      (l.filter fun e => p e.body).map anonymous := by
    rw [List.filter_map]
    rfl
  unfold exceptionsFor
  rw [hbody]
  cases r.body.target? with
  | none => rfl
  | some target =>
    simp only [Index.find_ofList]
    rw [List.map_append, hfilter (fun b => b.target? == some target),
      hfilter (fun b => b.acceptsArguments r.body)]
    cases target with
    | scriptlet name => rw [hfilter (fun b => b.target? == some .anyScriptlet)]
    | cosmetic => rfl
    | anyScriptlet => rfl

theorem narrow?_anonymous (r : Rule) (exceptions : List Rule) :
    r.anonymous.narrow? (exceptions.map anonymous) = (r.narrow? exceptions).map anonymous := by
  have hexcluded : (exceptions.map anonymous).map (fun e => e.domains.permitted) =
      exceptions.map fun e => e.domains.permitted := by
    rw [List.map_map]
    rfl
  unfold narrow?
  dsimp only
  rw [hexcluded, Option.map_map]
  rfl

/-- The exceptions leave rules that say the same, whatever the lines of all rules are. -/
theorem applyCosmeticExceptions_anonymous (rules : List Rule) :
    (applyCosmeticExceptions (rules.map anonymous)).1 =
      (applyCosmeticExceptions rules).1.map anonymous := by
  have hfilter (p : RuleBody → Bool) : (rules.map anonymous).filter (fun r => p r.body) =
      (rules.filter fun r => p r.body).map anonymous := by
    rw [List.filter_map]
    rfl
  have hexceptions : (rules.map anonymous).filter Rule.isCosmeticException =
      (rules.filter Rule.isCosmeticException).map anonymous := hfilter RuleBody.isCosmeticException
  have hothers : (rules.map anonymous).filter (!·.isCosmeticException) =
      (rules.filter (!·.isCosmeticException)).map anonymous := hfilter (!·.isCosmeticException)
  simp only [applyCosmeticExceptions, hexceptions, hothers]
  rw [List.filterMap_map, List.map_filterMap]
  refine List.filterMap_congr fun r _ => ?_
  rw [Function.comp_apply, exceptionsFor_anonymous, narrow?_anonymous]

end ContentRules
