import ContentRules.Proofs.Filter.BlankLines

/-!
The lines of a filter list that are neither blank nor comments. Each is a rule or fails, and a rule
keeps the text of its line. Main statements: `FilterList.read_cases` and
`FilterList.length_results`.
-/

namespace ContentRules

namespace FilterList

/-- The line is neither blank nor a comment. -/
def isRuleLine (line : String) : Bool :=
  !(Text.trim line.toList).isEmpty && !Rule.isComment (Text.trim line.toList)

/-- A line of the list that is neither blank nor a comment has the text, blanks around it aside. -/
def HoldsRule (lines : List String) (number : Nat) (text : String) : Prop :=
  ∃ line, lines[number]? = some line ∧ isRuleLine line = true ∧ text = Text.trimmed line

/-- A line that is neither blank nor a comment is a rule with the line's text, or it fails. -/
theorem read_cases (number : Nat) (line : String) :
    isRuleLine line = false ∧ Rule.read number line = .ok none ∨
      isRuleLine line = true ∧
        ((∃ r, Rule.read number line = .ok (some r) ∧ r.line = number ∧
            r.text = Text.trimmed line) ∨
          ∃ e, Rule.read number line = .error e) := by
  have hline : isRuleLine line =
      !((Text.trim line.toList).isEmpty || Rule.isComment (Text.trim line.toList)) := by
    rw [isRuleLine, Bool.not_or]
  unfold Rule.read
  dsimp only
  split
  case isTrue hnone => exact .inl ⟨by rw [hline, hnone]; rfl, rfl⟩
  case isFalse hsome =>
    refine .inr ⟨by rw [hline, Bool.eq_false_iff.2 hsome]; rfl, ?_⟩
    cases CosmeticRule.read? (Text.trim line.toList) with
    | error e => exact .inr ⟨e, rfl⟩
    | ok cosmetic =>
      cases cosmetic with
      | some rule => exact .inl ⟨_, rfl, rfl, rfl⟩
      | none =>
        dsimp only [bind, Except.bind]
        cases NetworkRule.read (Text.trim line.toList) with
        | error e => exact .inr ⟨e, rfl⟩
        | ok rule => exact .inl ⟨_, rfl, rfl, rfl⟩

/-- A rule has the number and the text of its line. -/
theorem eq_of_read {number : Nat} {line : String} {r : Rule}
    (h : Rule.read number line = .ok (some r)) :
    r = ⟨number, Text.trimmed line, r.domains, r.body⟩ := by
  obtain ⟨-, hread⟩ | ⟨-, ⟨s, hread, rfl, htext⟩ | ⟨e, hread⟩⟩ := read_cases number line
  all_goals cases h.symm.trans hread
  rw [← htext]

theorem isSome_readLine (number : Nat) (line : String) :
    (readLine number line).isSome = isRuleLine line := by
  obtain ⟨hline, hread⟩ | ⟨hline, ⟨r, hread, -⟩ | ⟨e, hread⟩⟩ := read_cases number line
  all_goals
    rw [readLine, hread, hline]
    rfl

theorem length_results (lines : List String) :
    (results lines).length = lines.countP isRuleLine := by
  have hlines : lines.countP isRuleLine =
      (lines.zipIdx.map (·.1)).countP isRuleLine := by rw [List.zipIdx_map_fst]
  rw [hlines, List.countP_map, results, List.length_filterMap_eq_countP]
  apply List.countP_congr
  intro x _
  rw [isSome_readLine]
  rfl

/-- Rules stand in the order of their lines. -/
theorem pairwise_line_rules (lines : List String) :
    (read lines).rules.Pairwise fun r s => r.line < s.line := by
  have hlines : (lines.zipIdx.map (·.2)).Pairwise (· < ·) := by
    rw [List.zipIdx_map_snd]
    exact List.pairwise_lt_range'
  have hresults : ((results lines).map lineOf).Pairwise (· < ·) :=
    .sublist (map_filterMap_sublist (fun _ _ => lineOf_readLine) _) hlines
  apply List.pairwise_map.1
  refine .sublist (map_filterMap_sublist ?_ _) hresults
  intro x r hx
  cases x <;> cases hx
  rfl

end FilterList

end ContentRules
