import ContentRules.Proofs.Unicode.RowTable
import ContentRules.Unicode.Composition
import Mathlib.Data.List.Induction

/-!
What holds of all canonical decompositions: they are complete, so nothing in them decomposes again,
and what composes to a character is its decomposition. The point takes part in none. The facts on
single rows are computed from the table. Main statements: `decompose_of_mem_decompose`,
`decompose_of_composite?`.
-/

namespace ContentRules.Unicode.Composition

open RowTable

/-! ## The rows -/

/-- What a row does not meet: the point and everything before it, the parts of Hangul syllables, the
syllables, and what is no character. -/
def isApart (r : Row Decomposition) : Bool :=
  0x2E < r.first && (r.last < 0x1100 || 0x1200 ≤ r.first) &&
  (r.last < 0xAC00 || 0xE000 ≤ r.first) && r.last < 0x110000

/-- What the text behind a row of the table says. -/
def readDecomposition (text : Option (List Char)) : Decomposition :=
  let numbers := ((text.map fun t => (Text.pieces (· == '.') t).map (Text.number 16)).getD [])
  ⟨(numbers.filter (0 < ·)).map Char.ofNat, !numbers.contains 0⟩

theorem decompositions_eq : decompositions = ofText readDecomposition decompositionText := rfl

/-- The decompositions in the rows are complete, and no composition has a point in it. -/
def areComplete (rows : List (Row Decomposition)) : Bool :=
  let held := codes rows
  ascendsFrom 0 rows && rows.all fun r =>
    isApart r && (!r.value.composes || !r.value.parts.contains '.') &&
      r.value.parts.all fun d => !isSyllable d.toNat && !held.testBit d.toNat

set_option maxRecDepth 400000 in
theorem areComplete_decompositions : areComplete decompositions.rows.toList = true := by
  have hliteral : ∃ text, decompositionText = String.ofList text ∧
      areComplete (writtenRows readDecomposition text) = true := by
    refine ⟨?text, ?literal, ?complete⟩
    case literal =>
      unfold decompositionText
      with_reducible exact rfl
    case complete => decide +kernel
  obtain ⟨text, htext, hcomplete⟩ := hliteral
  rwa [decompositions_eq, htext, rows_ofText]

theorem isAscending_decompositions : IsAscending decompositions.rows.toList :=
  isAscending_of_ascendsFrom (Bool.and_eq_true_iff.1 areComplete_decompositions).1

section
variable {r : Row Decomposition} (hr : r ∈ decompositions.rows.toList)
include hr

theorem row_isApart : isApart r = true := by
  have hall := List.all_eq_true.1 (Bool.and_eq_true_iff.1 areComplete_decompositions).2 r hr
  exact (Bool.and_eq_true_iff.1 (Bool.and_eq_true_iff.1 hall).1).1

theorem not_mem_parts_of_composes (hcomposes : r.value.composes = true) : '.' ∉ r.value.parts := by
  have hall := List.all_eq_true.1 (Bool.and_eq_true_iff.1 areComplete_decompositions).2 r hr
  have hpoint := (Bool.and_eq_true_iff.1 (Bool.and_eq_true_iff.1 hall).1).2
  simpa [hcomposes] using hpoint

end

/-- Outside the syllables, a character decomposes as its row says. -/
theorem decompose_eq {c : Char} (hc : isSyllable c.toNat = false) :
    decompose c = ((decompositions.row? c.toNat).map (·.value.parts)).getD [c] := by
  rw [decompose]
  dsimp only
  rw [hc, if_neg Bool.false_ne_true, RowTable.find?, Option.map_map]
  rfl

/-- A character that no row holds and that is no syllable stands for itself. -/
theorem decompose_eq_self {c : Char} (hc : isSyllable c.toNat = false)
    (hrow : ∀ r ∈ decompositions.rows.toList, ¬r.Holds c.toNat) : decompose c = [c] := by
  have hnone : decompositions.row? c.toNat = none := by
    cases h : decompositions.row? c.toNat with
    | none => rfl
    | some r =>
      obtain ⟨hr, hholds⟩ := (row?_eq_some_iff isAscending_decompositions).1 h
      exact absurd hholds (hrow r hr)
  rw [decompose_eq hc, hnone]
  rfl

/-- The parts of syllables, and what stands before the first row. -/
theorem decompose_eq_self_of_apart {c : Char}
    (hc : c.toNat ≤ 0x2E ∨ (0x1100 ≤ c.toNat ∧ c.toNat < 0x1200)) : decompose c = [c] := by
  refine decompose_eq_self ?_ fun r hr ⟨hfirst, hlast⟩ => ?_
  · simp only [isSyllable, Bool.and_eq_false_iff, decide_eq_false_iff_not]
    omega
  · have hapart := row_isApart hr
    simp only [isApart, Bool.and_eq_true, Bool.or_eq_true, decide_eq_true_eq] at hapart
    omega

/-- The parts of a syllable are characters of the block of parts. -/
theorem decompose_syllable {c : Char} (hc : isSyllable c.toNat = true) :
    decompose c =
      let i := c.toNat - 0xAC00
      [Char.ofNat (0x1100 + i / 588), Char.ofNat (0x1161 + i % 588 / 28)] ++
        if i % 28 = 0 then [] else [Char.ofNat (0x11A7 + i % 28)] := by
  rw [decompose]
  dsimp only
  rw [if_pos hc]
  split <;> rfl

/-- Decompositions are complete. -/
theorem decompose_of_mem_decompose {c d : Char} (h : d ∈ decompose c) : decompose d = [d] := by
  cases hc : isSyllable c.toNat with
  | true =>
    have hlt : c.toNat - 0xAC00 < 11172 := by
      simp only [isSyllable, Bool.and_eq_true, decide_eq_true_eq] at hc
      omega
    have hpart {n : Nat} (hn : 0x1100 ≤ n ∧ n < 0x1200) :
        decompose (Char.ofNat n) = [Char.ofNat n] := by
      refine decompose_eq_self_of_apart (.inr ?_)
      rwa [toNat_ofNat (.inl (by omega))]
    rw [decompose_syllable hc] at h
    dsimp only at h
    rcases List.mem_append.1 h with h | h
    · rcases List.mem_cons.1 h with h | h
      · rw [h]
        exact hpart (by omega)
      · rw [List.mem_singleton.1 h]
        exact hpart (by omega)
    · split at h
      · cases h
      · rw [List.mem_singleton.1 h]
        exact hpart (by omega)
  | false =>
    rw [decompose_eq hc] at h
    cases hrow : decompositions.row? c.toNat with
    | none =>
      rw [hrow] at h
      obtain rfl := List.mem_singleton.1 h
      rw [decompose_eq hc, hrow]
      rfl
    | some r =>
      rw [hrow] at h
      have hr := mem_of_search hrow
      have hall := List.all_eq_true.1 (Bool.and_eq_true_iff.1 areComplete_decompositions).2 r hr
      have hd := List.all_eq_true.1 (Bool.and_eq_true_iff.1 hall).2 d h
      simp only [Bool.and_eq_true, Bool.not_eq_true', Bool.eq_false_iff, ne_eq, testBit_codes] at hd
      refine decompose_eq_self (Bool.eq_false_iff.2 hd.1) fun r hr hholds => hd.2 ⟨r, hr, hholds⟩

/-! ## Composition -/

/-- Every composite of the table is that of a row. -/
theorem exists_row_of_composites {key : String} {p : Char} (h : composites[key]? = some p) :
    ∃ r ∈ decompositions.rows.toList, r.value.composes = true ∧ key = String.ofList r.value.parts ∧
      p = Char.ofNat r.first := by
  rw [composites, ← Array.foldl_toList] at h
  generalize decompositions.rows.toList = rows at h
  induction rows using List.reverseRecOn with
  | nil => simp at h
  | append_singleton rows r ih =>
    rw [List.foldl_append, List.foldl_cons, List.foldl_nil] at h
    have hearlier :=
      fun hin => (ih hin).imp fun r' hr' => And.imp_left (List.mem_append_left [r]) hr'
    split at h
    · rename_i hcomposes
      rw [Std.HashMap.getElem?_insert] at h
      split at h
      · rename_i hkey
        exact ⟨r, List.mem_append_right _ (.head _), hcomposes, (beq_iff_eq.1 hkey).symm,
          (Option.some.inj h).symm⟩
      · exact hearlier h
    · exact hearlier h

/-- The composites of the table. -/
theorem decompose_of_row {r : Row Decomposition} (hr : r ∈ decompositions.rows.toList) :
    decompose (Char.ofNat r.first) = r.value.parts := by
  have hapart := row_isApart hr
  have hle := isAscending_decompositions.nonempty r hr
  simp only [isApart, Bool.and_eq_true, Bool.or_eq_true, decide_eq_true_eq] at hapart
  have hvalid : (Char.ofNat r.first).toNat = r.first := by
    refine toNat_ofNat ?_
    rw [Nat.isValidChar]
    omega
  have hsyllable : isSyllable (Char.ofNat r.first).toNat = false := by
    rw [hvalid]
    simp only [isSyllable, Bool.and_eq_false_iff, decide_eq_false_iff_not]
    omega
  rw [decompose_eq hsyllable, hvalid,
    (row?_eq_some_iff isAscending_decompositions).2 ⟨hr, Nat.le_refl _, hle⟩]
  rfl

/-- The three ways to compose. -/
theorem composite?_cases {b c p : Char} (h : composite? b c = some p) :
    (∃ i j, i < 19 ∧ j < 21 ∧ b.toNat = 0x1100 + i ∧ c.toNat = 0x1161 + j ∧
      p = Char.ofNat (0xAC00 + (i * 21 + j) * 28)) ∨
    (∃ i k, i < 399 ∧ 0 < k ∧ k < 28 ∧ b.toNat = 0xAC00 + i * 28 ∧ c.toNat = 0x11A7 + k ∧
      p = Char.ofNat (0xAC00 + i * 28 + k)) ∨
    ∃ r ∈ decompositions.rows.toList, r.value.composes = true ∧ decompose b ++ [c] = r.value.parts ∧
      p = Char.ofNat r.first := by
  rw [composite?] at h
  split at h
  · rename_i hparts
    have hp := (Option.some.inj h).symm
    refine .inl ⟨b.toNat - 0x1100, c.toNat - 0x1161, ?_, ?_, ?_, ?_, hp⟩ <;> omega
  split at h
  · rename_i hparts
    have hp := (Option.some.inj h).symm
    simp only [isSyllable, Bool.and_eq_true, decide_eq_true_eq] at hparts
    have hbase : b.toNat = 0xAC00 + (b.toNat - 0xAC00) / 28 * 28 := by omega
    rw [hbase] at hp
    refine .inr (.inl ⟨(b.toNat - 0xAC00) / 28, c.toNat - 0x11A7, ?_, ?_, ?_, hbase, ?_, hp⟩) <;>
      omega
  · obtain ⟨r, hr, hcomposes, hkey, hp⟩ := exists_row_of_composites h
    exact .inr (.inr ⟨r, hr, hcomposes, String.ofList_injective hkey, hp⟩)

/-- What composes to a character is its decomposition. -/
theorem decompose_of_composite? {b c p : Char} (h : composite? b c = some p) :
    decompose p = decompose b ++ [c] := by
  have hself {d : Char} {n : Nat} (hd : d.toNat = n) : d = Char.ofNat n := by
    rw [← hd, Char.ofNat_toNat]
  have hsyllable {n : Nat} (hn : n < 11172) : decompose (Char.ofNat (0xAC00 + n)) =
      [Char.ofNat (0x1100 + n / 588), Char.ofNat (0x1161 + n % 588 / 28)] ++
        if n % 28 = 0 then [] else [Char.ofNat (0x11A7 + n % 28)] := by
    have hvalid : (Char.ofNat (0xAC00 + n)).toNat = 0xAC00 + n := toNat_ofNat (.inl (by omega))
    rw [decompose_syllable
      (by simp only [hvalid, isSyllable, Bool.and_eq_true, decide_eq_true_eq]; omega)]
    dsimp only
    rw [hvalid, Nat.add_sub_cancel_left]
  obtain ⟨i, j, hi, hj, hb, hc, rfl⟩ | ⟨i, k, hi, hk, hk', hb, hc, rfl⟩ | ⟨r, hr, -, hparts, rfl⟩ :=
    composite?_cases h
  · rw [hsyllable (by omega), decompose_eq_self_of_apart (.inr (by omega)), hself hb, hself hc,
      if_pos (by omega)]
    have hi : (i * 21 + j) * 28 / 588 = i := by omega
    have hj : (i * 21 + j) * 28 % 588 / 28 = j := by omega
    rw [hi, hj]
    rfl
  · rw [hself hb, hself hc, Nat.add_assoc, hsyllable (by omega), hsyllable (by omega),
      if_neg (by omega), if_pos (by omega)]
    have hi : (i * 28 + k) / 588 = i * 28 / 588 := by omega
    have hj : (i * 28 + k) % 588 / 28 = i * 28 % 588 / 28 := by omega
    have hk : (i * 28 + k) % 28 = k := by omega
    rw [hi, hj, hk, List.append_nil]
  · rw [decompose_of_row hr, hparts]

/-- A point neither composes with what follows it nor with what stands before it. -/
theorem composite?_point (c : Char) : composite? '.' c = none ∧ composite? c '.' = none := by
  have hpoint : decompose '.' = ['.'] := decompose_eq_self_of_apart (.inl (by decide))
  constructor
  all_goals
    rw [Option.eq_none_iff_forall_ne_some]
    intro p h
    obtain ⟨i, j, -, -, hb, hc, -⟩ | ⟨i, k, -, -, -, hb, hc, -⟩ | ⟨r, hr, hcomposes, hparts, -⟩ :=
      composite?_cases h
    · simp at hb hc
      omega
    · simp at hb hc
      omega
    · refine not_mem_parts_of_composes hr hcomposes ?_
      simp [← hparts, hpoint]

end ContentRules.Unicode.Composition
