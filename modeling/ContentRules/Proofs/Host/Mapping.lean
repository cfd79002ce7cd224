import ContentRules.Host.Mapping
import ContentRules.Proofs.Ordered.Related
import ContentRules.Proofs.Text.Ascii
import ContentRules.Proofs.Unicode.Composition

/-!
Mapped texts are their own mapped form. The characters that stand for themselves are closed under
all that the mapping does: replacements consist of them, and so do their decompositions and what
they compose to. The facts on single rows are computed from the tables. Main statement:
`isMapped_of_mem_pieces`.
-/

namespace ContentRules.Host

namespace Mapping

open Unicode RowTable
open Unicode.Composition (Decomposition decompositions decompose composite?)

/-! ## The rows -/

/-- The code points that stand for themselves, as the bits of a number. -/
def keptCodes (rows : List (Row Change)) : Nat :=
  codes (rows.filter fun r => r.value matches .keep) ||| (runCodes 0 0x40 ||| runCodes 0x5B 0x7F)

/-- The code points from one to another one are among the bits of a number. -/
def coversRun (set first last : Nat) : Bool :=
  (List.range (last + 1 - first)).all fun i => set.testBit (first + i)

/-- A row that keeps its code points has characters beyond ASCII only, and none with a replacement
of its own; any other row puts characters there that stand for themselves. -/
def rowIsSound (kept : Nat) (r : Row Change) : Bool :=
  match r.value with
  | .keep =>
    128 ≤ r.first && (r.last < 0x3002 || 0x3002 < r.first) &&
      (r.last < 0xFF01 || 0xFF61 < r.first) &&
      (r.last < 0xD800 || 0xE000 ≤ r.first) && r.last < 0x110000
  | .replace [code] => coversRun kept code (code + (r.last - r.first))
  | .replace codes => codes.all kept.testBit

/-- The parts of a character that stands for itself do so, and what such parts compose to. -/
def decompositionIsSound (kept : Nat) (r : Row Decomposition) : Bool :=
  let parts := r.value.parts.all fun d => kept.testBit d.toNat
  r.first == r.last && (!kept.testBit r.first || parts) &&
    (!r.value.composes || !parts || kept.testBit r.first)

def areSound (rows : List (Row Change)) (decompositions : List (Row Decomposition)) : Bool :=
  let kept := keptCodes rows
  ascendsFrom 0 rows && rows.all (rowIsSound kept) &&
    decompositions.all (decompositionIsSound kept) &&
    coversRun kept 0x1100 0x1112 && coversRun kept 0x1161 0x1175 && coversRun kept 0x11A8 0x11C2 &&
    coversRun kept 0xAC00 0xD7A3

/-- What the text behind a row of the table says. -/
def readChange : Option (List Char) → Change
  | none => .keep
  | some [] => .replace []
  | some t => .replace ((Text.pieces (· == '.') t).map (Text.number 16))

theorem table_eq : table = ofText readChange tableText := rfl

set_option maxRecDepth 400000 in
theorem areSound_tables : areSound table.rows.toList decompositions.rows.toList = true := by
  have hliteral : ∃ text parts, tableText = String.ofList text ∧
      Composition.decompositionText = String.ofList parts ∧
      areSound (writtenRows readChange text)
        (writtenRows Composition.readDecomposition parts) = true := by
    refine ⟨?text, ?parts, ?literal, ?literal', ?sound⟩
    case literal =>
      unfold tableText
      with_reducible exact rfl
    case literal' =>
      unfold Composition.decompositionText
      with_reducible exact rfl
    case sound => decide +kernel
  obtain ⟨text, parts, htext, hparts, hsound⟩ := hliteral
  rwa [table_eq, htext, rows_ofText, Composition.decompositions_eq, hparts, rows_ofText]

/-! ## Characters that stand for themselves -/

/-- The character of a code point stands for itself. -/
def IsKept (n : Nat) : Prop := (keptCodes table.rows.toList).testBit n = true

theorem testBit_keptCodes (rows : List (Row Change)) (n : Nat) :
    (keptCodes rows).testBit n = true ↔
      (∃ r ∈ rows, r.value = .keep ∧ r.Holds n) ∨ n ≤ 0x40 ∨ (0x5B ≤ n ∧ n ≤ 0x7F) := by
  have hkeep (r : Row Change) : (r.value matches .keep) = true ↔ r.value = .keep := by
    cases r.value <;> simp
  simp only [keptCodes, Nat.testBit_or, Bool.or_eq_true, testBit_codes, testBit_runCodes,
    List.mem_filter, hkeep, and_assoc, Nat.zero_le, true_and]

theorem isKept_iff {n : Nat} :
    IsKept n ↔
      (∃ r ∈ table.rows.toList, r.value = .keep ∧ r.Holds n) ∨ n ≤ 0x40 ∨ (0x5B ≤ n ∧ n ≤ 0x7F) :=
  testBit_keptCodes table.rows.toList n

theorem of_coversRun {set first last n : Nat} (h : coversRun set first last = true)
    (hfirst : first ≤ n) (hlast : n ≤ last) : set.testBit n = true := by
  have hn := List.all_eq_true.1 h (n - first) (List.mem_range.2 (by omega))
  rwa [Nat.add_sub_cancel' hfirst] at hn

theorem isAscending_table : IsAscending table.rows.toList := by
  have hsound := areSound_tables
  simp only [areSound, Bool.and_eq_true] at hsound
  exact isAscending_of_ascendsFrom hsound.1.1.1.1.1.1

theorem rowIsSound_of_mem {r : Row Change} (hr : r ∈ table.rows.toList) :
    rowIsSound (keptCodes table.rows.toList) r = true := by
  have hsound := areSound_tables
  simp only [areSound, Bool.and_eq_true] at hsound
  exact List.all_eq_true.1 hsound.1.1.1.1.1.2 r hr

theorem decompositionIsSound_of_mem {r : Row Decomposition} (hr : r ∈ decompositions.rows.toList) :
    decompositionIsSound (keptCodes table.rows.toList) r = true := by
  have hsound := areSound_tables
  simp only [areSound, Bool.and_eq_true] at hsound
  exact List.all_eq_true.1 hsound.1.1.1.1.2 r hr

/-- The letters and syllables of Hangul stand for themselves. -/
theorem isKept_hangul {n : Nat} (h : (0x1100 ≤ n ∧ n ≤ 0x1112) ∨ (0x1161 ≤ n ∧ n ≤ 0x1175) ∨
    (0x11A8 ≤ n ∧ n ≤ 0x11C2) ∨ (0xAC00 ≤ n ∧ n ≤ 0xD7A3)) : IsKept n := by
  have hsound := areSound_tables
  simp only [areSound, Bool.and_eq_true] at hsound
  obtain ⟨⟨⟨⟨-, hleading⟩, hvowel⟩, htrailing⟩, hsyllable⟩ := hsound
  rcases h with ⟨hn, hn'⟩ | ⟨hn, hn'⟩ | ⟨hn, hn'⟩ | ⟨hn, hn'⟩
  · exact of_coversRun hleading hn hn'
  · exact of_coversRun hvowel hn hn'
  · exact of_coversRun htrailing hn hn'
  · exact of_coversRun hsyllable hn hn'

section
variable {r : Row Change} (hr : r ∈ table.rows.toList) {n : Nat} (hn : r.Holds n)
include hr hn

/-- The code points that a row keeps lie apart from ASCII and its full-width forms. -/
theorem apart_of_keep (hkeep : r.value = .keep) :
    128 ≤ n ∧ n ≠ 0x3002 ∧ (n < 0xFF01 ∨ 0xFF61 < n) ∧ n.isValidChar := by
  have hsound := rowIsSound_of_mem hr
  obtain ⟨hfirst, hlast⟩ := hn
  simp only [rowIsSound, hkeep, Bool.and_eq_true, Bool.or_eq_true, decide_eq_true_eq] at hsound
  refine ⟨?_, ?_, ?_, ?_⟩
  · omega
  · omega
  · omega
  · simp only [Nat.isValidChar]
    omega

/-- A row with one replacement moves its code points to ones that stand for themselves. -/
theorem isKept_of_replace_singleton {code : Nat} (hvalue : r.value = .replace [code]) :
    IsKept (code + (n - r.first)) := by
  have hsound := rowIsSound_of_mem hr
  rw [rowIsSound, hvalue] at hsound
  obtain ⟨hfirst, hlast⟩ := hn
  exact of_coversRun hsound (by omega) (by omega)

omit hn in
theorem isKept_of_replace {codes : List Nat} (hvalue : r.value = .replace codes)
    (hmany : ∀ code, codes ≠ [code]) : ∀ code ∈ codes, IsKept code := by
  have hsound := rowIsSound_of_mem hr
  rw [rowIsSound, hvalue] at hsound
  split at hsound
  · rename_i hkeep
    cases hkeep
  · rename_i code hone
    exact (hmany code (Change.replace.inj hone)).elim
  · rename_i hall
    cases hall
    exact List.all_eq_true.1 hsound

end

/-- A number that stands for itself is a code point. -/
theorem IsKept.toNat_ofNat {n : Nat} (h : IsKept n) : (Char.ofNat n).toNat = n := by
  refine Unicode.toNat_ofNat ?_
  rcases isKept_iff.1 h with ⟨r, hr, hkeep, hn⟩ | hlow
  · exact (apart_of_keep hr hn hkeep).2.2.2
  · simp only [Nat.isValidChar]
    omega

theorem IsKept.ofNat {n : Nat} (h : IsKept n) : IsKept (Char.ofNat n).toNat := by
  rwa [h.toNat_ofNat]

/-- Capital letters do not stand for themselves. -/
theorem IsKept.not_isUpper {c : Char} (h : IsKept c.toNat) : c.isUpper = false := by
  have hlow : c.toNat < 0x41 ∨ 0x5A < c.toNat := by
    rcases isKept_iff.1 h with ⟨r, hr, hkeep, hn⟩ | hlow
    · have := (apart_of_keep hr hn hkeep).1
      omega
    · omega
  have hval : c.val.toNat = c.toNat := rfl
  have h65 : ('A' : Char).val.toNat = 0x41 := rfl
  have h90 : ('Z' : Char).val.toNat = 0x5A := rfl
  delta Char.isUpper
  rw [decide_eq_false_iff_not, ge_iff_le, UInt32.le_iff_toNat_le, UInt32.le_iff_toNat_le]
  omega

/-- Small letters of ASCII are in ASCII, and no capital letter is left. -/
theorem toLower_cases {c : Char} (hc : c.toNat < 128) :
    c.toLower.toNat ≤ 0x40 ∨ (0x5B ≤ c.toLower.toNat ∧ c.toLower.toNat ≤ 0x7F) :=
  Text.forall_ascii (P := fun c => c.toLower.toNat ≤ 0x40 ∨
    (0x5B ≤ c.toLower.toNat ∧ c.toLower.toNat ≤ 0x7F)) (by decide +kernel) hc

theorem toLower_eq_self {c : Char} (hc : c.toNat < 128) (hlower : c.toNat ≤ 0x40 ∨ 0x5B ≤ c.toNat) :
    c.toLower = c :=
  Text.forall_ascii (P := fun c => c.toNat ≤ 0x40 ∨ 0x5B ≤ c.toNat → c.toLower = c)
    (by decide +kernel) hc hlower

/-- What replaces a character stands for itself. -/
theorem isKept_of_mem_replacement {c : Char} {l : List Char} (h : replacement? c = some l) :
    ∀ d ∈ l, IsKept d.toNat := by
  have hlower {b : Char} (hb : b.toNat < 128) : ∀ d ∈ [b.toLower], IsKept d.toNat := by
    simpa using isKept_iff.2 (.inr (toLower_cases hb))
  rw [replacement?] at h
  split at h
  · rename_i hlow
    obtain rfl := Option.some.inj h
    exact hlower hlow
  split at h
  · obtain rfl := Option.some.inj h
    simpa using isKept_iff.2 (.inr (.inl (by decide)))
  split at h
  · rename_i hwide
    obtain rfl := Option.some.inj h
    simp only [isFullWidth, Bool.and_eq_true, decide_eq_true_eq] at hwide
    refine hlower ?_
    rw [Unicode.toNat_ofNat (.inl (by omega))]
    omega
  split at h
  · cases h
  · rename_i r hrow
    obtain ⟨hr, hn⟩ := (row?_eq_some_iff isAscending_table).1 hrow
    split at h
    · rename_i hkeep
      obtain rfl := Option.some.inj h
      simpa using isKept_iff.2 (.inl ⟨r, hr, hkeep, hn⟩)
    · rename_i code hvalue
      obtain rfl := Option.some.inj h
      simpa using (isKept_of_replace_singleton hr hn hvalue).ofNat
    · rename_i codes hmany hvalue
      obtain rfl := Option.some.inj h
      intro d hd
      obtain ⟨code, hcode, rfl⟩ := List.mem_map.1 hd
      exact (isKept_of_replace hr hvalue hmany code hcode).ofNat

theorem replacement?_of_isKept {c : Char} (h : IsKept c.toNat) : replacement? c = some [c] := by
  rw [replacement?]
  rcases isKept_iff.1 h with ⟨r, hr, hkeep, hn⟩ | hlow
  · obtain ⟨hascii, hstop, hwide, -⟩ := apart_of_keep hr hn hkeep
    rw [if_neg (by omega), if_neg (by simp [isFullStop]; omega),
      if_neg (by simp [isFullWidth]; omega), (row?_eq_some_iff isAscending_table).2 ⟨hr, hn⟩]
    dsimp only
    rw [hkeep]
  · rw [if_pos (by omega)]
    rw [toLower_eq_self (by omega) (by omega)]

/-! ## Normal forms -/

/-- What a character that stands for itself decomposes into stands for itself. -/
theorem isKept_of_mem_decompose {c d : Char} (hc : IsKept c.toNat) (hd : d ∈ decompose c) :
    IsKept d.toNat := by
  cases hsyllable : Composition.isSyllable c.toNat with
  | true =>
    have hpart {n : Nat} (hn : IsKept n) (hd : d = Char.ofNat n) : IsKept d.toNat := by
      rw [hd]
      exact hn.ofNat
    rw [Composition.decompose_syllable hsyllable] at hd
    simp only [Composition.isSyllable, Bool.and_eq_true, decide_eq_true_eq] at hsyllable
    rcases List.mem_append.1 hd with hd | hd
    · rcases List.mem_cons.1 hd with hd | hd
      · exact hpart (isKept_hangul (by omega)) hd
      · exact hpart (isKept_hangul (by omega)) (List.mem_singleton.1 hd)
    · split at hd
      · cases hd
      · exact hpart (isKept_hangul (by omega)) (List.mem_singleton.1 hd)
  | false =>
    rw [Composition.decompose_eq hsyllable] at hd
    cases hrow : decompositions.row? c.toNat with
    | none =>
      rw [hrow] at hd
      obtain rfl := List.mem_singleton.1 hd
      exact hc
    | some r =>
      rw [hrow] at hd
      obtain ⟨hr, hfirst, hlast⟩ := (row?_eq_some_iff Composition.isAscending_decompositions).1 hrow
      have hsound := decompositionIsSound_of_mem hr
      simp only [decompositionIsSound, Bool.and_eq_true, Bool.or_eq_true, Bool.not_eq_true',
        beq_iff_eq] at hsound
      obtain ⟨⟨hsingle, hparts⟩, -⟩ := hsound
      have hcode : c.toNat = r.first := by omega
      rcases hparts with hparts | hparts
      · rw [← hcode] at hparts
        exact absurd hc (Bool.eq_false_iff.1 hparts)
      · exact List.all_eq_true.1 hparts d hd

/-- What characters that stand for themselves compose to stands for itself. -/
theorem isKept_of_composite? (b c p : Char) (h : composite? b c = some p) (hb : IsKept b.toNat)
    (hc : IsKept c.toNat) : IsKept p.toNat := by
  obtain ⟨i, j, hi, hj, -, -, hp⟩ | ⟨i, k, hi, hk, hk', -, -, hp⟩ |
    ⟨r, hr, hcomposes, hparts, hp⟩ := Composition.composite?_cases h
  · rw [hp]
    exact (isKept_hangul (by omega)).ofNat
  · rw [hp]
    exact (isKept_hangul (by omega)).ofNat
  · have hsound := decompositionIsSound_of_mem hr
    simp only [decompositionIsSound, hcomposes, Bool.and_eq_true, Bool.or_eq_true,
      Bool.not_eq_true', Bool.true_eq_false, false_or] at hsound
    have hall :
        (r.value.parts.all fun d => (keptCodes table.rows.toList).testBit d.toNat) = true := by
      refine List.all_eq_true.2 fun d hd => ?_
      rw [← hparts] at hd
      rcases List.mem_append.1 hd with hd | hd
      · exact isKept_of_mem_decompose hb hd
      · obtain rfl := List.mem_singleton.1 hd
        exact hc
    rw [hp]
    rcases hsound.2 with hparts | hkept
    · exact absurd hall (Bool.eq_false_iff.1 hparts)
    · exact IsKept.ofNat hkept

/-- The normal form of characters that stand for themselves consists of such ones. -/
theorem isKept_of_mem_normalize {s : List Char} (hs : ∀ c ∈ s, IsKept c.toNat) :
    ∀ c ∈ Composition.normalize s, IsKept c.toNat := by
  rw [Composition.normalize]
  split
  · exact hs
  · refine @Composition.forall_mem_composeFrom (IsKept ·.toNat) isKept_of_composite? none [] _
      (by simp) (by simp) fun c hc => ?_
    rw [Composition.decomposed_eq] at hc
    rcases Composition.mem_inserted.1 (List.mem_reverse.1 hc) with hc | hc
    · cases hc
    · obtain ⟨b, hb, hcb⟩ := List.mem_flatMap.1 hc
      exact isKept_of_mem_decompose (hs b hb) hcb

/-! ## Mapped texts -/

theorem isKept_of_isMapped {s : List Char} (h : isMapped s = true) : ∀ c ∈ s, IsKept c.toNat := by
  intro c hc
  rw [isMapped, Bool.and_eq_true] at h
  have hreplaced := List.all_eq_true.1 h.1 c hc
  exact isKept_of_mem_replacement (beq_iff_eq.1 hreplaced) c (.head _)

/-- In ASCII only the capital letters change. -/
theorem map?_of_ascii {s : List Char} (hs : ∀ c ∈ s, c.toNat < 128) :
    map? s = some (Text.lower s) := by
  have hparts : s.mapM replacement? = some (s.map fun c => [c.toLower]) := by
    rw [mapM_eq_some_iff, List.forall₂_map_right_iff, List.forall₂_same]
    intro c hc
    rw [replacement?, if_pos (hs c hc)]
  have hlower : (s.map fun c => [c.toLower]).flatten = Text.lower s := by
    rw [← List.flatMap_def, Text.lower, List.map_eq_flatMap]
  rw [map?, hparts, Option.map_some, hlower, Composition.normalize, if_pos]
  refine List.all_eq_true.2 fun c hc => ?_
  obtain ⟨d, hd, rfl⟩ := List.mem_map.1 hc
  have hlow := toLower_cases (hs d hd)
  rw [decide_eq_true_eq]
  omega

section
variable {s mapped : List Char} (h : map? s = some mapped)
include h

/-- The characters of a mapped text stand for themselves. -/
theorem isKept_of_mem_map : ∀ c ∈ mapped, IsKept c.toNat := by
  obtain ⟨parts, hparts, rfl⟩ := Option.map_eq_some_iff.1 h
  refine isKept_of_mem_normalize fun c hc => ?_
  obtain ⟨part, hpart, hc⟩ := List.mem_flatten.1 hc
  obtain ⟨d, -, hd⟩ := exists_of_mem_forall₂ (mapM_eq_some_iff.1 hparts) hpart
  exact isKept_of_mem_replacement hd c hc

/-- The labels of a mapped text are their own mapped form. -/
theorem isMapped_of_mem_pieces :
    ∀ piece ∈ Text.pieces (· == '.') mapped, isMapped piece = true := by
  intro piece hpiece
  have hkept := isKept_of_mem_map h
  obtain ⟨parts, -, rfl⟩ := Option.map_eq_some_iff.1 h
  rw [isMapped, Composition.normalize_of_mem_pieces hpiece, beq_self_eq_true, Bool.and_true]
  refine List.all_eq_true.2 fun c hc => beq_iff_eq.2 ?_
  exact replacement?_of_isKept (hkept c ((Text.infix_of_mem_pieces hpiece).subset hc))

end

end Mapping

end ContentRules.Host
