import ContentRules.Proofs.Text.Words
import ContentRules.Unicode.RowTable

/-!
What a search in a table finds: the row that holds a code point, if the rows are in order. The rows
of a table are computed from the characters of its text, and `codes` is the set of the code points
that they hold, as a number whose bits are the code points, so that a property of all rows can be
computed. Main statements: `row?_eq_some_iff`, `testBit_codes`.
-/

namespace ContentRules.Unicode

/-- A code point is the one of its character. -/
theorem toNat_ofNat {n : Nat} (h : n.isValidChar) : (Char.ofNat n).toNat = n := by
  rw [Char.ofNat, dif_pos h]
  rfl

variable {α : Type}

namespace Row

/-- The code point belongs to the run of the row. -/
def Holds (r : Row α) (n : Nat) : Prop := r.first ≤ n ∧ n ≤ r.last

end Row

namespace RowTable

variable {t : RowTable α} {r : Row α} {n : Nat}

/-- The runs are not empty, ascend and do not overlap. -/
structure IsAscending (rows : List (Row α)) : Prop where
  pairwise : rows.Pairwise (·.last < ·.first)
  nonempty : ∀ r ∈ rows, r.first ≤ r.last

/-- `IsAscending` of rows that do not start before a code point. -/
def ascendsFrom : Nat → List (Row α) → Bool
  | _, [] => true
  | n, r :: rows => n ≤ r.first && r.first ≤ r.last && ascendsFrom (r.last + 1) rows

theorem first_ge_of_ascendsFrom {rows : List (Row α)} (h : ascendsFrom n rows = true) :
    ∀ r ∈ rows, n ≤ r.first := by
  induction rows generalizing n with
  | nil => nofun
  | cons r rows ih =>
    simp only [ascendsFrom, Bool.and_eq_true, decide_eq_true_eq] at h
    refine List.forall_mem_cons.2 ⟨h.1.1, fun r' hr' => ?_⟩
    have := ih h.2 r' hr'
    omega

theorem isAscending_of_ascendsFrom {rows : List (Row α)} (h : ascendsFrom n rows = true) :
    IsAscending rows := by
  induction rows generalizing n with
  | nil => exact ⟨.nil, nofun⟩
  | cons r rows ih =>
    simp only [ascendsFrom, Bool.and_eq_true, decide_eq_true_eq] at h
    obtain ⟨⟨-, hr⟩, hrows⟩ := h
    exact ⟨List.pairwise_cons.2 ⟨first_ge_of_ascendsFrom hrows, (ih hrows).pairwise⟩,
      List.forall_mem_cons.2 ⟨hr, (ih hrows).nonempty⟩⟩

theorem mem_of_search {lo hi : Nat} (h : t.search n lo hi = some r) : r ∈ t.rows.toList := by
  fun_induction search t n lo hi with
  | case1 => cases h
  | case2 _ _ _ _ _ _ _ ih => exact ih h
  | case3 _ _ _ _ _ _ _ _ ih => exact ih h
  | case4 lo hi _ _ r' hr' =>
    cases h
    exact Array.mem_toList_iff.2 (Array.mem_of_getElem? hr')
  | case5 => cases h

theorem IsAscending.lt (ht : IsAscending t.rows.toList) {i j : Nat} {a b : Row α}
    (ha : t.rows[i]? = some a) (hb : t.rows[j]? = some b) (hij : i < j) : a.last < b.first := by
  obtain ⟨hi, rfl⟩ := Array.getElem?_eq_some_iff.1 ha
  obtain ⟨hj, rfl⟩ := Array.getElem?_eq_some_iff.1 hb
  exact List.pairwise_iff_getElem.1 ht.pairwise i j hi hj hij

theorem IsAscending.le (ht : IsAscending t.rows.toList) {i : Nat} {a : Row α}
    (ha : t.rows[i]? = some a) : a.first ≤ a.last :=
  ht.nonempty a (Array.mem_toList_iff.2 (Array.mem_of_getElem? ha))

/-- The search stays on the side of a row that holds the code point. -/
theorem search_of_holds (ht : IsAscending t.rows.toList) {lo hi i : Nat} (hsize : hi ≤ t.rows.size)
    (hlo : lo ≤ i) (hhi : i < hi) (hr : t.rows[i]? = some r) (hn : r.Holds n) :
    t.search n lo hi = some r := by
  obtain ⟨hfirst, hlast⟩ := hn
  fun_induction search t n lo hi with
  | case1 lo hi hlt mid hnone =>
    have := Array.getElem?_eq_none_iff.1 hnone
    omega
  | case2 lo hi hlt mid a ha hbelow ih =>
    have hle := ht.le ha
    have hi : i < mid := by
      rcases Nat.lt_trichotomy i mid with h | rfl | h
      · exact h
      · cases ha.symm.trans hr
        omega
      · have := ht.lt ha hr h
        omega
    exact ih (by omega) hlo hi
  | case3 lo hi hlt mid a ha _ habove ih =>
    have hle := ht.le ha
    have hi : mid < i := by
      rcases Nat.lt_trichotomy i mid with h | rfl | h
      · have := ht.lt hr ha h
        omega
      · cases ha.symm.trans hr
        omega
      · exact h
    exact ih hsize hi hhi
  | case4 lo hi hlt mid a ha hbelow habove =>
    rcases Nat.lt_trichotomy i mid with h | rfl | h
    · have := ht.lt hr ha h
      omega
    · exact ha.symm.trans hr
    · have := ht.lt ha hr h
      omega
  | case5 => omega

theorem row?_eq_some_iff (ht : IsAscending t.rows.toList) :
    t.row? n = some r ↔ r ∈ t.rows.toList ∧ r.Holds n := by
  constructor
  · intro h
    exact ⟨mem_of_search h, search_eq_some t n _ _ r h⟩
  · rintro ⟨hr, hn⟩
    obtain ⟨i, hlt, hi⟩ := Array.mem_iff_getElem.1 (Array.mem_toList_iff.1 hr)
    exact search_of_holds ht (Nat.le_refl _) (Nat.zero_le i) hlt
      (by rw [Array.getElem?_eq_getElem hlt, hi]) hn

/-! ## Computing with rows -/

/-- The code points of a run, as the bits of a number. -/
def runCodes (first last : Nat) : Nat := (Nat.pow 2 (last + 1 - first) - 1) <<< first

/-- The code points that rows hold, as the bits of a number. -/
def codes (rows : List (Row α)) : Nat := rows.foldr (fun r s => runCodes r.first r.last ||| s) 0

theorem testBit_runCodes (first last n : Nat) :
    (runCodes first last).testBit n = true ↔ first ≤ n ∧ n ≤ last := by
  rw [runCodes, Nat.pow_eq, Nat.testBit_shiftLeft, Nat.testBit_two_pow_sub_one, Bool.and_eq_true,
    decide_eq_true_eq, decide_eq_true_eq]
  omega

theorem testBit_codes (rows : List (Row α)) (n : Nat) :
    (codes rows).testBit n = true ↔ ∃ r ∈ rows, r.Holds n := by
  induction rows with
  | nil => simp [codes]
  | cons r rows ih =>
    rw [codes, List.foldr_cons, ← codes, Nat.testBit_or, Bool.or_eq_true, ih, testBit_runCodes]
    simp [Row.Holds]

/-! ## Tables written as texts -/

/-- The rows that a text writes. -/
def writtenRows (payload : Option (List Char) → α) (text : List Char) : List (Row α) :=
  ((Text.pieces Text.isBlank text).filter (!·.isEmpty)).map (row payload)

theorem rows_ofText (payload : Option (List Char) → α) (text : List Char) :
    (ofText payload (String.ofList text)).rows.toList = writtenRows payload text := by
  rw [ofText, writtenRows, String.toList_ofList, Text.words_eq]

end RowTable

end ContentRules.Unicode
