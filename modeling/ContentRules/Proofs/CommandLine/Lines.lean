import ContentRules.CommandLine.Input
import Mathlib.Data.List.DropRight

/-!
The lines that a run takes from its input, told without cutting the input up. Main statement:
`firstLines_iff`.
-/

namespace ContentRules.CommandLine

/-- The bytes are a line that is not empty, with carriage returns after it that do not count. -/
structure IsLine (s : List UInt8) (line : String) : Prop where
  ne_nil : line.toList ≠ []
  not_mem : 10 ∉ s
  last_ne : line.toList.getLast? ≠ some '\r'
  eq_append : ∃ returns, s = Text.bytes line ++ List.replicate returns 13

/-- The lines of an input before the first that is empty. A fault takes the place of the end, so
only an input without one has a last line. -/
inductive FirstLines (fault : Option String) : List UInt8 → List String → Prop
  | none (hend : fault = .none) (returns : Nat) : FirstLines fault (List.replicate returns 13) []
  | empty (returns : Nat) (rest : List UInt8) :
    FirstLines fault (List.replicate returns 13 ++ 10 :: rest) []
  | last (hend : fault = .none) {s : List UInt8} {line : String} (h : IsLine s line) :
    FirstLines fault s [line]
  | line {s rest : List UInt8} {line : String} {lines : List String} (h : IsLine s line)
    (hrest : FirstLines fault rest lines) : FirstLines fault (s ++ 10 :: rest) (line :: lines)

/-! ## One line -/

/-- A line without the carriage returns at its end. -/
def trimmedLine (s : List Char) : List Char := s.rdropWhile (· == '\r')

theorem trimmedLine_append_replicate (s : List Char) (n : Nat) :
    trimmedLine (s ++ List.replicate n '\r') = trimmedLine s := by
  induction n with
  | zero => simp
  | succ n ih =>
    rw [List.replicate_succ', ← List.append_assoc, trimmedLine,
      List.rdropWhile_concat_pos _ _ _ (by rfl)]
    exact ih

theorem exists_eq_trimmedLine (s : List Char) :
    ∃ n, s = trimmedLine s ++ List.replicate n '\r' := by
  refine ⟨(s.rtakeWhile (· == '\r')).length, ?_⟩
  have hreturns : ∀ c ∈ s.rtakeWhile (· == '\r'), c = '\r' := fun c hc => by
    simpa using List.mem_rtakeWhile_imp hc
  rw [← List.eq_replicate_of_mem hreturns]
  exact List.rdropWhile_append_rtakeWhile.symm

theorem getLast?_trimmedLine (s : List Char) : (trimmedLine s).getLast? ≠ some '\r' := by
  intro h
  obtain ⟨init, hinit⟩ := List.getLast?_eq_some_iff.1 h
  have hagain : trimmedLine (trimmedLine s) = trimmedLine s := List.rdropWhile_idempotent _ _
  rw [hinit, trimmedLine, List.rdropWhile_concat_pos _ _ _ (by rfl)] at hagain
  have hprefix : (init.rdropWhile (· == '\r')).length ≤ init.length :=
    (List.rdropWhile_prefix _ _).length_le
  rw [hagain, List.length_append] at hprefix
  exact absurd hprefix (by simp)

theorem bytes_returns (n : Nat) :
    Text.bytes (String.ofList (List.replicate n '\r')) = List.replicate n 13 := by
  induction n with
  | zero => rfl
  | succ n ih =>
    have hone : Text.bytes (String.ofList ['\r']) = [13] := by decide +kernel
    rw [List.replicate_succ, ← List.singleton_append, String.ofList_append, Text.bytes_append, hone,
      ih, List.singleton_append, List.replicate_succ]

namespace Input

theorem lineOf_eq_ok_iff {s : List UInt8} {line : String} :
    lineOf s = .ok line ↔
      ∃ text, Text.bytes text = s ∧ String.ofList (trimmedLine text.toList) = line := by
  unfold lineOf
  constructor
  · intro h
    split at h
    next text htext =>
      cases h
      exact ⟨text, Text.ofBytes?_eq_some_iff.1 htext, rfl⟩
    next => cases h
  · rintro ⟨text, rfl, rfl⟩
    rw [Text.ofBytes?_bytes]
    rfl

/-- A line with carriage returns after it is read as the line. -/
theorem lineOf_append_returns {line : String} (h : line.toList.getLast? ≠ some '\r') (n : Nat) :
    lineOf (Text.bytes line ++ List.replicate n 13) = .ok line := by
  refine lineOf_eq_ok_iff.2 ⟨line ++ String.ofList (List.replicate n '\r'), ?_, ?_⟩
  · rw [Text.bytes_append, bytes_returns]
  · have hline : trimmedLine line.toList = line.toList := by
      rw [trimmedLine, List.rdropWhile_eq_self_iff]
      intro hne hlast
      exact h (by rw [List.getLast?_eq_some_getLast hne]; simpa using hlast)
    rw [String.toList_append, String.toList_ofList, trimmedLine_append_replicate, hline,
      String.ofList_toList]

/-- What is read as a line is one, or it is empty. -/
theorem lineOf_cases {s : List UInt8} {line : String} (hs : 10 ∉ s) (h : lineOf s = .ok line) :
    line = "" ∧ (∃ n, s = List.replicate n 13) ∨ line ≠ "" ∧ IsLine s line := by
  obtain ⟨text, rfl, hline⟩ := lineOf_eq_ok_iff.1 h
  obtain ⟨n, hn⟩ := exists_eq_trimmedLine text.toList
  have hbytes : Text.bytes text = Text.bytes line ++ List.replicate n 13 := by
    rw [← hline, ← bytes_returns, ← Text.bytes_append, ← String.ofList_append, ← hn,
      String.ofList_toList]
  by_cases hempty : line = ""
  · exact .inl ⟨hempty, n, by rw [hbytes, hempty]; rfl⟩
  · refine .inr ⟨hempty, fun h => hempty (String.toList_eq_nil_iff.1 h), hs, ?_, n, hbytes⟩
    rw [← hline, String.toList_ofList]
    exact getLast?_trimmedLine _

end Input

theorem IsLine.lineOf_eq {s : List UInt8} {line : String} (h : IsLine s line) :
    Input.lineOf s = .ok line := by
  obtain ⟨n, rfl⟩ := h.eq_append
  exact Input.lineOf_append_returns h.last_ne n

theorem lineOf_returns (n : Nat) : Input.lineOf (List.replicate n 13) = .ok "" :=
  have hlast : "".toList.getLast? ≠ some '\r' := by decide
  Input.lineOf_append_returns hlast n

/-! ## All lines -/

namespace Input

variable {fault : Option String}

theorem pieces_of_not_mem {s : List UInt8} (hs : 10 ∉ s) :
    pieces ⟨s, fault⟩ = [match fault with | none => .ok s | some fault => .error fault] := by
  cases fault <;> simp [pieces, List.splitOn_eq_singleton hs]

theorem pieces_append_cons {s : List UInt8} (hs : 10 ∉ s) (rest : List UInt8) :
    pieces ⟨s ++ 10 :: rest, fault⟩ = .ok s :: pieces ⟨rest, fault⟩ := by
  have hne : rest.splitOn 10 ≠ [] := List.splitOn_ne_nil 10 rest
  cases fault <;>
    simp [pieces, List.splitOn_append_cons_self_of_not_mem hs, List.dropLast_cons_of_ne_nil hne]

theorem readLines_cons {lines : Array String} {s : List UInt8} {line : String}
    (h : lineOf s = .ok line) (rest : List (Except String (List UInt8))) :
    readLines lines (.ok s :: rest) =
      if line = "" then .ok lines.toList else readLines (lines.push line) rest := by
  have hbind : (Except.ok s : Except String (List UInt8)).bind lineOf = .ok line := h
  rw [readLines, hbind]
  simp only [String.isEmpty_iff]

theorem readLines_eq_ok {s : List UInt8} {lines : List String} (h : FirstLines fault s lines)
    (before : Array String) :
    readLines before (pieces ⟨s, fault⟩) = .ok (before.toList ++ lines) := by
  induction h generalizing before with
  | none hend n =>
    subst hend
    rw [pieces_of_not_mem (by simp), readLines_cons (lineOf_returns n), if_pos rfl, List.append_nil]
  | empty n rest =>
    rw [pieces_append_cons (by simp), readLines_cons (lineOf_returns n), if_pos rfl,
      List.append_nil]
  | last hend h =>
    subst hend
    rw [pieces_of_not_mem h.not_mem, readLines_cons h.lineOf_eq,
      if_neg fun he => h.ne_nil (String.toList_eq_nil_iff.2 he), readLines]
    simp
  | line h _ ih =>
    rw [pieces_append_cons h.not_mem, readLines_cons h.lineOf_eq,
      if_neg fun he => h.ne_nil (String.toList_eq_nil_iff.2 he), ih]
    simp

/-- What is read are the first lines of the input. -/
theorem exists_firstLines {s : List UInt8} {before : Array String} {lines : List String}
    (h : readLines before (pieces ⟨s, fault⟩) = .ok lines) :
    ∃ more, lines = before.toList ++ more ∧ FirstLines fault s more := by
  induction hn : s.length using Nat.strong_induction_on generalizing s before with
  | _ n ih =>
    by_cases hs : 10 ∈ s
    · obtain ⟨piece, rest, rfl, hpiece⟩ := List.eq_append_cons_of_mem hs
      rw [pieces_append_cons hpiece] at h
      cases hline : lineOf piece with
      | error fault =>
        have hbind : (Except.ok piece : Except String _).bind lineOf = .error fault := hline
        rw [readLines, hbind] at h
        cases h
      | ok line =>
        rw [readLines_cons hline] at h
        obtain ⟨rfl, m, rfl⟩ | ⟨hne, hline⟩ := lineOf_cases hpiece hline
        · cases h
          exact ⟨[], (List.append_nil _).symm, .empty m rest⟩
        · rw [if_neg hne] at h
          obtain ⟨more, rfl, hmore⟩ := ih rest.length (by simp at hn; omega) h rfl
          exact ⟨line :: more, by simp, .line hline hmore⟩
    · rw [pieces_of_not_mem hs] at h
      cases fault with
      | some fault => cases h
      | none =>
        cases hline : lineOf s with
        | error fault =>
          have hbind : (Except.ok s : Except String _).bind lineOf = .error fault := hline
          rw [readLines] at h
          dsimp only at h
          rw [hbind] at h
          cases h
        | ok line =>
          rw [readLines_cons hline] at h
          obtain ⟨rfl, m, rfl⟩ | ⟨hne, hline⟩ := lineOf_cases hs hline
          · cases h
            exact ⟨[], (List.append_nil _).symm, .none rfl m⟩
          · rw [if_neg hne, readLines] at h
            cases h
            exact ⟨[line], by simp, .last rfl hline⟩

/-- A run takes the lines before the first empty one; where a fault comes before it or the bytes are
no text, it takes none. -/
theorem firstLines_iff (i : Input) (lines : List String) :
    FirstLines i.fault i.bytes lines ↔ i.lines = .ok lines := by
  constructor
  · exact fun h => readLines_eq_ok h #[]
  · intro h
    obtain ⟨more, rfl, hmore⟩ := exists_firstLines h
    exact hmore

end Input

end ContentRules.CommandLine
