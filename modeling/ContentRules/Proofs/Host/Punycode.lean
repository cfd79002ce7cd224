import ContentRules.Host.Punycode
import ContentRules.Proofs.Text.Pieces
import ContentRules.Proofs.Unicode.RowTable
import Mathlib.Tactic.Ring

/-!
Reading a label back from Punycode. While the encoder passes over the label for a code point, a
reader of what it has written has the characters of smaller code points, and those of this code
point that the encoder has passed; the number that the encoder has counted so far is the distance
from the place where the reader stands to its own. Main statement: `decode?_encode`.
-/

namespace ContentRules.Host.Punycode

/-! ## Numbers -/

theorem digitValue?_digitChar {d : Nat} (hd : d < base) : digitValue? (digitChar d) = some d := by
  have hall : ∀ d < base, digitValue? (digitChar d) = some d := by decide
  exact hall d hd

/-- A number is read back from its digits, whatever follows them. -/
theorem readNumber_append (bias weight place value n : Nat) (rest : List Char) :
    readNumber bias weight place value (numberDigits bias n place ++ rest) =
      some (value + n * weight, rest) := by
  induction n using Nat.strongRecOn generalizing weight place value with
  | ind n ih =>
    have hpos := threshold_pos place bias
    have hle := threshold_le place bias
    rw [numberDigits]
    split
    · rename_i hn
      have hmod : (n - threshold place bias) % (base - threshold place bias) <
          base - threshold place bias :=
            Nat.mod_lt _ (Nat.sub_pos_of_lt (Nat.lt_of_le_of_lt hle (by decide)))
      have hdivided := Nat.mod_add_div (n - threshold place bias) (base - threshold place bias)
      have hless : (n - threshold place bias) / (base - threshold place bias) < n :=
        Nat.lt_of_le_of_lt (Nat.div_le_self ..) (by omega)
      rw [List.cons_append, readNumber, digitValue?_digitChar (by omega)]
      dsimp only
      rw [if_neg (by omega), ih _ hless]
      generalize (n - threshold place bias) % (base - threshold place bias) = d at hdivided
      generalize (n - threshold place bias) / (base - threshold place bias) = q at hdivided
      have hsum : n = threshold place bias + d + (base - threshold place bias) * q := by omega
      have hvalue : n * weight = (threshold place bias + d) * weight +
          q * (weight * (base - threshold place bias)) := by
        conv_lhs => rw [hsum]
        ring
      rw [hvalue, Nat.add_assoc]
    · rename_i hn
      rw [List.singleton_append, readNumber, digitValue?_digitChar (by simp only [base]; omega)]
      dsimp only
      rw [if_pos (by omega)]

/-- A character that a number is written with. -/
def IsDigit (c : Char) : Prop := ∃ d < base, c = digitChar d

section
variable {c : Char} (h : IsDigit c)
include h

theorem IsDigit.ne_hyphen : c ≠ '-' := by
  obtain ⟨d, hd, rfl⟩ := h
  have hall : ∀ d < base, digitChar d ≠ '-' := by decide
  exact hall d hd

theorem IsDigit.ne_point : c ≠ '.' := by
  obtain ⟨d, hd, rfl⟩ := h
  have hall : ∀ d < base, digitChar d ≠ '.' := by decide
  exact hall d hd

theorem IsDigit.toNat_lt : c.toNat < 128 := by
  obtain ⟨d, hd, rfl⟩ := h
  have hall : ∀ d < base, (digitChar d).toNat < 128 := by decide
  exact hall d hd

end

theorem isDigit_of_mem_numberDigits {bias n place : Nat} {c : Char}
    (h : c ∈ numberDigits bias n place) : IsDigit c := by
  induction n using Nat.strongRecOn generalizing place with
  | ind n ih =>
    have hpos := threshold_pos place bias
    have hle := threshold_le place bias
    rw [numberDigits] at h
    split at h
    · rename_i hn
      have hmod : (n - threshold place bias) % (base - threshold place bias) <
          base - threshold place bias :=
            Nat.mod_lt _ (Nat.sub_pos_of_lt (Nat.lt_of_le_of_lt hle (by decide)))
      rcases List.mem_cons.1 h with rfl | h
      · exact ⟨_, by omega, rfl⟩
      · exact ih _ (Nat.lt_of_le_of_lt (Nat.div_le_self ..) (by omega)) h
    · obtain rfl := List.mem_singleton.1 h
      exact ⟨n, by simp only [base]; omega, rfl⟩

theorem numberDigits_ne_nil (bias n place : Nat) : numberDigits bias n place ≠ [] := by
  rw [numberDigits]
  split <;> exact List.cons_ne_nil _ _

/-! ## Reading one character -/

/-- The next number inserts the character whose code point and position it has been counted up
to. -/
theorem decodeFrom_number {bias code position delta k : Nat} {first : Bool} {output : List Char}
    {c : Char} (hcode : code ≤ c.toNat) (hk : k ≤ output.length)
    (hdelta : code * (output.length + 1) + (position + delta) = c.toNat * (output.length + 1) + k)
    (rest : List Char) :
    decodeFrom bias code position first output (numberDigits bias delta base ++ rest) =
      decodeFrom (adapt delta (output.length + 1) first) c.toNat (k + 1) false
        (output.insertIdx k c) rest := by
  obtain ⟨n, hn⟩ := Nat.exists_eq_add_of_le hcode
  have hi : position + delta = k + (output.length + 1) * n := by
    rw [hn] at hdelta
    have hexpand : (code + n) * (output.length + 1) =
        code * (output.length + 1) + (output.length + 1) * n := by ring
    omega
  have hdiv : (position + delta) / (output.length + 1) = n := by
    rw [hi, Nat.add_mul_div_left _ _ (Nat.succ_pos _), Nat.div_eq_of_lt (Nat.lt_succ_of_le hk),
      Nat.zero_add]
  have hmod : (position + delta) % (output.length + 1) = k := by
    rw [hi, Nat.add_mul_mod_self_left, Nat.mod_eq_of_lt (Nat.lt_succ_of_le hk)]
  have hvalid : ¬(0x10FFFF < c.toNat ∨ (0xD800 ≤ c.toNat ∧ c.toNat ≤ 0xDFFF)) := by
    have := c.valid
    simp only [UInt32.isValidChar, Nat.isValidChar] at this
    simp only [Char.toNat]
    omega
  have hne : (numberDigits bias delta base ++ rest).isEmpty = false :=
    List.isEmpty_eq_false_iff.2
      (List.append_ne_nil_of_left_ne_nil (numberDigits_ne_nil bias delta base) rest)
  have hread := readNumber_append bias 1 base position delta rest
  rw [Nat.mul_one] at hread
  conv_lhs => rw [decodeFrom]
  rw [if_neg (by rw [hne]; exact Bool.false_ne_true)]
  split
  · rename_i hnone
    cases hread.symm.trans hnone
  · rename_i hsome
    cases hread.symm.trans hsome
    dsimp only
    rw [hdiv, hmod, ← hn, if_neg hvalid, Nat.add_sub_cancel_left, Char.ofNat_toNat]

theorem decodeFrom_nil (bias code position : Nat) (first : Bool) (output : List Char) :
    decodeFrom bias code position first output [] = some output := by
  rw [decodeFrom, List.isEmpty_nil, if_pos rfl]

/-! ## Following the encoder -/

/-- The ASCII characters of a label. -/
def basicPart (label : List Char) : List Char := label.filter (·.toNat < 128)

/-- What stands before the numbers. -/
def leadPart (label : List Char) : List Char :=
  if (basicPart label).isEmpty then [] else basicPart label ++ ['-']

/-- What the reader has when the encoder passes over the label for a code point and stands
between two parts of it. -/
def standing (n : Nat) (front back : List Char) : List Char :=
  front.filter (·.toNat ≤ n) ++ back.filter (·.toNat < n)

/-- A reader of the digits that have been written so far stands before the place of the encoder, at
the distance that the encoder has counted. -/
structure Follows (label : List Char) (n : Nat) (front back digits : List Char) (p : Progress) :
    Prop where
  output : p.output = leadPart label ++ digits
  areDigits : ∀ c ∈ digits, IsDigit c
  count : p.count = (standing n front back).length
  started : (basicPart label).length ≤ p.count
  reads : ∃ code position, code ≤ n ∧
    code * (p.count + 1) + (position + p.delta) =
      n * (p.count + 1) + (front.filter (·.toNat ≤ n)).length ∧
    ∀ rest, decodeFrom initialBias initialCode 0 true (basicPart label) (digits ++ rest) =
      decodeFrom p.bias code position (p.count == (basicPart label).length)
        (standing n front back) rest

theorem insertIdx_append_length (s t : List Char) (c : Char) :
    (s ++ t).insertIdx s.length c = s ++ c :: t := by
  induction s with
  | nil => rfl
  | cons d s ih =>
    rw [List.cons_append, List.length_cons, List.insertIdx_succ_cons, ih, List.cons_append]

section
variable {label front back digits : List Char} {n : Nat} {p : Progress} {c : Char}

theorem standing_append_of_lt (hc : c.toNat < n) :
    standing n (front ++ [c]) back = standing n front (c :: back) := by
  simp [standing, hc, Nat.le_of_lt hc]

theorem standing_append_of_gt (hc : n < c.toNat) :
    standing n (front ++ [c]) back = standing n front (c :: back) := by
  simp [standing, Nat.not_le.2 hc, Nat.not_lt.2 (Nat.le_of_lt hc)]

theorem standing_append_of_eq (hc : c.toNat = n) :
    standing n (front ++ [c]) back =
      (standing n front (c :: back)).insertIdx (front.filter (·.toNat ≤ n)).length c := by
  rw [standing, standing, List.filter_cons_of_neg (by simp [hc]), insertIdx_append_length]
  simp [hc]

/-- What the encoder does at one character. -/
def passed (basic n : Nat) (p : Progress) (c : Char) : Progress :=
  if c.toNat < n then { p with delta := p.delta + 1 }
  else if c.toNat = n then
    { delta := 0
      bias := adapt p.delta (p.count + 1) (p.count == basic)
      count := p.count + 1
      output := p.output ++ numberDigits p.bias p.delta base }
  else p

theorem Follows.passed (h : Follows label n front (c :: back) digits p) :
    ∃ digits', Follows label n (front ++ [c]) back digits'
      (Punycode.passed (basicPart label).length n p c) := by
  obtain ⟨code, position, hcode, hdistance, hreads⟩ := h.reads
  unfold Punycode.passed
  split
  · rename_i hlt
    refine ⟨digits, h.output, h.areDigits, ?_, h.started, code, position, hcode, ?_, ?_⟩
    · rw [standing_append_of_lt hlt]
      exact h.count
    · rw [List.filter_append, List.filter_cons_of_pos (by simpa using Nat.le_of_lt hlt)]
      simp only [List.filter_nil, List.length_append, List.length_singleton]
      omega
    · rw [standing_append_of_lt hlt]
      exact hreads
  split
  · rename_i heq
    have hk : (front.filter (·.toNat ≤ n)).length ≤ (standing n front (c :: back)).length := by
      rw [standing, List.length_append]
      exact Nat.le_add_right _ _
    refine ⟨digits ++ numberDigits p.bias p.delta base, ?_, ?_, ?_, Nat.le_succ_of_le h.started, n,
      (front.filter (·.toNat ≤ n)).length + 1, Nat.le_refl n, ?_, fun rest => ?_⟩
    · rw [h.output, List.append_assoc]
    · exact List.forall_mem_append.2 ⟨h.areDigits, fun d => isDigit_of_mem_numberDigits⟩
    · rw [standing_append_of_eq heq, List.length_insertIdx_of_le_length hk, h.count]
    · rw [List.filter_append, List.filter_cons_of_pos (by simp [heq])]
      simp only [List.filter_nil, List.length_append, List.length_singleton, Nat.add_zero]
    · subst heq
      have hdistance' := hdistance
      rw [h.count] at hdistance'
      have hstarted : (p.count + 1 == (basicPart label).length) = false := by
        have := h.started
        rw [beq_eq_false_iff_ne]
        omega
      rw [List.append_assoc, hreads, decodeFrom_number hcode hk hdistance',
        standing_append_of_eq rfl]
      dsimp only
      rw [hstarted, h.count]
  · rename_i hge hne
    have hgt : n < c.toNat := by omega
    refine ⟨digits, h.output, h.areDigits, ?_, h.started, code, position, hcode, ?_, ?_⟩
    · rw [standing_append_of_gt hgt]
      exact h.count
    · rw [List.filter_append, List.filter_cons_of_neg (by simpa using hgt)]
      simpa using hdistance
    · rw [standing_append_of_gt hgt]
      exact hreads

theorem Follows.round (h : Follows label n front back digits p) :
    ∃ digits', Follows label n (front ++ back) [] digits'
      (encodeRound (basicPart label).length n back p) := by
  induction back generalizing front digits p with
  | nil =>
    rw [List.append_nil]
    exact ⟨digits, h⟩
  | cons c back ih =>
    obtain ⟨digits', h'⟩ := h.passed
    have hrest := ih h'
    rwa [List.append_assoc, List.singleton_append] at hrest

/-- A whole round done, the encoder stands before the next code point. -/
theorem Follows.next (h : Follows label n label [] digits p) :
    Follows label (n + 1) [] label digits { p with delta := p.delta + 1 } := by
  obtain ⟨code, position, hcode, hdistance, hreads⟩ := h.reads
  have hstanding : standing (n + 1) [] label = standing n label [] := by
    simp only [standing, List.filter_nil, List.nil_append, List.append_nil, Nat.lt_succ_iff]
  have hcount : p.count = (label.filter (·.toNat ≤ n)).length := by
    rw [h.count, standing, List.filter_nil, List.append_nil]
  refine ⟨h.output, h.areDigits, ?_, h.started, code, position, Nat.le_succ_of_le hcode, ?_, ?_⟩
  · rw [hstanding]
    exact h.count
  · rw [← hcount] at hdistance
    rw [List.filter_nil, List.length_nil, Nat.add_mul, Nat.one_mul]
    dsimp only
    omega
  · rw [hstanding]
    exact hreads

/-- Code points that do not occur are passed over. -/
theorem Follows.skip {m : Nat} (h : Follows label n [] label digits p) (hnm : n ≤ m)
    (hlabel : ∀ c ∈ label, c.toNat < m → c.toNat < n) :
    Follows label m [] label digits { p with delta := p.delta + (m - n) * (p.count + 1) } := by
  obtain ⟨code, position, hcode, hdistance, hreads⟩ := h.reads
  have hstanding : standing m [] label = standing n [] label := by
    rw [standing, standing, List.filter_nil, List.nil_append, List.filter_nil, List.nil_append]
    refine List.filter_congr fun c hc => ?_
    rw [decide_eq_decide]
    exact ⟨hlabel c hc, fun hlt => Nat.lt_of_lt_of_le hlt hnm⟩
  refine ⟨h.output, h.areDigits, ?_, h.started, code, position, Nat.le_trans hcode hnm, ?_, ?_⟩
  · rw [hstanding]
    exact h.count
  · rw [List.filter_nil, List.length_nil] at hdistance ⊢
    have hsplit : m * (p.count + 1) = n * (p.count + 1) + (m - n) * (p.count + 1) := by
      rw [← Nat.add_mul, Nat.add_sub_cancel' hnm]
    dsimp only
    omega
  · rw [hstanding]
    exact hreads

/-- After a round for each of the code points that are left, the reader has the label. -/
theorem Follows.rounds {codes : List Nat} (h : Follows label n [] label digits p)
    (hcodes : codes.Pairwise (· < ·)) (hle : ∀ m ∈ codes, n ≤ m)
    (hlabel : ∀ c ∈ label, c.toNat < n ∨ c.toNat ∈ codes) :
    ∃ digits', (encodeRounds (basicPart label).length label n p codes).output =
        leadPart label ++ digits' ∧ (∀ c ∈ digits', IsDigit c) ∧
      decodeFrom initialBias initialCode 0 true (basicPart label) digits' = some label := by
  induction codes generalizing n p digits with
  | nil =>
    obtain ⟨code, position, -, -, hreads⟩ := h.reads
    have hall : standing n [] label = label :=
      List.filter_eq_self.2 fun c hc => by simpa using hlabel c hc
    have hread := hreads []
    rw [List.append_nil, hall, decodeFrom_nil] at hread
    exact ⟨digits, h.output, h.areDigits, hread⟩
  | cons m codes ih =>
    obtain ⟨hm, hcodes⟩ := List.pairwise_cons.1 hcodes
    have hskip := h.skip (hle m (.head _)) fun c hc hlt => by
      rcases hlabel c hc with hc | hc
      · exact hc
      · rcases List.mem_cons.1 hc with heq | hmem
        · omega
        · have := hm _ hmem
          omega
    obtain ⟨digits', hround⟩ := hskip.round
    refine ih hround.next hcodes (fun k hk => hm k hk) fun c hc => ?_
    rcases hlabel c hc with hlt | hmem
    · have := hle m (.head _)
      exact .inl (by omega)
    · rcases List.mem_cons.1 hmem with heq | hmem
      · exact .inl (by omega)
      · exact .inr hmem

end

/-! ## Labels -/

theorem pairwise_lt_eraseDups {l : List Nat} (h : l.Pairwise (· ≤ ·)) :
    l.eraseDups.Pairwise (· < ·) := by
  induction hlength : l.length using Nat.strongRecOn generalizing l with
  | ind _ ih =>
    cases l with
    | nil => exact List.Pairwise.nil
    | cons a l =>
      obtain ⟨ha, hl⟩ := List.pairwise_cons.1 h
      rw [List.eraseDups_cons]
      refine List.pairwise_cons.2 ⟨fun b hb => ?_, ih _ ?_ (hl.filter _) rfl⟩
      · obtain ⟨hmem, hne⟩ := List.mem_filter.1 (List.mem_eraseDups.1 hb)
        exact Nat.lt_of_le_of_ne (ha b hmem) fun heq => by simp [heq] at hne
      · rw [← hlength, List.length_cons]
        exact Nat.lt_succ_of_le (List.length_filter_le _ _)

/-- The encoder writes the ASCII characters of a label and then digits, from
which the label is read. -/
theorem exists_digits (label : List Char) : ∃ digits, encode label = leadPart label ++ digits ∧
    (∀ c ∈ digits, IsDigit c) ∧
    decodeFrom initialBias initialCode 0 true (basicPart label) digits = some label := by
  have hstart : Follows label initialCode [] label []
      ⟨0, initialBias, (basicPart label).length, leadPart label⟩ := by
    refine ⟨(List.append_nil _).symm, nofun, rfl, Nat.le_refl _, initialCode, 0, Nat.le_refl _,
      by simp, fun rest => ?_⟩
    rw [beq_self_eq_true]
    rfl
  refine hstart.rounds (pairwise_lt_eraseDups ?_) (fun n hn => ?_) fun c hc => ?_
  · have hsorted := @List.pairwise_mergeSort _ (fun a b : Nat => decide (a ≤ b))
      (fun a b c => by simpa using Nat.le_trans) (fun a b => by simpa using Nat.le_total a b)
      ((label.map Char.toNat).filter (128 ≤ ·))
    simpa using hsorted
  · have hmem := (List.mem_filter.1 (List.mem_mergeSort.1 (List.mem_eraseDups.1 hn))).2
    simpa [initialCode] using hmem
  · by_cases hlt : c.toNat < 128
    · exact .inl hlt
    · right
      rw [List.mem_eraseDups, List.mem_mergeSort, List.mem_filter]
      exact ⟨List.mem_map_of_mem hc, by simpa using hlt⟩

/-- A label is read back from its Punycode. -/
theorem decode?_encode (label : List Char) : decode? (encode label) = some label := by
  obtain ⟨digits, hencode, hdigits, hread⟩ := exists_digits label
  have hyphens : ∀ c ∈ digits, (c == '-') = false := fun c hc =>
    beq_eq_false_iff_ne.2 (hdigits c hc).ne_hyphen
  rw [hencode, decode?, leadPart]
  cases hbasic : basicPart label with
  | nil =>
    rw [hbasic] at hread
    rw [List.isEmpty_nil, if_pos rfl, List.nil_append, Text.cutLast_eq_none_iff.2 hyphens]
    exact hread
  | cons c basic =>
    rw [hbasic] at hread
    rw [List.isEmpty_cons, if_neg Bool.false_ne_true, List.append_assoc, List.singleton_append,
      @Text.cutLast_append_cons (· == '-') '-' (beq_self_eq_true _) _ hyphens]
    exact hread

/-! ## Characters -/

/-- Punycode holds the ASCII characters of the label, hyphens and digits. -/
theorem mem_encode {label : List Char} {c : Char} (h : c ∈ encode label) :
    (c ∈ label ∧ c.toNat < 128) ∨ c = '-' ∨ IsDigit c := by
  obtain ⟨digits, hencode, hdigits, -⟩ := exists_digits label
  rw [hencode, leadPart] at h
  rcases List.mem_append.1 h with h | h
  · split at h
    · cases h
    · rcases List.mem_append.1 h with h | h
      · obtain ⟨hmem, hascii⟩ := List.mem_filter.1 h
        exact .inl ⟨hmem, by simpa using hascii⟩
      · exact .inr (.inl (List.mem_singleton.1 h))
  · exact .inr (.inr (hdigits c h))

theorem mem_encode_of_mem {label : List Char} {c : Char} (hc : c ∈ label) (hascii : c.toNat < 128) :
    c ∈ encode label := by
  obtain ⟨digits, hencode, -, -⟩ := exists_digits label
  have hbasic : c ∈ basicPart label := List.mem_filter.2 ⟨hc, by simpa using hascii⟩
  rw [hencode, leadPart, if_neg (by simpa using List.ne_nil_of_mem hbasic)]
  exact List.mem_append_left _ (List.mem_append_left _ hbasic)

theorem isSome_digitValue?_of_readNumber {bias weight place value n : Nat} {s r : List Char}
    (h : readNumber bias weight place value s = some (n, r)) :
    ∀ c ∈ s, c ∈ r ∨ (digitValue? c).isSome = true := by
  induction s generalizing weight place value with
  | nil => nofun
  | cons c s ih =>
    rw [readNumber] at h
    split at h
    · cases h
    · rename_i d hd
      have hc : (digitValue? c).isSome = true := by rw [hd, Option.isSome_some]
      dsimp only at h
      split at h
      · cases h
        exact List.forall_mem_cons.2 ⟨.inr hc, fun c hc => .inl hc⟩
      · exact List.forall_mem_cons.2 ⟨.inr hc, ih h⟩

/-- A reader adds characters beyond ASCII to what it has, and reads digits only. -/
theorem mem_of_decodeFrom {bias code position : Nat} {first : Bool} {output s t : List Char}
    (h : decodeFrom bias code position first output s = some t) (hcode : 128 ≤ code) :
    (∀ c ∈ t, c ∈ output ∨ 128 ≤ c.toNat) ∧ (∀ c ∈ output, c ∈ t) ∧
      ∀ c ∈ s, (digitValue? c).isSome = true := by
  fun_induction decodeFrom bias code position first output s with
  | case1 _ _ _ _ _ s hempty =>
    cases h
    rw [List.isEmpty_iff.1 hempty]
    exact ⟨fun c hc => .inl hc, fun c hc => hc, nofun⟩
  | case2 => cases h
  | case3 => cases h
  | case4 bias code position first output s hne i rest hread count next hvalid j ih =>
    have hnext : 128 ≤ next := Nat.le_trans hcode (Nat.le_add_right _ _)
    have hchar : (Char.ofNat next).toNat = next := Unicode.toNat_ofNat (by
      simp only [Nat.isValidChar]
      omega)
    have hj : j ≤ output.length := Nat.le_of_lt_succ (Nat.mod_lt _ (Nat.succ_pos _))
    obtain ⟨hresult, houtput, hrest⟩ := ih h hnext
    simp only [List.mem_insertIdx hj] at hresult houtput
    refine ⟨fun c hc => ?_, fun c hc => houtput c (.inr hc), fun c hc => ?_⟩
    · rcases hresult c hc with (rfl | hc) | hc
      · exact .inr (by omega)
      · exact .inl hc
      · exact .inr hc
    · rcases isSome_digitValue?_of_readNumber hread c hc with hc | hc
      · exact hrest c hc
      · exact hc

/-- A label read from Punycode has the ASCII characters of the text but for hyphens and digits. -/
theorem mem_of_decode? {s t : List Char} (h : decode? s = some t) :
    (∀ c ∈ t, c ∈ s ∨ 128 ≤ c.toNat) ∧ ∀ c ∈ s, c ∈ t ∨ c = '-' ∨
      (digitValue? c).isSome = true := by
  rw [decode?] at h
  split at h
  · rename_i c basic digits hcut
    obtain ⟨x, hx, rfl⟩ := Text.cutLast_eq_some _ _ _ _ hcut
    obtain rfl : x = '-' := by simpa using hx
    obtain ⟨hresult, houtput, hdigits⟩ := mem_of_decodeFrom h (Nat.le_refl _)
    refine ⟨fun d hd => ?_, fun d hd => ?_⟩
    · rcases hresult d hd with hd | hd
      · exact .inl (List.mem_append_left _ hd)
      · exact .inr hd
    · rcases List.mem_append.1 hd with hd | hd
      · exact .inl (houtput d hd)
      · rcases List.mem_cons.1 hd with rfl | hd
        · exact .inr (.inl rfl)
        · exact .inr (.inr (hdigits d hd))
  · obtain ⟨hresult, -, hdigits⟩ := mem_of_decodeFrom h (Nat.le_refl _)
    refine ⟨fun d hd => ?_, fun d hd => .inr (.inr (hdigits d hd))⟩
    rcases hresult d hd with hd | hd
    · cases hd
    · exact .inr hd

end ContentRules.Host.Punycode
