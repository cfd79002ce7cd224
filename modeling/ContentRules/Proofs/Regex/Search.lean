import ContentRules.Regex.Search
import Mathlib.Logic.Function.Iterate

/-!
The search for an expression finds what the expression matches. A set of places is read as the
relation that leads from one place of the text to another, and repetition as a chain of such steps:
since no step leads back, a chain between two places never needs more steps than there are
characters between them. Main statement: `occursIn_iff`.
-/

namespace ContentRules.Regex

/-- The bounds of repetitions are in order. -/
def IsOrdered : Regex → Prop
  | empty | chars _ | anchor _ => True
  | seq r s | alt r s => r.IsOrdered ∧ s.IsOrdered
  | repeated r least most => r.IsOrdered ∧ ∀ n, most = some n → least ≤ n

/-- The expression matches what stands between two places of a text. -/
def Spans (text : List Char) (r : Regex) (i j : Nat) : Prop :=
  ∃ p m q, text = p ++ m ++ q ∧ p.length = i ∧ (p ++ m).length = j ∧ Matches r p m q

/-- The place is reached from another in a number of steps. -/
def Reached (step : Nat → Nat → Prop) : Nat → Nat → Nat → Prop
  | 0, i, j => i = j
  | n + 1, i, j => ∃ k, step i k ∧ Reached step n k j

section
variable {text : List Char} {r : Regex} {i j : Nat}

theorem Spans.le (h : Spans text r i j) : i ≤ j := by
  obtain ⟨p, m, q, -, rfl, rfl, -⟩ := h
  simp

theorem Spans.le_length (h : Spans text r i j) : j ≤ text.length := by
  obtain ⟨p, m, q, rfl, -, rfl, -⟩ := h
  have hlength : ((p ++ m) ++ q).length = (p ++ m).length + q.length := List.length_append
  rw [hlength]
  exact Nat.le_add_right _ _

theorem occursIn_iff_exists_spans : OccursIn r text ↔ ∃ i j, Spans text r i j :=
  ⟨fun ⟨p, m, q, htext, h⟩ => ⟨_, _, p, m, q, htext, rfl, rfl, h⟩,
    fun ⟨_, _, p, m, q, htext, _, _, h⟩ => ⟨p, m, q, htext, h⟩⟩

end

/-! ## Chains of steps -/

section
variable {step : Nat → Nat → Prop}

theorem Reached.add {m n i k j : Nat} (h : Reached step m i k) (h' : Reached step n k j) :
    Reached step (m + n) i j := by
  induction m generalizing i with
  | zero =>
    obtain rfl := h
    rwa [Nat.zero_add]
  | succ m ih =>
    obtain ⟨l, hstep, h⟩ := h
    rw [Nat.succ_add]
    exact ⟨l, hstep, ih h⟩

theorem Reached.split {m n i j : Nat} (h : Reached step (m + n) i j) :
    ∃ k, Reached step m i k ∧ Reached step n k j := by
  induction m generalizing i with
  | zero =>
    rw [Nat.zero_add] at h
    exact ⟨i, rfl, h⟩
  | succ m ih =>
    rw [Nat.succ_add] at h
    obtain ⟨l, hstep, h⟩ := h
    obtain ⟨k, hk, h⟩ := ih h
    exact ⟨k, ⟨l, hstep, hk⟩, h⟩

theorem Reached.le (hstep : ∀ i j, step i j → i ≤ j) {n i j : Nat} (h : Reached step n i j) :
    i ≤ j := by
  induction n generalizing i with
  | zero => exact Nat.le_of_eq h
  | succ n ih =>
    obtain ⟨k, hik, h⟩ := h
    exact Nat.le_trans (hstep i k hik) (ih h)

theorem Reached.le_length {length : Nat} (hstep : ∀ i j, i ≤ length → step i j → j ≤ length)
    {n i j : Nat} (h : Reached step n i j) (hi : i ≤ length) : j ≤ length := by
  induction n generalizing i with
  | zero => exact h ▸ hi
  | succ n ih =>
    obtain ⟨k, hik, h⟩ := h
    exact ih h (hstep i k hi hik)

/-- Steps that lead nowhere can be left out of a chain. -/
theorem Reached.shorten (hstep : ∀ i j, step i j → i ≤ j) {n i j : Nat} (h : Reached step n i j) :
    ∃ m ≤ j - i, Reached step m i j := by
  induction n generalizing i with
  | zero => exact ⟨0, Nat.zero_le _, h⟩
  | succ n ih =>
    obtain ⟨k, hik, h⟩ := h
    obtain ⟨m, hm, hmj⟩ := ih h
    have hle := h.le hstep
    rcases Nat.eq_or_lt_of_le (hstep i k hik) with rfl | hlt
    · exact ⟨m, hm, hmj⟩
    · exact ⟨m + 1, by omega, k, hik, hmj⟩

/-- A chain whose length is within bounds is one of the least length and what comes after it. -/
theorem exists_reached_le_iff {least most : Nat} (h : least ≤ most) {i j : Nat} :
    (∃ k, Reached step least i k ∧ ∃ m ≤ most - least, Reached step m k j) ↔
      ∃ n, least ≤ n ∧ n ≤ most ∧ Reached step n i j := by
  constructor
  · rintro ⟨k, hik, m, hm, hkj⟩
    exact ⟨least + m, Nat.le_add_right _ _, by omega, hik.add hkj⟩
  · rintro ⟨n, hn, hmost, hij⟩
    obtain ⟨m, rfl⟩ := Nat.exists_eq_add_of_le hn
    obtain ⟨k, hik, hkj⟩ := hij.split
    exact ⟨k, hik, m, by omega, hkj⟩

/-- Without an upper bound, what comes after the least length needs no more steps than there are
places. -/
theorem exists_reached_iff {length : Nat} (hle : ∀ i j, step i j → i ≤ j)
    (hstep : ∀ i j, i ≤ length → step i j → j ≤ length) {least i j : Nat} (hi : i ≤ length) :
    (∃ k, Reached step least i k ∧ ∃ m ≤ length + 1, Reached step m k j) ↔
      ∃ n, least ≤ n ∧ Reached step n i j := by
  constructor
  · rintro ⟨k, hik, m, -, hkj⟩
    exact ⟨least + m, Nat.le_add_right _ _, hik.add hkj⟩
  · rintro ⟨n, hn, hij⟩
    obtain ⟨m, rfl⟩ := Nat.exists_eq_add_of_le hn
    obtain ⟨k, hik, hkj⟩ := hij.split
    obtain ⟨m', hm', hkj⟩ := hkj.shorten hle
    have := hkj.le_length hstep (hik.le_length hstep hi)
    exact ⟨k, hik, m', by omega, hkj⟩

end

/-! ## Sets of places -/

/-- The places of a set are places of a text of the given length. -/
def Within (length places : Nat) : Prop := ∀ i, places.testBit i = true → i ≤ length

/-- A function on sets of places of a text that follows steps from each place. -/
def Follows (length : Nat) (f : Nat → Nat) (step : Nat → Nat → Prop) : Prop :=
  ∀ places, Within length places →
    ∀ j, (f places).testBit j = true ↔ ∃ i, places.testBit i = true ∧ step i j

theorem iterate_eq (f : Nat → Nat) (n places : Nat) : iterate f n places = f^[n] places := by
  induction n generalizing places with
  | zero => rfl
  | succ n ih =>
    rw [iterate, Function.iterate_succ_apply]
    split
    · rename_i h
      rw [h]
      exact (Function.iterate_fixed h n).symm
    · exact ih _

section
variable {length : Nat} {f : Nat → Nat} {step : Nat → Nat → Prop} (hf : Follows length f step)
  (hstep : ∀ i j, i ≤ length → step i j → j ≤ length)
include hf hstep

theorem Follows.within {places : Nat} (h : Within length places) : Within length (f places) := by
  intro j hj
  obtain ⟨i, hi, hij⟩ := (hf places h j).1 hj
  exact hstep i j (h i hi) hij

/-- One function after another follows the steps of both. -/
theorem Follows.comp {g : Nat → Nat} {step' : Nat → Nat → Prop} (hg : Follows length g step') :
    Follows length (fun places => g (f places)) fun i j => ∃ k, step i k ∧ step' k j := by
  intro places hplaces j
  rw [hg _ (hf.within hstep hplaces)]
  constructor
  · rintro ⟨k, hk, hkj⟩
    obtain ⟨i, hi, hik⟩ := (hf places hplaces k).1 hk
    exact ⟨i, hi, k, hik, hkj⟩
  · rintro ⟨i, hi, k, hik, hkj⟩
    exact ⟨k, (hf places hplaces k).2 ⟨i, hi, hik⟩, hkj⟩

theorem Follows.iterate (n : Nat) : Follows length (Regex.iterate f n) (Reached step n) := by
  have hiterate : Regex.iterate f n = f^[n] := funext (iterate_eq f n)
  rw [hiterate]
  clear hiterate
  induction n with
  | zero => exact fun places _ j => by simp [Reached]
  | succ n ih => exact hf.comp hstep ih

/-- Spreading keeps the places on the way, and ends early only where nothing new comes. -/
theorem Follows.spread (n : Nat) :
    Follows length (Regex.spread f n) fun i j => ∃ k ≤ n, Reached step k i j := by
  intro places hplaces j
  induction n generalizing places with
  | zero => simp [Regex.spread, Reached]
  | succ n ih =>
    have hnext (k : Nat) : (places ||| f places).testBit k = true ↔
        places.testBit k = true ∨ ∃ i, places.testBit i = true ∧ step i k := by
      rw [Nat.testBit_or, Bool.or_eq_true, hf places hplaces]
    rw [Regex.spread]
    split
    · rename_i h
      refine ⟨fun hj => ⟨j, hj, 0, Nat.zero_le _, rfl⟩, ?_⟩
      rintro ⟨i, hi, k, -, hreached⟩
      -- the set is closed under steps
      induction k generalizing i with
      | zero => exact hreached ▸ hi
      | succ k ihk =>
        obtain ⟨l, hil, hreached⟩ := hreached
        refine ihk l ?_ hreached
        rw [← h]
        exact (hnext l).2 (.inr ⟨i, hi, hil⟩)
    · rw [ih]
      · constructor
        · rintro ⟨l, hl, k, hk, hreached⟩
          rcases (hnext l).1 hl with hl | ⟨i, hi, hil⟩
          · exact ⟨l, hl, k, Nat.le_succ_of_le hk, hreached⟩
          · exact ⟨i, hi, k + 1, Nat.succ_le_succ hk, l, hil, hreached⟩
        · rintro ⟨i, hi, k, hk, hreached⟩
          cases k with
          | zero => exact ⟨i, (hnext i).2 (.inl hi), 0, Nat.zero_le _, hreached⟩
          | succ k =>
            obtain ⟨l, hil, hreached⟩ := hreached
            exact ⟨l, (hnext l).2 (.inr ⟨i, hi, hil⟩), k, Nat.le_of_succ_le_succ hk, hreached⟩
      · intro k hk
        rcases (hnext k).1 hk with hk | ⟨i, hi, hik⟩
        · exact hplaces k hk
        · exact hstep i k (hplaces i hi) hik

end

/-! ## Steps of expressions -/

theorem testBit_double_add (x : Nat) (b : Bool) (i : Nat) :
    (2 * x + b.toNat).testBit i = match i with
      | 0 => b
      | i + 1 => x.testBit i := by
  cases i with
  | zero => cases b <;> simp [Nat.testBit_zero]
  | succ i =>
    have hhalf : (2 * x + b.toNat) / 2 = x := by
      have := Bool.toNat_lt b
      omega
    rw [Nat.testBit_add_one, hhalf]

theorem testBit_charPlaces {set : CharSet} {text : List Char} {i : Nat} :
    (charPlaces set text).testBit i = true ↔ ∃ c, text[i]? = some c ∧ set.contains c = true := by
  induction text generalizing i with
  | nil => simp [charPlaces]
  | cons c text ih =>
    rw [charPlaces, testBit_double_add]
    cases i with
    | zero => simp
    | succ i => simpa using ih

theorem testBit_anchorPlaces {a : Anchor} {before : Option Char} {text : List Char} {i : Nat} :
    (anchorPlaces a before text).testBit i = true ↔
      i ≤ text.length ∧ a.holds (if i = 0 then before else text[i - 1]?) text[i]? = true := by
  induction text generalizing before i with
  | nil =>
    cases i with
    | zero => cases h : a.holds before none <;> simp [anchorPlaces, h]
    | succ i =>
      have : (a.holds before none).toNat < 2 ^ (i + 1) :=
        Nat.lt_of_le_of_lt (Bool.toNat_le _) (Nat.one_lt_two_pow (by omega))
      simp [anchorPlaces, Nat.testBit_lt_two_pow this]
  | cons c text ih =>
    rw [anchorPlaces, testBit_double_add]
    cases i with
    | zero => simp
    | succ i =>
      dsimp only
      rw [ih]
      cases i with
      | zero => simp
      | succ i => simp

theorem spans_empty {text : List Char} {i j : Nat} :
    Spans text .empty i j ↔ i = j ∧ i ≤ text.length := by
  constructor
  · rintro ⟨p, m, q, rfl, rfl, rfl, h⟩
    cases h
    simp
  · rintro ⟨rfl, h⟩
    have hlength := List.length_take_of_le h
    exact ⟨text.take i, [], text.drop i, by simp, hlength, by simpa using hlength, .empty _ _⟩

theorem spans_chars {text : List Char} {set : CharSet} {i j : Nat} :
    Spans text (.chars set) i j ↔
      j = i + 1 ∧ ∃ c, text[i]? = some c ∧ set.contains c = true := by
  constructor
  · rintro ⟨p, m, q, rfl, rfl, rfl, h⟩
    cases h with
    | chars _ _ h => exact ⟨by simp, _, by simp, h⟩
  · rintro ⟨rfl, c, hc, h⟩
    obtain ⟨hi, rfl⟩ := List.getElem?_eq_some_iff.1 hc
    have hlength := List.length_take_of_le (Nat.le_of_lt hi)
    exact ⟨text.take i, [text[i]], text.drop (i + 1), by simp, hlength,
      by rw [List.length_append, hlength, List.length_singleton], .chars _ _ h⟩

theorem spans_anchor {text : List Char} {a : Anchor} {i j : Nat} :
    Spans text (.anchor a) i j ↔
      i = j ∧ i ≤ text.length ∧ a.holds (if i = 0 then none else text[i - 1]?) text[i]? = true := by
  have hbefore (p q : List Char) :
      (if p.length = 0 then none else (p ++ q)[p.length - 1]?) = p.getLast? := by
    rcases List.eq_nil_or_concat p with rfl | ⟨p, c, rfl⟩
    · rfl
    · simp
  constructor
  · rintro ⟨p, m, q, rfl, rfl, rfl, h⟩
    cases h with
    | anchor _ _ h =>
      rw [List.append_nil, hbefore, List.getElem?_append_right (Nat.le_refl _), Nat.sub_self,
        ← List.head?_eq_getElem?]
      exact ⟨rfl, by simp, h⟩
  · rintro ⟨rfl, hi, h⟩
    have hlength := List.length_take_of_le hi
    refine ⟨text.take i, [], text.drop i, by simp, hlength, by simpa using hlength, .anchor _ _ ?_⟩
    rw [← hbefore _ (text.drop i), hlength, List.take_append_drop, List.head?_drop]
    exact h

theorem spans_textEnd {text : List Char} {i j : Nat} :
    Spans text (.anchor .textEnd) i j ↔ i = j ∧ i = text.length := by
  rw [spans_anchor]
  constructor
  · rintro ⟨rfl, hi, hend⟩
    have hnone := List.getElem?_eq_none_iff.1 (Option.isNone_iff_eq_none.1 hend)
    exact ⟨rfl, Nat.le_antisymm hi hnone⟩
  · rintro ⟨rfl, rfl⟩
    refine ⟨rfl, Nat.le_refl _, ?_⟩
    exact Option.isNone_iff_eq_none.2 (List.getElem?_eq_none (Nat.le_refl _))

theorem spans_seq {text : List Char} {r s : Regex} {i j : Nat} :
    Spans text (.seq r s) i j ↔ ∃ k, Spans text r i k ∧ Spans text s k j := by
  constructor
  · rintro ⟨p, m, q, rfl, rfl, rfl, h⟩
    cases h with
    | @seq _ _ _ m n _ h₁ h₂ =>
      exact ⟨(p ++ m).length, ⟨p, m, n ++ q, by simp, rfl, rfl, h₁⟩,
        ⟨p ++ m, n, q, by simp, rfl, by simp, h₂⟩⟩
  · rintro ⟨k, ⟨p, m, q, rfl, rfl, rfl, h⟩, ⟨p', n, q', htext, hp, rfl, h'⟩⟩
    have hp' : p ++ m = p' := by
      rw [List.append_assoc p'] at htext
      exact (List.append_inj htext hp.symm).1
    subst hp'
    have hq : q = n ++ q' := by
      rw [List.append_assoc (p ++ m)] at htext
      exact List.append_cancel_left htext
    subst hq
    exact ⟨p, m ++ n, q', by simp, rfl, by simp, .seq h h'⟩

theorem spans_alt {text : List Char} {r s : Regex} {i j : Nat} :
    Spans text (.alt r s) i j ↔ Spans text r i j ∨ Spans text s i j := by
  constructor
  · rintro ⟨p, m, q, htext, hi, hj, h⟩
    cases h with
    | altLeft h => exact .inl ⟨p, m, q, htext, hi, hj, h⟩
    | altRight h => exact .inr ⟨p, m, q, htext, hi, hj, h⟩
  · rintro (⟨p, m, q, htext, hi, hj, h⟩ | ⟨p, m, q, htext, hi, hj, h⟩)
    · exact ⟨p, m, q, htext, hi, hj, .altLeft h⟩
    · exact ⟨p, m, q, htext, hi, hj, .altRight h⟩

/-- A repetition matches along chains whose length is within its bounds. -/
theorem spans_repeated {text : List Char} {r : Regex} {least : Nat} {most : Option Nat}
    {i j : Nat} :
    Spans text (.repeated r least most) i j ↔ i ≤ text.length ∧
      ∃ n, least ≤ n ∧ (∀ m, most = some m → n ≤ m) ∧ Reached (Spans text r) n i j := by
  constructor
  · rintro ⟨p, m, q, rfl, rfl, rfl, h⟩
    refine ⟨by simp, ?_⟩
    generalize hr : Regex.repeated r least most = r' at h
    induction h generalizing least most with
    | empty | chars | anchor | seq | altLeft | altRight => cases hr
    | stop p q =>
      cases hr
      exact ⟨0, Nat.le_refl 0, fun _ _ => Nat.zero_le _, by simp [Reached]⟩
    | @next _ _ _ p m n q hmost h₁ h₂ _ ih =>
      cases hr
      obtain ⟨k, hleast, hbound, hreached⟩ := ih rfl
      rw [List.append_assoc p m n] at hreached
      refine ⟨k + 1, by omega, fun b hb => ?_, (p ++ m).length, ?_, by simpa using hreached⟩
      · subst hb
        have hk := hbound (b - 1) rfl
        have hb : b ≠ 0 := fun h => hmost (by rw [h])
        omega
      · exact ⟨p, m, n ++ q, by simp, rfl, rfl, h₁⟩
  · rintro ⟨hi, n, hleast, hbound, hreached⟩
    induction n generalizing least most i with
    | zero =>
      obtain rfl := Nat.le_zero.1 hleast
      obtain rfl := hreached
      have hlength := List.length_take_of_le hi
      exact ⟨text.take i, [], text.drop i, by simp, hlength, by simpa using hlength, .stop _ _⟩
    | succ n ih =>
      obtain ⟨k, hstep, hreached⟩ := hreached
      have hrest : Spans text (.repeated r (least - 1) (most.map (· - 1))) k j :=
        ih hstep.le_length (by omega) (fun m hm => ?_) hreached
      · have hseq := spans_seq.2 ⟨k, hstep, hrest⟩
        obtain ⟨p, m, q, htext, hp, hm, h⟩ := hseq
        refine ⟨p, m, q, htext, hp, hm, ?_⟩
        cases h with
        | seq h₁ h₂ => exact .next (fun hmost => Nat.not_succ_le_zero n (hbound 0 hmost)) h₁ h₂
      · obtain ⟨b, hb, rfl⟩ := Option.map_eq_some_iff.1 hm
        have := hbound b hb
        omega

/-! ## Searching -/

/-- The search follows what an expression matches. -/
theorem follows_ends (text : List Char) {r : Regex} (hr : r.IsOrdered) :
    Follows text.length (ends text r) (Spans text r) := by
  have hlength (r : Regex) (i j : Nat) (_ : i ≤ text.length) (h : Spans text r i j) :
      j ≤ text.length := h.le_length
  induction r with
  | empty =>
    intro places hplaces j
    simp only [ends, spans_empty]
    exact ⟨fun hj => ⟨j, hj, rfl, hplaces j hj⟩, fun ⟨i, hi, h, _⟩ => h ▸ hi⟩
  | chars set =>
    intro places hplaces j
    simp only [ends, spans_chars, Nat.testBit_shiftLeft, Nat.testBit_and, Bool.and_eq_true,
      testBit_charPlaces, decide_eq_true_eq]
    constructor
    · rintro ⟨hj, hplace, hc⟩
      exact ⟨j - 1, hplace, by omega, hc⟩
    · rintro ⟨i, hi, rfl, hc⟩
      exact ⟨by omega, hi, hc⟩
  | anchor a =>
    intro places hplaces j
    simp only [ends, spans_anchor, Nat.testBit_and, Bool.and_eq_true, testBit_anchorPlaces]
    exact ⟨fun ⟨hj, hle, h⟩ => ⟨j, hj, rfl, hle, h⟩, fun ⟨i, hi, hij, hle, h⟩ => hij ▸ ⟨hi, hle, h⟩⟩
  | seq r s ihr ihs =>
    intro places hplaces j
    simp only [ends, spans_seq]
    exact (ihr hr.1).comp (hlength r) (ihs hr.2) places hplaces j
  | alt r s ihr ihs =>
    intro places hplaces j
    simp only [ends, spans_alt, Nat.testBit_or, Bool.or_eq_true, ihr hr.1 places hplaces,
      ihs hr.2 places hplaces, and_or_left, exists_or]
  | repeated r least most ih =>
    have hfirst := (ih hr.1).iterate (hlength r) least
    have hrest := (ih hr.1).spread (hlength r)
    intro places hplaces j
    simp only [ends, spans_repeated]
    have hboth (n : Nat) := hfirst.comp (fun _ _ hi h => h.le_length (hlength r) hi) (hrest n)
    refine (hboth _ places hplaces j).trans ?_
    refine exists_congr fun i => and_congr_right fun hi => ?_
    rw [and_iff_right (hplaces i hi)]
    cases most with
    | none => simpa using exists_reached_iff (fun _ _ h => h.le) (hlength r) (hplaces i hi)
    | some b => simpa using exists_reached_le_iff (hr.2 b rfl)

theorem testBit_allPlaces {text : List Char} {i : Nat} :
    (allPlaces text).testBit i = true ↔ i ≤ text.length := by
  rw [allPlaces, Nat.one_shiftLeft, Nat.testBit_two_pow_sub_one, decide_eq_true_eq, Nat.lt_succ_iff]

/-- An expression whose bounds are in order is found in a text if some part of the text matches
it. -/
theorem occursIn_iff {r : Regex} (hr : r.IsOrdered) (text : List Char) :
    occursIn r text = true ↔ OccursIn r text := by
  have hall : Within text.length (allPlaces text) := fun i => testBit_allPlaces.1
  rw [occursIn, bne_iff_ne, occursIn_iff_exists_spans]
  constructor
  · intro hne
    obtain ⟨j, hj⟩ := Nat.exists_testBit_of_ne_zero hne
    obtain ⟨i, -, hij⟩ := (follows_ends text hr _ hall j).1 hj
    exact ⟨i, j, hij⟩
  · rintro ⟨i, j, hij⟩ hzero
    have hi : (allPlaces text).testBit i = true :=
      testBit_allPlaces.2 (Nat.le_trans hij.le hij.le_length)
    have hj := (follows_ends text hr _ hall j).2 ⟨i, hi, hij⟩
    rw [hzero, Nat.zero_testBit] at hj
    cases hj

end ContentRules.Regex
