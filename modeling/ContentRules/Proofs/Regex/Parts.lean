import ContentRules.Proofs.Regex.Sequence

/-!
Expressions that match a part of a text by the part alone, wherever it stands: sets of characters,
and what sequences and repetitions make of them. Main statements: `Takes.repeated` and
`spansAll_iff`.
-/

namespace ContentRules.Regex

/-- A part of a text stands between two places. -/
def Between (text m : List Char) (i j : Nat) : Prop :=
  ∃ p q, text = p ++ m ++ q ∧ p.length = i ∧ (p ++ m).length = j

/-- In the text, the expression matches the parts with a property. -/
def Takes (text : List Char) (r : Regex) (P : List Char → Prop) : Prop :=
  ∀ i j, Spans text r i j ↔ ∃ m, P m ∧ Between text m i j

section
variable {text m n : List Char} {i j : Nat}

theorem Between.le_length (h : Between text m i j) : j ≤ text.length := by
  obtain ⟨p, q, rfl, -, rfl⟩ := h
  exact (List.prefix_append (p ++ m) q).length_le

theorem Between.start_le_length (h : Between text m i j) : i ≤ text.length := by
  obtain ⟨p, q, rfl, rfl, rfl⟩ := h
  rw [List.append_assoc, List.length_append]
  exact Nat.le_add_right _ _

theorem Between.mem (h : Between text m i j) {c : Char} (hc : c ∈ m) : c ∈ text := by
  obtain ⟨p, q, rfl, -, -⟩ := h
  exact List.mem_append_left q (List.mem_append_right p hc)

theorem between_nil : Between text [] i j ↔ i = j ∧ i ≤ text.length := by
  constructor
  · intro h
    obtain ⟨p, q, -, rfl, rfl⟩ := id h
    exact ⟨by rw [List.append_nil], h.start_le_length⟩
  · rintro ⟨rfl, hi⟩
    have hlength := List.length_take_of_le hi
    exact ⟨text.take i, text.drop i, by simp, hlength, by rwa [List.append_nil]⟩

theorem between_singleton {c : Char} : Between text [c] i j ↔ j = i + 1 ∧ text[i]? = some c := by
  constructor
  · rintro ⟨p, q, rfl, rfl, rfl⟩
    simp
  · rintro ⟨rfl, hc⟩
    obtain ⟨hi, rfl⟩ := List.getElem?_eq_some_iff.1 hc
    have hlength := List.length_take_of_le (Nat.le_of_lt hi)
    refine ⟨text.take i, text.drop (i + 1), by simp, hlength, ?_⟩
    rw [List.length_append, hlength, List.length_singleton]

theorem between_take {k : Nat} (hk : k ≤ text.length) : Between text (text.take k) 0 k :=
  ⟨[], text.drop k, (List.take_append_drop k text).symm, rfl, List.length_take_of_le hk⟩

theorem between_drop {k : Nat} (hk : k ≤ text.length) :
    Between text (text.drop k) k text.length := by
  refine ⟨text.take k, [], ?_, List.length_take_of_le hk, ?_⟩
  · rw [List.append_nil, List.take_append_drop]
  · rw [List.take_append_drop]

theorem between_append :
    Between text (m ++ n) i j ↔ ∃ k, Between text m i k ∧ Between text n k j := by
  constructor
  · rintro ⟨p, q, rfl, rfl, rfl⟩
    exact ⟨(p ++ m).length, ⟨p, n ++ q, by simp, rfl, rfl⟩, p ++ m, q, by simp, rfl, by simp⟩
  · rintro ⟨k, ⟨p, q, rfl, rfl, rfl⟩, p', q', htext, hp, rfl⟩
    -- both parts meet at the place between them
    rw [List.append_assoc p'] at htext
    obtain ⟨rfl, rfl⟩ := List.append_inj htext hp.symm
    exact ⟨p, q', by simp, rfl, by simp⟩

/-- A part after the front of a text leaves a part behind it, which is nothing where the text
ends. -/
theorem exists_between_iff {front : List Char} {E : Prop} :
    (∃ k l, Between text front 0 k ∧ Between text m k l ∧ (E → l = text.length)) ↔
      ∃ back, text = front ++ m ++ back ∧ (E → back = []) := by
  constructor
  · rintro ⟨k, l, hfront, hm, hend⟩
    obtain ⟨p, q, rfl, hp, rfl⟩ := between_append.2 ⟨k, hfront, hm⟩
    obtain rfl := List.length_eq_zero_iff.1 hp
    refine ⟨q, rfl, fun h => ?_⟩
    have hlength := hend h
    simp only [List.length_append] at hlength
    exact List.length_eq_zero_iff.1 (by omega)
  · rintro ⟨back, rfl, hend⟩
    refine ⟨front.length, (front ++ m).length, ⟨[], m ++ back, by simp, rfl, rfl⟩,
      ⟨front, back, rfl, rfl, rfl⟩, fun h => ?_⟩
    rw [hend h, List.append_nil]

end

section
variable {text : List Char} {r s : Regex} {P Q : List Char → Prop}

theorem takes_chars (text : List Char) (set : CharSet) :
    Takes text (.chars set) fun m => ∃ c, set.contains c = true ∧ m = [c] := by
  intro i j
  rw [spans_chars]
  constructor
  · rintro ⟨hj, c, hc, hset⟩
    exact ⟨[c], ⟨c, hset, rfl⟩, between_singleton.2 ⟨hj, hc⟩⟩
  · rintro ⟨_, ⟨c, hset, rfl⟩, hbetween⟩
    obtain ⟨hj, hc⟩ := between_singleton.1 hbetween
    exact ⟨hj, c, hc, hset⟩

theorem Takes.congr (h : Takes text r P) (hPQ : ∀ m, P m ↔ Q m) : Takes text r Q := by
  intro i j
  rw [h i j]
  exact exists_congr fun m => and_congr_left fun _ => hPQ m

theorem Takes.seq (hr : Takes text r P) (hs : Takes text s Q) :
    Takes text (.seq r s) fun m => ∃ a b, P a ∧ Q b ∧ m = a ++ b := by
  intro i j
  rw [spans_seq]
  constructor
  · rintro ⟨k, h, h'⟩
    obtain ⟨a, ha, hbetween⟩ := (hr i k).1 h
    obtain ⟨b, hb, hbetween'⟩ := (hs k j).1 h'
    exact ⟨a ++ b, ⟨a, b, ha, hb, rfl⟩, between_append.2 ⟨k, hbetween, hbetween'⟩⟩
  · rintro ⟨_, ⟨a, b, ha, hb, rfl⟩, hbetween⟩
    obtain ⟨k, h, h'⟩ := between_append.1 hbetween
    exact ⟨k, (hr i k).2 ⟨a, ha, h⟩, (hs k j).2 ⟨b, hb, h'⟩⟩

/-- Chains of matches go from one end to the other of parts in a row. -/
theorem Takes.reached_iff (hr : Takes text r P) {n i j : Nat} :
    i ≤ text.length ∧ Reached (Spans text r) n i j ↔
      ∃ ms : List (List Char), ms.length = n ∧ (∀ m ∈ ms, P m) ∧ Between text ms.flatten i j := by
  induction n generalizing i with
  | zero =>
    rw [Reached]
    constructor
    · rintro ⟨hi, rfl⟩
      exact ⟨[], rfl, by simp, between_nil.2 ⟨rfl, hi⟩⟩
    · rintro ⟨ms, hlength, -, hbetween⟩
      obtain rfl := List.length_eq_zero_iff.1 hlength
      obtain ⟨hij, hi⟩ := between_nil.1 hbetween
      exact ⟨hi, hij⟩
  | succ n ih =>
    rw [Reached]
    constructor
    · rintro ⟨-, k, hstep, hreached⟩
      obtain ⟨m, hm, hbetween⟩ := (hr i k).1 hstep
      obtain ⟨ms, hlength, hms, hbetween'⟩ := ih.1 ⟨hbetween.le_length, hreached⟩
      refine ⟨m :: ms, congrArg Nat.succ hlength, List.forall_mem_cons.2 ⟨hm, hms⟩, ?_⟩
      exact between_append.2 ⟨k, hbetween, hbetween'⟩
    · rintro ⟨ms, hlength, hms, hbetween⟩
      obtain ⟨m, ms, rfl⟩ := List.exists_cons_of_length_eq_add_one hlength
      obtain ⟨k, hfirst, hrest⟩ := between_append.1 hbetween
      obtain ⟨hm, hms⟩ := List.forall_mem_cons.1 hms
      obtain ⟨-, hreached⟩ := ih.2 ⟨ms, Nat.succ.inj hlength, hms, hrest⟩
      exact ⟨hfirst.start_le_length, k, (hr i k).2 ⟨m, hm, hfirst⟩, hreached⟩

theorem Takes.repeated (hr : Takes text r P) (least : Nat) (most : Option Nat) :
    Takes text (.repeated r least most) fun m => ∃ ms : List (List Char), least ≤ ms.length ∧
      (∀ n, most = some n → ms.length ≤ n) ∧ (∀ a ∈ ms, P a) ∧ m = ms.flatten := by
  intro i j
  rw [spans_repeated]
  constructor
  · rintro ⟨hi, n, hleast, hmost, hreached⟩
    obtain ⟨ms, rfl, hms, hbetween⟩ := hr.reached_iff.1 ⟨hi, hreached⟩
    exact ⟨_, ⟨ms, hleast, hmost, hms, rfl⟩, hbetween⟩
  · rintro ⟨_, ⟨ms, hleast, hmost, hms, rfl⟩, hbetween⟩
    obtain ⟨hi, hreached⟩ := hr.reached_iff.2 ⟨ms, rfl, hms, hbetween⟩
    exact ⟨hi, ms.length, hleast, hmost, hreached⟩

/-- A sequence of expressions matches parts in a row. -/
theorem spansAll_iff {rs : List Regex} {Ps : List (List Char → Prop)}
    (h : List.Forall₂ (Takes text) rs Ps) {i j : Nat} :
    SpansAll text rs i j ↔
      ∃ ms, List.Forall₂ (fun P m => P m) Ps ms ∧ Between text ms.flatten i j := by
  induction h generalizing i with
  | nil =>
    rw [SpansAll]
    simp only [List.forall₂_nil_left_iff, exists_eq_left, List.flatten_nil, between_nil]
  | cons hr _ ih =>
    rw [SpansAll]
    constructor
    · rintro ⟨k, hfirst, hrest⟩
      obtain ⟨m, hm, hbetween⟩ := (hr i k).1 hfirst
      obtain ⟨ms, hms, hbetween'⟩ := ih.1 hrest
      exact ⟨m :: ms, .cons hm hms, between_append.2 ⟨k, hbetween, hbetween'⟩⟩
    · rintro ⟨_, hms, hbetween⟩
      cases hms with
      | cons hm hms =>
        obtain ⟨k, hfirst, hrest⟩ := between_append.1 hbetween
        exact ⟨k, (hr i k).2 ⟨_, hm, hfirst⟩, ih.2 ⟨_, hms, hrest⟩⟩

theorem spansAll_map {α : Type} {f : α → Regex} {P : α → List Char → Prop} {l : List α}
    (h : ∀ a ∈ l, Takes text (f a) (P a)) {i j : Nat} :
    SpansAll text (l.map f) i j ↔ ∃ ms, List.Forall₂ P l ms ∧ Between text ms.flatten i j := by
  have htakes : List.Forall₂ (Takes text) (l.map f) (l.map P) := by
    rw [List.forall₂_map_left_iff, List.forall₂_map_right_iff, List.forall₂_same]
    exact h
  simp only [spansAll_iff htakes, List.forall₂_map_left_iff]

/-- Members that are all of one form are those of a mapped list. -/
theorem forall_exists_eq_iff {α β : Type} {f : α → β} {P : α → Prop} {l : List β} :
    (∀ b ∈ l, ∃ a, P a ∧ b = f a) ↔ ∃ as : List α, (∀ a ∈ as, P a) ∧ l = as.map f := by
  induction l with
  | nil => simp
  | cons b l ih =>
    rw [List.forall_mem_cons, ih]
    constructor
    · rintro ⟨⟨a, ha, rfl⟩, as, has, rfl⟩
      exact ⟨a :: as, List.forall_mem_cons.2 ⟨ha, has⟩, rfl⟩
    · rintro ⟨as, has, heq⟩
      obtain ⟨a, as, rfl, rfl, rfl⟩ := List.map_eq_cons_iff.1 heq.symm
      obtain ⟨ha, has⟩ := List.forall_mem_cons.1 has
      exact ⟨⟨a, ha, rfl⟩, as, has, rfl⟩

/-- A repetition without an upper bound of parts that are all of one form. -/
theorem Takes.repeated_form {α : Type} {f : α → List Char} {P : α → Prop}
    (hr : Takes text r fun m => ∃ a, P a ∧ m = f a) (least : Nat) :
    Takes text (.repeated r least none) fun m =>
      ∃ as : List α, least ≤ as.length ∧ (∀ a ∈ as, P a) ∧ m = as.flatMap f := by
  refine (hr.repeated least none).congr fun m => ?_
  simp only [forall_exists_eq_iff]
  constructor
  · rintro ⟨_, hleast, -, ⟨as, has, rfl⟩, rfl⟩
    rw [List.length_map] at hleast
    exact ⟨as, hleast, has, List.flatMap_def.symm⟩
  · rintro ⟨as, hleast, has, rfl⟩
    exact ⟨as.map f, by rwa [List.length_map], nofun, ⟨as, has, rfl⟩, List.flatMap_def⟩

/-- A repetition of a set without an upper bound. -/
theorem takes_repeated_chars (text : List Char) (set : CharSet) (least : Nat) :
    Takes text (.repeated (.chars set) least none) fun m =>
      least ≤ m.length ∧ ∀ c ∈ m, set.contains c = true := by
  refine ((takes_chars text set).repeated_form least).congr fun m => ?_
  simp only [List.flatMap_singleton']
  constructor
  · rintro ⟨_, hleast, hset, rfl⟩
    exact ⟨hleast, hset⟩
  · rintro ⟨hleast, hset⟩
    exact ⟨m, hleast, hset, rfl⟩

end

end ContentRules.Regex
