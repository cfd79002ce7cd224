import ContentRules.Matching.Request
import ContentRules.Native.Subsumption

/-!
What one condition covers, the other admits as well. For conditions on pages and for sets of words
the test that compares two conditions is sound, and it is transitive, so that chains of tests say no
less than one test. Main statement: `DomainCondition.comparison_sound_and_transitive`.
-/

namespace ContentRules

/-! ## Domains -/

theorem Domain.covers_iff (domain host : List Char) :
    Domain.covers domain host = true ↔
      Text.lower host = Text.lower domain ∨ '.' :: Text.lower domain <:+ Text.lower host := by
  rw [Domain.covers, Bool.or_eq_true, Text.sameIgnoringCase_iff, List.isSuffixOf_iff_suffix]

theorem Domain.covers_refl (host : List Char) : Domain.covers host host = true :=
  (covers_iff _ _).2 (.inl rfl)

theorem Domain.covers_trans {a b c : List Char} (h : Domain.covers a b = true)
    (h' : Domain.covers b c = true) : Domain.covers a c = true := by
  rw [covers_iff] at h h' ⊢
  rcases h with h | h
  · rwa [← h]
  rcases h' with h' | h'
  · rw [h']
    exact .inr h
  · exact .inr (h.trans ((List.suffix_cons '.' _).trans h'))

/-- Of two domains with a common host one covers the other. -/
theorem Domain.covers_of_common {a b host : List Char} (ha : Domain.covers a host = true)
    (hb : Domain.covers b host = true) : Domain.covers b a = true ∨ Domain.covers a b = true := by
  rw [covers_iff] at ha hb
  rw [covers_iff, covers_iff]
  rcases ha with ha | ha <;> rcases hb with hb | hb
  · exact .inl (.inl (ha.symm.trans hb))
  · exact .inl (.inr (ha ▸ hb))
  · exact .inr (.inr (hb ▸ ha))
  -- both stand at the end of the host, so one is an end of the other
  · rcases List.suffix_or_suffix_of_suffix ha hb with h | h
    · rcases List.suffix_cons_iff.1 h with h | h
      · exact .inl (.inl (List.cons.inj h).2)
      · exact .inr (.inr h)
    · rcases List.suffix_cons_iff.1 h with h | h
      · exact .inl (.inl (List.cons.inj h).2.symm)
      · exact .inl (.inr h)

/-! ## Values of conditions -/

namespace DomainValue

/-- A value covers a host that stands for itself when it admits the host. -/
theorem covers_host (v : DomainValue) (host : List Char) :
    v.covers ⟨host, false⟩ = v.admits host := by
  rcases v with ⟨_, _ | _⟩ <;> rfl

theorem covers_refl (v : DomainValue) : v.covers v = true := by
  rcases v with ⟨host, _ | _⟩
  · exact (Text.sameIgnoringCase_iff _ _).2 rfl
  · exact Domain.covers_refl host

theorem covers_trans {a b c : DomainValue} (h : a.covers b = true) (h' : b.covers c = true) :
    a.covers c = true := by
  rcases a with ⟨a, _ | _⟩ <;> rcases b with ⟨b, _ | _⟩ <;> rcases c with ⟨c, _ | _⟩ <;>
    simp only [covers, admits, if_true, if_false, Bool.false_eq_true] at h h' ⊢
  · rw [Text.sameIgnoringCase_iff] at h h' ⊢
    exact h'.trans h
  · rw [Text.sameIgnoringCase_iff] at h'
    rw [Domain.covers_iff] at h ⊢
    rwa [h']
  · exact Domain.covers_trans h h'
  · exact Domain.covers_trans h h'

theorem admits_of_covers {a b : DomainValue} (h : a.covers b = true) {host : List Char}
    (hb : b.admits host = true) : a.admits host = true := by
  rw [← covers_host] at hb ⊢
  exact covers_trans h hb

theorem admits_self (v : DomainValue) : v.admits v.host = true := by
  rw [← covers_host]
  rcases v with ⟨host, _ | _⟩
  · exact covers_refl ⟨host, false⟩
  · exact Domain.covers_refl host

theorem admits_congr (v : DomainValue) {host host' : List Char}
    (h : Text.lower host = Text.lower host') : v.admits host = v.admits host' := by
  rcases v with ⟨v, _ | _⟩
  · change Text.sameIgnoringCase host v = Text.sameIgnoringCase host' v
    rw [Bool.eq_iff_iff, Text.sameIgnoringCase_iff, Text.sameIgnoringCase_iff, h]
  · change Domain.covers v host = Domain.covers v host'
    rw [Bool.eq_iff_iff, Domain.covers_iff, Domain.covers_iff, h]

theorem lower_of_admits {host v : List Char} (h : admits ⟨v, false⟩ host = true) :
    Text.lower host = Text.lower v :=
  (Text.sameIgnoringCase_iff host v).1 h

/-- A value with subdomains admits more than one host. -/
theorem admits_below (host : List Char) : admits ⟨host, true⟩ ('.' :: host) = true :=
  (Domain.covers_iff _ _).2 (.inr (List.suffix_refl _))

/-- A value covers another exactly when it admits every host that the other admits. -/
theorem covers_iff (b n : DomainValue) :
    b.covers n = true ↔ ∀ host, n.admits host = true → b.admits host = true := by
  refine ⟨fun h host => admits_of_covers h, fun h => ?_⟩
  have hself := h n.host (admits_self n)
  rcases n with ⟨n, _ | _⟩
  · rwa [covers_host]
  rcases b with ⟨b, _ | _⟩
  -- one host is not all of those below another
  · have hbelow := lower_of_admits (h _ (admits_below n))
    rw [← lower_of_admits hself] at hbelow
    exact absurd (congrArg List.length hbelow) (by simp [Text.length_lower])
  · exact hself

/-- Values are disjoint when they admit no common host. -/
theorem disjoint_iff (a b : DomainValue) :
    a.disjoint b = true ↔ ∀ host, a.admits host = true → b.admits host = false := by
  rcases b with ⟨b, _ | _⟩
  · have hdisjoint : a.disjoint ⟨b, false⟩ = !a.admits b := by rcases a with ⟨_, _ | _⟩ <;> rfl
    rw [hdisjoint, Bool.not_eq_true']
    constructor
    · intro h host ha
      rw [Bool.eq_false_iff]
      intro hb
      rw [admits_congr a (lower_of_admits hb), h] at ha
      cases ha
    · intro h
      rw [Bool.eq_false_iff]
      intro ha
      cases (h b ha).symm.trans (admits_self ⟨b, false⟩)
  rcases a with ⟨a, _ | _⟩
  · change (!admits ⟨b, true⟩ a) = true ↔ _
    rw [Bool.not_eq_true']
    exact ⟨fun h host ha => (admits_congr _ (lower_of_admits ha)).trans h,
      fun h => h a (admits_self ⟨a, false⟩)⟩
  · change (!Domain.covers b a && !Domain.covers a b) = true ↔ _
    rw [Bool.and_eq_true, Bool.not_eq_true', Bool.not_eq_true']
    constructor
    · rintro ⟨hba, hab⟩ host ha
      rw [Bool.eq_false_iff]
      intro hb
      rcases Domain.covers_of_common ha hb with h | h
      · cases hba.symm.trans h
      · cases hab.symm.trans h
    · intro h
      exact ⟨h a (admits_self ⟨a, true⟩), Bool.eq_false_iff.2 fun hab =>
        absurd (h b hab) (by simp [admits_self ⟨b, true⟩])⟩

end DomainValue

/-! ## Conditions -/

namespace DomainCondition

theorem covers_refl (c : Option DomainCondition) : covers c c = true := by
  rcases c with _ | ⟨values | values⟩
  · rfl
  all_goals
    simp only [covers, List.all_eq_true, List.any_eq_true]
    exact fun v hv => ⟨v, hv, v.covers_refl⟩

/-- A covering value excludes at least as much. -/
theorem disjoint_of_covers {a b c : DomainValue} (h : a.disjoint b = true)
    (hc : b.covers c = true) : a.disjoint c = true := by
  rw [DomainValue.disjoint_iff] at h ⊢
  intro host ha
  rw [Bool.eq_false_iff]
  intro h'
  cases (h host ha).symm.trans (DomainValue.admits_of_covers hc h')

theorem disjoint_of_covers_left {a b c : DomainValue} (h : a.disjoint b = true)
    (hc : a.covers c = true) : c.disjoint b = true := by
  rw [DomainValue.disjoint_iff] at h ⊢
  exact fun host h' => h host (DomainValue.admits_of_covers hc h')

theorem covers_trans {a b c : Option DomainCondition} (h : covers a b = true)
    (h' : covers b c = true) : covers a c = true := by
  rcases a with _ | ⟨a | a⟩ <;> rcases b with _ | ⟨b | b⟩ <;> rcases c with _ | ⟨c | c⟩ <;>
    simp only [covers, Bool.false_eq_true] at h h' ⊢
  all_goals
    simp only [List.all_eq_true, List.any_eq_true] at h h' ⊢
  · intro z hz
    obtain ⟨y, hy, hyz⟩ := h' z hz
    obtain ⟨x, hx, hxy⟩ := h y hy
    exact ⟨x, hx, DomainValue.covers_trans hxy hyz⟩
  · intro z hz x hx
    obtain ⟨y, hy, hyz⟩ := h' z hz
    exact disjoint_of_covers (h y hy x hx) hyz
  · intro z hz x hx
    obtain ⟨y, hy, hyx⟩ := h x hx
    exact disjoint_of_covers_left (h' z hz y hy) hyx
  · intro x hx
    obtain ⟨y, hy, hyx⟩ := h x hx
    obtain ⟨z, hz, hzy⟩ := h' y hy
    exact ⟨z, hz, DomainValue.covers_trans hzy hyx⟩

/-- A page that the narrow condition admits is admitted by the broad one. -/
theorem admits_of_covers {a b : Option DomainCondition} (h : covers a b = true) {host : List Char}
    (hb : admits? b host = true) : admits? a host = true := by
  rcases a with _ | ⟨a | a⟩ <;> rcases b with _ | ⟨b | b⟩ <;>
    simp only [covers, Bool.false_eq_true] at h
  all_goals
    simp only [admits?, Option.map_some, Option.map_none, Option.getD_some,
      Option.getD_none, admits, List.any_eq_true, List.all_eq_true, Bool.not_eq_true',
      List.any_eq_false] at h hb ⊢
  · obtain ⟨y, hy, hadmits⟩ := hb
    obtain ⟨x, hx, hcovers⟩ := h y hy
    exact ⟨x, hx, DomainValue.admits_of_covers hcovers hadmits⟩
  · obtain ⟨y, hy, hadmits⟩ := hb
    intro x hx hx'
    cases ((DomainValue.disjoint_iff x y).1 (h y hy x hx) host hx').symm.trans hadmits
  · intro x hx hx'
    obtain ⟨y, hy, hcovers⟩ := h x hx
    exact hb y hy (DomainValue.admits_of_covers hcovers hx')

/-- Comparing values says exactly which hosts they admit and share; comparing conditions is sound,
and conditions that cover one another in turn make a chain. -/
theorem comparison_sound_and_transitive :
    (∀ b n : DomainValue,
      b.covers n = true ↔ ∀ host, n.admits host = true → b.admits host = true) ∧
    (∀ a b : DomainValue,
      a.disjoint b = true ↔ ¬ ∃ host, a.admits host = true ∧ b.admits host = true) ∧
    (∀ a b : Option DomainCondition, covers a b = true →
      ∀ host, admits? b host = true → admits? a host = true) ∧
    (∀ a b c : Option DomainCondition, covers a b = true → covers b c = true →
      covers a c = true) := by
  refine ⟨DomainValue.covers_iff, fun a b => ?_, fun _ _ h _ => admits_of_covers h,
    fun _ _ _ => covers_trans⟩
  simp only [DomainValue.disjoint_iff, not_exists, not_and, Bool.not_eq_true]

end DomainCondition

/-! ## Sets of words -/

section
variable {α : Type} [DecidableEq α] [Vocabulary α] {a b c : Option (WordSet α)}

theorem WordSet.covers_refl (a : Option (WordSet α)) : WordSet.covers a a = true := by
  cases a with
  | none => rfl
  | some a => exact WordSet.includes_iff.2 fun _ h => h

theorem WordSet.covers_trans (h : WordSet.covers a b = true) (h' : WordSet.covers b c = true) :
    WordSet.covers a c = true := by
  cases a <;> cases b <;> cases c <;> simp only [WordSet.covers, Bool.false_eq_true] at h h' ⊢
  rw [WordSet.includes_iff] at h h' ⊢
  exact fun x hx => h x (h' x hx)

theorem WordSet.meets_of_covers (h : WordSet.covers a b = true) {s : WordSet α}
    (hb : (b.map (·.meets s)).getD true = true) : (a.map (·.meets s)).getD true = true := by
  cases a <;> cases b <;> simp only [WordSet.covers, Bool.false_eq_true, Option.map_none,
    Option.map_some, Option.getD_none, Option.getD_some] at h hb ⊢
  rw [WordSet.includes_iff] at h
  rw [WordSet.meets_iff] at hb ⊢
  obtain ⟨x, hx, hs⟩ := hb
  exact ⟨x, h x hx, hs⟩

end

/-- A set that includes another also reaches what the other reaches by `raw`. -/
theorem ResourceTypes.covers_expanded {a b : Option ResourceTypes} (h : WordSet.covers a b = true) :
    WordSet.covers (a.map ResourceTypes.expanded) (b.map ResourceTypes.expanded) = true := by
  cases a <;> cases b <;> simp only [WordSet.covers, Bool.false_eq_true, Option.map_none,
    Option.map_some] at h ⊢
  rename_i a b
  rw [WordSet.includes_iff] at h ⊢
  have hraw : b.contains .raw = true → a.contains .raw = true := h .raw
  intro x hx
  unfold ResourceTypes.expanded at hx ⊢
  split at hx
  · rename_i hb
    rw [if_pos (hraw hb), WordSet.mem_union]
    exact (WordSet.mem_union.1 hx).imp_left (h x)
  · split
    · exact WordSet.mem_union.2 (.inl (h x hx))
    · exact h x hx

end ContentRules
