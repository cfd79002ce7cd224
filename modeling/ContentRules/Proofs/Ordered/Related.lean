import Mathlib.Data.List.Forall2

/-!
Results that are related, and lists whose members are related one by one. A list is read by reading
each of its members, so it is related to what it is read as, member by member. Main statement:
`mapM_eq_some_iff`.
-/

namespace ContentRules

variable {α β γ δ : Type}

/-! ## Results that may be missing -/

section
variable {R : α → β → Prop} {S : γ → δ → Prop} {x : Option α} {y : Option β}

theorem rel_bind {f : α → Option γ} {g : β → Option δ} (h : Option.Rel R x y)
    (hfg : ∀ a b, R a b → Option.Rel S (f a) (g b)) : Option.Rel S (x.bind f) (y.bind g) := by
  cases h with
  | none => exact .none
  | some h => exact hfg _ _ h

theorem rel_map {f : α → γ} {g : β → δ} (h : Option.Rel R x y)
    (hfg : ∀ a b, R a b → S (f a) (g b)) : Option.Rel S (x.map f) (y.map g) := by
  cases h with
  | none => exact .none
  | some h => exact .some (hfg _ _ h)

theorem rel_refl {T : α → α → Prop} (h : ∀ a, T a a) : Option.Rel T x x := by
  cases x with
  | none => exact .none
  | some a => exact .some (h a)

theorem isSome_eq_of_rel (h : Option.Rel R x y) : x.isSome = y.isSome := by cases h <;> rfl

end

/-! ## Lists -/

section
variable {R : α → β → Prop} {l : List α} {l' : List β}

/-- Each member of the second list comes from one of the first. -/
theorem exists_of_mem_forall₂ (h : List.Forall₂ R l l') {b : β} (hb : b ∈ l') : ∃ a ∈ l, R a b := by
  induction h with
  | nil => cases hb
  | cons hab _ ih =>
    rcases List.mem_cons.1 hb with rfl | hb
    · exact ⟨_, .head _, hab⟩
    · obtain ⟨a, ha, hr⟩ := ih hb
      exact ⟨a, .tail _ ha, hr⟩

theorem forall_mem_iff_of_forall₂ {P : α → Prop} {Q : β → Prop} (h : List.Forall₂ R l l')
    (hR : ∀ a ∈ l, ∀ b, R a b → (P a ↔ Q b)) : (∀ a ∈ l, P a) ↔ ∀ b ∈ l', Q b := by
  induction h with
  | nil => simp
  | cons hab _ ih =>
    rw [List.forall_mem_cons, List.forall_mem_cons, hR _ (.head _) _ hab,
      ih fun a ha => hR a (.tail _ ha)]

theorem map_eq_of_forall₂ {f : α → γ} {g : β → γ} (h : List.Forall₂ R l l')
    (hR : ∀ a b, R a b → g b = f a) : l'.map g = l.map f := by
  induction h with
  | nil => rfl
  | cons hab _ ih => rw [List.map_cons, List.map_cons, hR _ _ hab, ih]

theorem exists_of_forall₂_concat {a : α} (h : List.Forall₂ R (l ++ [a]) l') :
    ∃ first last, List.Forall₂ R l first ∧ R a last ∧ l' = first ++ [last] := by
  induction l generalizing l' with
  | nil =>
    obtain ⟨last, _, hlast, hnil, rfl⟩ := List.forall₂_cons_left_iff.1 h
    cases hnil
    exact ⟨[], last, .nil, hlast, rfl⟩
  | cons c l ih =>
    obtain ⟨d, l', hcd, hl, rfl⟩ := List.forall₂_cons_left_iff.1 h
    obtain ⟨first, last, hfirst, hlast, rfl⟩ := ih hl
    exact ⟨d :: first, last, .cons hcd hfirst, hlast, rfl⟩

end

/-! ## Reading each member -/

section
variable {f : α → Option β} {l : List α}

/-- A list is read as another if its members are read as those of the other. -/
theorem mapM_eq_some_iff {l' : List β} :
    l.mapM f = some l' ↔ List.Forall₂ (fun a b => f a = some b) l l' := by
  induction l generalizing l' with
  | nil => simp [eq_comm]
  | cons a l ih =>
    rw [List.mapM_cons, List.forall₂_cons_left_iff]
    cases ha : f a with
    | none => simp
    | some b =>
      cases hl : l.mapM f with
      | none => simp [← ih, hl]
      | some bs => simp [← ih, hl, eq_comm]

/-- What is written member by member is read again. -/
theorem mapM_map_eq_some {write : γ → α} {g : γ → β} {items : List γ}
    (h : ∀ c ∈ items, f (write c) = some (g c)) :
    (items.map write).mapM f = some (items.map g) := by
  rw [mapM_eq_some_iff, List.forall₂_map_left_iff, List.forall₂_map_right_iff, List.forall₂_same]
  exact h

theorem exists_mapM_eq_some (h : ∀ a ∈ l, (f a).isSome = true) : ∃ bs, l.mapM f = some bs := by
  induction l with
  | nil => exact ⟨[], rfl⟩
  | cons a l ih =>
    obtain ⟨b, hb⟩ := Option.isSome_iff_exists.1 (h a (.head _))
    obtain ⟨bs, hbs⟩ := ih fun a ha => h a (.tail _ ha)
    exact ⟨b :: bs, by rw [List.mapM_cons, hb, hbs]; rfl⟩

end

end ContentRules
