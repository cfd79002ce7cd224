import ContentRules.Proofs.Regex.Search
import ContentRules.Regex.Reader

/-!
The reader refuses repetitions whose bounds are not in order, so the search for an expression that
has been read finds what the expression matches. Main statement: `occursIn_iff_of_read?`.
-/

namespace ContentRules.Regex

namespace Reader

/-- The bounds of repetitions in an element are in order. -/
def Element.IsOrdered : Element → Prop
  | .expr r => r.IsOrdered
  | .modes => True

structure Level.IsOrdered (l : Level) : Prop where
  branches : ∀ r ∈ l.branches, r.IsOrdered
  sequence : ∀ e ∈ l.sequence, e.IsOrdered

structure State.IsOrdered (st : State) : Prop where
  groups : ∀ g ∈ st.groups, g.around.IsOrdered
  level : st.level.IsOrdered

theorem isOrdered_sequenceExpr_of_elements {l : List Element} (h : ∀ e ∈ l, e.IsOrdered) :
    (sequenceExpr l).IsOrdered := by
  unfold sequenceExpr
  refine List.foldlRecOn _ _ (motive := IsOrdered) trivial fun r hr e he => ?_
  have he := h e he
  cases e with
  | modes => exact hr
  | expr s =>
    cases r with
    | empty => exact he
    | _ => exact ⟨he, hr⟩

theorem Level.IsOrdered.expr {l : Level} (h : l.IsOrdered) : l.expr.IsOrdered := by
  refine List.foldlRecOn _ _ (motive := Regex.IsOrdered)
    (isOrdered_sequenceExpr_of_elements h.sequence)
    fun r hr branch hbranch => ?_
  exact ⟨h.branches branch hbranch, hr⟩

theorem isOrdered_empty : Level.IsOrdered ⟨[], []⟩ := ⟨nofun, nofun⟩

theorem isOrdered_atomExpr (m : Modes) (a : Atom) : (atomExpr m a).IsOrdered := by
  cases a <;> trivial

/-- The bounds of a repetition in braces are in order. -/
theorem le_of_bounds? {m : Modes} {s rest : List Char} {least : Nat} {most : Option Nat}
    (h : bounds? m s = some (least, most, rest)) : ∀ n, most = some n → least ≤ n := by
  unfold bounds? at h
  split at h
  · cases h
    rintro _ ⟨⟩
    exact Nat.le_refl _
  · split at h
    · cases h
      nofun
    · split at h
      · split at h
        · rename_i hle
          cases h
          rintro _ ⟨⟩
          exact hle
        · cases h
      · cases h
  · cases h

section
variable {st st' : State} (h : st.IsOrdered)
include h

theorem State.IsOrdered.push {e : Element} (he : e.IsOrdered) : (st.push e).IsOrdered :=
  ⟨h.groups, h.level.branches, List.forall_mem_cons.2 ⟨he, h.level.sequence⟩⟩

theorem State.IsOrdered.nextBranch : st.nextBranch.IsOrdered :=
  ⟨h.groups, List.forall_mem_cons.2 ⟨isOrdered_sequenceExpr_of_elements h.level.sequence,
    h.level.branches⟩, nofun⟩

theorem State.IsOrdered.openGroup (m : Modes) : (st.openGroup m).IsOrdered :=
  ⟨List.forall_mem_cons.2 ⟨h.level, h.groups⟩, isOrdered_empty⟩

theorem State.IsOrdered.closeGroup? (hclose : st.closeGroup? = some st') : st'.IsOrdered := by
  unfold State.closeGroup? at hclose
  split at hclose
  · cases hclose
  · rename_i g groups hgroups
    cases hclose
    have hall := h.groups
    rw [hgroups] at hall
    obtain ⟨hg, hgroups⟩ := List.forall_mem_cons.1 hall
    exact State.IsOrdered.push ⟨hgroups, hg⟩ h.level.expr

theorem State.IsOrdered.repeat? {least : Nat} {most : Option Nat}
    (hbounds : ∀ n, most = some n → least ≤ n) (hrepeat : st.repeat? least most = some st') :
    st'.IsOrdered := by
  unfold State.repeat? at hrepeat
  split at hrepeat
  · rename_i r before hsequence
    cases hrepeat
    have hall := h.level.sequence
    rw [hsequence] at hall
    obtain ⟨hr, hbefore⟩ := List.forall_mem_cons.1 hall
    exact ⟨h.groups, h.level.branches, List.forall_mem_cons.2 ⟨⟨hr, hbounds⟩, hbefore⟩⟩
  · cases hrepeat

theorem State.IsOrdered.named {s rest : List Char}
    (hgroup : group?.named st s = some (st', rest)) : st'.IsOrdered := by
  unfold group?.named at hgroup
  split at hgroup
  · cases hgroup
  split at hgroup
  · cases hgroup
  · cases hgroup
    exact ⟨(h.openGroup st.modes).groups, isOrdered_empty⟩

theorem State.IsOrdered.group? {s rest : List Char} (hgroup : group? st s = some (st', rest)) :
    st'.IsOrdered := by
  unfold Reader.group? at hgroup
  split at hgroup
  any_goals cases hgroup
  · exact h.named hgroup
  · exact h.named hgroup
  · split at hgroup
    · cases hgroup
      exact h.openGroup _
    · cases hgroup
      exact ⟨h.groups, (@State.IsOrdered.push _ h .modes trivial).level⟩
    · cases hgroup
  · exact h.openGroup _

theorem State.IsOrdered.step? {s rest : List Char} (hstep : step? st s = some (st', rest)) :
    st'.IsOrdered := by
  unfold Reader.step? at hstep
  split at hstep
  · cases hstep
  · exact h.group? hstep
  · obtain ⟨_, hclose, heq⟩ := Option.map_eq_some_iff.1 hstep
    cases heq
    exact h.closeGroup? hclose
  · cases hstep
    exact h.nextBranch
  · obtain ⟨_, -, heq⟩ := Option.map_eq_some_iff.1 hstep
    cases heq
    exact h.push trivial
  · obtain ⟨_, hrepeat, heq⟩ := Option.map_eq_some_iff.1 hstep
    cases heq
    exact h.repeat? (fun _ _ => Nat.zero_le _) hrepeat
  · obtain ⟨_, hrepeat, heq⟩ := Option.map_eq_some_iff.1 hstep
    cases heq
    exact h.repeat? (by simp) hrepeat
  · obtain ⟨_, hrepeat, heq⟩ := Option.map_eq_some_iff.1 hstep
    cases heq
    exact h.repeat? (by simp) hrepeat
  · split at hstep
    · cases hstep
    · rename_i hbounds
      obtain ⟨_, hrepeat, heq⟩ := Option.map_eq_some_iff.1 hstep
      cases heq
      exact h.repeat? (le_of_bounds? hbounds) hrepeat
  · obtain ⟨_, -, heq⟩ := Option.map_eq_some_iff.1 hstep
    cases heq
    exact h.push (isOrdered_atomExpr _ _)
  · obtain ⟨_, -, heq⟩ := Option.map_eq_some_iff.1 hstep
    cases heq
    exact h.push trivial
  all_goals
    cases hstep
    exact h.push trivial

theorem State.IsOrdered.readFrom {fuel : Nat} {s : List Char} {r : Regex}
    (hread : readFrom st fuel s = some r) : r.IsOrdered := by
  induction fuel generalizing st s with
  | zero => cases hread
  | succ fuel ih =>
    unfold Reader.readFrom at hread
    split at hread
    · split at hread
      · cases hread
        exact h.level.expr
      · cases hread
    · split at hread
      · cases hread
      · rename_i hstep
        exact ih (h.step? hstep) hread

end

end Reader

theorem isOrdered_of_read? {ignoreCase : Bool} {s : List Char} {r : Regex}
    (h : read? ignoreCase s = some r) : r.IsOrdered := by
  have hstart : Reader.State.IsOrdered ⟨{ ignoreCase }, [], [], ⟨[], []⟩⟩ :=
    ⟨nofun, Reader.isOrdered_empty⟩
  exact hstart.readFrom h

/-- An expression that has been read is found in a text if some part of the text matches it. -/
theorem occursIn_iff_of_read? {ignoreCase : Bool} {s : List Char} {r : Regex}
    (h : read? ignoreCase s = some r) (text : List Char) :
    occursIn r text = true ↔ ∃ i j, Spans text r i j := by
  rw [occursIn_iff (isOrdered_of_read? h), occursIn_iff_exists_spans]

end ContentRules.Regex
