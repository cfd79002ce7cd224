import ContentRules.Proofs.Ordered.Related
import ContentRules.Proofs.Regex.CaseModes

/-!
What the mode in which case does not count changes of an expression: the tree stays the same, and
its sets have the case of letters taken away at more places. Two readers of which the second has
this mode on wherever the first has go through a text together, so whether a text writes an
expression does not depend on the mode. Main statements: `rel_read?` and `read?_isSome_eq`.
-/

namespace ContentRules.Regex

/-- The second set is the first one with the case of letters taken away at more places. -/
inductive CharSet.MoreFolded : CharSet → CharSet → Prop where
  | refl (s : CharSet) : MoreFolded s s
  | union {a a' b b' : CharSet} : MoreFolded a a' → MoreFolded b b' →
    MoreFolded (.union a b) (.union a' b')
  | inter {a a' b b' : CharSet} : MoreFolded a a' → MoreFolded b b' →
    MoreFolded (.inter a b) (.inter a' b')
  | compl {a a' : CharSet} : MoreFolded a a' → MoreFolded (.compl a) (.compl a')
  | folded (unicode : Bool) {a a' : CharSet} : MoreFolded a a' →
    MoreFolded (.folded unicode a) (.folded unicode a')
  | fold (unicode : Bool) {a a' : CharSet} : MoreFolded a a' → MoreFolded a (.folded unicode a')

/-- The second expression is the first one with other sets, each related to the one it stands
for. -/
inductive SameTree (R : CharSet → CharSet → Prop) : Regex → Regex → Prop where
  | empty : SameTree R .empty .empty
  | chars {s s' : CharSet} : R s s' → SameTree R (.chars s) (.chars s')
  | anchor (a : Anchor) : SameTree R (.anchor a) (.anchor a)
  | seq {r r' s s' : Regex} : SameTree R r r' → SameTree R s s' →
    SameTree R (.seq r s) (.seq r' s')
  | alt {r r' s s' : Regex} : SameTree R r r' → SameTree R s s' →
    SameTree R (.alt r s) (.alt r' s')
  | repeated {r r' : Regex} (least : Nat) (most : Option Nat) : SameTree R r r' →
    SameTree R (.repeated r least most) (.repeated r' least most)

/-- What two readers have read and what they have left: the same rest, and related results. -/
abbrev RelRead {α β : Type} (R : α → β → Prop) :
    Option (α × List Char) → Option (β × List Char) → Prop :=
  Option.Rel fun p q => R p.1 q.1 ∧ p.2 = q.2

theorem map_snd_eq_of_relRead {α β : Type} {R : α → β → Prop} {x : Option (α × List Char)}
    {y : Option (β × List Char)} (h : RelRead R x y) : x.map Prod.snd = y.map Prod.snd := by
  cases h with
  | none => rfl
  | some h => exact congrArg some h.2

/-! ## Modes -/

/-- The same modes, but that case may count for the first reader only. -/
structure Modes.FoldsMore (m m' : Modes) : Prop where
  caseless : m.caseless = m'.caseless
  ignoreCase : m.ignoreCase = true → m'.ignoreCase = true

theorem Modes.foldsMore_caseless (m : Modes) : m.caseless.FoldsMore m := ⟨rfl, nofun⟩

namespace Modes.FoldsMore

section
variable {m m' : Modes} (h : m.FoldsMore m')
include h

theorem unicode : m.unicode = m'.unicode :=
  show m.caseless.unicode = m'.caseless.unicode from congrArg Modes.unicode h.caseless

/-- Whatever is read in the same way with and without the mode is read in the same way. -/
theorem congr {α : Type} {f : Modes → α} (hf : ∀ m : Modes, f m.caseless = f m) : f m = f m' := by
  rw [← hf m, h.caseless, hf m']

theorem foldSet {s s' : CharSet} (hs : s.MoreFolded s') :
    (if m.ignoreCase then .folded m.unicode s else s : CharSet).MoreFolded
      (if m'.ignoreCase then .folded m'.unicode s' else s') := by
  have hmode := h.ignoreCase
  rw [h.unicode]
  cases hm : m.ignoreCase <;> cases hm' : m'.ignoreCase
  · exact hs
  · exact hs.fold _
  · rw [hmode hm] at hm'
    cases hm'
  · exact hs.folded _

theorem finishSet? {s s' : CharSet} (hs : s.MoreFolded s') (negated : Bool) :
    Option.Rel CharSet.MoreFolded (finishSet? m negated s) (Regex.finishSet? m' negated s') := by
  have hfold := h.foldSet hs
  unfold Regex.finishSet?
  rw [h.unicode] at hfold ⊢
  generalize m'.unicode = unicode at hfold ⊢
  cases negated with
  | false => exact .some hfold
  | true => cases unicode with
    | true => exact .some hfold.compl
    | false => exact .none

end

end Modes.FoldsMore

/-! ## Escapes -/

/-- The same atom, but that the case of letters may be taken away from the second one's set. -/
inductive Atom.MoreFolded : Atom → Atom → Prop where
  | literal (c : Char) : MoreFolded (.literal c) (.literal c)
  | set {s s' : CharSet} : s.MoreFolded s' → MoreFolded (.set s) (.set s')
  | anchor (a : Anchor) : MoreFolded (.anchor a) (.anchor a)

theorem Atom.MoreFolded.refl (a : Atom) : a.MoreFolded a := by
  cases a with
  | literal c => exact .literal c
  | set s => exact .set (.refl s)
  | anchor a => exact .anchor a

section
variable {m m' : Modes} (h : m.FoldsMore m')
include h

theorem rel_unicodeClass? (negated : Bool) (s : List Char) :
    RelRead Atom.MoreFolded (unicodeClass? m negated s) (unicodeClass? m' negated s) := by
  have hset (negated : Bool) (set : CharSet) (rest : List Char) :
      RelRead Atom.MoreFolded ((finishSet? m negated set).bind fun t => some (.set t, rest))
        ((finishSet? m' negated set).bind fun t => some (.set t, rest)) :=
    rel_bind (h.finishSet? (.refl set) negated) fun _ _ ht => .some ⟨.set ht, rfl⟩
  unfold unicodeClass?
  rw [h.congr skipGaps_caseless, h.unicode]
  split
  · exact .none
  split
  · exact .none
  · rw [h.congr fun m => funext₂ (bracedName_caseless m)]
    refine rel_bind (rel_refl fun _ => rfl) ?_
    rintro ⟨name, rest⟩ _ rfl
    refine rel_bind (rel_refl fun _ => rfl) ?_
    rintro ⟨set, otherThan⟩ _ rfl
    exact hset _ set rest
  · exact .none
  · refine rel_bind (rel_refl fun _ => rfl) ?_
    rintro set _ rfl
    exact hset _ set _

theorem rel_escape? (s : List Char) : RelRead Atom.MoreFolded (escape? m s) (escape? m' s) := by
  have hsame {x : Option (Atom × List Char)} : RelRead Atom.MoreFolded x x :=
    rel_refl fun p => ⟨.refl p.1, rfl⟩
  have hhex (digits : Nat) (r : List Char) :
      RelRead Atom.MoreFolded (hex? m digits r) (hex? m' digits r) := by
    rw [h.congr (f := fun m => hex? m digits r) fun m => hex?_caseless m digits r]
    exact hsame
  unfold escape?
  split
  any_goals exact hsame
  · exact hhex 2 _
  · exact hhex 4 _
  · exact hhex 8 _
  · exact rel_unicodeClass? h false _
  · exact rel_unicodeClass? h true _
  · rw [h.congr fun m => funext (wordEdge?_caseless m), h.unicode]
    exact hsame
  · rw [h.unicode]
    exact hsame
  · rw [h.unicode]
    exact hsame
  · rw [h.unicode]
    exact hsame
  · have hshort : shorthand? m = shorthand? m' := by
      unfold shorthand?
      rw [h.unicode]
    rw [hshort]
    exact hsame

end

/-! ## Classes in brackets -/

namespace Bracket

/-- The same open class, but that the case of letters may be taken away from the second one's
sets. -/
structure Open.MoreFolded (a b : Open) : Prop where
  outer : a.outer.MoreFolded b.outer
  negated : a.negated = b.negated
  pending : Option.Rel (fun p q => p.1 = q.1 ∧ p.2.MoreFolded q.2) a.pending b.pending

/-- A class with one more item, which no hyphen follows. -/
def addSingle? (m : Modes) (union : CharSet) (rest : List Char) :
    Atom → Option (CharSet × List Char)
  | .literal c => (addRange? m union c c).map (·, rest)
  | .set set => some (.union union set, rest)
  | .anchor _ => none

section
variable {m m' : Modes} (h : m.FoldsMore m')
include h

theorem moreFolded_complete {pending pending' : Option (Operator × CharSet)} {s s' : CharSet}
    (hpending : Option.Rel (fun p q => p.1 = q.1 ∧ p.2.MoreFolded q.2) pending pending')
    (hs : s.MoreFolded s') : (complete m pending s).MoreFolded (complete m' pending' s') := by
  have hright : (foldCase m s).MoreFolded (foldCase m' s') := h.foldSet hs
  cases hpending with
  | none => exact hs
  | @some p q hpq =>
    obtain ⟨op, left⟩ := p
    obtain ⟨_, left'⟩ := q
    obtain ⟨rfl, hleft⟩ := hpq
    have hfold : (foldCase m left).MoreFolded (foldCase m' left') := h.foldSet hleft
    cases op with
    | intersection => exact hfold.inter hright
    | difference => exact hfold.inter hright.compl
    | symmetricDifference => exact (hfold.inter hright.compl).union (hright.inter hfold.compl)

theorem rel_addRange? {u u' : CharSet} (hu : u.MoreFolded u') (first last : Char) :
    Option.Rel CharSet.MoreFolded (addRange? m u first last) (addRange? m' u' first last) := by
  unfold addRange?
  rw [h.unicode]
  split
  · exact .none
  split
  · exact .none
  · exact .some (hu.union (.refl _))

theorem rel_asciiClass? (s : List Char) :
    RelRead (Option.Rel CharSet.MoreFolded) (asciiClass? m s) (asciiClass? m' s) := by
  unfold asciiClass?
  dsimp only
  split
  · exact rel_map (rel_refl (T := Eq) fun _ => rfl) fun set _ hset =>
      ⟨hset ▸ h.finishSet? (.refl set) _, rfl⟩
  · exact .none

theorem rel_item? (s : List Char) : RelRead Atom.MoreFolded (item? m s) (item? m' s) := by
  unfold item?
  split
  · exact .none
  · exact rel_escape? h _
  · exact .some ⟨.literal _, rfl⟩

theorem rel_map_addRange? {u u' : CharSet} (hu : u.MoreFolded u') (first last : Char)
    (rest : List Char) : RelRead CharSet.MoreFolded ((addRange? m u first last).map (·, rest))
      ((addRange? m' u' first last).map (·, rest)) :=
  rel_map (rel_addRange? h hu first last) fun _ _ hset => ⟨hset, rfl⟩

theorem rel_addSingle? {u u' : CharSet} (hu : u.MoreFolded u') {a b : Atom} (hab : a.MoreFolded b)
    (rest : List Char) :
    RelRead CharSet.MoreFolded (addSingle? m u rest a) (addSingle? m' u' rest b) := by
  cases hab with
  | literal c => exact rel_map_addRange? h hu c c rest
  | set hset => exact .some ⟨hu.union hset, rfl⟩
  | anchor => exact .none

theorem rel_addItem? {u u' : CharSet} (hu : u.MoreFolded u') (s : List Char) :
    RelRead CharSet.MoreFolded (addItem? m u s) (addItem? m' u' s) := by
  unfold addItem?
  refine rel_bind (rel_item? h s) ?_
  rintro ⟨a, rest⟩ ⟨b, _⟩ ⟨hab, rfl⟩
  rw [h.congr skipGaps_caseless]
  dsimp only
  split
  · exact .none
  · split
    · exact .none
    · exact rel_addSingle? h hu hab _
    · exact rel_addSingle? h hu hab _
    · refine rel_bind (rel_item? h _) ?_
      rintro ⟨c, rest⟩ ⟨d, _⟩ ⟨hcd, rfl⟩
      cases hab with
      | literal a => cases hcd with
        | literal b => exact rel_map_addRange? h hu a b rest
        | set | anchor => exact .none
      | set | anchor => exact .none
  · exact rel_addSingle? h hu hab _

/-- What reads on inside an opened class agrees if it agrees on all classes. -/
theorem rel_opened {f g : Bool → CharSet → List Char → Option (CharSet × List Char)}
    (hfg :
      ∀ negated inner rest,
        RelRead CharSet.MoreFolded (f negated inner rest) (g negated inner rest))
    (s : List Char) :
    RelRead CharSet.MoreFolded
      (match openClass m s with
        | (_, _, []) => none
        | (negated, inner, rest) => f negated inner rest)
      (match openClass m' s with
        | (_, _, []) => none
        | (negated, inner, rest) => g negated inner rest) := by
  rw [h.congr fun m => funext (openClass_caseless m)]
  obtain ⟨negated, inner, rest⟩ := openClass m' s
  cases rest with
  | nil => exact .none
  | cons c r => exact hfg negated inner (c :: r)

theorem rel_readFrom (fuel : Nat) {st st' : List Open} (hst : List.Forall₂ Open.MoreFolded st st')
    {u u' : CharSet} (hu : u.MoreFolded u') (s : List Char) :
    RelRead CharSet.MoreFolded (readFrom m fuel st u s) (readFrom m' fuel st' u' s) := by
  induction fuel generalizing st st' u u' s with
  | zero => exact .none
  | succ fuel ih =>
    cases hst with
    | nil => exact .none
    | @cons top top' stack stack' htop hstack =>
      have hnested := rel_opened h fun negated inner rest =>
        ih (.cons (a := ⟨u, negated, none⟩) (b := ⟨u', negated, none⟩) ⟨hu, rfl, .none⟩
          (.cons htop hstack)) (.refl inner) rest
      have hoperator (op : Operator) (rest : List Char) :=
        ih (.cons (a := { top with pending := some (op, complete m top.pending u) })
          (b := { top' with pending := some (op, complete m' top'.pending u') })
          ⟨htop.outer, htop.negated, .some ⟨rfl, moreFolded_complete h htop.pending hu⟩⟩ hstack)
          (.refl .empty) rest
      unfold readFrom
      rw [h.congr skipGaps_caseless]
      dsimp only
      split
      · exact .none
      · split
        · rename_i named _
          have hclass := rel_asciiClass? h named
          cases h₁ : asciiClass? m named <;> cases h₂ : asciiClass? m' named <;>
            rw [h₁, h₂] at hclass
          · exact hnested _
          · cases hclass
          · cases hclass
          · cases hclass with
            | some hclass =>
              dsimp only
              rw [hclass.2]
              exact rel_bind hclass.1 fun _ _ hset => ih (.cons htop hstack) (hu.union hset) _
        · exact hnested _
      · rw [htop.negated]
        refine rel_bind (h.finishSet? (moreFolded_complete h htop.pending hu) _)
          fun set set' hset => ?_
        cases hstack with
        | nil => exact .some ⟨hset, rfl⟩
        | cons hnext hstack => exact ih (.cons hnext hstack) (htop.outer.union hset) _
      · exact hoperator .intersection _
      · exact hoperator .difference _
      · exact hoperator .symmetricDifference _
      · refine rel_bind (rel_addItem? h hu _) ?_
        rintro ⟨set, rest⟩ ⟨set', _⟩ ⟨hset, rfl⟩
        exact ih (.cons htop hstack) hset rest

theorem rel_read? (s : List Char) :
    RelRead CharSet.MoreFolded (read? m s) (read? m' s) :=
  rel_opened h (fun _ union rest =>
    rel_readFrom h (rest.length + 1) (.cons ⟨.refl .empty, rfl, .none⟩ .nil) (.refl union) rest) s

end

/-- What follows a class is the same whether or not case counts. -/
theorem read?_caseless (m : Modes) (s : List Char) :
    (read? m.caseless s).map Prod.snd = (read? m s).map Prod.snd :=
  map_snd_eq_of_relRead (rel_read? m.foldsMore_caseless s)

end Bracket

/-! ## Sequences and groups -/

namespace Reader

inductive Element.MoreFolded : Element → Element → Prop where
  | expr {r r' : Regex} : SameTree CharSet.MoreFolded r r' → MoreFolded (.expr r) (.expr r')
  | modes : MoreFolded .modes .modes

structure Level.MoreFolded (l l' : Level) : Prop where
  branches : List.Forall₂ (SameTree CharSet.MoreFolded) l.branches l'.branches
  sequence : List.Forall₂ Element.MoreFolded l.sequence l'.sequence

structure Group.MoreFolded (g g' : Group) : Prop where
  around : g.around.MoreFolded g'.around
  modes : g.modes.FoldsMore g'.modes

/-- Two readers at the same place, the second of which takes the case of letters away at more. -/
structure State.MoreFolded (st st' : State) : Prop where
  modes : st.modes.FoldsMore st'.modes
  names : st.names = st'.names
  groups : List.Forall₂ Group.MoreFolded st.groups st'.groups
  level : st.level.MoreFolded st'.level

theorem sameTree_sequenceExpr {l l' : List Element} (h : List.Forall₂ Element.MoreFolded l l') :
    SameTree CharSet.MoreFolded (sequenceExpr l) (sequenceExpr l') := by
  refine List.rel_foldl (P := SameTree CharSet.MoreFolded) (R := Element.MoreFolded) ?_ .empty h
  intro r r' hr e e' he
  cases he with
  | modes => exact hr
  | expr hs => cases hr with
    | empty => exact hs
    | chars hset => exact hs.seq (.chars hset)
    | anchor a => exact hs.seq (.anchor a)
    | seq h₁ h₂ => exact hs.seq (h₁.seq h₂)
    | alt h₁ h₂ => exact hs.seq (h₁.alt h₂)
    | repeated least most h => exact hs.seq (h.repeated least most)

theorem Level.MoreFolded.expr {l l' : Level} (h : l.MoreFolded l') :
    SameTree CharSet.MoreFolded l.expr l'.expr := by
  refine List.rel_foldl (P := SameTree CharSet.MoreFolded) (R := SameTree CharSet.MoreFolded) ?_
    (sameTree_sequenceExpr h.sequence) h.branches
  exact fun _ _ hr _ _ hbranch => hbranch.alt hr

theorem moreFolded_noElements : Level.MoreFolded ⟨[], []⟩ ⟨[], []⟩ := ⟨.nil, .nil⟩

theorem rel_setMode? {m m' : Modes} (h : m.FoldsMore m') (on : Bool) (c : Char) :
    Option.Rel Modes.FoldsMore (setMode? m on c) (setMode? m' on c) := by
  obtain ⟨hcaseless, hignore⟩ := h
  obtain ⟨ignoreCase, multiLine, dotAll, crlf, unicode, verbose⟩ := m
  obtain ⟨ignoreCase', _, _, _, _, _⟩ := m'
  obtain ⟨-, rfl, rfl, rfl, rfl, rfl⟩ := Modes.mk.injEq .. ▸ hcaseless
  unfold setMode?
  split
  · exact .some ⟨rfl, id⟩
  any_goals exact .some ⟨rfl, hignore⟩
  exact .none

theorem rel_modeLetters? {m m' : Modes} (h : m.FoldsMore m') (on : Bool) (seen s : List Char) :
    Option.Rel (fun p q => p.1.FoldsMore q.1 ∧ p.2 = q.2) (modeLetters? m on seen s)
      (modeLetters? m' on seen s) := by
  induction s generalizing m m' on seen with
  | nil => exact .none
  | cons c r ih =>
    unfold modeLetters?
    split
    · exact .none
    · split
      · exact .none
      · exact .some ⟨h, rfl⟩
    · split
      · exact .none
      · exact .some ⟨h, rfl⟩
    · rename_i heq
      obtain ⟨-, rfl⟩ := List.cons.inj heq
      split
      · exact .none
      · exact ih h _ _
    · rename_i heq
      obtain ⟨rfl, rfl⟩ := List.cons.inj heq
      split
      · exact .none
      · have hmode := rel_setMode? h on c
        cases h₁ : setMode? m on c <;> cases h₂ : setMode? m' on c <;> rw [h₁, h₂] at hmode
        · exact .none
        · cases hmode
        · cases hmode
        · cases hmode with
          | some hmode => exact ih hmode _ _

section
variable {st st' : State} (h : st.MoreFolded st')
include h

theorem State.MoreFolded.push {e e' : Element} (he : e.MoreFolded e') :
    (st.push e).MoreFolded (st'.push e') :=
  ⟨h.modes, h.names, h.groups, h.level.branches, .cons he h.level.sequence⟩

theorem State.MoreFolded.nextBranch : st.nextBranch.MoreFolded st'.nextBranch :=
  ⟨h.modes, h.names, h.groups,
    .cons (sameTree_sequenceExpr h.level.sequence) h.level.branches, .nil⟩

theorem State.MoreFolded.openGroup {m m' : Modes} (hm : m.FoldsMore m') :
    (st.openGroup m).MoreFolded (st'.openGroup m') :=
  ⟨hm, h.names, .cons ⟨h.level, h.modes⟩ h.groups, moreFolded_noElements⟩

theorem rel_closeGroup? : Option.Rel State.MoreFolded st.closeGroup? st'.closeGroup? := by
  have hgroups := h.groups
  unfold State.closeGroup?
  generalize st.groups = groups at hgroups
  generalize st'.groups = groups' at hgroups
  cases hgroups with
  | nil => exact .none
  | cons hg hgroups =>
    refine .some (State.MoreFolded.push ?_ (.expr h.level.expr))
    exact ⟨hg.modes, h.names, hgroups, hg.around⟩

theorem rel_repeat? (least : Nat) (most : Option Nat) :
    Option.Rel State.MoreFolded (st.repeat? least most) (st'.repeat? least most) := by
  have hsequence := h.level.sequence
  unfold State.repeat?
  generalize st.level.sequence = sequence at hsequence
  generalize st'.level.sequence = sequence' at hsequence
  cases hsequence with
  | nil => exact .none
  | cons he hbefore => cases he with
    | modes => exact .none
    | expr hr =>
      exact .some
        ⟨h.modes, h.names, h.groups, h.level.branches, .cons (.expr (hr.repeated _ _)) hbefore⟩

theorem rel_named (r : List Char) :
    RelRead State.MoreFolded (group?.named st r) (group?.named st' r) := by
  unfold group?.named
  rw [h.names]
  split
  · exact .none
  split
  · exact .none
  · have hopen := h.openGroup h.modes
    exact .some ⟨⟨hopen.modes, rfl, hopen.groups, hopen.level⟩, rfl⟩

theorem rel_group? (s : List Char) : RelRead State.MoreFolded (group? st s) (group? st' s) := by
  unfold group?
  rw [h.modes.congr skipGaps_caseless]
  split
  any_goals exact .none
  · exact rel_named h _
  · exact rel_named h _
  · rename_i r _ _ _ _ _ _ _
    have hletters := rel_modeLetters? h.modes true [] r
    cases h₁ : modeLetters? st.modes true [] r <;> cases h₂ : modeLetters? st'.modes true [] r <;>
      rw [h₁, h₂] at hletters
    · exact .none
    · cases hletters
    · cases hletters
    · rename_i p q
      obtain ⟨m, seen, text⟩ := p
      obtain ⟨m', _⟩ := q
      cases hletters with
      | some hletters =>
        obtain ⟨hm, rfl⟩ := hletters
        rcases text with _ | ⟨c, text⟩
        · exact .none
        by_cases hcolon : c = ':'
        · subst hcolon
          exact .some ⟨h.openGroup hm, rfl⟩
        by_cases hparen : c = ')'
        · subst hparen
          have hpush := h.push .modes
          cases seen with
          | nil => exact .none
          | cons => exact .some ⟨⟨hm, hpush.names, hpush.groups, hpush.level⟩, rfl⟩
        · simp [hcolon, hparen]
  · exact .some ⟨h.openGroup h.modes, rfl⟩

theorem sameTree_literalExpr (c : Char) :
    SameTree CharSet.MoreFolded (literalExpr st.modes c) (literalExpr st'.modes c) :=
  .chars (h.modes.foldSet (.refl _))

theorem sameTree_atomExpr {a a' : Atom} (ha : a.MoreFolded a') :
    SameTree CharSet.MoreFolded (atomExpr st.modes a) (atomExpr st'.modes a') := by
  cases ha with
  | literal c => exact sameTree_literalExpr h c
  | set hset => exact .chars hset
  | anchor a => exact .anchor a

theorem rel_step? (s : List Char) : RelRead State.MoreFolded (step? st s) (step? st' s) := by
  have hrepeat (least : Nat) (most : Option Nat) (rest : List Char) :
      RelRead State.MoreFolded ((st.repeat? least most).map (·, rest))
        ((st'.repeat? least most).map (·, rest)) :=
    rel_map (rel_repeat? h least most) fun _ _ hst => ⟨hst, rfl⟩
  have hanchor (a : Modes → Anchor) (ha : ∀ m : Modes, a m.caseless = a m) :
      (st.push (.expr (.anchor (a st.modes)))).MoreFolded
        (st'.push (.expr (.anchor (a st'.modes)))) :=
    h.push (h.modes.congr ha ▸ .expr (.anchor _))
  unfold step?
  split
  · exact .none
  · exact rel_group? h _
  · exact rel_map (rel_closeGroup? h) fun _ _ hst => ⟨hst, rfl⟩
  · exact .some ⟨h.nextBranch, rfl⟩
  · exact rel_map (Bracket.rel_read? h.modes _)
      fun _ _ hset => ⟨h.push (.expr (.chars hset.1)), hset.2⟩
  · exact hrepeat ..
  · exact hrepeat ..
  · exact hrepeat ..
  · rw [h.modes.congr fun m => funext (bounds?_caseless m), h.modes.congr skipGaps_caseless]
    split
    · exact .none
    · exact hrepeat ..
  · exact rel_map (rel_escape? h.modes _)
      fun _ _ ha => ⟨h.push (.expr (sameTree_atomExpr h ha.1)), ha.2⟩
  · rw [h.modes.congr (f := pointSet?) fun _ => rfl]
    exact rel_map (rel_refl (T := Eq) fun _ => rfl) fun set _ hset =>
      ⟨h.push (.expr (.chars (hset ▸ .refl set))), rfl⟩
  · exact .some
      ⟨hanchor (fun m => if m.multiLine then .lineStart m.crlf else .textStart) fun _ => rfl, rfl⟩
  · exact .some
      ⟨hanchor (fun m => if m.multiLine then .lineEnd m.crlf else .textEnd) fun _ => rfl, rfl⟩
  · exact .some ⟨h.push (.expr (sameTree_literalExpr h _)), rfl⟩

theorem rel_readFrom (fuel : Nat) (s : List Char) :
    Option.Rel (SameTree CharSet.MoreFolded) (readFrom st fuel s) (readFrom st' fuel s) := by
  induction fuel generalizing st st' s with
  | zero => exact .none
  | succ fuel ih =>
    unfold readFrom
    rw [h.modes.congr skipGaps_caseless]
    split
    · have hempty : st.groups.isEmpty = st'.groups.isEmpty := by
        rw [Bool.eq_iff_iff, List.isEmpty_iff_length_eq_zero, List.isEmpty_iff_length_eq_zero,
          h.groups.length_eq]
      rw [hempty]
      split
      · exact .some h.level.expr
      · exact .none
    · have hstep := rel_step? h (skipGaps st'.modes s)
      cases h₁ : step? st (skipGaps st'.modes s) <;> cases h₂ : step? st' (skipGaps st'.modes s) <;>
        rw [h₁, h₂] at hstep
      · exact .none
      · cases hstep
      · cases hstep
      · cases hstep with
        | some hstep =>
          dsimp only
          rw [hstep.2]
          exact ih hstep.1 _

end

end Reader

/-- A text that is read with case and without is read as one tree, in which the case of letters is
taken away at more places without case. -/
theorem rel_read? (s : List Char) :
    Option.Rel (SameTree CharSet.MoreFolded) (read? false s) (read? true s) := by
  refine Reader.rel_readFrom ?_ _ s
  exact ⟨⟨rfl, nofun⟩, rfl, .nil, Reader.moreFolded_noElements⟩

/-- A text writes an expression whether or not case counts. -/
theorem read?_isSome_eq (ignoreCase : Bool) (s : List Char) :
    (read? ignoreCase s).isSome = (read? false s).isSome := by
  cases ignoreCase with
  | false => rfl
  | true => exact (isSome_eq_of_rel (rel_read? s)).symm

end ContentRules.Regex
