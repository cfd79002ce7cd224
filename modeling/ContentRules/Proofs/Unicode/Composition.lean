import ContentRules.Proofs.Text.Pieces
import ContentRules.Proofs.Unicode.Decomposition
import Mathlib.Data.List.Chain

/-!
The composed normal form of a text is its own normal form, and so are its pieces between points.
What composition makes of a text in canonical order decomposes into that text again: a mark that
joins a base passes marks of smaller classes only, and these are put in front of it again. Main
statement: `normalize_of_mem_pieces`.
-/

namespace ContentRules.Unicode.Composition

open RowTable

/-! ## Marks in order -/

/-- A mark does not follow one of a higher class. -/
def InOrder (a b : Char) : Prop := combiningClass b = 0 ∨ combiningClass a ≤ combiningClass b

/-- Puts the characters of a text behind another one, which is given last character first. -/
def inserted (reversed s : List Char) : List Char :=
  s.foldl (fun reversed c => insertMark c reversed) reversed

theorem decomposed_eq (s : List Char) :
    decomposed s = (inserted [] (s.flatMap decompose)).reverse := rfl

theorem inserted_append (reversed s t : List Char) :
    inserted reversed (s ++ t) = inserted (inserted reversed s) t := List.foldl_append

theorem mem_insertMark {c d : Char} {reversed : List Char} :
    d ∈ insertMark c reversed ↔ d = c ∨ d ∈ reversed := by
  induction reversed with
  | nil => simp [insertMark]
  | cons e r ih =>
    rw [insertMark]
    split
    · rw [List.mem_cons, ih, List.mem_cons]
      exact or_left_comm
    · exact List.mem_cons

theorem mem_inserted {d : Char} {reversed s : List Char} :
    d ∈ inserted reversed s ↔ d ∈ reversed ∨ d ∈ s := by
  induction s generalizing reversed with
  | nil => simp [inserted]
  | cons c s ih =>
    rw [inserted, List.foldl_cons, ← inserted, ih, mem_insertMark, List.mem_cons,
      or_comm (a := d = c), or_assoc]

theorem insertMark_of_lt {c d : Char}
    (h : combiningClass c ≠ 0 ∧ combiningClass c < combiningClass d)
    (reversed : List Char) : insertMark c (d :: reversed) = d :: insertMark c reversed := if_pos h

theorem insertMark_of_inOrder {c d : Char} (h : InOrder d c) (reversed : List Char) :
    insertMark c (d :: reversed) = c :: d :: reversed := by
  refine if_neg ?_
  rw [InOrder] at h
  omega

theorem inOrder_of_not {c d : Char}
    (h : ¬(combiningClass c ≠ 0 ∧ combiningClass c < combiningClass d)) : InOrder d c := by
  rw [InOrder]
  omega

theorem head?_insertMark {c e : Char} {reversed : List Char}
    (h : e ∈ (insertMark c reversed).head?) : e = c ∨ e ∈ reversed.head? := by
  cases reversed with
  | nil => exact .inl (Option.some.inj h).symm
  | cons d r =>
    rw [insertMark] at h
    split at h
    · exact .inr h
    · exact .inl (Option.some.inj h).symm

theorem isChain_insertMark {reversed : List Char} (c : Char)
    (h : reversed.IsChain fun b a => InOrder a b) :
    (insertMark c reversed).IsChain fun b a => InOrder a b := by
  induction reversed with
  | nil => exact .singleton c
  | cons d r ih =>
    by_cases hlt : combiningClass c ≠ 0 ∧ combiningClass c < combiningClass d
    · rw [insertMark_of_lt hlt]
      refine List.isChain_cons.2 ⟨fun e he => ?_, ih h.tail⟩
      rcases head?_insertMark he with rfl | he
      · exact .inr (Nat.le_of_lt hlt.2)
      · exact (List.isChain_cons.1 h).1 e he
    · rw [insertMark_of_inOrder (inOrder_of_not hlt)]
      exact List.isChain_cons_cons.2 ⟨inOrder_of_not hlt, h⟩

theorem isChain_inserted {reversed : List Char} (s : List Char)
    (h : reversed.IsChain fun b a => InOrder a b) :
    (inserted reversed s).IsChain fun b a => InOrder a b := by
  induction s generalizing reversed with
  | nil => exact h
  | cons c s ih => exact ih (isChain_insertMark c h)

/-- Behind a text in order, a text is left as it is if they are in order together. -/
theorem inserted_of_isChain {reversed s : List Char} (h : (reversed.reverse ++ s).IsChain InOrder) :
    inserted reversed s = s.reverse ++ reversed := by
  induction s generalizing reversed with
  | nil => rfl
  | cons c s ih =>
    have hinsert : insertMark c reversed = c :: reversed := by
      cases reversed with
      | nil => rfl
      | cons d r =>
        refine insertMark_of_inOrder ?_ r
        rw [List.reverse_cons, List.append_assoc, List.singleton_append] at h
        exact (List.isChain_append_cons_cons.1 h).2.1
    rw [inserted, List.foldl_cons, hinsert, ← inserted, ih (by simpa using h)]
    simp

/-- Marks of two classes may be put behind a text in either order. -/
theorem insertMark_comm {c d : Char} (hd : 0 < combiningClass d)
    (hlt : combiningClass d < combiningClass c) (reversed : List Char) :
    insertMark d (insertMark c reversed) = insertMark c (insertMark d reversed) := by
  have hdc : InOrder d c := .inr (Nat.le_of_lt hlt)
  have hcd : combiningClass d ≠ 0 ∧ combiningClass d < combiningClass c := ⟨by omega, hlt⟩
  induction reversed with
  | nil => rw [insertMark, insertMark, insertMark_of_lt hcd, insertMark_of_inOrder hdc, insertMark]
  | cons e r ih =>
    by_cases hce : combiningClass c ≠ 0 ∧ combiningClass c < combiningClass e
    · have hde : combiningClass d ≠ 0 ∧ combiningClass d < combiningClass e := by omega
      rw [insertMark_of_lt hce, insertMark_of_lt hde, insertMark_of_lt hde,
        insertMark_of_lt hce, ih]
    · rw [insertMark_of_inOrder (inOrder_of_not hce), insertMark_of_lt hcd]
      by_cases hde : combiningClass d ≠ 0 ∧ combiningClass d < combiningClass e
      · rw [insertMark_of_lt hde, insertMark_of_inOrder (inOrder_of_not hce)]
      · rw [insertMark_of_inOrder (inOrder_of_not hde), insertMark_of_inOrder hdc]

/-- A mark may be put in front of marks of smaller classes. -/
theorem inserted_cons_of_lt {c : Char} {s : List Char}
    (hs : ∀ d ∈ s, 0 < combiningClass d ∧ combiningClass d < combiningClass c)
    (reversed : List Char) : inserted reversed (c :: s) = inserted reversed (s ++ [c]) := by
  induction s generalizing reversed with
  | nil => rfl
  | cons d s ih =>
    obtain ⟨⟨hpos, hlt⟩, hs⟩ := List.forall_mem_cons.1 hs
    calc inserted reversed (c :: d :: s)
        = inserted (insertMark d (insertMark c reversed)) s := rfl
      _ = inserted (insertMark c (insertMark d reversed)) s := by rw [insertMark_comm hpos hlt]
      _ = inserted (insertMark d reversed) (s ++ [c]) := ih hs _

/-! ## Texts in canonical order -/

/-- The text is decomposed, and its marks are in order. -/
structure IsCanonical (s : List Char) : Prop where
  decomposes : ∀ c ∈ s, decompose c = [c]
  inOrder : s.IsChain InOrder

theorem isCanonical_decomposed (s : List Char) : IsCanonical (decomposed s) := by
  rw [decomposed_eq]
  refine ⟨fun c hc => ?_, ?_⟩
  · rcases mem_inserted.1 (List.mem_reverse.1 hc) with hc | hc
    · cases hc
    · obtain ⟨d, -, hd⟩ := List.mem_flatMap.1 hc
      exact decompose_of_mem_decompose hd
  · rw [List.isChain_reverse]
    exact isChain_inserted _ .nil

theorem IsCanonical.of_isInfix {s t : List Char} (h : IsCanonical s) (ht : t <:+: s) :
    IsCanonical t :=
  ⟨fun c hc => h.decomposes c (ht.subset hc), List.IsChain.infix h.inOrder ht⟩

theorem flatMap_decompose {s : List Char} (h : ∀ c ∈ s, decompose c = [c]) :
    s.flatMap decompose = s := by
  induction s with
  | nil => rfl
  | cons c s ih =>
    obtain ⟨hc, hs⟩ := List.forall_mem_cons.1 h
    rw [List.flatMap_cons, hc, ih hs, List.singleton_append]

theorem IsCanonical.decomposed_eq {s : List Char} (h : IsCanonical s) : decomposed s = s := by
  rw [Composition.decomposed_eq, flatMap_decompose h.decomposes,
    inserted_of_isChain (by simpa using h.inOrder)]
  simp

/-! ## Composing -/

/-- Every character of a composed text is one of the text or made of such ones. -/
theorem forall_mem_composeFrom {P : Char → Prop}
    (hP : ∀ b c p, composite? b c = some p → P b → P c → P p) {base : Option Char}
    {held s : List Char} (hbase : ∀ b ∈ base, P b) (hheld : ∀ c ∈ held, P c) (hs : ∀ c ∈ s, P c) :
    ∀ c ∈ composeFrom base held s, P c := by
  induction s generalizing base held with
  | nil =>
    rw [composeFrom]
    refine List.forall_mem_append.2 ⟨fun c hc => hbase c (by simpa using hc), fun c hc => ?_⟩
    exact hheld c (List.mem_reverse.1 hc)
  | cons c s ih =>
    obtain ⟨hc, hs⟩ := List.forall_mem_cons.1 hs
    have hsome {b : Char} (hb : P b) : ∀ b' ∈ some b, P b' := by
      rintro b' ⟨⟩
      exact hb
    cases base with
    | none =>
      rw [composeFrom]
      split
      · exact ih (hsome hc) nofun hs
      · exact List.forall_mem_cons.2 ⟨hc, ih nofun nofun hs⟩
    | some b =>
      have hb := hbase b rfl
      rw [composeFrom]
      split
      · rename_i p hp
        split at hp
        · cases hp
        · exact ih (hsome (hP b c p hp hb hc)) hheld hs
      split
      · refine List.forall_mem_cons.2
          ⟨hb, List.forall_mem_append.2 ⟨fun d hd => ?_, ih (hsome hc) nofun hs⟩⟩
        exact hheld d (List.mem_reverse.1 hd)
      · exact ih hbase (List.forall_mem_cons.2 ⟨hc, hheld⟩) hs

/-- What is held back behind a base: marks in order. -/
structure IsHeld (held s : List Char) : Prop where
  marks : ∀ c ∈ held, 0 < combiningClass c
  inOrder : (held.reverse ++ s).IsChain InOrder

/-- The mark that is held back last lets the next character join the base. -/
def Lets (held : List Char) (c : Char) : Prop :=
  ∀ m ∈ held.head?, combiningClass m < combiningClass c

/-- The test by which a character is blocked, for classes of any kind. -/
theorem not_blocked_iff (f : Char → Nat) (held : List Char) (n : Nat) :
    (held.head?.map fun m => decide (n ≤ f m)).getD false = false ↔ ∀ m ∈ held.head?, f m < n := by
  cases held <;> simp

theorem lets_iff {held : List Char} {c : Char} :
    (held.head?.map fun m => decide (combiningClass c ≤ combiningClass m)).getD false = false ↔
      Lets held c := not_blocked_iff combiningClass held (combiningClass c)

section
variable {held s : List Char} {c : Char} (h : IsHeld held (c :: s))
include h

/-- A character that is let join the base is of a higher class than all marks that are held back. -/
theorem IsHeld.lt (hlets : Lets held c) :
    ∀ d ∈ held, 0 < combiningClass d ∧ combiningClass d < combiningClass c := by
  have hchain := (List.isChain_append.1 h.inOrder).1
  rw [List.isChain_reverse] at hchain
  have hmarks := h.marks
  clear h
  -- each mark is of a lower class than the one before it, or of the same
  induction held with
  | nil => nofun
  | cons m held ih =>
    have hm := hlets m rfl
    obtain ⟨hpos, hmarks⟩ := List.forall_mem_cons.1 hmarks
    obtain ⟨hnext, hchain⟩ := List.isChain_cons.1 hchain
    refine List.forall_mem_cons.2 ⟨⟨hpos, hm⟩, ih (fun d hd => ?_) hchain hmarks⟩
    rcases hnext d hd with h | h
    · exact absurd h (Nat.ne_of_gt hpos)
    · exact Nat.lt_of_le_of_lt h hm

theorem IsHeld.remove (hlets : Lets held c) : IsHeld held s := by
  obtain ⟨hheld, hcs, hjoin⟩ := List.isChain_append.1 h.inOrder
  refine ⟨h.marks, List.isChain_append.2 ⟨hheld, hcs.tail, fun m hm d hd => ?_⟩⟩
  have hm' : m ∈ held.head? := by rwa [List.getLast?_reverse] at hm
  rcases (List.isChain_cons.1 hcs).1 d hd with h | h
  · exact .inl h
  · exact .inr (Nat.le_trans (Nat.le_of_lt (hlets m hm')) h)

theorem IsHeld.push (hc : combiningClass c ≠ 0) : IsHeld (c :: held) s := by
  refine ⟨List.forall_mem_cons.2 ⟨Nat.pos_of_ne_zero hc, h.marks⟩, ?_⟩
  simpa using h.inOrder

theorem IsHeld.flush : IsHeld [] s :=
  ⟨nofun, (List.isChain_append.1 h.inOrder).2.1.tail⟩

end

/-- A character composed with a mark decomposes into both again, and the marks that are inserted
after them let the mark go behind those it comes after. -/
theorem inserted_of_composite? {b c p : Char} (hp : composite? b c = some p) {held : List Char}
    (hheld : ∀ d ∈ held, 0 < combiningClass d ∧ combiningClass d < combiningClass c)
    (s reversed : List Char) : inserted reversed (decompose p ++ (held ++ s)) =
      inserted reversed (decompose b ++ (held ++ c :: s)) :=
  calc inserted reversed (decompose p ++ (held ++ s))
      = inserted reversed (decompose b ++ (c :: held) ++ s) := by
        rw [decompose_of_composite? hp]
        simp
    _ = inserted reversed (decompose b ++ (held ++ [c]) ++ s) := by
        rw [inserted_append, inserted_append, inserted_cons_of_lt hheld, ← inserted_append,
          ← inserted_append]
        simp only [List.append_assoc]
    _ = inserted reversed (decompose b ++ (held ++ c :: s)) := by simp

/-- The composed text decomposes into the text, up to the order of marks. -/
theorem inserted_composeFrom {base : Option Char} {held s : List Char}
    (hdecompose : ∀ c ∈ held.reverse ++ s, decompose c = [c]) (hbase : base = none → held = [])
    (hheld : IsHeld held s) (reversed : List Char) :
    inserted reversed ((composeFrom base held s).flatMap decompose) =
      inserted reversed (base.toList.flatMap decompose ++ (held.reverse ++ s)) := by
  induction s generalizing base held reversed with
  | nil =>
    rw [composeFrom, List.flatMap_append, List.append_nil,
      flatMap_decompose fun c hc => hdecompose c (List.mem_append_left _ hc)]
  | cons c s ih =>
    obtain ⟨hdheld, hs⟩ := List.forall_mem_append.1 hdecompose
    obtain ⟨hc, hs⟩ := List.forall_mem_cons.1 hs
    have hflush (reversed : List Char) :
        inserted reversed ((composeFrom (some c) [] s).flatMap decompose) =
          inserted reversed (c :: s) := by
      have hrest := @ih (some c) [] hs nofun hheld.flush reversed
      rw [hrest, Option.toList_some, List.flatMap_singleton, hc]
      rfl
    cases base with
    | none =>
      obtain rfl := hbase rfl
      rw [composeFrom]
      split
      · exact hflush reversed
      · have hrest := @ih none [] hs (fun _ => rfl) hheld.flush (insertMark c reversed)
        rw [List.flatMap_cons, hc]
        exact hrest
    | some b =>
      rw [composeFrom]
      split
      · rename_i p hp
        split at hp
        · cases hp
        · rename_i hfree
          have hlets := lets_iff.1 (Bool.eq_false_iff.2 hfree)
          have hrest := @ih (some p) held (List.forall_mem_append.2 ⟨hdheld, hs⟩) nofun
            (hheld.remove hlets) reversed
          have hlower :
              ∀ d ∈ held.reverse, 0 < combiningClass d ∧ combiningClass d < combiningClass c :=
            fun d hd => hheld.lt hlets d (List.mem_reverse.1 hd)
          rw [hrest, Option.toList_some, Option.toList_some, List.flatMap_singleton,
            List.flatMap_singleton, inserted_of_composite? hp hlower]
      split
      · rw [List.flatMap_cons, List.flatMap_append, flatMap_decompose hdheld, ← List.append_assoc,
          inserted_append, hflush, ← inserted_append]
        simp
      · rename_i hmark
        have hpushed : ∀ d ∈ (c :: held).reverse ++ s, decompose d = [d] := by
          rw [List.reverse_cons, List.append_assoc]
          exact hdecompose
        rw [@ih (some b) (c :: held) hpushed nofun (hheld.push hmark) reversed]
        simp

/-- What composes from a text in canonical order decomposes into it again. -/
theorem IsCanonical.decomposed_composeFrom {s : List Char} (h : IsCanonical s) :
    decomposed (composeFrom none [] s) = s := by
  have hinserted :=
    @inserted_composeFrom none [] s h.decomposes (fun _ => rfl) ⟨nofun, h.inOrder⟩ []
  rw [Composition.decomposed_eq, hinserted]
  have heq := h.decomposed_eq
  rw [Composition.decomposed_eq, flatMap_decompose h.decomposes] at heq
  exact heq

theorem IsCanonical.normalize_composeFrom {s : List Char} (h : IsCanonical s) :
    normalize (composeFrom none [] s) = composeFrom none [] s := by
  rw [normalize]
  split
  · rfl
  · rw [h.decomposed_composeFrom]

/-! ## Points -/

set_option maxRecDepth 400000 in
/-- The point stands before all marks of the table. -/
theorem combiningClass_point : combiningClass '.' = 0 := by
  have hliteral : ∃ text, classText = String.ofList text ∧ ascendsFrom 0x2F
      (writtenRows (fun text => (text.map (Text.number 16)).getD 0) text) = true := by
    refine ⟨?text, ?literal, ?ascends⟩
    case literal =>
      unfold classText
      with_reducible exact rfl
    case ascends => decide +kernel
  obtain ⟨text, htext, hascends⟩ := hliteral
  rw [← rows_ofText, ← htext, ← classes] at hascends
  cases hrow : classes.row? '.'.toNat with
  | none => rw [combiningClass, RowTable.find?, hrow]; rfl
  | some r =>
    have hfirst := first_ge_of_ascendsFrom hascends r (mem_of_search hrow)
    have hholds := search_eq_some classes _ _ _ r hrow
    have hpoint : '.'.toNat = 0x2E := rfl
    omega

/-- A point holds marks back as nothing does. -/
theorem composeFrom_point (held s : List Char) :
    composeFrom (some '.') held s = '.' :: (held.reverse ++ composeFrom none [] s) := by
  induction s generalizing held with
  | nil => simp [composeFrom]
  | cons c s ih =>
    rw [composeFrom, composeFrom, (composite?_point c).1, ite_self]
    dsimp only
    split
    · rfl
    · rw [ih]
      simp

theorem composeFrom_append_point {base : Option Char} {held s : List Char}
    (hbase : base = none → held = []) (t : List Char) :
    composeFrom base held (s ++ '.' :: t) =
      composeFrom base held s ++ '.' :: composeFrom none [] t := by
  induction s generalizing base held with
  | nil =>
    rw [List.nil_append, composeFrom]
    cases base with
    | none =>
      obtain rfl := hbase rfl
      rw [composeFrom, if_pos combiningClass_point, composeFrom_point]
      rfl
    | some b =>
      rw [composeFrom, (composite?_point b).2, ite_self]
      dsimp only
      rw [if_pos combiningClass_point, composeFrom_point]
      simp
  | cons c s ih =>
    cases base with
    | none =>
      obtain rfl := hbase rfl
      rw [List.cons_append, composeFrom, composeFrom]
      split
      · exact @ih (some c) [] nofun
      · rw [@ih none [] fun _ => rfl, List.cons_append]
    | some b =>
      rw [List.cons_append, composeFrom, composeFrom]
      split
      · exact @ih _ held nofun
      split
      · rw [@ih (some c) [] nofun]
        simp
      · exact @ih (some b) (c :: held) nofun

theorem not_mem_composeFrom {s : List Char} (h : '.' ∉ s) : '.' ∉ composeFrom none [] s := by
  have hcomposite (b c p : Char) (hp : composite? b c = some p) (_ : b ≠ '.') (hc : c ≠ '.') :
      p ≠ '.' := by
    -- the last character of a decomposition is the one that has joined
    rintro rfl
    have hparts := decompose_of_composite? hp
    rw [decompose_eq_self_of_apart (.inl (by decide))] at hparts
    have hlast := congrArg List.getLast? hparts
    rw [List.getLast?_append, List.getLast?_singleton] at hlast
    exact hc (Option.some.inj hlast).symm
  have hs : ∀ c ∈ s, c ≠ '.' := fun c hc heq => h (heq ▸ hc)
  exact fun hpoint =>
    @forall_mem_composeFrom (· ≠ '.') hcomposite none [] s nofun nofun hs '.' hpoint rfl

/-- Each piece of a text is composed by itself. -/
theorem pieces_composeFrom (s : List Char) :
    Text.pieces (· == '.') (composeFrom none [] s) =
      (Text.pieces (· == '.') s).map (composeFrom none []) := by
  induction hlength : s.length using Nat.strongRecOn generalizing s with
  | ind _ ih =>
    by_cases hmem : '.' ∈ s
    · obtain ⟨front, back, rfl, hfront⟩ := List.eq_append_cons_of_mem hmem
      have hshorter : back.length < (front ++ '.' :: back).length := by simp; omega
      rw [composeFrom_append_point (fun _ => rfl),
        Text.pieces_append_cons (not_mem_composeFrom hfront), Text.pieces_append_cons hfront,
        ih _ (hlength ▸ hshorter) back rfl, List.map_cons]
    · rw [Text.pieces_of_not_mem hmem, Text.pieces_of_not_mem (not_mem_composeFrom hmem),
        List.map_singleton]

/-- The pieces of a text in normal form are in normal form. -/
theorem normalize_of_mem_pieces {s piece : List Char}
    (h : piece ∈ Text.pieces (· == '.') (normalize s)) : normalize piece = piece := by
  rw [normalize] at h
  split at h
  · rename_i hlow
    have hpiece : piece.all (·.toNat < 0x300) = true := List.all_eq_true.2 fun c hc =>
      List.all_eq_true.1 hlow c ((Text.infix_of_mem_pieces h).subset hc)
    rw [normalize, if_pos hpiece]
  · rw [pieces_composeFrom] at h
    obtain ⟨part, hpart, rfl⟩ := List.mem_map.1 h
    exact ((isCanonical_decomposed s).of_isInfix
      (Text.infix_of_mem_pieces hpart)).normalize_composeFrom

end ContentRules.Unicode.Composition
