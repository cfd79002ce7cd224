import ContentRules.Proofs.Filter.OptionStatements
import ContentRules.Proofs.Ordered.Related

/-!
The order of sites in the options of a network rule. An option that names its sites in another order
makes the same statement but for their order, so the options of the rule say the same and its lists
of sites differ in order only. Main statement: `Options.exists_read_of_addsBadfilter`.
-/

namespace ContentRules

namespace DomainList

/-- The lists hold the same sites, in whatever order. -/
structure IsReordered (l m : DomainList) : Prop where
  permitted : l.permitted.Perm m.permitted
  restricted : l.restricted.Perm m.restricted

theorem IsReordered.refl (l : DomainList) : l.IsReordered l := ⟨.refl _, .refl _⟩

theorem IsReordered.trans {l m n : DomainList} (h : l.IsReordered m) (h' : m.IsReordered n) :
    l.IsReordered n :=
  ⟨h.permitted.trans h'.permitted, h.restricted.trans h'.restricted⟩

theorem IsReordered.isEmpty_eq {l m : DomainList} (h : l.IsReordered m) :
    l.isEmpty = m.isEmpty := by
  rw [isEmpty, isEmpty, h.permitted.isEmpty_eq, h.restricted.isEmpty_eq]

theorem addOnce_perm (site : String) {l m : List String} (h : l.Perm m) :
    (addOnce site l).Perm (addOnce site m) := by
  unfold addOnce
  rw [h.contains_eq]
  split
  · exact h
  · exact h.append_right _

theorem addOnce_comm (s t : String) (l : List String) :
    (addOnce s (addOnce t l)).Perm (addOnce t (addOnce s l)) := by
  by_cases hst : s = t
  · rw [hst]
  have hts : ¬t = s := fun h => hst h.symm
  unfold addOnce
  by_cases hs : s ∈ l <;> by_cases ht : t ∈ l <;> simp [hs, ht, hst, hts]
  exact (List.Perm.swap _ _ _).append_left l

/-! ## Pieces of lists of sites -/

/-- The site that a piece names, and whether it is spared. -/
def named? (piece : List Char) : Except ParseError (Option (Bool × String)) :=
  match Text.trim piece with
  | [] => .ok none
  | c :: site =>
    if c = '~' then (readSite site).map fun site => some (true, site)
    else (readSite (c :: site)).map fun site => some (false, site)

/-- The list with one more site. -/
def addNamed (l : DomainList) : Option (Bool × String) → DomainList
  | none => l
  | some (true, site) => { l with restricted := addOnce site l.restricted }
  | some (false, site) => { l with permitted := addOnce site l.permitted }

theorem addPiece_eq (l : DomainList) (piece : List Char) :
    addPiece l piece = (named? piece).map (addNamed l) := by
  have hread (site : List Char) (f : String → DomainList) (g : String → Option (Bool × String))
      (h : ∀ s, addNamed l (g s) = f s) :
      (do return f (← readSite site)) = ((readSite site).map g).map (addNamed l) := by
    cases readSite site with
    | error e => rfl
    | ok s => exact congrArg Except.ok (h s).symm
  unfold addPiece named?
  rcases Text.trim piece with _ | ⟨c, site⟩
  · rfl
  by_cases hc : c = '~'
  · subst hc
    exact hread site _ (fun s => some (true, s)) fun _ => rfl
  · dsimp only
    rw [if_neg hc]
    split
    · rename_i h
      cases h
    · rename_i h
      exact absurd (List.cons.inj h).1 hc
    · exact hread (c :: site) _ (fun s => some (false, s)) fun _ => rfl

theorem addPiece_eq_ok {l m : DomainList} {piece : List Char} :
    addPiece l piece = .ok m ↔ ∃ site, named? piece = .ok site ∧ m = addNamed l site := by
  rw [addPiece_eq]
  cases named? piece with
  | error e => simp [Except.map]
  | ok site => simp [Except.map, eq_comm]

/-- Blanks at the end of a piece do not count. -/
theorem addPiece_append_blanks (l : DomainList) (piece : List Char) {back : List Char}
    (hback : ∀ c ∈ back, Text.isBlank c = true) :
    addPiece l (piece ++ back) = addPiece l piece := by
  rw [addPiece, addPiece, Text.trim_append_blanks hback]

theorem addNamed_congr {l m : DomainList} (h : l.IsReordered m) (site : Option (Bool × String)) :
    (l.addNamed site).IsReordered (m.addNamed site) := by
  match site with
  | none => exact h
  | some (true, site) => exact ⟨h.permitted, addOnce_perm site h.restricted⟩
  | some (false, site) => exact ⟨addOnce_perm site h.permitted, h.restricted⟩

theorem addNamed_comm (l : DomainList) (s t : Option (Bool × String)) :
    ((l.addNamed s).addNamed t).IsReordered ((l.addNamed t).addNamed s) := by
  match s, t with
  | none, _ => exact .refl _
  | _, none => exact .refl _
  | some (true, s), some (true, t) => exact ⟨.refl _, addOnce_comm t s l.restricted⟩
  | some (true, s), some (false, t) => exact .refl _
  | some (false, s), some (true, t) => exact .refl _
  | some (false, s), some (false, t) => exact ⟨addOnce_comm t s l.permitted, .refl _⟩

theorem exists_foldlM_of_isReordered {pieces : List (List Char)} {l l' m : DomainList}
    (hl : l.IsReordered l') (hm : pieces.foldlM addPiece l = .ok m) :
    ∃ m', pieces.foldlM addPiece l' = .ok m' ∧ m.IsReordered m' := by
  induction pieces generalizing l l' with
  | nil =>
    cases hm
    exact ⟨l', rfl, hl⟩
  | cons p pieces ih =>
    obtain ⟨_, hadd, hm⟩ := bind_eq_ok.1 hm
    obtain ⟨site, hsite, rfl⟩ := addPiece_eq_ok.1 hadd
    obtain ⟨m', hm', hsame⟩ := ih (addNamed_congr hl site) hm
    exact ⟨m', bind_eq_ok.2 ⟨_, addPiece_eq_ok.2 ⟨site, hsite, rfl⟩, hm'⟩, hsame⟩

/-- The order of the pieces does not matter. -/
theorem exists_foldlM_of_perm {pieces pieces' : List (List Char)} (h : pieces.Perm pieces')
    {l m : DomainList} (hm : pieces.foldlM addPiece l = .ok m) :
    ∃ m', pieces'.foldlM addPiece l = .ok m' ∧ m.IsReordered m' := by
  induction h generalizing l m with
  | nil => exact ⟨m, hm, .refl m⟩
  | cons p _ ih =>
    obtain ⟨l', hadd, hm⟩ := bind_eq_ok.1 hm
    obtain ⟨m', hm', hsame⟩ := ih hm
    exact ⟨m', bind_eq_ok.2 ⟨l', hadd, hm'⟩, hsame⟩
  | swap p q _ =>
    obtain ⟨_, hadd, hm⟩ := bind_eq_ok.1 hm
    obtain ⟨s, hs, rfl⟩ := addPiece_eq_ok.1 hadd
    obtain ⟨_, hadd, hm⟩ := bind_eq_ok.1 hm
    obtain ⟨t, ht, rfl⟩ := addPiece_eq_ok.1 hadd
    obtain ⟨m', hm', hsame⟩ := exists_foldlM_of_isReordered (addNamed_comm l s t) hm
    exact ⟨m', bind_eq_ok.2 ⟨_, addPiece_eq_ok.2 ⟨t, ht, rfl⟩,
      bind_eq_ok.2 ⟨_, addPiece_eq_ok.2 ⟨s, hs, rfl⟩, hm'⟩⟩, hsame⟩
  | trans _ _ ih ih' =>
    obtain ⟨m', hm', hsame⟩ := ih hm
    obtain ⟨m'', hm'', hsame'⟩ := ih' hm'
    exact ⟨m'', hm'', hsame.trans hsame'⟩

/-- Lists of the same pieces are both read, with the same sites, or neither is. -/
theorem rel_read_of_perm {value value' : List Char}
    (h : (Text.pieces (· == '|') value).Perm (Text.pieces (· == '|') value')) :
    Option.Rel IsReordered (DomainList.read '|' value).toOption
      (DomainList.read '|' value').toOption := by
  cases hm : DomainList.read '|' value with
  | ok m =>
    obtain ⟨m', hm', hsame⟩ := exists_foldlM_of_perm h hm
    rw [DomainList.read, hm']
    exact .some hsame
  | error e =>
    cases hm' : DomainList.read '|' value' with
    | ok m' =>
      obtain ⟨m, hm'', -⟩ := exists_foldlM_of_perm h.symm hm'
      cases hm.symm.trans hm''
    | error e' => exact .none

/-- Blanks at the end of a list of sites do not count. -/
theorem read_trimEnd (value : List Char) :
    DomainList.read '|' (Text.trimEnd value) = DomainList.read '|' value := by
  obtain ⟨back, hback, hvalue⟩ := Text.exists_trimEnd value
  have hsep : ∀ c ∈ back, (c == '|') = false := by
    intro c hc
    rw [beq_eq_false_iff_ne]
    rintro rfl
    exact absurd (hback _ hc) (by decide)
  obtain ⟨init, last, hpieces, hpieces'⟩ := Text.exists_pieces_append (Text.trimEnd value) hsep
  rw [← hvalue] at hpieces'
  rw [DomainList.read, DomainList.read, hpieces, hpieces', List.foldlM_append, List.foldlM_append]
  congr 1
  funext l
  rw [List.foldlM_cons, List.foldlM_cons, addPiece_append_blanks l last hback]

end DomainList

namespace Options

/-! ## Options -/

/-- An option, and the option with its sites in another order if it names sites. -/
inductive Reordered : List Char → List Char → Prop
  | same (option : List Char) : Reordered option option
  | sites {blanks name value value' : List Char} (hblanks : ∀ c ∈ blanks, Text.isBlank c = true)
    (hname : Text.lower name = "domain=".toList)
    (hsites : (Text.pieces (· == '|') value).Perm (Text.pieces (· == '|') value')) :
    Reordered (blanks ++ (name ++ value)) (blanks ++ (name ++ value'))

/-! ## Statements -/

namespace Statement

/-- The same statement, but that its sites may be listed in another order. -/
inductive IsReordered : Statement → Statement → Prop
  | same (st : Statement) : IsReordered st st
  | sites {list list' : DomainList} (h : list.IsReordered list') :
      IsReordered (.sites list) (.sites list')

theorem cutFirst_sites {name : List Char} (hname : Text.lower name = "domain=".toList)
    (value : List Char) : ∃ word, Text.lower word = "domain".toList ∧
      Text.cutFirst (· == '=') (name ++ value) = some (word, value) := by
  have hlower := Text.cutFirst_lower (name ++ value)
  rw [Text.lower_append, hname] at hlower
  obtain ⟨⟨word, rest⟩, hcut, hparts⟩ := Option.map_eq_some_iff.1 hlower.symm
  obtain ⟨hword, -⟩ := Prod.mk.inj hparts
  obtain ⟨x, hx, htext, -⟩ := Text.cutFirst_eq_some _ _ _ _ hcut
  cases beq_iff_eq.1 hx
  have hlength : name.length = (word ++ ['=']).length := by
    rw [← Text.length_lower, hname, List.length_append, ← Text.length_lower word, hword]
    rfl
  rw [List.append_cons] at htext
  obtain ⟨-, rfl⟩ := List.append_inj htext hlength
  exact ⟨word, hword, hcut⟩

section
variable {blanks name : List Char} (hblanks : ∀ c ∈ blanks, Text.isBlank c = true)
  (hname : Text.lower name = "domain=".toList) (value : List Char)
include hblanks hname

theorem trim_sites : Text.trim (blanks ++ (name ++ value)) = name ++ Text.trimEnd value := by
  have hne : name ≠ [] := by
    rintro rfl
    cases hname
  have hvisible : ∀ c ∈ name, Text.isBlank c = false := by
    intro c hc
    have hlower : c.toLower ∈ "domain=".toList := by
      rw [← hname]
      exact List.mem_map_of_mem hc
    have hall : ∀ d ∈ "domain=".toList, Text.isBlank d = false :=
      List.all_iff_forall_prop.1 (by decide)
    rw [← Text.isBlank_toLower]
    exact hall _ hlower
  rw [Text.trim, Text.trimStart_append hblanks, ← Text.trim, Text.trim_append hne hvisible]

theorem trim_sites_ne_nil : Text.trim (blanks ++ (name ++ value)) ≠ [] := by
  rw [trim_sites hblanks hname]
  cases name with
  | nil => cases hname
  | cons c name => exact List.cons_ne_nil _ _

/-- The statement of an option of sites lists those after the equals sign. -/
theorem ofOption?_sites (isException : Bool) :
    ofOption? isException (Text.trim (blanks ++ (name ++ value))) =
      (DomainList.read '|' value).toOption.map .sites := by
  obtain ⟨word, hword, hcut⟩ := cutFirst_sites hname (Text.trimEnd value)
  rw [ofOption?, trim_sites hblanks hname, hcut]
  dsimp only
  rw [ofValue?, hword, if_pos String.ofList_toList, DomainList.read_trimEnd]

end

theorem IsReordered.isUsable_eq {st st' : Statement} (h : st.IsReordered st') :
    st.isUsable = st'.isUsable := by
  cases h with
  | same => rfl
  | sites h => rw [isUsable, isUsable, h.isEmpty_eq]

end Statement

section
variable {option option' : List Char} (h : Reordered option option') (isException : Bool)
include h

/-- A reordered option makes a reordered statement. -/
theorem Reordered.rel_ofOption? : Option.Rel Statement.IsReordered
    (Statement.ofOption? isException (Text.trim option))
    (Statement.ofOption? isException (Text.trim option')) := by
  cases h with
  | same => exact rel_refl .same
  | sites hblanks hname hsites =>
    rw [Statement.ofOption?_sites hblanks hname, Statement.ofOption?_sites hblanks hname]
    exact rel_map (DomainList.rel_read_of_perm hsites) fun _ _ => .sites

theorem Reordered.isOption (hread : Statement.IsOption isException (Text.trim option)) :
    Statement.IsOption isException (Text.trim option') := by
  have hrel := h.rel_ofOption? isException
  rcases hread with hempty | ⟨st, hst, husable⟩
  · cases h with
    | same => exact .inl hempty
    | sites hblanks hname => exact absurd hempty (Statement.trim_sites_ne_nil hblanks hname _)
  · rw [hst] at hrel
    cases hst' : Statement.ofOption? isException (Text.trim option') with
    | none =>
      rw [hst'] at hrel
      cases hrel
    | some st' =>
      rw [hst'] at hrel
      cases hrel with
      | some hsame => exact .inr ⟨st', hst', hsame.isUsable_eq ▸ husable⟩

end

namespace Progress

/-- What has been read is the same up to the order of the sites. -/
structure IsReordered (p q : Progress) : Prop where
  options : p.options = q.options
  included : p.included = q.included
  excluded : p.excluded = q.excluded
  domains : p.domains.IsReordered q.domains

theorem IsReordered.exists_eq {p q : Progress} (h : p.IsReordered q) :
    ∃ domains, q = { p with domains } ∧ p.domains.IsReordered domains := by
  obtain ⟨options, domains, included, excluded⟩ := p
  obtain ⟨options', domains', included', excluded'⟩ := q
  obtain ⟨rfl, rfl, rfl, hdomains⟩ := h
  exact ⟨domains', rfl, hdomains⟩

theorem IsReordered.contentTypes_eq {p q : Progress} (h : p.IsReordered q) :
    p.contentTypes = q.contentTypes := by
  rw [contentTypes, contentTypes, h.included, h.excluded]

/-- One statement more keeps what has been read the same. -/
theorem IsReordered.apply {p q : Progress} (h : p.IsReordered q) {st st' : Statement}
    (hst : st.IsReordered st') : (p.apply st).IsReordered (q.apply st') := by
  obtain ⟨domains, rfl, hdomains⟩ := h.exists_eq
  cases hst with
  | same =>
    cases st with
    | sites list =>
      exact ⟨rfl, rfl, rfl, hdomains.permitted.append_right _, hdomains.restricted.append_right _⟩
    | _ => exact ⟨rfl, rfl, rfl, hdomains⟩
  | sites hlist =>
    exact ⟨rfl, rfl, rfl, hdomains.permitted.append hlist.permitted,
      hdomains.restricted.append hlist.restricted⟩

theorem IsReordered.exists_foldlM {isException : Bool} {pieces pieces' : List (List Char)}
    (hpieces : List.Forall₂ Reordered pieces pieces') {p q p' : Progress} (h : p.IsReordered q)
    (hfold : pieces.foldlM (Progress.add isException) p = .ok p') :
    ∃ q', pieces'.foldlM (Progress.add isException) q = .ok q' ∧ p'.IsReordered q' := by
  obtain ⟨hread, rfl⟩ := foldlM_add_eq_ok_iff.1 hfold
  have hread' : ∀ piece' ∈ pieces', Statement.IsOption isException (Text.trim piece') := by
    intro piece' hpiece'
    obtain ⟨piece, hpiece, hsame⟩ := exists_of_mem_forall₂ hpieces hpiece'
    exact hsame.isOption isException (hread piece hpiece)
  refine ⟨_, foldlM_add_eq_ok_iff.2 ⟨hread', rfl⟩, ?_⟩
  refine List.rel_foldl (P := IsReordered) (R := Statement.IsReordered) ?_ h ?_
  · exact fun _ _ h _ _ hst => h.apply hst
  · exact List.rel_filterMap (fun _ _ hsame => hsame.rel_ofOption? isException) hpieces

theorem add_badfilter (isException : Bool) (p : Progress) :
    p.add isException "badfilter".toList =
      .ok { p with options := { p.options with badfilter := true } } := by
  rfl

end Progress

/-! ## Texts of options -/

/-- The second text lists the options of the first, sites in any order, and
`badfilter` after them. -/
def AddsBadfilter (s s' : List Char) : Prop :=
  ∃ options, List.Forall₂ Reordered (Text.pieces (· == ',') s) options ∧
    s' = [','].intercalate (options ++ ["badfilter".toList])

/-- The character neither is blank nor stands in the name of an option of sites, nor between
sites. -/
def IsOtherSign (c : Char) : Prop := Text.isBlank c = false ∧ c.toLower ∉ "domain=|".toList

instance : DecidablePred IsOtherSign := fun _ => inferInstanceAs (Decidable (_ ∧ _))

/-- A reordered option holds no other texts than the option, as far as its sites do not matter. -/
theorem Reordered.isInfix {option option' : List Char} (h : Reordered option option')
    {l : List Char} (hl : ∀ c ∈ l, IsOtherSign c) (hpart : l <:+: option') : l <:+: option := by
  cases h with
  | same => exact hpart
  | @sites blanks name value value' hblanks hname hsites =>
    have hfront : ∀ c ∈ blanks ++ name, c ∉ l := by
      intro c hc hmem
      obtain ⟨hblank, hother⟩ := hl c hmem
      rcases List.mem_append.1 hc with hc | hc
      · cases hblank.symm.trans (hblanks c hc)
      · have hlower : c.toLower ∈ "domain=".toList := by
          rw [← hname]
          exact List.mem_map_of_mem hc
        exact hother (List.mem_append_left ['|'] hlower)
    rw [← List.append_assoc] at hpart ⊢
    have hbar : ∀ c ∈ l, (c == '|') = false := by
      intro c hc
      rw [beq_eq_false_iff_ne]
      rintro rfl
      exact absurd (hl _ hc) (by decide)
    obtain ⟨piece, hpiece, hpart⟩ :=
      Text.exists_piece_of_isInfix hbar (Text.infix_of_infix_append hfront hpart)
    have hvalue := Text.infix_of_mem_pieces (hsites.mem_iff.2 hpiece)
    exact (hpart.trans hvalue).trans (List.suffix_append _ _).isInfix

theorem Reordered.head?_eq {option option' : List Char} (h : Reordered option option') :
    option'.head? = option.head? := by
  cases h with
  | same => rfl
  | @sites blanks name value value' _ hname =>
    cases name with
    | nil => cases hname
    | cons c name => cases blanks <;> rfl

section
variable {s s' : List Char} (h : AddsBadfilter s s')
include h

theorem AddsBadfilter.exists_pieces_eq :
    ∃ options, List.Forall₂ Reordered (Text.pieces (· == ',') s) options ∧
      Text.pieces (· == ',') s' = options ++ ["badfilter".toList] := by
  obtain ⟨options, hoptions, rfl⟩ := h
  refine ⟨options, hoptions, Text.pieces_intercalate (by simp) ?_⟩
  have hcomma : ∀ option' ∈ options, ',' ∉ option' := by
    intro option' hoption' hmem
    obtain ⟨option, hoption, hreordered⟩ := exists_of_mem_forall₂ hoptions hoption'
    have hother : ∀ c ∈ [','], IsOtherSign c := List.all_iff_forall_prop.1 (by decide)
    have hpart := hreordered.isInfix hother ((List.singleton_infix_iff ',' option').2 hmem)
    have hsep :=
      Text.not_sep_of_mem_pieces _ _ _ hoption _ ((List.singleton_infix_iff ',' option).1 hpart)
    cases hsep
  refine List.forall_mem_append.2 ⟨hcomma, ?_⟩
  simp

/-- What the text holds with `badfilter` stands in it without, if neither commas nor sites
matter. -/
theorem AddsBadfilter.isInfix {l : List Char} (hl : ∀ c ∈ l, IsOtherSign c) (hcomma : ',' ∉ l)
    (hbad : ¬l <:+: "badfilter".toList) (hpart : l <:+: s') : l <:+: s := by
  obtain ⟨options, hoptions, hpieces⟩ := h.exists_pieces_eq
  have hsep : ∀ c ∈ l, (c == ',') = false := by
    intro c hc
    rw [beq_eq_false_iff_ne]
    rintro rfl
    exact hcomma hc
  obtain ⟨option', hoption', hpart⟩ := Text.exists_piece_of_isInfix hsep hpart
  rw [hpieces] at hoption'
  rcases List.mem_append.1 hoption' with hoption' | hoption'
  · obtain ⟨option, hmem, hoption⟩ := exists_of_mem_forall₂ hoptions hoption'
    exact (hoption.isInfix hl hpart).trans (Text.infix_of_mem_pieces hmem)
  · rw [List.mem_singleton.1 hoption'] at hpart
    exact absurd hpart hbad

/-- The options of a text still say the same, and besides that the rule cancels others. -/
theorem exists_read_of_addsBadfilter {isException : Bool} {o : Options} {domains : DomainList}
    (hread : Options.read isException s = .ok (o, domains)) :
    ∃ domains', Options.read isException s' = .ok ({ o with badfilter := true }, domains') ∧
      domains.IsReordered domains' := by
  obtain ⟨options, hoptions, hpieces⟩ := h.exists_pieces_eq
  obtain ⟨p, hfold, hread⟩ := bind_eq_ok.1 hread
  obtain ⟨types, htypes, hread⟩ := bind_eq_ok.1 hread
  cases hread
  obtain ⟨q, hfold', hsame⟩ := Progress.IsReordered.exists_foldlM hoptions
    ⟨rfl, rfl, rfl, .refl _⟩ hfold
  have htypes' : q.contentTypes = .ok types := by rw [← hsame.contentTypes_eq, htypes]
  refine ⟨q.domains, ?_, hsame.domains⟩
  have hall : (Text.pieces (· == ',') s').foldlM (Progress.add isException) {} =
      .ok { q with options := { q.options with badfilter := true } } := by
    rw [hpieces, List.foldlM_append, hfold']
    exact Progress.add_badfilter isException q
  refine bind_eq_ok.2 ⟨_, hall, bind_eq_ok.2 ⟨types, htypes', ?_⟩⟩
  rw [hsame.options]
  rfl

end

end Options

end ContentRules
