import ContentRules.Filter.OptionReader
import ContentRules.Proofs.Native.Origin
import ContentRules.Proofs.Text.Pieces
import ContentRules.Proofs.Text.Trimming
import Mathlib.Data.Bool.AllAny
import Mathlib.Data.List.Infix

/-!
What the options of a network rule say, one by one. Every option that can be read makes a statement,
whichever of its names it has and in whatever case it is written, and what has been read of a text
of options is what the statements say together. Of an option without a counterpart in rule lists
only the name is kept. Main statements: `Options.describes_of_read` and `Options.exists_read_iff`.
-/

namespace ContentRules

namespace Options

/-- What one option says. -/
inductive Statement where
  | important
  | matchCase
  | badfilter
  /-- The rule counts for requests to other sites only, or to the same site only. -/
  | party (third : Bool)
  | sites (list : DomainList)
  | scope (s : Scope)
  | includes (t : ContentType)
  | excludes (t : ContentType)
  /-- A known option without counterpart in a rule list, with what follows its equals sign in small
  letters. -/
  | other (name : String) (value : Option String)
  deriving DecidableEq

namespace Statement

/-! ## Reading one option -/

/-- The statement of a word that stands by itself, under each of its names. -/
def ofFlag? : String → Option Statement
  | "important" => some .important
  | "match-case" => some .matchCase
  | "match_case" => some .matchCase
  | "badfilter" => some .badfilter
  | "third-party" => some (.party true)
  | "3p" => some (.party true)
  | "~first-party" => some (.party true)
  | "~1p" => some (.party true)
  | "~third-party" => some (.party false)
  | "~3p" => some (.party false)
  | "first-party" => some (.party false)
  | "1p" => some (.party false)
  | _ => none

/-- A page scope. On a blocking rule only `document` can stand, as a content type. -/
def ofScope? (isException : Bool) (s : Scope) : Option Statement :=
  if isException then some (.scope s)
  else if s = .document then some (.includes .document)
  else none

def ofType? : List Char → Option Statement
  | '~' :: word => (ContentType.ofOption? (String.ofList word)).map .excludes
  | word => (ContentType.ofOption? (String.ofList word)).map .includes

/-- The statement of an option without a value. -/
def ofWord? (isException : Bool) (word : List Char) : Option Statement :=
  match ofFlag? (String.ofList word) with
  | some st => some st
  | none =>
    if unsupportedNames.contains (String.ofList word) then some (.other (String.ofList word) none)
    else
      match Scope.ofOption? (String.ofList word) with
      | some s => ofScope? isException s
      | none => ofType? word

/-- The statement of an option with a value. -/
def ofValue? (name : String) (value : List Char) : Option Statement :=
  if name = "domain" then (DomainList.read '|' value).toOption.map .sites
  else if unsupportedNames.contains name then
    some (.other name (some (String.ofList (Text.lower value))))
  else none

/-- The statement of an option. Its name ends at the first equals sign and is read without regard to
case. -/
def ofOption? (isException : Bool) (option : List Char) : Option Statement :=
  match Text.cutFirst (· == '=') option with
  | none => ofWord? isException (Text.lower option)
  | some (name, value) => ofValue? (String.ofList (Text.lower name)) value

/-- The statements of the options that stand between commas. -/
def listOfText (isException : Bool) (text : List Char) : List Statement :=
  (Text.pieces (· == ',') text).filterMap fun piece => ofOption? isException (Text.trim piece)

theorem ofType?_of_ne {word : List Char} (h : ∀ rest, word ≠ '~' :: rest) :
    ofType? word = (ContentType.ofOption? (String.ofList word)).map .includes := by
  unfold ofType?
  split
  · exact absurd rfl (h _)
  · rfl

/-- The statement can be used: a list of sites names some. -/
def isUsable : Statement → Bool
  | .sites list => !list.isEmpty
  | _ => true

/-- An option that can be read is empty or makes a statement that can be used. -/
def IsOption (isException : Bool) (option : List Char) : Prop :=
  option = [] ∨ ∃ st, ofOption? isException option = some st ∧ st.isUsable = true

/-! ## Statements together -/

def party? : Statement → Option Bool
  | party third => some third
  | _ => none

def sites? : Statement → Option DomainList
  | sites list => some list
  | _ => none

def other? : Statement → Option (String × Option String)
  | other name value => some (name, value)
  | _ => none

section
variable (l : List Statement)

/-- The last statement on parties counts. -/
def thirdParty : Option Bool := (l.filterMap party?).getLast?

def permitted : List String := (l.filterMap sites?).flatMap (·.permitted)

def restricted : List String := (l.filterMap sites?).flatMap (·.restricted)

/-- The options without counterpart, with their values. -/
def others : List (String × Option String) := l.filterMap other?

/-- The statements let a rule count for requests of a kind. -/
def CountsFor (t : ContentType) : Prop :=
  (.includes t ∈ l ∨ (∀ u, .includes u ∉ l) ∧ t ∈ ContentTypes.default) ∧ .excludes t ∉ l

end

end Statement

open Statement

/-- Options and sites are what the statements say, content types aside. -/
structure Says (l : List Statement) (o : Options) (d : DomainList) : Prop where
  thirdParty : o.thirdParty = Statement.thirdParty l
  matchCase : o.matchCase = true ↔ .matchCase ∈ l
  important : o.important = true ↔ .important ∈ l
  badfilter : o.badfilter = true ↔ .badfilter ∈ l
  scopes : ∀ s, s ∈ o.scopes ↔ .scope s ∈ l
  unsupported : o.unsupported = (others l).map (·.1)
  permitted : d.permitted = Statement.permitted l
  restricted : d.restricted = Statement.restricted l

/-- Options and sites are what the statements say. The default set of content types is never written
out, so that the set is determined by its members. -/
structure Describes (l : List Statement) (o : Options) (d : DomainList) :
    Prop extends Says l o d where
  contentTypes : ∀ t, t ∈ o.contentTypes.getD .default ↔ CountsFor l t
  ne_default : o.contentTypes ≠ some .default

theorem says_nil : Says [] {} {} where
  thirdParty := rfl
  matchCase := by simp
  important := by simp
  badfilter := by simp
  scopes s := by simp [WordSet.not_mem_empty]
  unsupported := rfl
  permitted := rfl
  restricted := rfl

/-- A rule without options has what no statements say. -/
theorem describes_nil : Describes [] {} {} where
  toSays := says_nil
  contentTypes t := by simp [CountsFor]
  ne_default := nofun

namespace Progress

/-! ## Steps of reading -/

/-- What has been read with one statement more. -/
def apply (p : Progress) : Statement → Progress
  | .important => { p with options := { p.options with important := true } }
  | .matchCase => { p with options := { p.options with matchCase := true } }
  | .badfilter => { p with options := { p.options with badfilter := true } }
  | .party third => { p with options := { p.options with thirdParty := some third } }
  | .sites list => { p with
      domains := ⟨p.domains.permitted ++ list.permitted, p.domains.restricted ++ list.restricted⟩ }
  | .scope s => { p with options := { p.options with scopes := p.options.scopes ∪ .single s } }
  | .includes t => { p with included := p.included ∪ .single t }
  | .excludes t => { p with excluded := p.excluded ∪ .single t }
  | .other name _ => { p with
      options := { p.options with unsupported := p.options.unsupported ++ [name] } }

/-- What has been read so far is what the statements say. -/
structure IsSaid (p : Progress) (l : List Statement) : Prop extends Says l p.options p.domains where
  included : ∀ t, t ∈ p.included ↔ .includes t ∈ l
  excluded : ∀ t, t ∈ p.excluded ↔ .excludes t ∈ l

theorem isSaid_nil : IsSaid {} [] where
  toSays := says_nil
  included t := by simp [WordSet.not_mem_empty]
  excluded t := by simp [WordSet.not_mem_empty]

/-- One statement more. -/
theorem IsSaid.apply {p : Progress} {l : List Statement} (h : p.IsSaid l) (st : Statement) :
    (p.apply st).IsSaid (l ++ [st]) where
  thirdParty := by
    cases st <;>
      simp [Progress.apply, h.thirdParty, Statement.thirdParty, List.filterMap_append, party?]
  matchCase := by cases st <;> simp [Progress.apply, h.matchCase]
  important := by cases st <;> simp [Progress.apply, h.important]
  badfilter := by cases st <;> simp [Progress.apply, h.badfilter]
  scopes s := by cases st <;> simp [Progress.apply, h.scopes, WordSet.mem_union, WordSet.mem_single]
  unsupported := by
    cases st <;> simp [Progress.apply, h.unsupported, others, List.filterMap_append, other?]
  permitted := by
    cases st <;>
      simp [Progress.apply, h.permitted, Statement.permitted, List.filterMap_append, sites?]
  restricted := by
    cases st <;>
      simp [Progress.apply, h.restricted, Statement.restricted, List.filterMap_append, sites?]
  included t := by
    cases st <;> simp [Progress.apply, h.included, WordSet.mem_union, WordSet.mem_single]
  excluded t := by
    cases st <;> simp [Progress.apply, h.excluded, WordSet.mem_union, WordSet.mem_single]

/-- The included types, or the default without any, less the excluded ones. -/
def remaining (p : Progress) : ContentTypes :=
  (if p.included.isEmpty then ContentTypes.default else p.included) \ p.excluded

theorem mem_remaining {p : Progress} {t : ContentType} :
    t ∈ p.remaining ↔
      (t ∈ p.included ∨ (∀ u, u ∉ p.included) ∧ t ∈ ContentTypes.default) ∧ t ∉ p.excluded := by
  rw [remaining, WordSet.mem_sdiff, ← WordSet.isEmpty_iff]
  split
  · rename_i hempty
    simp [hempty, WordSet.isEmpty_iff.1 hempty t]
  · rename_i hempty
    simp [hempty]

/-- The types that are read are the remaining ones, and the default is not written out. -/
theorem of_contentTypes {p : Progress} {types : Option ContentTypes}
    (h : p.contentTypes = .ok types) :
    types.getD .default = p.remaining ∧ types ≠ some .default := by
  unfold contentTypes at h
  rw [← remaining] at h
  split at h
  · rename_i hempty
    rw [Bool.and_eq_true, WordSet.isEmpty_iff, WordSet.isEmpty_iff] at hempty
    cases h
    refine ⟨WordSet.ext fun t => ?_, nofun⟩
    simp [mem_remaining, hempty.1, hempty.2]
  dsimp only at h
  split at h
  · cases h
  split at h
  · rename_i hdefault
    cases h
    exact ⟨hdefault.symm, nofun⟩
  · rename_i hne
    cases h
    exact ⟨rfl, fun hsome => hne (Option.some.inj hsome)⟩

/-- The set of content types that is read is the one that the statements let a rule count for. -/
theorem IsSaid.describes {p : Progress} {l : List Statement} (h : p.IsSaid l)
    {types : Option ContentTypes} (htypes : p.contentTypes = .ok types) :
    Describes l { p.options with contentTypes := types } p.domains where
  toSays := { h.toSays with }
  contentTypes t := by
    rw [(of_contentTypes htypes).1, mem_remaining, CountsFor, h.excluded]
    simp only [h.included]
  ne_default := (of_contentTypes htypes).2

/-- What has been read with several statements more. -/
theorem IsSaid.foldl {p : Progress} {l : List Statement} (h : p.IsSaid l) (l' : List Statement) :
    (l'.foldl Progress.apply p).IsSaid (l ++ l') := by
  induction l' generalizing p l with
  | nil => rwa [List.append_nil]
  | cons st l' ih =>
    rw [List.append_cons]
    exact ih (h.apply st)

/-! ## Reading options -/

/-- No option that stands by itself holds an equals sign. -/
theorem flag?_eq_none {s : List Char} (hs : '=' ∈ s) : flag? (String.ofList s) = none := by
  have hne (name : String) (hname : '=' ∉ name.toList) : String.ofList s ≠ name := by
    rintro rfl
    rw [String.toList_ofList] at hname
    exact hname hs
  unfold flag?
  split
  case h_13 => rfl
  all_goals
    rename_i heq
    exact absurd heq (hne _ (by decide))

/-- A word by itself sets what its statement says. -/
theorem map_flag? (p : Progress) (s : String) :
    (flag? s).map (fun set => { p with options := set p.options }) = (ofFlag? s).map p.apply := by
  cases hflag : flag? s with
  | some set =>
    unfold flag? at hflag
    split at hflag
    case h_13 => cases hflag
    all_goals
      cases hflag
      rfl
  | none =>
    unfold ofFlag?
    split
    case h_13 => rfl
    all_goals cases hflag

theorem toOption_addScope (isException : Bool) (p : Progress) (s : Scope) (name : String) :
    (p.addScope isException s name).toOption = (ofScope? isException s).map p.apply := by
  unfold addScope ofScope?
  split
  · rfl
  split <;> rfl

theorem toOption_addType (p : Progress) (word : List Char) :
    (p.addType word).toOption = (ofType? word).map p.apply := by
  unfold addType
  split
  rename_i hword
  split at hword
  case h_1 rest =>
    obtain ⟨hexcludes, hrest⟩ := Prod.mk.inj hword
    rw [← hexcludes, ← hrest]
    change _ = ((ContentType.ofOption? (String.ofList rest)).map Statement.excludes).map p.apply
    cases ContentType.ofOption? (String.ofList rest) <;> rfl
  case h_2 hplain =>
    cases hword
    rw [ofType?_of_ne hplain]
    cases ContentType.ofOption? (String.ofList word) <;> rfl

theorem toOption_addDomains (p : Progress) (raw value : List Char) :
    (p.addDomains raw value).toOption =
      (((DomainList.read '|' value).toOption.map Statement.sites).filter isUsable).map p.apply := by
  unfold addDomains
  cases DomainList.read '|' value with
  | error => rfl
  | ok list =>
    change (if list.isEmpty then _ else _ : Except ParseError Progress).toOption =
      ((some (Statement.sites list)).filter isUsable).map p.apply
    rw [Option.filter_some, isUsable]
    cases list.isEmpty <;> rfl

/-- The name of an option is `domain` if the option starts with it and an equals sign. -/
theorem isPrefix_domain_iff {option name value : List Char}
    (hcut : Text.cutFirst (· == '=') option = some (name, value)) :
    "domain=".toList <+: Text.lower option ↔ Text.lower name = "domain".toList := by
  obtain ⟨x, hx, rfl, -⟩ := Text.cutFirst_eq_some _ _ _ _ hcut
  cases beq_iff_eq.1 hx
  constructor
  · rintro ⟨rest, hrest⟩
    have hcut' :
        Text.cutFirst (· == '=') ("domain=".toList ++ rest) = some ("domain".toList, rest) := rfl
    rw [hrest, Text.cutFirst_lower, hcut] at hcut'
    exact congrArg Prod.fst (Option.some.inj hcut')
  · intro hname
    rw [Text.lower_append, hname]
    exact ⟨Text.lower value, rfl⟩

section
variable (isException : Bool) (p : Progress) {piece : List Char}

/-- An option without a value. -/
theorem toOption_add_word (hne : Text.trim piece ≠ [])
    (hcut : Text.cutFirst (· == '=') (Text.trim piece) = none) :
    (p.add isException piece).toOption =
      (ofWord? isException (Text.lower (Text.trim piece))).map p.apply := by
  have hsmall : Text.cutFirst (· == '=') (Text.lower (Text.trim piece)) = none := by
    rw [Text.cutFirst_lower, hcut]
    rfl
  have hfront : ¬"domain=".toList.isPrefixOf (Text.lower (Text.trim piece)) = true := by
    rw [List.isPrefixOf_iff_prefix]
    intro hdomain
    cases Text.cutFirst_eq_none_iff.1 hsmall '=' (hdomain.subset (by decide))
  have hflag := map_flag? p (String.ofList (Text.lower (Text.trim piece)))
  unfold Progress.add ofWord?
  dsimp only
  rw [if_neg (mt List.isEmpty_iff.1 hne)]
  cases hset : flag? (String.ofList (Text.lower (Text.trim piece))) with
  | some set =>
    rw [hset] at hflag
    obtain ⟨st, hst, hset⟩ := Option.map_eq_some_iff.1 hflag.symm
    rw [hst]
    exact congrArg some hset.symm
  | none =>
    rw [hset] at hflag
    rw [Option.map_eq_none_iff.1 hflag.symm]
    simp only [hsmall, if_neg hfront, Option.map_none, Option.getD_none]
    split
    · rfl
    cases Scope.ofOption? (String.ofList (Text.lower (Text.trim piece))) with
    | some s => exact toOption_addScope isException p s _
    | none => exact toOption_addType p _

/-- An option with a value. -/
theorem toOption_add_value {name value : List Char}
    (hcut : Text.cutFirst (· == '=') (Text.trim piece) = some (name, value)) :
    (p.add isException piece).toOption =
      ((ofValue? (String.ofList (Text.lower name)) value).filter isUsable).map p.apply := by
  have hsmall : Text.cutFirst (· == '=') (Text.lower (Text.trim piece)) =
      some (Text.lower name, Text.lower value) := by
    rw [Text.cutFirst_lower, hcut]
    rfl
  obtain ⟨x, hx, hpiece, -⟩ := Text.cutFirst_eq_some _ _ _ _ hcut
  cases beq_iff_eq.1 hx
  have hflag : flag? (String.ofList (Text.lower (Text.trim piece))) = none := by
    apply flag?_eq_none
    rw [hpiece, Text.lower_append]
    exact List.mem_append_right _ (.head _)
  have hdomain := isPrefix_domain_iff hcut
  unfold Progress.add ofValue?
  dsimp only
  rw [if_neg (by rw [hpiece]; simp), hflag]
  dsimp only
  split
  · rename_i hfront
    have hname := hdomain.1 (List.isPrefixOf_iff_prefix.1 hfront)
    have hvalue : (Text.trim piece).drop "domain=".length = value := by
      have hlength : (name ++ ['=']).length = "domain=".length := by
        rw [List.length_append, ← Text.length_lower, hname]
        rfl
      rw [hpiece, List.append_cons, List.drop_left' hlength]
    rw [hvalue, hname, if_pos String.ofList_toList]
    exact toOption_addDomains p _ value
  · rename_i hfront
    have hname : ¬String.ofList (Text.lower name) = "domain" := by
      intro hname
      apply hfront
      rw [List.isPrefixOf_iff_prefix, hdomain, ← hname, String.toList_ofList]
    rw [if_neg hname]
    simp only [hsmall, Option.map_some, Option.getD_some]
    split <;> rfl

end

/-- Only an option with a value lists sites. -/
theorem sites?_of_ofWord? {isException : Bool} {word : List Char} {st : Statement}
    (h : ofWord? isException word = some st) : st.sites? = none := by
  unfold ofWord? at h
  split at h
  · rename_i hflag
    cases h
    unfold ofFlag? at hflag
    split at hflag
    case h_13 => cases hflag
    all_goals
      cases hflag
      rfl
  split at h
  · cases h
    rfl
  split at h
  · unfold ofScope? at h
    split at h
    · cases h
      rfl
    split at h
    · cases h
      rfl
    · cases h
  · unfold ofType? at h
    split at h
    all_goals
      obtain ⟨t, -, rfl⟩ := Option.map_eq_some_iff.1 h
      rfl

theorem isUsable_of_ofWord? {isException : Bool} {word : List Char} {st : Statement}
    (h : ofWord? isException word = some st) : st.isUsable = true := by
  have hsites := sites?_of_ofWord? h
  cases st with
  | sites list => cases hsites
  | _ => rfl

/-- An option can be added if it is empty or makes a statement that can be used; then what its
statement says is added. -/
theorem add_eq_ok_iff {isException : Bool} {p q : Progress} {piece : List Char} :
    p.add isException piece = .ok q ↔ IsOption isException (Text.trim piece) ∧
      q = (ofOption? isException (Text.trim piece)).toList.foldl Progress.apply p := by
  by_cases hempty : Text.trim piece = []
  · have hnone : ofOption? isException [] = none := by cases isException <;> rfl
    have hadd : p.add isException piece = .ok p := by
      unfold Progress.add
      dsimp only
      rw [hempty]
      rfl
    rw [hadd, hempty, hnone, Option.toList_none, List.foldl_nil, and_iff_right (.inl rfl)]
    exact ⟨fun h => (Except.ok.inj h).symm, fun h => by rw [h]⟩
  have hadd : (p.add isException piece).toOption =
      ((ofOption? isException (Text.trim piece)).filter isUsable).map p.apply := by
    unfold ofOption?
    split
    · rename_i hcut
      rw [toOption_add_word isException p hempty hcut]
      cases hst : ofWord? isException (Text.lower (Text.trim piece)) with
      | none => rfl
      | some st => rw [Option.filter_some, if_pos (isUsable_of_ofWord? hst)]
    · rename_i hcut
      exact toOption_add_value isException p hcut
  rw [← toOption_eq_some, hadd, IsOption, or_iff_right hempty]
  cases ofOption? isException (Text.trim piece) with
  | none => simp
  | some st =>
    rw [Option.filter_some]
    cases husable : st.isUsable with
    | false => simp [husable]
    | true => simpa [husable] using eq_comm

/-- Options can be added one after the other if each of them can, and what is read is what their
statements say. -/
theorem foldlM_add_eq_ok_iff {isException : Bool} {pieces : List (List Char)} {p q : Progress} :
    pieces.foldlM (Progress.add isException) p = .ok q ↔
      (∀ piece ∈ pieces, IsOption isException (Text.trim piece)) ∧
        q = (pieces.filterMap fun piece => ofOption? isException (Text.trim piece)).foldl
          Progress.apply p := by
  induction pieces generalizing p with
  | nil => exact ⟨fun h => by cases h; exact ⟨nofun, rfl⟩, fun h => by rw [h.2]; rfl⟩
  | cons piece pieces ih =>
    rw [List.filterMap_eq_flatMap_toList, List.flatMap_cons, List.foldl_append,
      ← List.filterMap_eq_flatMap_toList, List.forall_mem_cons]
    constructor
    · intro h
      obtain ⟨p₁, hadd, hrest⟩ := bind_eq_ok.1 h
      obtain ⟨hoption, rfl⟩ := add_eq_ok_iff.1 hadd
      obtain ⟨hoptions, hq⟩ := ih.1 hrest
      exact ⟨⟨hoption, hoptions⟩, hq⟩
    · rintro ⟨⟨hoption, hoptions⟩, hq⟩
      exact bind_eq_ok.2 ⟨_, add_eq_ok_iff.2 ⟨hoption, rfl⟩, ih.2 ⟨hoptions, hq⟩⟩

/-- Content types can be read if the statements let the rule count for some kind of request. -/
theorem exists_contentTypes_iff {p : Progress} :
    (∃ types, p.contentTypes = .ok types) ↔ ∃ t, t ∈ p.remaining := by
  constructor
  · rintro ⟨types, htypes⟩
    by_contra hnone
    unfold contentTypes at htypes
    rw [← remaining] at htypes
    dsimp only at htypes
    have hempty : p.remaining.isEmpty = true := WordSet.isEmpty_iff.2 (not_exists.1 hnone)
    rw [hempty] at htypes
    split at htypes
    · rename_i hsaid
      rw [Bool.and_eq_true, WordSet.isEmpty_iff, WordSet.isEmpty_iff] at hsaid
      refine hnone ⟨.script, mem_remaining.2 ⟨.inr ⟨hsaid.1, by decide⟩, hsaid.2 _⟩⟩
    · cases htypes
  · rintro ⟨t, ht⟩
    have hempty : p.remaining.isEmpty = false :=
      Bool.eq_false_iff.2 fun hempty => WordSet.isEmpty_iff.1 hempty t ht
    unfold contentTypes
    rw [← remaining]
    dsimp only
    rw [hempty]
    split
    · exact ⟨_, rfl⟩
    rw [if_neg Bool.false_ne_true]
    split <;> exact ⟨_, rfl⟩

end Progress

/-- A text of options that can be read: each option is empty or makes a statement that can be used,
and the content types that are asked for leave some kind of request. -/
structure IsReadable (isException : Bool) (text : List Char) : Prop where
  options : ∀ piece ∈ Text.pieces (· == ',') text, IsOption isException (Text.trim piece)
  types : ∃ t, CountsFor (listOfText isException text) t

/-- Options and sites that are read from a text are what its statements say. -/
theorem describes_of_read {isException : Bool} {text : List Char} {o : Options} {d : DomainList}
    (h : Options.read isException text = .ok (o, d)) :
    Describes (listOfText isException text) o d := by
  obtain ⟨p, hp, h⟩ := bind_eq_ok.1 h
  obtain ⟨types, htypes, h⟩ := bind_eq_ok.1 h
  cases h
  obtain ⟨-, rfl⟩ := Progress.foldlM_add_eq_ok_iff.1 hp
  exact (Progress.isSaid_nil.foldl _).describes htypes

/-- The texts that can be read are read. -/
theorem exists_read_iff {isException : Bool} {text : List Char} :
    (∃ o d, Options.read isException text = .ok (o, d)) ↔ IsReadable isException text := by
  let p := (listOfText isException text).foldl Progress.apply {}
  have hsaid : p.IsSaid (listOfText isException text) := Progress.isSaid_nil.foldl _
  have htypes : (∃ types, p.contentTypes = .ok types) ↔
      ∃ t, CountsFor (listOfText isException text) t := by
    rw [Progress.exists_contentTypes_iff]
    refine exists_congr fun t => ?_
    rw [Progress.mem_remaining, CountsFor, hsaid.excluded]
    simp only [hsaid.included]
  constructor
  · rintro ⟨o, d, h⟩
    obtain ⟨p', hp, h⟩ := bind_eq_ok.1 h
    obtain ⟨types, hread, -⟩ := bind_eq_ok.1 h
    obtain ⟨hoptions, rfl⟩ := Progress.foldlM_add_eq_ok_iff.1 hp
    exact ⟨hoptions, htypes.1 ⟨types, hread⟩⟩
  · intro h
    obtain ⟨types, hread⟩ := htypes.2 h.types
    exact ⟨_, _, bind_eq_ok.2 ⟨p, Progress.foldlM_add_eq_ok_iff.2 ⟨h.options, rfl⟩,
      bind_eq_ok.2 ⟨types, hread, rfl⟩⟩⟩

/-- Options are read in any case and by any of their names. -/
example : listOfText false "CSS, ~1p,csp=A=b,domain=a.com|~B.com".toList =
    [.includes .stylesheet, .party true, .other "csp" (some "a=b"),
      .sites ⟨["a.com"], ["b.com"]⟩] := by
  decide +kernel

end Options

end ContentRules
