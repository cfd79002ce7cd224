import ContentRules.Proofs.Json.Reading
import ContentRules.Proofs.Ordered.Related
import ContentRules.Safari.Entry

/-!
Reading entries from the JSON values that are written for them. Members that are left out stand for
what is not set, and the word for the kind of an action says which members hold the rest of it. Main
statement: the value of an entry is read as the entry (`Entry.ofJson?_toJson`).
-/

namespace ContentRules

/-! ## Parts of values -/

namespace Json

def str? : Json → Option String
  | str s => some s
  | _ => none

def bool? : Json → Option Bool
  | bool b => some b
  | _ => none

def members? : Json → Option (List (String × Json))
  | obj members => some members
  | _ => none

/-- The items of an array, each read. -/
def items? {α : Type} (read : Json → Option α) : Json → Option (List α)
  | arr items => items.mapM read
  | _ => none

def strings? : Json → Option (List String) := items? str?

/-- A member that has to be there. -/
def required? {α : Type} (read : Json → Option α) (key : String) (members : List (String × Json)) :
    Option α :=
  (members.lookup key).bind read

/-- A member that may be left out. -/
def optional? {α : Type} (read : Json → Option α) (key : String) (members : List (String × Json)) :
    Option (Option α) :=
  match members.lookup key with
  | none => some none
  | some v => (read v).map some

/-- A member that may be left out is found under its key only. -/
theorem lookup_toList {α : Type} (o : Option α) (key : String) (write : α → Json) (k : String) :
    (o.map fun a => (key, write a)).toList.lookup k = if k == key then o.map write else none := by
  cases o with
  | none => simp
  | some a => cases h : k == key <;> simp [List.lookup_cons, h]

theorem optional?_of_lookup {α : Type} {read : Json → Option α} {write : α → Json}
    (hread : ∀ a, read (write a) = some a) {key : String} {members : List (String × Json)}
    {o : Option α} (h : members.lookup key = o.map write) :
    optional? read key members = some o := by
  rw [optional?, h]
  cases o with
  | none => rfl
  | some a => exact congrArg (Option.map some) (hread a)

theorem items?_map {α β : Type} {read : Json → Option α} {write : β → Json} {f : β → α}
    {items : List β} (h : ∀ b ∈ items, read (write b) = some (f b)) :
    items? read (arr (items.map write)) = some (items.map f) :=
  mapM_map_eq_some h

theorem strings?_strings (items : List String) : strings? (strings items) = some items := by
  have h := @items?_map _ _ str? str id items fun _ _ => rfl
  rwa [List.map_id] at h

end Json

/-! ## Sets of words -/

namespace WordSet

variable {α : Type} [DecidableEq α] [Vocabulary α]

/-- The set of the words of the given names. -/
def ofNames? (names : List String) : Option (WordSet α) :=
  (names.mapM Vocabulary.ofName?).map ofList

/-- If the words of a vocabulary have different names, a set is read from its names. -/
theorem ofNames?_names (h : ∀ a : α, Vocabulary.ofName? (Vocabulary.name a) = some a)
    (s : WordSet α) : ofNames? s.names = some s := by
  have hread : (s.toList.map Vocabulary.name).mapM Vocabulary.ofName? = some (s.toList.map id) :=
    mapM_map_eq_some fun a _ => h a
  rw [ofNames?, names, hread, List.map_id, Option.map_some, ofList_toList]

/-- The set that an array of names stands for. -/
def ofJson? (v : Json) : Option (WordSet α) := v.strings?.bind ofNames?

theorem ofJson?_strings (h : ∀ a : α, Vocabulary.ofName? (Vocabulary.name a) = some a)
    (s : WordSet α) : ofJson? (Json.strings s.names) = some s := by
  rw [ofJson?, Json.strings?_strings, Option.bind_some, ofNames?_names h]

end WordSet

theorem ResourceType.ofName?_name (t : ResourceType) :
    Vocabulary.ofName? (Vocabulary.name t) = some t := by
  cases t <;> decide

theorem LoadType.ofName?_name (t : LoadType) : Vocabulary.ofName? (Vocabulary.name t) = some t := by
  cases t <;> decide

theorem ActionKind.ofName?_word (k : ActionKind) : Vocabulary.ofName? k.word = some k := by
  cases k <;> decide

/-! ## Conditions on pages -/

namespace DomainValue

/-- The value is the one that its text writes. The other ones name a host that starts with a
star. -/
def IsWritten (v : DomainValue) : Prop := ofText v.text = v

theorem isWritten_ofText (s : String) : (ofText s).IsWritten := by rw [IsWritten, text_ofText]

end DomainValue

namespace DomainCondition

/-- The condition that the members for pages make; there may be one of them at most. -/
def ofMembers? (members : List (String × Json)) : Option (Option DomainCondition) := do
  let values? := fun v => (Json.strings? v).map fun texts => texts.map DomainValue.ofText
  match ← Json.optional? values? "if-domain" members,
    ← Json.optional? values? "unless-domain" members with
  | none, none => some none
  | some values, none => some (some (only values))
  | none, some values => some (some (except values))
  | some _, some _ => none

end DomainCondition

/-! ## Entries -/

/-- The trigger that a JSON object stands for. -/
def Trigger.ofJson? (v : Json) : Option Trigger := do
  let members ← v.members?
  let urlFilter ← Json.required? Json.str? "url-filter" members
  let domains ← DomainCondition.ofMembers? members
  let resourceTypes ← Json.optional? WordSet.ofJson? "resource-type" members
  let loadTypes ← Json.optional? WordSet.ofJson? "load-type" members
  let caseSensitive ← Json.optional? Json.bool? "url-filter-is-case-sensitive" members
  return { urlFilter, domains, resourceTypes, loadTypes, caseSensitive := caseSensitive.getD false }

/-- The action that a JSON object stands for. -/
def Action.ofJson? (v : Json) : Option Action := do
  let members ← v.members?
  let kind : ActionKind ← Json.required? (fun v => v.str?.bind Vocabulary.ofName?) "type" members
  let text? := fun key => Json.required? Json.str? key members
  match kind with
  | .block => return block
  | .cssDisplayNone => return cssDisplayNone (← Json.optional? Json.str? "selector" members)
  | .ignorePreviousRules => return ignorePreviousRules
  | .cssExtended => return cssExtended (← text? "css")
  | .cssInject => return cssInject (← text? "css")
  | .script => return script (← text? "script")
  | .scriptlet => return scriptlet (← text? "scriptlet") (← text? "scriptletParam")

/-- The entry that a JSON object stands for. -/
def Entry.ofJson? (v : Json) : Option Entry := do
  let members ← v.members?
  let trigger ← Json.required? Trigger.ofJson? "trigger" members
  let action ← Json.required? Action.ofJson? "action" members
  return { trigger, action }

/-- The entries that the text of a JSON array stands for. -/
def Entry.listOfText? (text : String) : Option (List Entry) :=
  (Json.read? text).bind (Json.items? Entry.ofJson?)

theorem Action.ofJson?_toJson (a : Action) : Action.ofJson? a.toJson = some a := by
  have hkind (rest : List (String × Json)) :
      Json.required? (fun v => v.str?.bind Vocabulary.ofName?) "type"
        (("type", .str a.kind.word) :: rest) = some a.kind := a.kind.ofName?_word
  unfold toJson ofJson?
  simp only [Json.members?, bind, Option.bind_some, hkind, pure]
  cases a with
  | cssDisplayNone selector => cases selector <;> rfl
  | _ => rfl

namespace Trigger

/-- The values of the condition on pages are those that their texts write. -/
def IsWritten (t : Trigger) : Prop := ∀ c ∈ t.domains, ∀ v ∈ c.values, v.IsWritten

/-- The members for pages. -/
def pageMembers : Option DomainCondition → List (String × Json)
  | none => []
  | some (.only values) => [("if-domain", .strings (values.map DomainValue.text))]
  | some (.except values) => [("unless-domain", .strings (values.map DomainValue.text))]

section
variable (t : Trigger)

/-- The members besides the url filter and those for pages. -/
def otherMembers : List (String × Json) :=
  (t.resourceTypes.map fun types => ("resource-type", Json.strings types.names)).toList ++
    (t.loadTypes.map fun types => ("load-type", Json.strings types.names)).toList ++
    ((if t.caseSensitive then some true else none).map fun b =>
      ("url-filter-is-case-sensitive", Json.bool b)).toList

/-- The members of the object that is written for a trigger. -/
def members : List (String × Json) :=
  ("url-filter", .str t.urlFilter) :: (pageMembers t.domains ++ t.otherMembers)

theorem toJson_eq : t.toJson = .obj t.members := by
  obtain ⟨urlFilter, domains, resourceTypes, loadTypes, caseSensitive⟩ := t
  unfold toJson members otherMembers
  simp only [List.append_assoc]
  rcases domains with _ | ⟨values | values⟩ <;> cases caseSensitive <;> rfl

theorem lookup_otherMembers (k : String) : t.otherMembers.lookup k =
    ((if k == "resource-type" then t.resourceTypes.map fun types => Json.strings types.names
      else none).or
      (if k == "load-type" then t.loadTypes.map fun types => Json.strings types.names else none)).or
      (if k == "url-filter-is-case-sensitive" then
        (if t.caseSensitive then some true else none).map Json.bool else none) := by
  rw [otherMembers, List.lookup_append, List.lookup_append, Json.lookup_toList, Json.lookup_toList,
    Json.lookup_toList]

variable {k : String} (hfilter : (k == "url-filter") = false)
include hfilter

theorem lookup_members :
    t.members.lookup k = ((pageMembers t.domains).lookup k).or (t.otherMembers.lookup k) := by
  rw [members, List.lookup_cons, hfilter]
  exact List.lookup_append

/-- A member that is neither the url filter nor for pages. -/
theorem lookup_members_other (hif : (k == "if-domain") = false)
    (hunless : (k == "unless-domain") = false) : t.members.lookup k = t.otherMembers.lookup k := by
  have hpages : (pageMembers t.domains).lookup k = none := by
    rcases t.domains with _ | ⟨values | values⟩
    · rfl
    · rw [pageMembers, List.lookup_cons, hif]
      rfl
    · rw [pageMembers, List.lookup_cons, hunless]
      rfl
  rw [lookup_members t hfilter, hpages, Option.none_or]

end

theorem ofMembers?_members {t : Trigger} (h : t.IsWritten) :
    DomainCondition.ofMembers? t.members = some t.domains := by
  have hvalues (c : DomainCondition) (hc : t.domains = some c) :
      (Json.strings? (Json.strings (c.values.map DomainValue.text))).map
        (fun texts => texts.map DomainValue.ofText) = some c.values := by
    rw [Json.strings?_strings, Option.map_some, List.map_map]
    exact congrArg some ((List.map_congr_left fun v hv => h c hc v hv).trans (List.map_id _))
  have hif : t.members.lookup "if-domain" = (pageMembers t.domains).lookup "if-domain" := by
    rw [lookup_members t rfl, lookup_otherMembers]
    exact Option.or_none
  have hunless :
      t.members.lookup "unless-domain" = (pageMembers t.domains).lookup "unless-domain" := by
    rw [lookup_members t rfl, lookup_otherMembers]
    exact Option.or_none
  unfold DomainCondition.ofMembers?
  simp only [Json.optional?, hif, hunless]
  cases hdomains : t.domains with
  | none => rfl
  | some c =>
    have hread := hvalues c hdomains
    cases c with
    | only values =>
      have hne : ("unless-domain" == "if-domain") = false := rfl
      simp only [pageMembers, List.lookup_cons, List.lookup_nil, beq_self_eq_true, hne]
      dsimp only [DomainCondition.values] at hread
      rw [hread]
      rfl
    | except values =>
      have hne : ("if-domain" == "unless-domain") = false := rfl
      simp only [pageMembers, List.lookup_cons, List.lookup_nil, beq_self_eq_true, hne]
      dsimp only [DomainCondition.values] at hread
      rw [hread]
      rfl

/-- The value of a trigger is read as the trigger. -/
theorem ofJson?_toJson {t : Trigger} (h : t.IsWritten) : ofJson? t.toJson = some t := by
  have hurl : Json.required? Json.str? "url-filter" t.members = some t.urlFilter := rfl
  have hresource :
      Json.optional? WordSet.ofJson? "resource-type" t.members = some t.resourceTypes := by
    refine Json.optional?_of_lookup (WordSet.ofJson?_strings ResourceType.ofName?_name) ?_
    rw [lookup_members_other t rfl rfl rfl, lookup_otherMembers]
    simp
  have hload : Json.optional? WordSet.ofJson? "load-type" t.members = some t.loadTypes := by
    refine Json.optional?_of_lookup (WordSet.ofJson?_strings LoadType.ofName?_name) ?_
    rw [lookup_members_other t rfl rfl rfl, lookup_otherMembers]
    simp
  have hcase : Json.optional? Json.bool? "url-filter-is-case-sensitive" t.members =
      some (if t.caseSensitive then some true else none) := by
    have hbool : ∀ b, Json.bool? (.bool b) = some b := fun _ => rfl
    refine Json.optional?_of_lookup hbool ?_
    rw [lookup_members_other t rfl rfl rfl, lookup_otherMembers]
    simp
  rw [toJson_eq, ofJson?]
  simp only [Json.members?, hurl, ofMembers?_members h, hresource, hload, hcase, bind,
    Option.bind, pure]
  obtain ⟨urlFilter, domains, resourceTypes, loadTypes, caseSensitive⟩ := t
  cases caseSensitive <;> rfl

end Trigger

namespace Entry

/-- The values of the condition on pages are those that their texts write. -/
def IsWritten (e : Entry) : Prop := e.trigger.IsWritten

/-- The value of an entry is read as the entry. -/
theorem ofJson?_toJson {e : Entry} (h : e.IsWritten) : ofJson? e.toJson = some e := by
  have htrigger : Json.required? Trigger.ofJson? "trigger"
      [("trigger", e.trigger.toJson), ("action", e.action.toJson)] = some e.trigger :=
    Trigger.ofJson?_toJson h
  have haction : Json.required? Action.ofJson? "action"
      [("trigger", e.trigger.toJson), ("action", e.action.toJson)] = some e.action :=
    Action.ofJson?_toJson e.action
  rw [toJson, ofJson?]
  simp only [Json.members?, htrigger, haction, bind, Option.bind, pure]

/-- The text of a rule list is read as its entries. -/
theorem listOfText?_renderList {entries : List Entry} (h : ∀ e ∈ entries, e.IsWritten) :
    listOfText? (renderList entries) = some entries := by
  have hitems := Json.items?_map (f := id) fun e he => ofJson?_toJson (h e he)
  rw [listOfText?, renderList_eq, Json.read?_render, Option.bind_some]
  rwa [List.map_id] at hitems

end Entry

end ContentRules
