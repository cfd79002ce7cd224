import ContentRules.Filter.ContentType
import ContentRules.Native.CompileError
import ContentRules.Safari.ResourceType

/-!
The kinds of content of filter options in the words of rule lists. Two kinds have no word there.
Main statement: the kinds of a rule without type options are every request, and a set of kinds goes
beyond that only by asking for popups.
-/

namespace ContentRules

/-- The word of rule lists for a kind of content, where there is one. -/
def ContentType.resource? : ContentType → Option ResourceType
  | script => some .script
  | image => some .image
  | stylesheet => some .styleSheet
  | object => none
  | subdocument => some .document
  | xmlhttprequest => some .fetch
  | media => some .media
  | font => some .font
  | websocket => some .websocket
  | webrtc => none
  | ping => some .ping
  | other => some .other
  | document => some .document
  | popup => some .popup

namespace ContentTypes

/-- The resource types of a set of kinds. -/
def resources (types : ContentTypes) : ResourceTypes :=
  .ofList (types.toList.filterMap ContentType.resource?)

theorem mem_resources {types : ContentTypes} {a : ResourceType} :
    a ∈ types.resources ↔ ∃ t ∈ types, t.resource? = some a := by
  simp [resources, WordSet.mem_ofList, WordSet.mem_toList]

theorem resources_default : ContentTypes.default.resources = .allRequests := by decide

/-- No kind of content is written as `raw`, so only popups lie outside `allRequests`. -/
theorem allRequests_includes_resources {types : ContentTypes} :
    ResourceTypes.allRequests.includes types.resources = true ↔ .popup ∉ types := by
  have hword : ∀ t : ContentType, ∀ a, t.resource? = some a →
      (a ∈ ResourceTypes.allRequests ↔ t ≠ .popup) := by
    intro t a h
    cases t <;> cases h <;> decide
  rw [WordSet.includes_iff]
  constructor
  · intro h hpopup
    exact (hword .popup _ rfl).1 (h .popup (mem_resources.2 ⟨_, hpopup, rfl⟩)) rfl
  · intro hpopup a ha
    obtain ⟨t, ht, hta⟩ := mem_resources.1 ha
    exact (hword t a hta).2 fun h => hpopup (h ▸ ht)

/-- Some kinds have no word in rule lists. -/
def dropsSome (types : ContentTypes) : Bool := types.toList.any fun t => t.resource?.isNone

/-- The resource types of a set of kinds, unless none is left. -/
def resources? (types : ContentTypes) : Except CompileError ResourceTypes :=
  if types.resources.isEmpty then .error .allResourceTypesDropped else .ok types.resources

end ContentTypes

end ContentRules
