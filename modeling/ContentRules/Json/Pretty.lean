import ContentRules.Json.Basic

/-!
The indented text of a JSON value: two blanks for each level, one item or member a line, members in
ascending order of their keys, and empty arrays and objects on one line. Main statement: an array
may be written item by item.
-/

namespace ContentRules.Json

/-- Puts a member into a list sorted by key; an equal key takes the new value. -/
def insertMember {α : Type} (k : String) (v : α) : List (String × α) → List (String × α)
  | [] => [(k, v)]
  | (k', v') :: rest =>
    if k < k' then (k, v) :: (k', v') :: rest
    else if k = k' then (k, v) :: rest
    else (k', v') :: insertMember k v rest

/-- The members in ascending order of their keys; of equal keys the last one counts. -/
def sortMembers {α : Type} (members : List (String × α)) : List (String × α) :=
  members.foldl (fun sorted (k, v) => insertMember k v sorted) []

def newline (depth : Nat) : List Char := '\n' :: List.replicate (2 * depth) ' '

mutual
/-- The indented text of a value that stands `depth` levels deep. -/
def prettyChars (depth : Nat) : Json → List Char
  | arr [] => ['[', ']']
  | arr (v :: rest) =>
    '[' :: newline (depth + 1) ++ prettyChars (depth + 1) v ++ prettyItems (depth + 1) rest ++
      newline depth ++ [']']
  | obj members =>
    match sortMembers (prettyMembers (depth + 1) members) with
    | [] => ['{', '}']
    | (k, v) :: rest =>
      '{' :: newline (depth + 1) ++ quote k.toList ++ ':' :: ' ' :: v ++
        rest.flatMap
          (fun (k, v) => ',' :: newline (depth + 1) ++ quote k.toList ++ ':' :: ' ' :: v) ++
        newline depth ++ ['}']
  | v => chars v

def prettyItems (depth : Nat) : List Json → List Char
  | [] => []
  | v :: rest => ',' :: newline depth ++ prettyChars depth v ++ prettyItems depth rest

def prettyMembers (depth : Nat) : List (String × Json) → List (String × List Char)
  | [] => []
  | (k, v) :: rest => (k, prettyChars depth v) :: prettyMembers depth rest
end

/-- The indented text of a value. -/
def pretty (v : Json) : String := String.ofList (v.prettyChars 0)

/-- The indented text of an array. -/
def prettyArray (items : List Json) : String :=
  if items.isEmpty then "[]"
  else
    "[\n  " ++ ",\n  ".intercalate (items.map fun v => String.ofList (v.prettyChars 1)) ++ "\n]"

theorem prettyItems_eq (depth : Nat) (items : List Json) :
    prettyItems depth items =
      items.flatMap fun v => ',' :: newline depth ++ prettyChars depth v := by
  induction items with
  | nil => rfl
  | cons v items ih => simp [prettyItems, ih]

/-- What stands between texts stands before each but the first. -/
theorem intercalate_cons_eq {α : Type} (between first : List α) (rest : List (List α)) :
    between.intercalate (first :: rest) = first ++ rest.flatMap (between ++ ·) := by
  induction rest generalizing first with
  | nil => simp
  | cons second rest ih => simp [List.intercalate_cons_cons, ih]

/-- An array is written item by item. -/
theorem prettyArray_eq (items : List Json) : prettyArray items = (arr items).pretty := by
  cases items with
  | nil => rfl
  | cons v rest =>
    rw [← String.toList_inj]
    simp [prettyArray, pretty, String.toList_intercalate, prettyChars, prettyItems_eq,
      intercalate_cons_eq, newline, List.flatMap_map]

/-- The indented text of a value, where an array is written item by item. -/
def prettyText : Json → String
  | arr items => prettyArray items
  | v => v.pretty

theorem prettyText_eq (v : Json) : v.prettyText = v.pretty := by
  cases v with
  | arr items => exact prettyArray_eq items
  | _ => rfl

end ContentRules.Json
