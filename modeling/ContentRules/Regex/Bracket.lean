import ContentRules.Regex.Escape

/-!
Classes in brackets. A class is a union of characters, ranges, escapes, named classes and classes in
brackets of their own; `&&`, `--` and `~~` between unions intersect, subtract and keep what belongs
to one side only, from left to right. A class may be complemented as a whole. Classes that are open
are kept on a stack, innermost first.
-/

namespace ContentRules.Regex.Bracket

/-- The operators between unions. -/
inductive Operator where
  | intersection | difference | symmetricDifference

/-- A class that has been opened and not yet closed. -/
structure Open where
  /-- What the class around it holds so far. -/
  outer : CharSet
  negated : Bool
  /-- The operator that waits for its right side, with its left side. -/
  pending : Option (Operator × CharSet)

def foldCase (m : Modes) (s : CharSet) : CharSet :=
  if m.ignoreCase then .folded m.unicode s else s

/-- Gives a waiting operator its right side. -/
def complete (m : Modes) (pending : Option (Operator × CharSet)) (right : CharSet) : CharSet :=
  match pending with
  | none => right
  | some (op, left) =>
    let left := foldCase m left
    let right := foldCase m right
    match op with
    | .intersection => .inter left right
    | .difference => .diff left right
    | .symmetricDifference => .symmDiff left right

/-- Adds an item to a union. Without Unicode only ASCII characters may be named. -/
def addRange? (m : Modes) (union : CharSet) (first last : Char) : Option CharSet :=
  if last < first then none
  else if !m.unicode && 128 ≤ last.toNat then none
  else some (.union union (.range first last))

/-- The hyphens that may stand first in a class, with at least one character after each. -/
def leadingHyphens (m : Modes) (inComment : Bool) (union : CharSet) :
    List Char → CharSet × List Char
  | [] => (union, [])
  | c :: r =>
    match gap? m inComment c with
    | some inComment => leadingHyphens m inComment union r
    | none =>
      if c = '-' then leadingHyphens m false (.union union (.char '-')) r else (union, c :: r)

/-- Opens a class: whether it is complemented, and the hyphens or the bracket
that may stand first. -/
def openClass (m : Modes) (s : List Char) : Bool × CharSet × List Char :=
  let (negated, s) :=
    match skipGaps m s with
    | '^' :: r => (true, r)
    | s => (false, s)
  match skipGaps m s with
  | ']' :: r => (negated, .char ']', r)
  | s =>
    let (union, rest) := leadingHyphens m false .empty s
    (negated, union, rest)

/-- A named class of ASCII characters, whose opening bracket and colon have been read. -/
def asciiClass? (m : Modes) (s : List Char) : Option (Option CharSet × List Char) :=
  let (negated, s) :=
    match s with
    | '^' :: r => (true, r)
    | s => (false, s)
  match Text.cutFirst (· == ':') s with
  | some (name, ']' :: rest) =>
    (ClassName.ascii? name).map fun set => (finishSet? m negated set, rest)
  | _ => none

/-- One end of a range, or an item of its own. -/
def item? (m : Modes) : List Char → Option (Atom × List Char)
  | [] => none
  | '\\' :: r => escape? m r
  | c :: r => some (.literal c, r)

/-- An item or a range at the start of the text, added to a union. -/
def addItem? (m : Modes) (union : CharSet) (s : List Char) : Option (CharSet × List Char) := do
  let (first, rest) ← item? m s
  let rest := skipGaps m rest
  let single :=
    match first with
    | .literal c => (addRange? m union c c).map (·, rest)
    | .set set => some (.union union set, rest)
    | .anchor _ => none
  match rest with
  | [] => none
  | '-' :: after =>
    match skipGaps m after with
    | [] => none
    | ']' :: _ => single
    | '-' :: _ => single
    | after => do
      let (last, rest) ← item? m after
      match first, last with
      | .literal a, .literal b => (addRange? m union a b).map (·, rest)
      | _, _ => none
  | _ => single

/-- Reads on inside the open classes; the innermost one holds `union` so far. No step leaves the
text as long as it was, so its length bounds the steps. -/
def readFrom (m : Modes) : Nat → List Open → CharSet → List Char → Option (CharSet × List Char)
  | 0, _, _, _ => none
  | _, [], _, _ => none
  | fuel + 1, top :: stack, union, s =>
    let operator (op : Operator) (rest : List Char) :=
      readFrom m fuel ({ top with pending := some (op, complete m top.pending union) } :: stack)
        .empty rest
    match skipGaps m s with
    | [] => none
    | '[' :: rest =>
      let nested :=
        match openClass m rest with
        | (_, _, []) => none
        | (negated, inner, rest) =>
          readFrom m fuel (⟨union, negated, none⟩ :: top :: stack) inner rest
      match rest with
      | ':' :: named =>
        match asciiClass? m named with
        | some (set?, rest) =>
          set?.bind fun set => readFrom m fuel (top :: stack) (.union union set) rest
        | none => nested
      | _ => nested
    | ']' :: rest => do
      let set ← finishSet? m top.negated (complete m top.pending union)
      match stack with
      | [] => some (set, rest)
      | _ => readFrom m fuel stack (.union top.outer set) rest
    | '&' :: '&' :: rest => operator .intersection rest
    | '-' :: '-' :: rest => operator .difference rest
    | '~' :: '~' :: rest => operator .symmetricDifference rest
    | s => do
      let (union, rest) ← addItem? m union s
      readFrom m fuel (top :: stack) union rest

/-- The class whose opening bracket has been read. -/
def read? (m : Modes) (s : List Char) : Option (CharSet × List Char) :=
  match openClass m s with
  | (_, _, []) => none
  | (negated, union, rest) => readFrom m (rest.length + 1) [⟨.empty, negated, none⟩] union rest

end ContentRules.Regex.Bracket
