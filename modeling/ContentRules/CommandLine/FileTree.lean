import ContentRules.Text.Pieces
import ContentRules.Text.Utf8

/-!
Folders and files, as far as the program sees them: it only appends to files, and makes those that
are missing. Main statement: appending changes no file but the one that it names.
-/

namespace ContentRules.CommandLine

/-- Why a file cannot be opened. -/
inductive PathError where
  | notFound
  | notAFolder
  | isAFolder
  | nameTooLong
  deriving DecidableEq, Repr

/-- The fault in the system's words, with its number. -/
def PathError.message : PathError → String
  | notFound => "No such file or directory (os error 2)"
  | notAFolder => "Not a directory (os error 20)"
  | isAFolder => "Is a directory (os error 21)"
  | nameTooLong => "File name too long (os error 36)"

/-- The names that lead from the top to a folder or file. -/
abbrev Place := List String

/-- What a file holds. -/
structure Content where
  bytes : List UInt8
  deriving DecidableEq, Repr

/-- The text of a file; one that is not in UTF-8 has none to show. -/
def Content.text (c : Content) : String := (Text.ofBytes? c.bytes).getD ""

instance : Coe Content String := ⟨Content.text⟩

/-- Folders and files by their places. -/
structure FileTree where
  /-- The folders below the top. -/
  folders : List Place
  files : List (Place × Content)

namespace FileTree

def isFolder (t : FileTree) (p : Place) : Bool := p.isEmpty || t.folders.contains p

def content? (t : FileTree) (p : Place) : Option Content := t.files.lookup p

/-- The most bytes that a name may have. -/
def nameLimit : Nat := 255

/-- The number of bytes that a whole path stays below. -/
def pathLimit : Nat := 4096

/-- Goes from a folder along names; dots stay or go back up. -/
def enter (t : FileTree) (folder : Place) : List String → Except PathError Place
  | [] => .ok folder
  | name :: rest =>
    if name = "" || name = "." then t.enter folder rest
    else if name = ".." then t.enter folder.dropLast rest
    else if nameLimit < name.utf8ByteSize then .error .nameTooLong
    else
      let next := folder ++ [name]
      if t.isFolder next then t.enter next rest
      else if (t.content? next).isSome then .error .notAFolder
      else .error .notFound

/-- The names of a path. -/
def names (path : String) : List String :=
  (Text.pieces (· == '/') path.toList).map String.ofList

/-- The place of the file that a path names, seen from a folder. -/
def filePlace (t : FileTree) (current : Place) (path : String) : Except PathError Place := do
  if pathLimit ≤ path.utf8ByteSize then throw .nameTooLong
  let start := if path.startsWith "/" then [] else current
  let folder ← t.enter start (names path).dropLast
  let name := (names path).getLast?.getD ""
  if nameLimit < name.utf8ByteSize then throw .nameTooLong
  if name = "" || name = "." || name = ".." || t.isFolder (folder ++ [name]) then throw .isAFolder
  return folder ++ [name]

/-- Puts bytes at the end of a file, which is made if it is missing. -/
def appendAt (p : Place) (bytes : List UInt8) :
    List (Place × Content) → List (Place × Content)
  | [] => [(p, ⟨bytes⟩)]
  | (q, held) :: rest =>
    if q = p then (q, ⟨held.bytes ++ bytes⟩) :: rest else (q, held) :: appendAt p bytes rest

/-- The tree with bytes at the end of a file. -/
def append (t : FileTree) (p : Place) (bytes : List UInt8) : FileTree :=
  { t with files := appendAt p bytes t.files }

theorem lookup_appendAt (p q : Place) (bytes : List UInt8) (files : List (Place × Content)) :
    (appendAt p bytes files).lookup q =
      if q = p then some ⟨((files.lookup p).map Content.bytes).getD [] ++ bytes⟩
      else files.lookup q := by
  induction files with
  | nil => by_cases h : q = p <;> simp [appendAt, h]
  | cons f rest ih =>
    obtain ⟨r, held⟩ := f
    by_cases hr : r = p
    · subst hr
      by_cases h : q = r
      · simp [appendAt, h]
      · have h' : (q == r) = false := by simpa using h
        simp [appendAt, h, List.lookup_cons, h']
    · have hp : (p == r) = false := by simpa using Ne.symm hr
      by_cases hq : q = r
      · subst hq
        simp [appendAt, hr]
      · have hq' : (q == r) = false := by simpa using hq
        simp [appendAt, hr, List.lookup_cons, hq', hp, ih]

end FileTree

end ContentRules.CommandLine
