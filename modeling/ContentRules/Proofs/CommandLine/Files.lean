import ContentRules.CommandLine.Run
import ContentRules.Proofs.Text.Pieces
import Mathlib.Tactic.SplitIfs

/-!
What appending does to a tree of files, and where outputs go. Main statements: additions one after
the other are one addition (`IsExtendedBy.trans`), a place does not depend on what files hold
(`filePlace_eq_ok`), and paths with different ends lead to different places (`ne_of_filePlace`).
-/

namespace ContentRules.CommandLine.FileTree

/-- Bytes that go to the ends of files, in the order in which they are written. -/
abbrev Additions := List (Place × List UInt8)

/-- What goes to one file, piece by piece. -/
def piecesAt (p : Place) (additions : Additions) : List (List UInt8) :=
  (additions.filter (·.1 = p)).map (·.2)

/-- The bytes of a file; one that is missing has none. -/
def bytesAt (t : FileTree) (p : Place) : List UInt8 := ((t.content? p).map Content.bytes).getD []

/-- The second tree has the bytes at the ends of its files, and is like the first one otherwise. -/
structure IsExtendedBy (t : FileTree) (additions : Additions) (t' : FileTree) : Prop where
  folders_eq : t'.folders = t.folders
  content?_eq : ∀ p, t'.content? p =
    if piecesAt p additions = [] then t.content? p
    else some ⟨t.bytesAt p ++ (piecesAt p additions).flatten⟩

theorem IsExtendedBy.refl (t : FileTree) : t.IsExtendedBy [] t := ⟨rfl, fun _ => by simp [piecesAt]⟩

theorem piecesAt_append (p : Place) (a b : Additions) :
    piecesAt p (a ++ b) = piecesAt p a ++ piecesAt p b := by
  simp [piecesAt]

theorem IsExtendedBy.trans {t t' t'' : FileTree} {a b : Additions} (h : t.IsExtendedBy a t')
    (h' : t'.IsExtendedBy b t'') : t.IsExtendedBy (a ++ b) t'' := by
  refine ⟨h'.folders_eq.trans h.folders_eq, fun p => ?_⟩
  rw [h'.content?_eq, bytesAt, h.content?_eq, piecesAt_append]
  by_cases ha : piecesAt p a = [] <;> by_cases hb : piecesAt p b = [] <;>
    simp [ha, hb, bytesAt, List.append_assoc]

/-- Bytes at the end of one file. -/
theorem isExtendedBy_append (t : FileTree) (p : Place) (bytes : List UInt8) :
    t.IsExtendedBy [(p, bytes)] (t.append p bytes) := by
  refine ⟨rfl, fun q => ?_⟩
  by_cases hq : p = q
  · simp [append, content?, lookup_appendAt, piecesAt, bytesAt, hq]
  · simp [append, content?, lookup_appendAt, piecesAt, hq, Ne.symm hq]

theorem enter_eq_ok {t t' : FileTree} (h : t'.folders = t.folders) {names : List String}
    {folder place : Place} (he : t.enter folder names = .ok place) :
    t'.enter folder names = .ok place := by
  induction names generalizing folder with
  | nil => exact he
  | cons name rest ih =>
    have hfolder : t'.isFolder (folder ++ [name]) = t.isFolder (folder ++ [name]) := by
      simp [isFolder, h]
    simp only [enter, hfolder] at he ⊢
    split_ifs at he ⊢ <;> exact ih he

/-- The last name of a path. -/
def lastName (path : String) : String := (names path).getLast?.getD ""

theorem filePlace_eq (t : FileTree) (current : Place) (path : String) :
    t.filePlace current path =
      if pathLimit ≤ path.utf8ByteSize then .error .nameTooLong
      else
        match t.enter (if path.startsWith "/" then [] else current) (names path).dropLast with
        | .error e => .error e
        | .ok folder =>
          if nameLimit < (lastName path).utf8ByteSize then .error .nameTooLong
          else if lastName path = "" || lastName path = "." || lastName path = ".." ||
            t.isFolder (folder ++ [lastName path]) then .error .isAFolder
          else .ok (folder ++ [lastName path]) := by
  unfold filePlace lastName
  dsimp only
  split
  · rfl
  · cases t.enter (if path.startsWith "/" then [] else current) (names path).dropLast with
    | error e => rfl
    | ok folder =>
      simp only [bind, Except.bind, pure, Except.pure]
      split_ifs <;> rfl

/-- A name without slashes after a dot is the name of a file in the folder itself. -/
theorem filePlace_dot (t : FileTree) (current : Place) {name : String} (h : '/' ∉ name.toList)
    (hsize : name.utf8ByteSize + 2 < pathLimit) :
    t.filePlace current ("./" ++ name) =
      if nameLimit < name.utf8ByteSize then .error .nameTooLong
      else if name = "" || name = "." || name = ".." || t.isFolder (current ++ [name]) then
        .error .isAFolder
      else .ok (current ++ [name]) := by
  have hnames : names ("./" ++ name) = [".", name] := by
    have hpath : ("./" ++ name).toList = ['.'] ++ '/' :: name.toList := by simp
    rw [names, hpath, Text.pieces_append_cons (by decide), Text.pieces_of_not_mem h]
    simp
  have hlimit : ¬pathLimit ≤ ("./" ++ name).utf8ByteSize := by
    rw [String.utf8ByteSize_append, show "./".utf8ByteSize = 2 from rfl]
    omega
  have hstart : ("./" ++ name).startsWith "/" = false := by simp
  rw [filePlace_eq, if_neg hlimit, hstart, lastName, hnames]
  rfl

/-- Where a path leads depends on the folders only. -/
theorem filePlace_eq_ok {t t' : FileTree} (h : t'.folders = t.folders) {current place : Place}
    {path : String} (hp : t.filePlace current path = .ok place) :
    t'.filePlace current path = .ok place := by
  have hfolder (place : Place) : t'.isFolder place = t.isFolder place := by simp [isFolder, h]
  rw [filePlace_eq] at hp ⊢
  split at hp
  · cases hp
  next hsize =>
    rw [if_neg hsize]
    split at hp
    · cases hp
    next henter =>
      rw [enter_eq_ok h henter]
      simpa only [hfolder] using hp

theorem getLast?_of_filePlace {t : FileTree} {current place : Place} {path : String}
    (h : t.filePlace current path = .ok place) : place.getLast? = some (lastName path) := by
  rw [filePlace_eq] at h
  split at h
  · cases h
  split at h
  · cases h
  split_ifs at h
  cases h
  exact List.getLast?_concat

/-! ## Paths with a common start -/

/-- An end without slashes goes to the last name. -/
theorem lastName_append (path : String) {e : String} (he : '/' ∉ e.toList) :
    lastName (path ++ e) = lastName path ++ e := by
  have hslash : ∀ c ∈ e.toList, (c == '/') = false := fun _ hc =>
    beq_eq_false_iff_ne.2 (ne_of_mem_of_not_mem hc he)
  obtain ⟨init, last, hpath, hend⟩ := Text.exists_pieces_append path.toList hslash
  rw [lastName, lastName, names, names, String.toList_append, hpath, hend]
  simp [String.ofList_append]

/-- Paths that differ in their ends only lead to different files. -/
theorem ne_of_filePlace {t : FileTree} {current p q : Place} {path e f : String}
    (he : '/' ∉ e.toList)
    (hf : '/' ∉ f.toList) (hne : e ≠ f) (hp : t.filePlace current (path ++ e) = .ok p)
    (hq : t.filePlace current (path ++ f) = .ok q) : p ≠ q := by
  rintro rfl
  have h := (getLast?_of_filePlace hp).symm.trans (getLast?_of_filePlace hq)
  rw [lastName_append path he, lastName_append path hf, Option.some.injEq,
    String.append_right_inj] at h
  exact hne h

/-- An end without slashes stays at the end when a name is put into a folder. -/
theorem joinPath_append (folder name : String) {e : String} (he : '/' ∉ e.toList) :
    joinPath folder (name ++ e) = joinPath folder name ++ e := by
  have hstart : (name ++ e).startsWith "/" = name.startsWith "/" := by
    rw [Bool.eq_iff_iff, String.startsWith_string_iff, String.startsWith_string_iff,
      String.toList_append]
    cases name.toList with
    | nil => cases h : e.toList <;> simp_all
    | cons c rest => simp
  unfold joinPath
  rw [hstart]
  split_ifs
  · rfl
  · rw [String.append_assoc]
  · simp only [String.append_assoc]

end ContentRules.CommandLine.FileTree
