import ContentRules.Proofs.CommandLine.Files

/-!
Writing outputs one after the other in a system that has faults. An output can stop in four ways:
its text cannot be made, its file cannot be opened, the file takes a part of the text only, or
nobody hears that it was written. Main statement: `System.exists_writes`, by which writing extends
files by what comes before the first stop.
-/

namespace ContentRules.CommandLine

open FileTree

namespace System

variable (system : System) (current : Place) (t : FileTree)

/-- The file of a path cannot be opened. -/
def CannotOpen (path : String) : Prop :=
  (∃ fault, system.outputFault? path = some (.opening fault)) ∨
    ∃ fault, t.filePlace current path = .error fault

/-- The file of a path takes the first part of some bytes and no more. -/
def CutsOff (path : String) (whole part : List UInt8) : Prop :=
  ∃ room fault, system.outputFault? path = some (.writing room fault) ∧ room < whole.length ∧
    part = whole.take room

/-- Nobody hears what is said about the output of a path. -/
def IsUnheard (path : String) : Prop := ∃ fault, system.outputFault? path = some (.saying fault)

variable {system current t}

theorem takesNotice_eq_false_iff {path : String} :
    system.takesNotice path = false ↔ system.IsUnheard path := by
  unfold takesNotice IsUnheard
  cases system.outputFault? path with
  | none => simp
  | some fault => cases fault <;> simp

/-- A text that is to go to a file goes nowhere, or a part of it goes there, or all of it. -/
theorem append_cases (system : System) (current : Place) (t : FileTree) (path text : String) :
    (∃ complaint, system.append current t path text = (t, .error complaint) ∧
        system.CannotOpen current t path) ∨
      (∃ complaint p part, system.append current t path text = (t.append p part, .error complaint) ∧
        t.filePlace current path = .ok p ∧ system.CutsOff path (Text.bytes text) part) ∨
      ∃ p, system.append current t path text = (t.append p (Text.bytes text), .ok ()) ∧
        t.filePlace current path = .ok p := by
  unfold append
  split
  next fault hfault => exact .inl ⟨_, rfl, .inl ⟨fault, hfault⟩⟩
  next =>
    cases hp : t.filePlace current path with
    | error e => exact .inl ⟨_, rfl, .inr ⟨e, hp⟩⟩
    | ok p =>
      dsimp only
      split
      next room fault hfault =>
        split
        next hroom => exact .inr (.inl ⟨_, p, _, rfl, rfl, room, fault, hfault, hroom, rfl⟩)
        next => exact .inr (.inr ⟨p, rfl, rfl⟩)
      next => exact .inr (.inr ⟨p, rfl, rfl⟩)

theorem exitCode_complain (complaint : String) :
    ((system.complain complaint).exitCode == 0) = false := by
  unfold complain
  split <;> rfl

/-! ## Outputs one after the other -/

/-- What outputs put at the ends of files, and whether all of them come through. -/
inductive Writes (system : System) (current : Place) (t : FileTree) :
    List Output → Additions → Bool → Prop
  | done : Writes system current t [] [] true
  | unmade {o : Output} {rest : List Output} {complaint : String} (h : o.text = .error complaint) :
    Writes system current t (o :: rest) [] false
  | unopened {o : Output} {rest : List Output} (h : system.CannotOpen current t o.path) :
    Writes system current t (o :: rest) [] false
  | cut {o : Output} {rest : List Output} {text : String} {p : Place} {part : List UInt8}
    (htext : o.text = .ok text) (hp : t.filePlace current o.path = .ok p)
    (h : system.CutsOff o.path (Text.bytes text) part) :
    Writes system current t (o :: rest) [(p, part)] false
  | unheard {o : Output} {rest : List Output} {text : String} {p : Place}
    (htext : o.text = .ok text) (hp : t.filePlace current o.path = .ok p)
    (h : system.IsUnheard o.path) : Writes system current t (o :: rest) [(p, Text.bytes text)] false
  | next {o : Output} {rest : List Output} {text : String} {p : Place} {additions : Additions}
    {done : Bool} (htext : o.text = .ok text) (hp : t.filePlace current o.path = .ok p)
    (hrest : Writes system current t rest additions done) :
    Writes system current t (o :: rest) ((p, Text.bytes text) :: additions) done

theorem cannotOpen_congr {t' : FileTree} (hfolders : t'.folders = t.folders) {path : String}
    (h : system.CannotOpen current t' path) : system.CannotOpen current t path := by
  obtain h | ⟨fault, hfault⟩ := h
  · exact .inl h
  · cases hplace : t.filePlace current path with
    | error fault => exact .inr ⟨fault, hplace⟩
    | ok p => cases hfault.symm.trans (filePlace_eq_ok hfolders hplace)

/-- Which files can be opened depends on the folders only. -/
theorem Writes.of_folders_eq {t' : FileTree} (hfolders : t'.folders = t.folders)
    {outputs : List Output} {additions : Additions} {done : Bool}
    (h : Writes system current t' outputs additions done) :
    Writes system current t outputs additions done := by
  induction h with
  | done => exact .done
  | unmade h => exact .unmade h
  | unopened h => exact .unopened (cannotOpen_congr hfolders h)
  | cut htext hp h => exact .cut htext (filePlace_eq_ok hfolders.symm hp) h
  | unheard htext hp h => exact .unheard htext (filePlace_eq_ok hfolders.symm hp) h
  | next htext hp _ ih => exact .next htext (filePlace_eq_ok hfolders.symm hp) ih

/-- Writing outputs extends files by what comes before the first stop, and the exit code tells
whether there was one. -/
theorem exists_writes (system : System) (current : Place) (t : FileTree) (outputs : List Output) :
    ∃ additions,
      Writes system current t outputs additions
        ((system.writeAll current t outputs).2.exitCode == 0) ∧
      t.IsExtendedBy additions (system.writeAll current t outputs).1 := by
  induction outputs generalizing t with
  | nil => exact ⟨[], .done, .refl t⟩
  | cons o rest ih =>
    rw [writeAll]
    cases htext : o.text with
    | error complaint =>
      dsimp only
      rw [exitCode_complain]
      exact ⟨[], .unmade htext, .refl t⟩
    | ok text =>
      dsimp only
      obtain ⟨complaint, happend, hopen⟩ | ⟨complaint, p, part, happend, hp, hcut⟩ |
        ⟨p, happend, hp⟩ := append_cases system current t o.path text
      · rw [happend]
        dsimp only
        rw [exitCode_complain]
        exact ⟨[], .unopened hopen, .refl t⟩
      · rw [happend]
        dsimp only
        rw [exitCode_complain]
        exact ⟨[(p, part)], .cut htext hp hcut, isExtendedBy_append t p part⟩
      · rw [happend]
        dsimp only
        have hfirst := isExtendedBy_append t p (Text.bytes text)
        cases hnotice : system.takesNotice o.path with
        | false => exact ⟨_, .unheard htext hp (takesNotice_eq_false_iff.1 hnotice), hfirst⟩
        | true =>
          -- the rest is written to a tree with one more text, and the same files can
          -- be opened in it
          obtain ⟨additions, hrest, hadditions⟩ := ih (t.append p (Text.bytes text))
          exact ⟨_, .next htext hp (hrest.of_folders_eq hfirst.folders_eq), hfirst.trans hadditions⟩

end System

end ContentRules.CommandLine
