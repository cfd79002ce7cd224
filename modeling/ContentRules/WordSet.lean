/-!
Sets of words from a finite vocabulary. A vocabulary lists its words in the order in which sets of
them are written. Main statements: membership in a union, intersection and difference is what it
says, and two sets with the same members are equal.
-/

namespace ContentRules

/-- A finite vocabulary: all words of a type, each once, in the order in which they are written. -/
class Vocabulary (α : Type) [DecidableEq α] where
  words : List α
  name : α → String
  mem_words : ∀ a, a ∈ words
  nodup_words : words.Nodup

namespace Vocabulary

variable {α : Type} [DecidableEq α] [Vocabulary α]

/-- The place of a word in the vocabulary. -/
def index (a : α) : Nat := (words (α := α)).idxOf a

theorem index_lt (a : α) : index a < (words (α := α)).length :=
  List.idxOf_lt_length_of_mem (mem_words a)

/-- The word of the given name. -/
def ofName? (s : String) : Option α := (words (α := α)).find? fun a => name a == s

end Vocabulary

open Vocabulary

/-- A set of words. -/
structure WordSet (α : Type) [DecidableEq α] [Vocabulary α] where
  bits : BitVec (words (α := α)).length

namespace WordSet

variable {α : Type} [DecidableEq α] [Vocabulary α]

instance : DecidableEq (WordSet α) := fun s t =>
  decidable_of_iff (s.bits = t.bits) ⟨fun h => by cases s; cases t; simp_all, fun h => h ▸ rfl⟩

instance : Hashable (WordSet α) := ⟨fun s => hash s.bits⟩

instance : EmptyCollection (WordSet α) := ⟨⟨0⟩⟩

instance : Inhabited (WordSet α) := ⟨∅⟩

/-- Whether a word is in the set. -/
def contains (s : WordSet α) (a : α) : Bool := s.bits.getLsbD (index a)

instance : Membership α (WordSet α) := ⟨fun s a => s.contains a = true⟩

instance (a : α) (s : WordSet α) : Decidable (a ∈ s) := inferInstanceAs (Decidable (_ = true))

/-- The set of one word. -/
def single (a : α) : WordSet α := ⟨BitVec.twoPow _ (index a)⟩

def union (s t : WordSet α) : WordSet α := ⟨s.bits ||| t.bits⟩
def inter (s t : WordSet α) : WordSet α := ⟨s.bits &&& t.bits⟩
def diff (s t : WordSet α) : WordSet α := ⟨s.bits &&& ~~~t.bits⟩

instance : Union (WordSet α) := ⟨union⟩
instance : Inter (WordSet α) := ⟨inter⟩
instance : SDiff (WordSet α) := ⟨diff⟩

def isEmpty (s : WordSet α) : Bool := s.bits == 0

/-- Every member of the second set is one of the first. -/
def includes (s t : WordSet α) : Bool := t \ s == ∅

/-- The sets share a member. -/
def meets (s t : WordSet α) : Bool := !(s ∩ t).isEmpty

/-- The words in the set, in the order of the vocabulary. -/
def toList (s : WordSet α) : List α := (words (α := α)).filter (s.contains ·)

def ofList (l : List α) : WordSet α := l.foldl (fun s a => s ∪ single a) ∅

/-- The names of the words in the set, in the order of the vocabulary. -/
def names (s : WordSet α) : List String := s.toList.map name

theorem not_mem_empty (a : α) : ¬a ∈ (∅ : WordSet α) := by
  simp [Membership.mem, contains, EmptyCollection.emptyCollection]

theorem mem_union {s t : WordSet α} {a : α} : a ∈ s ∪ t ↔ a ∈ s ∨ a ∈ t := by
  simp [Membership.mem, contains, Union.union, union]

theorem mem_inter {s t : WordSet α} {a : α} : a ∈ s ∩ t ↔ a ∈ s ∧ a ∈ t := by
  simp [Membership.mem, contains, Inter.inter, inter]

theorem mem_sdiff {s t : WordSet α} {a : α} : a ∈ s \ t ↔ a ∈ s ∧ ¬a ∈ t := by
  simp [Membership.mem, contains, SDiff.sdiff, diff, index_lt]

theorem mem_single {a b : α} : a ∈ single b ↔ a = b := by
  have hinj : index a = index b → a = b := fun h => by
    have ha := List.getElem_idxOf (index_lt a)
    have hb := List.getElem_idxOf (index_lt b)
    simp only [index] at h ha hb
    rw [← ha, ← hb]
    congr 1
  simp only [Membership.mem, contains, single, BitVec.getLsbD_twoPow]
  constructor
  · intro h
    have : index b = index a := by simpa [index_lt] using h
    exact hinj this.symm
  · rintro rfl
    simp [index_lt]

theorem ext {s t : WordSet α} (h : ∀ a, a ∈ s ↔ a ∈ t) : s = t := by
  cases s with | mk s =>
  cases t with | mk t =>
  congr 1
  apply BitVec.eq_of_getLsbD_eq
  intro i hi
  have hindex : index ((words (α := α))[i]) = i := nodup_words.idxOf_getElem i hi
  have := h ((words (α := α))[i])
  simp only [Membership.mem, contains, hindex] at this
  exact Bool.eq_iff_iff.2 this

theorem isEmpty_iff {s : WordSet α} : s.isEmpty = true ↔ ∀ a, ¬a ∈ s := by
  constructor
  · intro h a
    have : s = ∅ := by
      cases s
      simp only [isEmpty, beq_iff_eq] at h
      simp [EmptyCollection.emptyCollection, h]
    simp [this, not_mem_empty]
  · intro h
    have : s = ∅ := ext fun a => by simp [h, not_mem_empty]
    simp [this, isEmpty, EmptyCollection.emptyCollection]

theorem includes_iff {s t : WordSet α} : s.includes t = true ↔ ∀ a ∈ t, a ∈ s := by
  simp only [includes, beq_iff_eq]
  constructor
  · intro h a ha
    have hn : ¬a ∈ t \ s := by simp [h, not_mem_empty]
    by_cases hs : a ∈ s
    · exact hs
    · exact absurd (mem_sdiff.2 ⟨ha, hs⟩) hn
  · intro h
    exact ext fun a => by
      simp only [mem_sdiff, not_mem_empty, iff_false, not_and, Classical.not_not]
      exact h a

theorem meets_iff {s t : WordSet α} : s.meets t = true ↔ ∃ a, a ∈ s ∧ a ∈ t := by
  have := isEmpty_iff (s := s ∩ t)
  simp only [mem_inter] at this
  simp only [meets, Bool.not_eq_true', Bool.eq_false_iff, ne_eq, this, Classical.not_forall,
    Classical.not_not]

theorem mem_toList {s : WordSet α} {a : α} : a ∈ s.toList ↔ a ∈ s := by
  rw [toList, List.mem_filter]
  exact ⟨fun h => h.2, fun h => ⟨mem_words a, h⟩⟩

theorem mem_foldl_union_single {l : List α} {s : WordSet α} {a : α} :
    a ∈ l.foldl (fun s b => s ∪ single b) s ↔ a ∈ s ∨ a ∈ l := by
  induction l generalizing s with
  | nil => simp
  | cons b l ih => rw [List.foldl_cons, ih, mem_union, mem_single, List.mem_cons, or_assoc]

theorem mem_ofList {l : List α} {a : α} : a ∈ ofList l ↔ a ∈ l := by
  rw [ofList, mem_foldl_union_single]
  exact or_iff_right (not_mem_empty a)

theorem ofList_toList (s : WordSet α) : ofList s.toList = s :=
  ext fun _ => mem_ofList.trans mem_toList

end WordSet

end ContentRules
