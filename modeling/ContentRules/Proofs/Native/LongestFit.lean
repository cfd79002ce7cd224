import ContentRules.Native.SizeLimit
import ContentRules.Proofs.Json.EntryReading
import Mathlib.Data.List.Induction
import Mathlib.Order.Bounds.Defs

/-!
A limited rule list holds as many entries from the front as fit. Taking entries one by one counts
the bytes of the list that they make, and a list gets no shorter when entries are added, so the
first entry that does not fit ends the longest list that does. The text of the list is read as its
entries. Main statement: `ofEntries_longest`.
-/

namespace ContentRules

/-! ## The text of a rule list -/

namespace Entry

/-- The text of a list without its closing bracket. -/
def openText (entries : List Entry) : String := "[" ++ ",".intercalate (entries.map render)

theorem openText_concat (entries : List Entry) (e : Entry) :
    openText (entries ++ [e]) =
      openText entries ++ (if entries.isEmpty then "" else ",") ++ e.render := by
  have hconcat : ∀ texts : List String, ",".intercalate (texts ++ [e.render]) =
      ",".intercalate texts ++ (if texts.isEmpty then "" else ",") ++ e.render := by
    intro texts
    induction texts with
    | nil => simp
    | cons text texts ih =>
      cases texts with
      | nil => simp [String.intercalate_cons_cons]
      | cons next rest =>
        rw [List.cons_append, List.cons_append, String.intercalate_cons_cons,
          ← List.cons_append, ih, String.intercalate_cons_cons]
        simp [String.append_assoc]
  rw [openText, openText, List.map_append, List.map_singleton, hconcat, List.isEmpty_map]
  simp only [String.append_assoc]

/-- A list gets no shorter when entries are added. -/
theorem utf8ByteSize_openText_le (entries more : List Entry) :
    (openText entries).utf8ByteSize ≤ (openText (entries ++ more)).utf8ByteSize := by
  induction more using List.reverseRecOn with
  | nil => rw [List.append_nil]
  | append_singleton more e ih =>
    rw [← List.append_assoc, openText_concat, String.utf8ByteSize_append,
      String.utf8ByteSize_append]
    omega

theorem renderList_eq_openText (entries : List Entry) :
    renderList entries = openText entries ++ "]" :=
  rfl

end Entry

namespace LimitedList

open Entry

section
variable {maxBytes maxCount : Option Nat}

variable (maxBytes maxCount) in
/-- So many entries from the front make a JSON array within the limits. -/
structure EntriesFit (entries : List Entry) (k : Nat) : Prop where
  count : ∀ n ∈ maxCount, k ≤ n
  bytes : ∀ n ∈ maxBytes, (Json.arr ((entries.take k).map Entry.toJson)).render.utf8ByteSize ≤ n

theorem utf8ByteSize_render (entries : List Entry) :
    (Json.arr (entries.map Entry.toJson)).render.utf8ByteSize =
      (openText entries).utf8ByteSize + 1 := by
  rw [← renderList_eq, renderList_eq_openText, String.utf8ByteSize_append]
  rfl

theorem EntriesFit.mono {entries : List Entry} {j k : Nat}
    (h : EntriesFit maxBytes maxCount entries k) (hjk : j ≤ k) :
    EntriesFit maxBytes maxCount entries j where
  count n hn := Nat.le_trans hjk (h.count n hn)
  bytes n hn := by
    refine Nat.le_trans ?_ (h.bytes n hn)
    obtain ⟨more, hmore⟩ := List.take_prefix_take_left (l := entries) hjk
    rw [utf8ByteSize_render, utf8ByteSize_render, ← hmore]
    exact Nat.add_le_add_right (utf8ByteSize_openText_le _ _) 1

/-! ## Taking entries one by one -/

section
variable {taken rest : List Entry} {e : Entry}

theorem bytes_of_concat (taken : List Entry) (e : Entry) :
    (openText taken).utf8ByteSize + (if taken.isEmpty then "" else ",").utf8ByteSize +
        e.render.utf8ByteSize + 1 =
      (Json.arr ((taken ++ [e]).map Entry.toJson)).render.utf8ByteSize := by
  rw [utf8ByteSize_render, openText_concat, String.utf8ByteSize_append, String.utf8ByteSize_append]

theorem take_length_succ (taken rest : List Entry) (e : Entry) :
    (taken ++ e :: rest).take (taken.length + 1) = taken ++ [e] := by
  rw [List.take_length_add_append, List.take_succ_cons, List.take_zero]

/-- An entry that does not fit ends the list. -/
theorem takeFrom_cons_of_not
    (h : ¬EntriesFit maxBytes maxCount (taken ++ e :: rest) (taken.length + 1)) :
    takeFrom maxBytes maxCount taken.toArray (openText taken) (e :: rest) =
      close taken.toArray (openText taken) true := by
  rw [takeFrom]
  split
  case isTrue => rfl
  case isFalse hcount =>
    refine if_pos ?_
    rw [List.isEmpty_toArray, bytes_of_concat]
    by_contra hbytes
    refine h ⟨fun n hn => ?_, fun n hn => ?_⟩
    · have hn : maxCount = some n := hn
      have hlt : taken.length < n := by simpa [hn] using hcount
      exact hlt
    · have hn : maxBytes = some n := hn
      rw [take_length_succ]
      simpa [hn] using hbytes

/-- An entry that fits is taken. -/
theorem takeFrom_cons (h : EntriesFit maxBytes maxCount (taken ++ e :: rest) (taken.length + 1)) :
    takeFrom maxBytes maxCount taken.toArray (openText taken) (e :: rest) =
      takeFrom maxBytes maxCount (taken ++ [e]).toArray (openText (taken ++ [e])) rest := by
  have hcount : ¬maxCount.any (· ≤ taken.toArray.size) = true := by
    rw [Option.any_eq_true]
    rintro ⟨n, hn, hle⟩
    have hle' := h.count n hn
    simp only [List.size_toArray, decide_eq_true_eq] at hle
    omega
  have hbytes :
      ¬maxBytes.any (· < (Json.arr ((taken ++ [e]).map Entry.toJson)).render.utf8ByteSize) =
      true := by
    rw [Option.any_eq_true]
    rintro ⟨n, hn, hlt⟩
    have hle := h.bytes n hn
    rw [take_length_succ] at hle
    exact absurd (of_decide_eq_true hlt) (Nat.not_lt.2 hle)
  rw [takeFrom, if_neg hcount]
  dsimp only
  rw [List.isEmpty_toArray, bytes_of_concat, if_neg hbytes, List.push_toArray, openText_concat]

/-- Going on from some entries, a list from the front is written; it is the longest that fits
if those entries fit. -/
theorem exists_takeFrom (taken rest : List Entry) :
    ∃ k ≤ (taken ++ rest).length,
      takeFrom maxBytes maxCount taken.toArray (openText taken) rest =
        { entries := (taken ++ rest).take k
          json := renderList ((taken ++ rest).take k)
          overLimit := decide (k < (taken ++ rest).length) } ∧
      (EntriesFit maxBytes maxCount (taken ++ rest) taken.length →
        IsGreatest {k | k ≤ (taken ++ rest).length ∧ EntriesFit maxBytes maxCount (taken ++ rest) k}
          k) := by
  induction rest generalizing taken with
  | nil =>
    refine ⟨taken.length, by simp, ?_, fun hfit => ⟨⟨by simp, hfit⟩, fun k hk => ?_⟩⟩
    · simp [takeFrom, close, renderList_eq_openText]
    · simpa using hk.1
  | cons e rest ih =>
    by_cases hnext : EntriesFit maxBytes maxCount (taken ++ e :: rest) (taken.length + 1)
    · have happend : taken ++ e :: rest = (taken ++ [e]) ++ rest := by simp
      obtain ⟨k, hk, hlist, hgreatest⟩ := ih (taken ++ [e])
      rw [takeFrom_cons hnext, happend]
      refine ⟨k, hk, hlist, fun _ => hgreatest ?_⟩
      rwa [← happend, List.length_append, List.length_singleton]
    · refine ⟨taken.length, by simp, ?_, fun hfit => ⟨⟨by simp, hfit⟩, fun k hk => ?_⟩⟩
      · rw [takeFrom_cons_of_not hnext]
        simp [close, renderList_eq_openText]
      · exact Nat.le_of_not_lt fun hlt => hnext (hk.2.mono hlt)

end

/-! ## Entries -/

section
variable (maxBytes maxCount) (entries : List Entry)

theorem exists_ofEntries :
    ∃ k ≤ entries.length,
      ofEntries maxBytes maxCount entries =
        { entries := entries.take k
          json := renderList (entries.take k)
          overLimit := decide (k < entries.length) } ∧
      (EntriesFit maxBytes maxCount entries 0 →
        IsGreatest {k | k ≤ entries.length ∧ EntriesFit maxBytes maxCount entries k} k) :=
  exists_takeFrom [] entries

theorem entries_ofEntries_prefix : (ofEntries maxBytes maxCount entries).entries <+: entries := by
  obtain ⟨k, -, hlist, -⟩ := exists_ofEntries maxBytes maxCount entries
  rw [hlist]
  exact List.take_prefix k entries

/-- The text of the list is that of its entries. -/
theorem json_ofEntries : (ofEntries maxBytes maxCount entries).json =
    renderList (ofEntries maxBytes maxCount entries).entries := by
  obtain ⟨k, -, hlist, -⟩ := exists_ofEntries maxBytes maxCount entries
  rw [hlist]

end

/-- A budget that has room for the empty list is kept by the longest list from the front that it has
room for and that has no more entries than allowed: this is the list that is written, its text is
that of a JSON array, which is read as its entries, and it is over the limit if and only if entries
are left. To be read as they are, entries must have conditions whose values their texts write, as
all have that come from texts. -/
theorem ofEntries_longest {entries : List Entry} (hbudget : ∀ n ∈ maxBytes, emptyListBytes ≤ n) :
    ∃ k, IsGreatest {k | k ≤ entries.length ∧ EntriesFit maxBytes maxCount entries k} k ∧
      (ofEntries maxBytes maxCount entries).entries.length = k ∧
      (ofEntries maxBytes maxCount entries).json =
        (Json.arr ((entries.take k).map Entry.toJson)).render ∧
      Json.read? (ofEntries maxBytes maxCount entries).json =
        some (.arr ((entries.take k).map Entry.toJson)) ∧
      ((∀ e ∈ entries, e.IsWritten) →
        Entry.listOfText? (ofEntries maxBytes maxCount entries).json = some (entries.take k)) ∧
      ((ofEntries maxBytes maxCount entries).overLimit = true ↔ k < entries.length) := by
  have hempty : EntriesFit maxBytes maxCount entries 0 := ⟨fun _ _ => Nat.zero_le _, hbudget⟩
  obtain ⟨k, -, hlist, hgreatest⟩ := exists_ofEntries maxBytes maxCount entries
  have hgreatest := hgreatest hempty
  rw [hlist]
  refine ⟨k, hgreatest, List.length_take_of_le hgreatest.1.1, renderList_eq _, ?_,
    fun hwritten => ?_, decide_eq_true_iff⟩
  · exact (congrArg Json.read? (renderList_eq _)).trans (Json.read?_render _)
  · exact Entry.listOfText?_renderList fun e he => hwritten e (List.mem_of_mem_take he)

/-- A budget of bytes that the first of two entries fits into, whose texts have signs to escape and
characters of two bytes. -/
theorem ofEntries_longest_budget :
    let entries : List Entry :=
      [⟨{ urlFilter := "\\.", domains := some (.only [.ofText "*a.com"]) }, .block⟩,
        ⟨{ urlFilter := "\"é\"" }, .block⟩]
    (∀ n ∈ some 83, emptyListBytes ≤ n) ∧ (∀ e ∈ entries, e.IsWritten) ∧
      (ofEntries (some 83) none entries).json.utf8ByteSize = 83 ∧
      Entry.listOfText? (ofEntries (some 83) none entries).json = some (entries.take 1) ∧
      (ofEntries (some 83) none entries).overLimit = true := by
  intro entries
  have hbudget : ∀ n ∈ some 83, emptyListBytes ≤ n := by decide
  have hwritten : ∀ e ∈ entries, e.IsWritten := by
    simp [entries, Entry.IsWritten, Trigger.IsWritten, DomainCondition.values,
      DomainValue.isWritten_ofText]
  have hone : (Json.arr ((entries.take 1).map Entry.toJson)).render.utf8ByteSize = 83 := by
    decide +kernel
  have htwo : 83 < (Json.arr ((entries.take 2).map Entry.toJson)).render.utf8ByteSize := by
    decide +kernel
  obtain ⟨k, ⟨⟨hle, hfit⟩, hmax⟩, -, hjson, -, hlist, hover⟩ :=
    @ofEntries_longest _ none entries hbudget
  have hfirst : 1 ≤ k := by
    refine hmax ⟨by decide, nofun, ?_⟩
    rintro _ ⟨⟩
    exact Nat.le_of_eq hone
  have hsecond : k ≠ 2 := by
    rintro rfl
    exact absurd (hfit.bytes 83 rfl) (Nat.not_le_of_gt htwo)
  have hlength : entries.length = 2 := rfl
  obtain rfl : k = 1 := by omega
  exact ⟨hbudget, hwritten, hjson ▸ hone, hlist hwritten, hover.2 (by decide)⟩

end

end LimitedList

end ContentRules
