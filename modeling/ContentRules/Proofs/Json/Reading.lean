import ContentRules.Json.Reader
import ContentRules.Proofs.Json.Sorted

/-!
What is written is read back. `Reads` says that a text is read as a value wherever it stands, given
enough fuel; it is closed under blanks in front, and under putting arrays and objects together. Main
statements: the compact text of a value is read as the value (`read?_render`), its indented text as
the sorted value (`read?_pretty`), and the two stand for the same (`sameValue_pretty_render`).
-/

namespace ContentRules.Json

/-! ## Strings -/

theorem hexValue?_hexDigit : ∀ n < 16, Text.hexValue? (hexDigit n) = some n := by decide

/-- The escape of a control character by its number. -/
theorem unicodeEscape?_hexDigit {c : Char} (hc : c.toNat < 32) (s : List Char) :
    unicodeEscape? ('0' :: '0' :: hexDigit (c.toNat / 16) :: hexDigit (c.toNat % 16) :: s) =
      some (c, s) := by
  have hhigh := hexValue?_hexDigit (c.toNat / 16) (by omega)
  have hlow := hexValue?_hexDigit (c.toNat % 16) (by omega)
  have hzero : Text.hexValue? '0' = some 0 := rfl
  have hn : c.toNat / 16 * 16 + c.toNat % 16 = c.toNat := by omega
  simp only [unicodeEscape?, unit?, hhigh, hlow, hzero, Option.bind_eq_bind, Option.bind_some,
    Option.pure_def, Nat.zero_mul, Nat.zero_add, hn, show c.toNat < 0xD800 by omega, true_or,
    if_true, Char.ofNat_toNat]

theorem readString_backslash {c : Char} {t u : List Char} (h : escape? t = some (c, u))
    (fuel : Nat) :
    readString (fuel + 1) ('\\' :: t) = (readString fuel u).map fun p => (c :: p.1, p.2) := by
  simp only [readString, h, Option.bind_eq_bind, Option.bind_some]
  cases readString fuel u <;> rfl

/-- A character inside a string is read back from its escape. -/
theorem readString_escape (fuel : Nat) (c : Char) (s : List Char) :
    readString (fuel + 1) (escape c ++ s) = (readString fuel s).map fun p => (c :: p.1, p.2) := by
  -- one case for each kind of escape, in the order in which they are tried
  unfold escape
  split
  next h => exact readString_backslash (by rw [h]; rfl) fuel
  split
  next h => exact readString_backslash (by rw [h]; rfl) fuel
  split
  next h => exact readString_backslash (by rw [h]; rfl) fuel
  split
  next h => exact readString_backslash (by rw [h]; rfl) fuel
  split
  next h => exact readString_backslash (by rw [h]; rfl) fuel
  split
  next h => exact readString_backslash (by rw [← Char.ofNat_toNat c, h]; rfl) fuel
  split
  next h => exact readString_backslash (by rw [← Char.ofNat_toNat c, h]; rfl) fuel
  split
  next h => exact readString_backslash (t := 'u' :: _) (unicodeEscape?_hexDigit h s) fuel
  next hquote hback _ _ _ _ _ hctrl =>
    rw [List.singleton_append, readString]
    · simp only [hctrl, if_false]
      cases readString fuel s <;> rfl
    · exact hquote
    · exact hback

theorem length_escape_pos (c : Char) : 0 < (escape c).length := by
  simp only [escape]
  repeat' split
  all_goals simp

theorem readString_quoted (t rest : List Char) {fuel : Nat} (h : (t.flatMap escape).length < fuel) :
    readString fuel (t.flatMap escape ++ '"' :: rest) = some (t, rest) := by
  induction t generalizing fuel with
  | nil =>
    obtain ⟨fuel, rfl⟩ := Nat.exists_eq_add_of_lt h
    simp [readString]
  | cons c t ih =>
    obtain ⟨fuel, rfl⟩ := Nat.exists_eq_add_one_of_ne_zero (Nat.ne_zero_of_lt h)
    have hc := length_escape_pos c
    rw [List.flatMap_cons, List.length_append] at h
    rw [List.flatMap_cons, List.append_assoc, readString_escape, ih (by omega)]
    rfl

/-! ## Values -/

/-- The text is read as the value, whatever follows it, with two units of fuel for each character:
one for the value that starts there, and one for the items or members that hold it. -/
def Reads (s : List Char) (v : Json) : Prop :=
  ∀ rest fuel, 2 * s.length ≤ fuel → readValue fuel (s ++ rest) = some (v, rest)

/-- Blanks, as they may stand around tokens. -/
def IsGap (s : List Char) : Prop := ∀ c ∈ s, isGap c = true

theorem skipGaps_append {gap : List Char} (h : IsGap gap) (s : List Char) :
    skipGaps (gap ++ s) = skipGaps s := by
  induction gap with
  | nil => rfl
  | cons c gap ih =>
    have hc : isGap c = true := h c (.head _)
    simp only [skipGaps, List.cons_append, List.dropWhile_cons, hc, if_true]
    exact ih fun d hd => h d (.tail _ hd)

theorem skipGaps_cons {c : Char} (h : isGap c = false) (s : List Char) :
    skipGaps (c :: s) = c :: s := by
  simp [skipGaps, h]

theorem skipGaps_skipGaps (s : List Char) : skipGaps (skipGaps s) = skipGaps s := by
  induction s with
  | nil => rfl
  | cons c s ih =>
    cases hc : isGap c with
    | true => simpa [skipGaps, hc] using ih
    | false => simp [skipGaps, hc]

/-- A reader that skips blanks first does not see whether they have been skipped. -/
theorem readValue_skipGaps (fuel : Nat) (s : List Char) :
    readValue fuel (skipGaps s) = readValue fuel s := by
  cases fuel with
  | zero => rfl
  | succ fuel => rw [readValue, readValue, skipGaps_skipGaps]

theorem readItems_skipGaps (fuel : Nat) (s : List Char) :
    readItems fuel (skipGaps s) = readItems fuel s := by
  cases fuel with
  | zero => rfl
  | succ fuel => rw [readItems, readItems, readValue_skipGaps]

theorem readMembers_skipGaps (fuel : Nat) (s : List Char) :
    readMembers fuel (skipGaps s) = readMembers fuel s := by
  cases fuel with
  | zero => rfl
  | succ fuel => rw [readMembers, readMembers, skipGaps_skipGaps]

theorem Reads.of_gap {gap s : List Char} {v : Json} (hgap : IsGap gap) (h : Reads s v) :
    Reads (gap ++ s) v := by
  intro rest fuel hfuel
  rw [← readValue_skipGaps, List.append_assoc, skipGaps_append hgap, readValue_skipGaps]
  exact h rest fuel (by rw [List.length_append] at hfuel; omega)

theorem reads_null : Reads "null".toList null := by
  intro rest fuel hfuel
  obtain ⟨fuel, rfl⟩ := Nat.exists_eq_add_of_le' (Nat.le_trans (by decide : 1 ≤ 8) hfuel)
  simp [readValue, skipGaps_cons, isGap]

theorem reads_bool (b : Bool) : Reads (bool b).chars (bool b) := by
  intro rest fuel hfuel
  obtain ⟨fuel, rfl⟩ :=
    Nat.exists_eq_add_of_le' (Nat.le_trans (by cases b <;> decide : 1 ≤ _) hfuel)
  cases b <;> simp [chars, readValue, skipGaps_cons, isGap]

theorem reads_quote (s : String) : Reads (quote s.toList) (str s) := by
  intro rest fuel hfuel
  have hlength : (quote s.toList).length = (s.toList.flatMap escape).length + 2 := by simp [quote]
  obtain ⟨fuel, rfl⟩ := Nat.exists_eq_add_of_le' (by omega : 1 ≤ fuel)
  have hread := readString_quoted s.toList rest (by omega : _ < fuel)
  simp [quote, readValue, skipGaps_cons, isGap, hread]

/-- No value starts with a closing bracket, so items that can be read are not taken for none. -/
theorem readValue_bracket {fuel : Nat} {s rest : List Char} {items : List Json}
    (h : readItems fuel s = some (items, rest)) :
    readValue (fuel + 1) ('[' :: s) = some (arr items, rest) := by
  rw [← readItems_skipGaps] at h
  simp only [readValue, skipGaps_cons (show isGap '[' = false from rfl)]
  split
  next hclose =>
    rw [hclose] at h
    cases fuel with
    | zero => simp [readItems] at h
    | succ fuel => cases fuel <;> simp [readItems, readValue, skipGaps_cons, isGap] at h
  next => simp [h]

/-- No member starts with a closing brace, so members that can be read are not taken for none. -/
theorem readValue_brace {fuel : Nat} {s rest : List Char} {members : List (String × Json)}
    (h : readMembers fuel s = some (members, rest)) :
    readValue (fuel + 1) ('{' :: s) = some (obj members, rest) := by
  rw [← readMembers_skipGaps] at h
  simp only [readValue, skipGaps_cons (show isGap '{' = false from rfl)]
  split
  next hclose =>
    rw [hclose] at h
    cases fuel <;> simp [readMembers, skipGaps_cons, isGap] at h
  next => simp [h]

section

variable {α : Type} (text : α → List Char)

theorem intercalate_map_cons {items : List α} (hne : items ≠ []) (a : α) :
    [','].intercalate ((a :: items).map text) = text a ++ ',' ::
    [','].intercalate (items.map text) := by
  rw [List.map_cons, List.intercalate_cons_of_ne_nil (by simpa using hne), List.append_assoc,
    List.singleton_append]

variable (value : α → Json) {gap : List Char}

/-- The items of an array that is not empty, up to its closing bracket. -/
theorem readItems_intercalate {items : List α} (hne : items ≠ [])
    (h : ∀ a ∈ items, Reads (text a) (value a)) (hgap : IsGap gap) (rest : List Char) {fuel : Nat}
    (hfuel : 2 * ([','].intercalate (items.map text)).length + 1 ≤ fuel) :
    readItems fuel ([','].intercalate (items.map text) ++ (gap ++ ']' :: rest)) =
      some (items.map value, rest) := by
  induction items generalizing fuel with
  | nil => exact absurd rfl hne
  | cons a items ih =>
    obtain ⟨fuel, rfl⟩ := Nat.exists_eq_add_of_le' (by omega : 1 ≤ fuel)
    have ha := h a (.head _)
    by_cases hitems : items = []
    · subst hitems
      simp only [List.map_cons, List.map_nil, List.intercalate_singleton] at hfuel ⊢
      simp [readItems, ha _ fuel (by omega), skipGaps_append hgap, skipGaps_cons, isGap]
    · rw [intercalate_map_cons text hitems, List.length_append, List.length_cons] at hfuel
      have hrest := ih hitems (fun b hb => h b (.tail _ hb)) (by omega : _ ≤ fuel)
      rw [intercalate_map_cons text hitems]
      simp [readItems, ha _ fuel (by omega), skipGaps_cons, isGap, hrest]

/-- An array is read from its items. -/
theorem reads_arr {items : List α} (h : ∀ a ∈ items, Reads (text a) (value a)) (hgap : IsGap gap) :
    Reads ('[' :: [','].intercalate (items.map text) ++ gap ++ [']']) (arr (items.map value)) := by
  intro rest fuel hfuel
  simp only [List.cons_append, List.length_cons, List.length_append, List.append_assoc,
    List.nil_append] at hfuel ⊢
  obtain ⟨fuel, rfl⟩ := Nat.exists_eq_add_of_le' (by omega : 1 ≤ fuel)
  by_cases hne : items = []
  · subst hne
    simp [readValue, skipGaps_append hgap, skipGaps_cons, isGap]
  · exact readValue_bracket (readItems_intercalate text value hne h hgap rest (by omega))

end

section

variable {α : Type} (key : α → String) (text : α → List Char)

/-- The text of a member whose value has the given text. -/
def memberText (gap : List Char) (a : α) : List Char :=
  gap ++ quote (key a).toList ++ ':' :: text a

theorem readMembers_memberText {gap : List Char} (hgap : IsGap gap) {a : α} {v : Json}
    (ha : Reads (text a) v) (rest : List Char) {fuel : Nat}
    (hfuel : 2 * (memberText key text gap a).length ≤ fuel) :
    readMembers (fuel + 1) (memberText key text gap a ++ rest) =
      match skipGaps rest with
      | '}' :: rest => some ([(key a, v)], rest)
      | ',' :: rest => (readMembers fuel rest).map fun p => ((key a, v) :: p.1, p.2)
      | _ => none := by
  have hlength : (memberText key text gap a).length =
      gap.length + ((key a).toList.flatMap escape).length + (text a).length + 3 := by
    simp [memberText, quote]
    omega
  have hquote := readString_quoted (key a).toList (':' :: (text a ++ rest)) (by omega : _ < fuel)
  have hvalue := ha rest fuel (by omega)
  simp only [memberText, quote, List.append_assoc, List.cons_append, List.nil_append]
  rw [readMembers, skipGaps_append hgap]
  simp only [skipGaps_cons (show isGap '"' = false from rfl),
    skipGaps_cons (show isGap ':' = false from rfl), hquote, hvalue, Option.bind_eq_bind,
    Option.bind_some, String.ofList_toList, Option.map_eq_bind]
  rfl

variable (value : α → Json) {gap between : List Char}

/-- The members of an object that is not empty, up to its closing brace. -/
theorem readMembers_intercalate {members : List α} (hne : members ≠ [])
    (h : ∀ a ∈ members, Reads (text a) (value a)) (hbetween : IsGap between) (hgap : IsGap gap)
    (rest : List Char) {fuel : Nat}
    (hfuel :
      2 * ([','].intercalate (members.map (memberText key text between))).length + 1 ≤ fuel) :
    readMembers fuel
        ([','].intercalate (members.map (memberText key text between)) ++ (gap ++ '}' :: rest)) =
      some (members.map fun a => (key a, value a), rest) := by
  induction members generalizing fuel with
  | nil => exact absurd rfl hne
  | cons a members ih =>
    obtain ⟨fuel, rfl⟩ := Nat.exists_eq_add_of_le' (by omega : 1 ≤ fuel)
    have ha := h a (.head _)
    by_cases hmembers : members = []
    · subst hmembers
      simp only [List.map_cons, List.map_nil, List.intercalate_singleton] at hfuel ⊢
      simp [readMembers_memberText key text hbetween ha _ (by omega : _ ≤ fuel),
        skipGaps_append hgap, skipGaps_cons, isGap]
    · rw [intercalate_map_cons _ hmembers, List.length_append, List.length_cons] at hfuel
      have hrest := ih hmembers (fun b hb => h b (.tail _ hb)) (by omega : _ ≤ fuel)
      rw [intercalate_map_cons _ hmembers, List.append_assoc,
        readMembers_memberText key text hbetween ha _ (by omega : _ ≤ fuel)]
      simp [skipGaps_cons, isGap, hrest]

/-- An object is read from its members. -/
theorem reads_obj {members : List α} (h : ∀ a ∈ members, Reads (text a) (value a))
    (hbetween : IsGap between) (hgap : IsGap gap) :
    Reads ('{' :: [','].intercalate (members.map (memberText key text between)) ++ gap ++ ['}'])
      (obj (members.map fun a => (key a, value a))) := by
  intro rest fuel hfuel
  simp only [List.cons_append, List.length_cons, List.length_append, List.append_assoc,
    List.nil_append] at hfuel ⊢
  obtain ⟨fuel, rfl⟩ := Nat.exists_eq_add_of_le' (by omega : 1 ≤ fuel)
  by_cases hne : members = []
  · subst hne
    simp [readValue, skipGaps_append hgap, skipGaps_cons, isGap]
  · exact readValue_brace
      (readMembers_intercalate key text value hne h hbetween hgap rest (by omega))

end

/-! ## Texts of values -/

/-- Commas stand between members. -/
theorem memberChars_eq (members : List (String × Json)) :
    memberChars members =
      [','].intercalate (members.map (memberText Prod.fst (fun m => m.2.chars) [])) := by
  induction members with
  | nil => rfl
  | cons m members ih =>
    cases members with
    | nil => simp [memberChars, memberText]
    | cons n rest =>
      rw [intercalate_map_cons _ (by simp), ← ih]
      simp [memberChars, memberText]

theorem isGap_nil : IsGap [] := by simp [IsGap]

theorem reads_chars (v : Json) : Reads v.chars v := by
  induction v using Json.induction with
  | null => exact reads_null
  | bool b => exact reads_bool b
  | str s => exact reads_quote s
  | arr items ih =>
    have h := reads_arr chars id ih isGap_nil
    rw [chars, itemChars_eq]
    simpa using h
  | obj members ih =>
    have h := reads_obj Prod.fst (fun m => m.2.chars) Prod.snd ih isGap_nil isGap_nil
    rw [chars, memberChars_eq]
    simpa using h

theorem isGap_newline (depth : Nat) : IsGap (newline depth) := by
  intro c hc
  rcases List.mem_cons.1 hc with rfl | hc
  · rfl
  · rw [List.eq_of_mem_replicate hc]
    rfl

theorem prettyMembers_eq (depth : Nat) (members : List (String × Json)) :
    prettyMembers depth members = members.map (Prod.map id (prettyChars depth)) := by
  induction members with
  | nil => rfl
  | cons m members ih => exact congrArg _ ih

theorem prettyChars_arr (depth : Nat) (items : List Json) (hne : items ≠ []) :
    prettyChars depth (arr items) =
      '[' :: [','].intercalate
          (items.map fun v => newline (depth + 1) ++ prettyChars (depth + 1) v) ++
        newline depth ++ [']'] := by
  obtain ⟨v, rest, rfl⟩ := List.exists_cons_of_ne_nil hne
  simp [prettyChars, prettyItems_eq, intercalate_cons_eq, List.flatMap_map]

theorem prettyChars_obj (depth : Nat) (members : List (String × Json))
    (hne : sortMembers members ≠ []) :
    prettyChars depth (obj members) =
      '{' :: [','].intercalate ((sortMembers members).map
          (memberText Prod.fst (fun m => ' ' :: prettyChars (depth + 1) m.2)
            (newline (depth + 1)))) ++
        newline depth ++ ['}'] := by
  rw [prettyChars, prettyMembers_eq, sortMembers_map]
  obtain ⟨m, rest, h⟩ := List.exists_cons_of_ne_nil hne
  simp [h, memberText, intercalate_cons_eq, List.flatMap_map]

theorem reads_prettyChars (depth : Nat) (v : Json) : Reads (prettyChars depth v) v.sorted := by
  induction v using Json.induction generalizing depth with
  | null => exact reads_null
  | bool b => exact reads_bool b
  | str s => exact reads_quote s
  | arr items ih =>
    rw [sorted_arr]
    by_cases hne : items = []
    · subst hne
      exact reads_chars (arr [])
    · rw [prettyChars_arr depth items hne]
      exact reads_arr _ sorted
        (fun v hv => (ih v hv (depth + 1)).of_gap (isGap_newline _)) (isGap_newline _)
  | obj members ih =>
    rw [sorted_obj]
    -- the members are sorted with their texts, which is the same as sorting them first
    by_cases hne : sortMembers members = []
    · rw [prettyChars, prettyMembers_eq, sortMembers_map, hne]
      exact reads_chars (obj [])
    · rw [prettyChars_obj depth members hne]
      have hblank : IsGap [' '] := by simp [IsGap, isGap]
      have hvalue : ∀ m ∈ sortMembers members,
          Reads (' ' :: prettyChars (depth + 1) m.2) (sorted m.2) := fun m hm =>
        (ih m (mem_of_mem_sortMembers hm) (depth + 1)).of_gap hblank
      exact reads_obj Prod.fst _ (fun m => sorted m.2) hvalue (isGap_newline _) (isGap_newline _)

/-- A text that is read as a value wherever it stands is the text of the value. -/
theorem Reads.read?_eq {s : String} {v : Json} (h : Reads s.toList v) : read? s = some v := by
  have hread := h [] (2 * s.length + 2) (by rw [String.length_toList]; omega)
  rw [List.append_nil] at hread
  simp only [Json.read?, hread, skipGaps, List.dropWhile_nil, List.isEmpty_nil, if_true,
    Option.bind_eq_bind, Option.bind_some]

/-- The compact text of a value is read as the value. -/
theorem read?_render (v : Json) : read? v.render = some v :=
  Reads.read?_eq (by rw [render, String.toList_ofList]; exact reads_chars v)

/-- The indented text of a value is read as the sorted value. -/
theorem read?_pretty (v : Json) : read? v.pretty = some v.sorted :=
  Reads.read?_eq (by rw [pretty, String.toList_ofList]; exact reads_prettyChars 0 v)

/-- The value that a text stands for, with objects as maps. -/
def decode? (s : String) : Option Json := (read? s).map sorted

/-- The two texts are JSON and stand for one value. -/
def SameValue (s t : String) : Prop := ∃ v, decode? s = some v ∧ decode? t = some v

/-- The indented text of a value stands for the same as the compact one. -/
theorem sameValue_pretty_render (v : Json) : SameValue v.pretty v.render := by
  refine ⟨v.sorted, ?_, ?_⟩
  · rw [decode?, read?_pretty, Option.map_some, sorted_sorted]
  · rw [decode?, read?_render, Option.map_some]

end ContentRules.Json
