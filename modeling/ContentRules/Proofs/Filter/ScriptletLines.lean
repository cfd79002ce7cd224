import ContentRules.Filter.LineReader
import ContentRules.Proofs.Text.Trimming

/-!
Calls of scriptlets in the quoted form. A text may hold any characters: a backslash before every
backslash and before every sign that encloses the text keeps what it holds apart from the syntax
around it. Reading such a call gives back its texts, whatever signs enclose them, and the line of
the call is read as the rule that makes it. Main statement: `Rule.read_callingLine`.
-/

namespace ContentRules

namespace ScriptletCall

/-- The two signs that may enclose a text. -/
inductive Quote where
  | single
  | double
  deriving DecidableEq, Repr

def Quote.char : Quote → Char
  | single => '\''
  | double => '"'

/-- The text with a backslash before each backslash and each sign that encloses it. -/
def escaped (q : Quote) (s : List Char) : List Char :=
  s.flatMap fun c => if c = '\\' ∨ c = q.char then ['\\', c] else [c]

/-- The text between its signs. -/
def quoted (q : Quote) (s : List Char) : List Char := q.char :: (escaped q s ++ [q.char])

/-- The texts of a call, each between the given signs. -/
def quotedList (texts : List (Quote × String)) : List Char :=
  [',', ' '].intercalate (texts.map fun (q, s) => quoted q s.toList)

/-- The line of a filter list that calls a scriptlet on all pages. -/
def callingLine (texts : List (Quote × String)) : String :=
  String.ofList ("#%#//scriptlet(".toList ++ quotedList texts ++ [')'])

/-! ## Reading the texts -/

theorem Quote.char_ne_backslash (q : Quote) : q.char ≠ '\\' := by cases q <;> decide

theorem Quote.not_isBlank_char (q : Quote) : Text.isBlank q.char = false := by cases q <;> decide

/-- A text is read up to the sign that closes it, whatever stands behind it. -/
theorem quotedTexts?_escaped (q : Quote) (s reversed rest : List Char) :
    quotedTexts? (.inside q.char reversed) (escaped q s ++ q.char :: rest) =
      (quotedTexts? .after rest).map ((reversed.reverse ++ s) :: ·) := by
  induction s generalizing reversed with
  | nil =>
    rw [escaped, List.flatMap_nil, List.nil_append, quotedTexts?, if_pos rfl, List.append_nil]
    · exact fun h => absurd h q.char_ne_backslash
    · exact fun _ _ h => absurd h q.char_ne_backslash
  | cons c s ih =>
    have hnext := ih (c :: reversed)
    rw [List.reverse_cons, List.append_assoc, List.singleton_append] at hnext
    rw [escaped, List.flatMap_cons, ← escaped, List.append_assoc]
    split
    · -- the backslash makes the character stand for itself
      exact hnext
    · rename_i hplain
      obtain ⟨hbackslash, hquote⟩ := not_or.1 hplain
      rw [List.singleton_append, quotedTexts?, if_neg hquote]
      · exact hnext
      · exact fun h => absurd h hbackslash
      · exact fun _ _ h => absurd h hbackslash

theorem quotedTexts?_quoted (q : Quote) (s rest : List Char) :
    quotedTexts? .before (quoted q s ++ rest) = (quotedTexts? .after rest).map (s :: ·) := by
  have hquote : q.char = '\'' ∨ q.char = '"' := by cases q <;> decide
  rw [quoted, List.cons_append, quotedTexts?, q.not_isBlank_char, if_neg Bool.false_ne_true,
    if_pos (by simpa using hquote), List.append_assoc, List.singleton_append, quotedTexts?_escaped]
  rfl

/-- A comma and a blank lead from one text to the next. -/
theorem quotedTexts?_comma (rest : List Char) :
    quotedTexts? .after (',' :: ' ' :: rest) = quotedTexts? .before rest := rfl

/-- The texts of a call are read as they were. -/
theorem quotedTexts?_quotedList (texts : List (Quote × String)) :
    quotedTexts? .before (quotedList texts) = some (texts.map fun (_, s) => s.toList) := by
  induction texts with
  | nil => rfl
  | cons x texts ih =>
    obtain ⟨q, s⟩ := x
    cases texts with
    | nil =>
      have hread := quotedTexts?_quoted q s.toList []
      have hlist : quotedList [(q, s)] = quoted q s.toList := List.intercalate_singleton
      rw [List.append_nil] at hread
      rw [hlist, hread]
      rfl
    | cons y texts =>
      have hlist : quotedList ((q, s) :: y :: texts) =
          quoted q s.toList ++ ',' :: ' ' :: quotedList (y :: texts) := by
        simp [quotedList, List.intercalate_cons_cons]
      rw [hlist, quotedTexts?_quoted, quotedTexts?_comma, ih]
      rfl

/-- A call whose first text is not empty is read as that name with the other texts. -/
theorem readQuoted_quotedList (isException : Bool) (q : Quote) {name : String} (hname : name ≠ "")
    (args : List (Quote × String)) :
    readQuoted isException (quotedList ((q, name) :: args)) = .ok ⟨name, args.map (·.2)⟩ := by
  have hempty : name.toList.isEmpty = false := by
    rw [List.isEmpty_eq_false_iff]
    exact fun h => hname (String.toList_injective h)
  rw [readQuoted, quotedTexts?_quotedList]
  simp [ofTexts, hempty, Function.comp_def, String.ofList_toList]

/-! ## Reading the line -/

/-- What stands behind the marker in the line of a call. -/
def callText (texts : List (Quote × String)) : List Char :=
  '/' :: ("/scriptlet(".toList ++ (quotedList texts ++ [')']))

theorem toList_callingLine (texts : List (Quote × String)) :
    (callingLine texts).toList = '#' :: '%' :: '#' :: callText texts := by
  have hopening : "#%#//scriptlet(".toList = '#' :: '%' :: '#' :: '/' :: "/scriptlet(".toList := by
    decide +kernel
  have hline : (callingLine texts).toList =
      "#%#//scriptlet(".toList ++ quotedList texts ++ [')'] := String.toList_ofList
  rw [hline, hopening, callText]
  simp only [List.cons_append, List.append_assoc]

theorem getLast?_callText (texts : List (Quote × String)) :
    (callText texts).getLast? = some ')' := by
  rw [callText, ← List.append_assoc, ← List.cons_append, List.getLast?_concat]

/-- Neither the line of a call nor what stands behind its marker has blanks at its ends. -/
theorem trim_callText (texts : List (Quote × String)) :
    Text.trim (callText texts) = callText texts := by
  refine Text.trim_eq_self (fun c hc => ?_) fun c hc => ?_
  · obtain rfl : '/' = c := Option.some.inj hc
    decide
  · obtain rfl : ')' = c := Option.some.inj ((getLast?_callText texts).symm.trans hc)
    decide

theorem trim_callingLine (texts : List (Quote × String)) :
    Text.trim (callingLine texts).toList = (callingLine texts).toList := by
  rw [toList_callingLine]
  refine Text.trim_eq_self (fun c hc => ?_) fun c hc => ?_
  · obtain rfl : '#' = c := Option.some.inj hc
    decide
  · have hlast : ('#' :: '%' :: '#' :: callText texts).getLast? = some ')' := by
      rw [callText, List.getLast?_cons_cons, List.getLast?_cons_cons, List.getLast?_cons_cons,
        ← callText, getLast?_callText]
    obtain rfl : ')' = c := Option.some.inj (hlast.symm.trans hc)
    decide

end ScriptletCall

open ScriptletCall

theorem CosmeticRule.callText?_callText (texts : List (Quote × String)) :
    callText? "//scriptlet(".toList (callText texts) = some (.ok (quotedList texts)) := by
  have hword : "//scriptlet(".toList = '/' :: "/scriptlet(".toList := by
    decide +kernel
  rw [callText?, callText, hword, ← List.cons_append,
    if_pos (List.isPrefixOf_iff_prefix.2 (List.prefix_append _ _))]
  dsimp only
  rw [List.drop_left, List.getLast?_concat, if_pos rfl, List.dropLast_concat]

section
variable (q : Quote) {name : String} (hname : name ≠ "") (args : List (Quote × String))
include hname

theorem CosmeticRule.read?_callingLine :
    read? (callingLine ((q, name) :: args)).toList =
      .ok (some ({}, .scriptlet false ⟨name, args.map (·.2)⟩)) := by
  let m : Marker := ⟨"#%#".toList, .script, false⟩
  have hmarker (after : List Char) :
      findMarker ('#' :: '%' :: '#' :: after) = some ([], m, after) := rfl
  have hempty : (callText ((q, name) :: args)).isEmpty = false := rfl
  have hbody : readBody m (callText ((q, name) :: args)) =
      .ok (.scriptlet false ⟨name, args.map (·.2)⟩) := by
    simp only [readBody, m, callText?_callText]
    change (do
      return RuleBody.scriptlet false (← readQuoted false (quotedList ((q, name) :: args)))) = _
    rw [readQuoted_quotedList false q hname args]
    rfl
  rw [toList_callingLine, read?, hmarker]
  dsimp only
  rw [trim_callText, hempty, hbody]
  rfl

/-- The line of a call is read as the rule that makes it, with exactly its texts. -/
theorem Rule.read_callingLine (number : Nat) :
    Rule.read number (callingLine ((q, name) :: args)) =
      .ok (some ⟨number, callingLine ((q, name) :: args), {},
        .scriptlet false ⟨name, args.map (·.2)⟩⟩) := by
  have hcomment (after : List Char) : isComment ('#' :: '%' :: '#' :: after) = false := rfl
  have hempty : (callingLine ((q, name) :: args)).toList.isEmpty = false := by
    rw [toList_callingLine]
    rfl
  unfold Rule.read
  dsimp only
  rw [trim_callingLine, hempty, CosmeticRule.read?_callingLine q hname args, String.ofList_toList,
    toList_callingLine, hcomment]
  rfl

end

end ContentRules
