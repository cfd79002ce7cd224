import ContentRules.Safari.Entry

/-!
Writing as many entries as fit into a budget of bytes and a number of entries. Entries are taken
from the front, and the first that does not fit ends the list.
-/

namespace ContentRules

/-- The part of a rule list that fits. -/
structure LimitedList where
  entries : List Entry
  /-- The text of the rule list. -/
  json : String
  /-- Some entry did not fit. -/
  overLimit : Bool
  deriving DecidableEq

/-- The length of an empty rule list in bytes. -/
def emptyListBytes : Nat := 2

namespace LimitedList

/-- The list of the entries that have been taken, whose text lacks its closing bracket. -/
def close (taken : Array Entry) (text : String) (overLimit : Bool) : LimitedList :=
  { entries := taken.toList, json := text ++ "]", overLimit }

/-- Takes further entries one by one. The text of an entry, a comma before it unless it is the
first, and the closing bracket have to fit. -/
def takeFrom (maxBytes maxCount : Option Nat) (taken : Array Entry) (text : String) :
    List Entry → LimitedList
  | [] => close taken text false
  | e :: rest =>
    if maxCount.any (· ≤ taken.size) then close taken text true
    else
      let encoded := e.render
      let comma := if taken.isEmpty then "" else ","
      let bytes := text.utf8ByteSize + comma.utf8ByteSize + encoded.utf8ByteSize + 1
      if maxBytes.any (· < bytes) then close taken text true
      else takeFrom maxBytes maxCount (taken.push e) (text ++ comma ++ encoded) rest

/-- The longest list of entries from the front that fits. -/
def ofEntries (maxBytes maxCount : Option Nat) (entries : List Entry) : LimitedList :=
  takeFrom maxBytes maxCount #[] "[" entries

end LimitedList

end ContentRules
