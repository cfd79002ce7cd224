import ContentRules.Filter.NetworkReader
import ContentRules.Proofs.Text.Pieces
import ContentRules.Proofs.Text.Words
import Mathlib.Data.Bool.AllAny

/-!
Which lines are lines of a hosts file: the first word is an address, and another word follows. Main
statement: `NetworkRule.hostsFileHost?_eq_none_iff`.
-/

namespace ContentRules

/-! ## Addresses -/

namespace Host

/-- A character that an IP address is written with. -/
def isAddressChar (c : Char) : Bool := Text.isHexDigit c || c == '.' || c == ':'

theorem isHexDigit_of_isDigit {c : Char} (h : c.isDigit = true) : Text.isHexDigit c = true := by
  simp [Text.isHexDigit, Text.hexValue?, h]

theorem isDigit_of_isOctet {s : List Char} (h : isOctet s = true) : ∀ c ∈ s, c.isDigit = true := by
  unfold isOctet at h
  split at h
  · simpa using h
  · simp only [Bool.and_eq_true] at h
    simpa using h.1
  · simp only [Bool.and_eq_true] at h
    simpa using ⟨h.1.1.1.1, h.1.1.1.2, h.1.1.2⟩
  · cases h

/-- The signs between the parts of an address. -/
theorem isAddressChar_of_beq {sign c : Char} (hsign : isAddressChar sign = true)
    (h : (c == sign) = true) : isAddressChar c = true := by
  rwa [beq_iff_eq.1 h]

theorem isAddressChar_of_isIpv4Literal {s : List Char} (h : isIpv4Literal s = true) :
    ∀ c ∈ s, isAddressChar c = true := by
  unfold isIpv4Literal at h
  dsimp only at h
  rw [Bool.and_eq_true] at h
  refine Text.forall_mem_of_pieces (fun c => @isAddressChar_of_beq '.' c (by decide)) ?_
  intro piece hpiece c hc
  have hdigit := isDigit_of_isOctet (List.all_eq_true.1 h.2 piece hpiece) c hc
  rw [isAddressChar, isHexDigit_of_isDigit hdigit]
  rfl

theorem isAddressChar_of_isGroup {s : List Char} (h : isGroup s = true) :
    ∀ c ∈ s, isAddressChar c = true := by
  intro c hc
  unfold isGroup at h
  rw [Bool.and_eq_true] at h
  rw [isAddressChar, List.all_eq_true.1 h.2 c hc]
  rfl

theorem isAddressChar_of_groupCount? {parts : List (List Char)} {n : Nat}
    (h : groupCount? parts = some n) : ∀ part ∈ parts, ∀ c ∈ part, isAddressChar c = true := by
  induction parts generalizing n with
  | nil => nofun
  | cons part parts ih =>
    have hpart : ∀ c ∈ part, isAddressChar c = true := by
      cases parts with
      | nil =>
        rw [groupCount?] at h
        split at h
        · exact isAddressChar_of_isGroup ‹_›
        split at h
        · exact isAddressChar_of_isIpv4Literal ‹_›
        · cases h
      | cons =>
        rw [groupCount?] at h
        · split at h
          · exact isAddressChar_of_isGroup ‹_›
          · cases h
        · nofun
    refine List.forall_mem_cons.2 ⟨hpart, ?_⟩
    cases parts with
    | nil => nofun
    | cons =>
      rw [groupCount?] at h
      · split at h
        · obtain ⟨_, h, -⟩ := Option.map_eq_some_iff.1 h
          exact ih h
        · cases h
      · nofun

theorem isAddressChar_of_colonParts {s : List Char}
    (h : ∀ part ∈ colonParts s, ∀ c ∈ part, isAddressChar c = true) :
    ∀ c ∈ s, isAddressChar c = true := by
  cases s with
  | nil => nofun
  | cons => exact Text.forall_mem_of_pieces (fun c => @isAddressChar_of_beq ':' c (by decide)) h

theorem isAddressChar_of_isIpLiteral {s : List Char} (h : isIpLiteral s = true) :
    ∀ c ∈ s, isAddressChar c = true := by
  rcases (Bool.or_eq_true _ _).mp h with h | h
  · exact isAddressChar_of_isIpv4Literal h
  unfold isIpv6Literal at h
  split at h
  · exact isAddressChar_of_colonParts (isAddressChar_of_groupCount? (beq_iff_eq.1 h))
  · rename_i head tail hcut
    rw [Bool.and_eq_true] at h
    have hhead := isAddressChar_of_colonParts fun part hpart =>
      isAddressChar_of_isGroup (List.all_eq_true.1 h.1 part hpart)
    have htail : ∀ c ∈ tail, isAddressChar c = true := by
      cases hcount : groupCount? (colonParts tail) with
      | none => simp [hcount] at h
      | some n => exact isAddressChar_of_colonParts (isAddressChar_of_groupCount? hcount)
    rw [Text.cutAt_eq_some hcut]
    have hcolons : ∀ c ∈ "::".toList, isAddressChar c = true :=
      List.all_iff_forall_prop.1 (by decide)
    exact List.forall_mem_append.2 ⟨hhead, List.forall_mem_append.2 ⟨hcolons, htail⟩⟩

end Host

/-! ## Lines -/

namespace NetworkRule

open Text (isBlank)

/-- A line is one of a hosts file if its first word is an address and another word follows. -/
theorem hostsFileHost?_eq_none_iff {c : Char} (hc : isBlank c = false) (s : List Char) :
    hostsFileHost? (c :: s) = none ↔
      (∀ d ∈ s.dropWhile (!isBlank ·), isBlank d = true) ∨
        Host.isIpLiteral (c :: s.takeWhile (!isBlank ·)) = false := by
  rw [hostsFileHost?, Text.words_cons hc, ← Text.words_eq_nil_iff]
  cases Text.words (s.dropWhile (!isBlank ·)) with
  | nil => simp
  | cons => simp

/-- No address holds the character, so a first word that holds it does not make a
line one of a hosts file. -/
theorem hostsFileHost?_of_mem {c d : Char} (hc : isBlank c = false) {s : List Char}
    (hd : Host.isAddressChar d = false) (hmem : d ∈ c :: s.takeWhile (!isBlank ·)) :
    hostsFileHost? (c :: s) = none := by
  refine (hostsFileHost?_eq_none_iff hc s).2 (.inr ?_)
  rw [Bool.eq_false_iff]
  intro haddress
  rw [Host.isAddressChar_of_isIpLiteral haddress d hmem] at hd
  cases hd

end NetworkRule

end ContentRules
