import ContentRules.Host.Label
import ContentRules.Proofs.Host.Mapping
import ContentRules.Proofs.Host.Punycode
import ContentRules.Proofs.Text.Ascii

/-!
One label on its way through the reading of a host name: it is decoded from Punycode, checked, and
encoded in ASCII. Its ASCII characters stay, joined by hyphens and digits, and what has been written
is decoded to the same label again unless it is longer than a reader takes. Main statements:
`mem_encoded`, `decode?_encoded_iff`.
-/

namespace ContentRules.Host.Label

/-- What a label is decoded to: a text that is its own mapped form and holds neither the mark of
Punycode in front nor a point. -/
structure IsDecoded (label : List Char) : Prop where
  mapped : Mapping.isMapped label = true
  unmarked : ¬mark <+: label
  bare : '.' ∉ label

/-! ## Decoding -/

theorem decode?_of_unmarked {label : List Char} (h : ¬mark <+: label) :
    decode? label = some label := by
  rw [decode?, if_neg (by rwa [List.isPrefixOf_iff_prefix])]

theorem decode?_mark_append_iff {text label : List Char} : decode? (mark ++ text) = some label ↔
    Text.isAscii text = true ∧ text.length ≤ maxEncoded ∧ Punycode.decode? text = some label ∧
      Text.isAscii label = false ∧ Mapping.isMapped label = true ∧ ¬mark <+: label ∧
      '.' ∉ label := by
  rw [decode?, if_pos (List.isPrefixOf_iff_prefix.2 (List.prefix_append ..)), List.drop_left]
  dsimp only
  cases hascii : Text.isAscii text with
  | false => simp
  | true =>
    by_cases hlength : maxEncoded < text.length
    · rw [if_pos (by simpa using hlength)]
      simp [Nat.not_le.2 hlength]
    · rw [if_neg (by simpa using hlength)]
      cases hread : Punycode.decode? text with
      | none => simp
      | some plain =>
        dsimp only
        constructor
        · intro h
          split at h
          · cases h
          · rename_i hchecks
            cases h
            simp only [Bool.or_eq_true, Bool.not_eq_true', not_or,
              List.isPrefixOf_iff_prefix, List.contains_iff_mem, ← Bool.not_eq_true] at hchecks
            obtain ⟨⟨⟨hbeyond, hmapped⟩, hmark⟩, hpoint⟩ := hchecks
            exact ⟨rfl, Nat.not_lt.1 hlength, rfl, by simpa using hbeyond, by simpa using hmapped,
              hmark, hpoint⟩
        · rintro ⟨-, -, hplain, hbeyond, hmapped, hmark, hpoint⟩
          cases hplain
          rw [if_neg]
          simpa [hbeyond, hmapped, List.isPrefixOf_iff_prefix] using ⟨hmark, hpoint⟩

/-- Each character of the mark is a hyphen or a digit. -/
theorem mem_mark {c : Char} (h : c ∈ mark) : c = '-' ∨ Punycode.IsDigit c := by
  simp only [mark, List.mem_cons, List.not_mem_nil, or_false] at h
  rcases h with rfl | rfl | rfl | rfl
  · exact .inr ⟨23, by decide, rfl⟩
  · exact .inr ⟨13, by decide, rfl⟩
  · exact .inl rfl
  · exact .inl rfl

section
variable {piece label : List Char} (h : decode? piece = some label)
include h

theorem decode?_cases : (¬mark <+: piece ∧ label = piece) ∨
    ∃ text, piece = mark ++ text ∧ Punycode.decode? text = some label ∧ Text.isAscii label = false ∧
      text.length ≤ maxEncoded ∧ IsDecoded label := by
  by_cases hmark : mark <+: piece
  · obtain ⟨text, rfl⟩ := hmark
    obtain ⟨-, hlength, hread, hbeyond, hmapped, hunmarked, hbare⟩ := decode?_mark_append_iff.1 h
    exact .inr ⟨text, rfl, hread, hbeyond, hlength, hmapped, hunmarked, hbare⟩
  · exact .inl ⟨hmark, Option.some.inj (h.symm.trans (decode?_of_unmarked hmark))⟩

theorem isDecoded_of_decode? (hmapped : Mapping.isMapped piece = true) (hbare : '.' ∉ piece) :
    IsDecoded label := by
  obtain ⟨hunmarked, rfl⟩ | ⟨text, -, -, -, -, hdecoded⟩ := decode?_cases h
  · exact ⟨hmapped, hunmarked, hbare⟩
  · exact hdecoded

/-- The ASCII characters of a label stand in the text that it is decoded from. -/
theorem mem_of_mem_decoded {c : Char} (hc : c ∈ label) (hascii : c.toNat < 128) : c ∈ piece := by
  obtain ⟨-, rfl⟩ | ⟨text, rfl, hread, -⟩ := decode?_cases h
  · exact hc
  · rcases (Punycode.mem_of_decode? hread).1 c hc with hc | hc
    · exact List.mem_append_right _ hc
    · exact absurd hascii (Nat.not_lt.2 hc)

/-- Hyphens and digits aside, the label keeps the characters of the text. -/
theorem mem_decoded {c : Char} (hc : c ∈ piece) :
    c ∈ label ∨ c = '-' ∨ (Punycode.digitValue? c).isSome = true := by
  obtain ⟨-, rfl⟩ | ⟨text, rfl, hread, -⟩ := decode?_cases h
  · exact .inl hc
  rcases List.mem_append.1 hc with hc | hc
  · rcases mem_mark hc with hc | ⟨d, hd, rfl⟩
    · exact .inr (.inl hc)
    · exact .inr (.inr (by rw [Punycode.digitValue?_digitChar hd, Option.isSome_some]))
  · exact (Punycode.mem_of_decode? hread).2 c hc

theorem isEmpty_decoded : label.isEmpty = piece.isEmpty := by
  obtain ⟨-, rfl⟩ | ⟨text, rfl, -, hbeyond, -⟩ := decode?_cases h
  · rfl
  · cases label with
    | nil => cases hbeyond
    | cons c label => rfl

end

/-! ## Encoding -/

section
variable {label e : List Char} (h : encode? label = some e)
include h

theorem encode?_cases : (Text.isAscii label = true ∧ e = label) ∨
    (Text.isAscii label = false ∧ e = mark ++ Punycode.encode label) := by
  rw [encode?] at h
  split at h
  · rename_i hascii
    exact .inl ⟨hascii, (Option.some.inj h).symm⟩
  split at h
  · cases h
  · rename_i hascii hlength
    exact .inr ⟨by simpa using hascii, (Option.some.inj h).symm⟩

/-- The characters that are written: those of the label that are ASCII, hyphens and digits. -/
theorem mem_encoded {c : Char} (hc : c ∈ e) :
    (c ∈ label ∧ c.toNat < 128) ∨ c = '-' ∨ Punycode.IsDigit c := by
  obtain ⟨hascii, rfl⟩ | ⟨-, rfl⟩ := encode?_cases h
  · exact .inl ⟨hc, Text.toNat_lt_of_isAscii hascii c hc⟩
  · rcases List.mem_append.1 hc with hc | hc
    · exact .inr (mem_mark hc)
    · exact Punycode.mem_encode hc

theorem mem_encoded_of_mem {c : Char} (hc : c ∈ label) (hascii : c.toNat < 128) : c ∈ e := by
  obtain ⟨-, rfl⟩ | ⟨-, rfl⟩ := encode?_cases h
  · exact hc
  · exact List.mem_append_right _ (Punycode.mem_encode_of_mem hc hascii)

theorem isAscii_encoded : ∀ c ∈ e, c.toNat < 128 := by
  intro c hc
  rcases mem_encoded h hc with ⟨-, hc⟩ | rfl | hc
  · exact hc
  · decide
  · exact hc.toNat_lt

theorem isEmpty_encoded : e.isEmpty = label.isEmpty := by
  obtain ⟨-, rfl⟩ | ⟨hbeyond, rfl⟩ := encode?_cases h
  · rfl
  · cases label with
    | nil => cases hbeyond
    | cons c label => rfl

variable (hlabel : IsDecoded label)
include hlabel

theorem point_not_mem_encoded : '.' ∉ e := by
  intro hc
  rcases mem_encoded h hc with ⟨hc, -⟩ | hc | hc
  · exact hlabel.bare hc
  · cases hc
  · exact hc.ne_point rfl

/-- What has been written is decoded to the label again, unless it is too long. -/
theorem decode?_encoded_iff :
    decode? e = some label ↔ (mark <+: e → e.length ≤ mark.length + maxEncoded) := by
  obtain ⟨hmapped, hmark, hpoint⟩ := hlabel
  obtain ⟨-, rfl⟩ | ⟨hbeyond, rfl⟩ := encode?_cases h
  · rw [decode?_of_unmarked hmark]
    simp [hmark]
  · have hascii : Text.isAscii (Punycode.encode label) = true :=
      Text.isAscii_of_toNat_lt fun c hc => isAscii_encoded h c (List.mem_append_right _ hc)
    rw [decode?_mark_append_iff, List.length_append, Nat.add_le_add_iff_left]
    simp [hascii, hbeyond, hmapped, hmark, hpoint, Punycode.decode?_encode]

end

/-! ## Labels in ASCII -/

section
variable {label : List Char} (hlabel : ∀ c ∈ label, c.toNat < 128)
include hlabel

/-- Joiners and marks lie beyond ASCII. -/
theorem joinersInPlace_of_ascii (before : List Char) : joinersInPlace before label = true := by
  induction label generalizing before with
  | nil => rfl
  | cons c label ih =>
    obtain ⟨hc, hlabel⟩ := List.forall_mem_cons.1 hlabel
    rw [joinersInPlace, ih hlabel, if_neg (by omega), if_neg (by omega)]
    rfl

theorem isValid_of_ascii (hforbidden : ∀ c ∈ label, isForbidden c = false) :
    isValid label = true := by
  have hmark : (label.head?.map isMark).getD false = false := by
    cases label with
    | nil => rfl
    | cons c label =>
      have hc : ¬128 ≤ c.toNat := Nat.not_le.2 (hlabel c (.head _))
      simp [isMark, hc]
  rw [isValid, joinersInPlace_of_ascii hlabel, hmark, Bool.and_eq_true, Bool.and_eq_true,
    Bool.not_eq_true', List.any_eq_false]
  exact ⟨⟨fun c hc => Bool.eq_false_iff.1 (hforbidden c hc), rfl⟩, rfl⟩

theorem isRightToLeft_of_ascii : label.any isRightToLeft = false := by
  refine List.any_eq_false.2 fun c hc => ?_
  have hc : ¬128 ≤ c.toNat := Nat.not_le.2 (hlabel c hc)
  simp [isRightToLeft, hc]

end

end ContentRules.Host.Label
