import ContentRules.Host.Name
import ContentRules.Proofs.Host.Ipv4Number
import ContentRules.Proofs.Host.Label
import ContentRules.Proofs.Text.Trimming

/-!
The host names that texts are normalised to. A name has the ASCII characters of the mapped text, so
it is a plain one, of small letters, digits, hyphens and underscores between points, if the mapped
text has no other ones and no point at its ends. The check of the characters and the trimming come
before the mapping and say nothing about what the mapping brings. A name is its own normal form if
it is plain and no label of it is too long to be read again. Main statements:
`isPlain_iff_of_normalize?`, `normalize?_self_iff`.
-/

namespace ContentRules.Host

/-! ## Plain names -/

/-- Small letters, digits, and the signs between them. -/
def isPlainChar (c : Char) : Bool := c.isLower || c.isDigit || c == '.' || c == '-' || c == '_'

/-- A host name of small letters, digits, hyphens and underscores, with points between its
labels. -/
structure IsPlain (name : List Char) : Prop where
  nonempty : name ≠ []
  chars : ∀ c ∈ name, isPlainChar c = true
  first : name.head? ≠ some '.'
  last : name.getLast? ≠ some '.'

/-- The same of a text in any characters, whatever those beyond ASCII are. -/
structure IsClean (s : List Char) : Prop where
  chars : ∀ c ∈ s, c.toNat < 128 → isPlainChar c = true
  first : s.head? ≠ some '.'
  last : s.getLast? ≠ some '.'

/-- No label in Punycode is longer than one that can be read. -/
def HasShortLabels (name : List Char) : Prop :=
  ∀ label ∈ Text.pieces (· == '.') name,
    Label.mark <+: label → label.length ≤ Label.mark.length + Label.maxEncoded

/-- An ASCII character that is no capital letter and does not delimit the parts of a URL. -/
structure StandsInName (c : Char) : Prop where
  ascii : c.toNat < 128
  small : c.isUpper = false
  allowed : Label.isForbidden c = false

/-- What every host name is, plain or not. -/
structure IsAsciiName (name : List Char) : Prop where
  nonempty : name ≠ []
  chars : ∀ c ∈ name, StandsInName c

theorem isPlainChar_of_isDigit {c : Char} (h : Punycode.IsDigit c) : isPlainChar c = true := by
  obtain ⟨d, hd, rfl⟩ := h
  have hall : ∀ d < Punycode.base, isPlainChar (Punycode.digitChar d) = true := by decide
  exact hall d hd

theorem isPlainChar_of_digitValue? {c : Char} (hc : c.toNat < 128) (hupper : c.isUpper = false)
    (h : (Punycode.digitValue? c).isSome = true) : isPlainChar c = true :=
  Text.forall_ascii (P := fun c => c.isUpper = false → (Punycode.digitValue? c).isSome = true →
    isPlainChar c = true) (by decide +kernel) hc hupper h

section
variable {c : Char} (h : isPlainChar c = true)
include h

theorem standsInName_of_isPlainChar : StandsInName c := by
  have hc : c.toNat < 128 := by
    have hval : c.val.toNat = c.toNat := rfl
    delta isPlainChar Char.isLower Char.isDigit at h
    simp only [Bool.or_eq_true, Bool.and_eq_true, decide_eq_true_eq, beq_iff_eq,
      UInt32.le_iff_toNat_le, ge_iff_le] at h
    rcases h with (((h | h) | rfl) | rfl) | rfl
    · have hz : 'z'.val.toNat = 122 := rfl
      omega
    · have hnine : '9'.val.toNat = 57 := rfl
      omega
    all_goals decide
  have hsmall := Text.forall_ascii (P := fun c => isPlainChar c = true → c.isUpper = false ∧
    Label.isForbidden c = false) (by decide +kernel) hc h
  exact ⟨hc, hsmall.1, hsmall.2⟩

/-- Plain characters pass the check of what may be written. -/
theorem mayBeWritten_of_isPlainChar : mayBeWritten c = true :=
  Text.forall_ascii (P := fun c => isPlainChar c = true → mayBeWritten c = true) (by decide +kernel)
    (standsInName_of_isPlainChar h).ascii h

theorem not_isBlank_of_isPlainChar : Text.isBlank c = false :=
  Text.forall_ascii (P := fun c => isPlainChar c = true → Text.isBlank c = false)
    (by decide +kernel)
    (standsInName_of_isPlainChar h).ascii h

end

/-- Nothing is left to be made small. -/
theorem lower_eq_self {s : List Char} (hs : ∀ c ∈ s, StandsInName c) : Text.lower s = s := by
  have hsame : s.map Char.toLower = s.map id := List.map_congr_left fun c hc =>
    Text.forall_ascii (P := fun c => c.isUpper = false → c.toLower = c) (by decide +kernel)
      (hs c hc).ascii (hs c hc).small
  rw [Text.lower, hsame, List.map_id]

theorem map?_eq_self {s : List Char} (hs : ∀ c ∈ s, StandsInName c) : Mapping.map? s = some s := by
  rw [Mapping.map?_of_ascii fun c hc => (hs c hc).ascii, lower_eq_self hs]

/-- The encoded label has plain characters if those of the label that are ASCII are plain. -/
theorem isPlainChar_encoded_iff {label e : List Char} (h : Label.encode? label = some e) :
    (∀ c ∈ e, isPlainChar c = true) ↔ ∀ c ∈ label, c.toNat < 128 → isPlainChar c = true := by
  constructor
  · exact fun hplain c hc hascii => hplain c (Label.mem_encoded_of_mem h hc hascii)
  · intro hplain c hc
    rcases Label.mem_encoded h hc with ⟨hc, hascii⟩ | rfl | hc
    · exact hplain c hc hascii
    · decide
    · exact isPlainChar_of_isDigit hc

theorem isPlainChar_decoded_iff {piece label : List Char} (h : Label.decode? piece = some label)
    (hupper : ∀ c ∈ piece, c.isUpper = false) :
    (∀ c ∈ label, c.toNat < 128 → isPlainChar c = true) ↔
      ∀ c ∈ piece, c.toNat < 128 → isPlainChar c = true := by
  constructor
  · intro hplain c hc hascii
    rcases Label.mem_decoded h hc with hlabel | rfl | hdigit
    · exact hplain c hlabel hascii
    · decide
    · exact isPlainChar_of_digitValue? hascii (hupper c hc) hdigit
  · exact fun hplain c hc hascii => hplain c (Label.mem_of_mem_decoded h hc hascii) hascii

/-! ## Steps of the reading -/

/-- A text is read as a host name: it is mapped, its labels are decoded, checked and encoded. -/
structure Reads (s mapped : List Char) (labels : List (List Char)) (name : List Char) : Prop where
  map : Mapping.map? s = some mapped
  decode : List.Forall₂ (fun piece label => Label.decode? piece = some label)
    (Text.pieces (· == '.') mapped) labels
  valid : labels.all Label.isValid = true
  direction : (labels.any (·.any Label.isRightToLeft) && !labels.all Label.keepsDirection) = false
  encode : ∃ encoded, List.Forall₂ (fun label e => Label.encode? label = some e) labels encoded ∧
    name = ['.'].intercalate encoded

theorem toAscii?_eq_some_iff {s name : List Char} :
    toAscii? s = some name ↔ ∃ mapped labels, Reads s mapped labels name := by
  unfold toAscii?
  constructor
  · intro h
    obtain ⟨mapped, hmap, h⟩ := Option.bind_eq_some_iff.1 h
    obtain ⟨labels, hdecode, h⟩ := Option.bind_eq_some_iff.1 h
    cases hvalid : labels.all Label.isValid with
    | false => simp [hvalid] at h
    | true =>
      cases hdirection : labels.any (·.any Label.isRightToLeft) &&
        !labels.all Label.keepsDirection with
      | true => simp [hvalid, hdirection] at h
      | false =>
        rw [hvalid, hdirection] at h
        obtain ⟨encoded, hencode, hname⟩ := Option.bind_eq_some_iff.1 h
        exact ⟨mapped, labels, hmap, mapM_eq_some_iff.1 hdecode, hvalid, hdirection, encoded,
          mapM_eq_some_iff.1 hencode, (Option.some.inj hname).symm⟩
  · rintro ⟨mapped, labels, hmap, hdecode, hvalid, hdirection, encoded, hencode, rfl⟩
    rw [hmap, Option.bind_eq_bind, Option.bind_some, mapM_eq_some_iff.2 hdecode]
    rw [Option.bind_eq_bind, Option.bind_some, hvalid, hdirection, mapM_eq_some_iff.2 hencode]
    rfl

namespace Reads

variable {s mapped name : List Char} {labels : List (List Char)} (h : Reads s mapped labels name)
include h

theorem isDecoded : ∀ label ∈ labels, Label.IsDecoded label := by
  intro label hlabel
  obtain ⟨piece, hpiece, hdecode⟩ := exists_of_mem_forall₂ h.decode hlabel
  refine Label.isDecoded_of_decode? hdecode (Mapping.isMapped_of_mem_pieces h.map piece hpiece)
    fun hc => ?_
  cases Text.not_sep_of_mem_pieces _ _ _ hpiece '.' hc

/-- The labels of the name are the encoded labels. -/
theorem encodes :
    List.Forall₂ (fun label e => Label.encode? label = some e) labels
      (Text.pieces (· == '.') name) := by
  obtain ⟨encoded, hencode, rfl⟩ := h.encode
  rw [Text.pieces_intercalate]
  · exact hencode
  · have hlength := hencode.length_eq.symm.trans h.decode.length_eq.symm
    intro hnil
    rw [hnil, List.length_nil, eq_comm, List.length_eq_zero_iff] at hlength
    exact Text.pieces_ne_nil _ _ hlength
  · intro e he
    obtain ⟨label, hlabel, hlabele⟩ := exists_of_mem_forall₂ hencode he
    exact Label.point_not_mem_encoded hlabele (h.isDecoded label hlabel)

/-- The name has empty labels where the mapped text has them. -/
theorem isEmpty_pieces : (Text.pieces (· == '.') name).map List.isEmpty =
    (Text.pieces (· == '.') mapped).map List.isEmpty := by
  have hencode : (Text.pieces (· == '.') name).map List.isEmpty = labels.map List.isEmpty :=
    map_eq_of_forall₂ h.encodes fun _ _ => Label.isEmpty_encoded
  rw [hencode]
  exact map_eq_of_forall₂ h.decode fun _ _ => Label.isEmpty_decoded

theorem head?_iff : name.head? = some '.' ↔ mapped.head? = some '.' := by
  rw [Text.head?_eq_some_iff_pieces, h.isEmpty_pieces, ← Text.head?_eq_some_iff_pieces]

theorem getLast?_iff : name.getLast? = some '.' ↔ mapped.getLast? = some '.' := by
  rw [Text.getLast?_eq_some_iff_pieces, h.isEmpty_pieces, ← Text.getLast?_eq_some_iff_pieces]

/-- The name has plain characters if those of the mapped text that are ASCII are plain. -/
theorem isPlainChar_iff : (∀ c ∈ name, isPlainChar c = true) ↔
    ∀ c ∈ mapped, c.toNat < 128 → isPlainChar c = true := by
  have hupper : ∀ piece ∈ Text.pieces (· == '.') mapped, ∀ c ∈ piece, c.isUpper = false :=
    fun piece hpiece c hc =>
      (Mapping.isKept_of_mem_map h.map c ((Text.infix_of_mem_pieces hpiece).subset hc)).not_isUpper
  calc (∀ c ∈ name, isPlainChar c = true)
      ↔ ∀ e ∈ Text.pieces (· == '.') name, ∀ c ∈ e, isPlainChar c = true :=
        Text.forall_mem_iff_pieces (by decide) name
    _ ↔ ∀ label ∈ labels, ∀ c ∈ label, c.toNat < 128 → isPlainChar c = true :=
        (forall_mem_iff_of_forall₂ h.encodes
          fun _ _ _ hencode => (isPlainChar_encoded_iff hencode).symm).symm
    _ ↔ ∀ piece ∈ Text.pieces (· == '.') mapped, ∀ c ∈ piece, c.toNat < 128 →
      isPlainChar c = true :=
        (forall_mem_iff_of_forall₂ h.decode fun piece hpiece _ hdecode =>
          (isPlainChar_decoded_iff hdecode (hupper piece hpiece)).symm).symm
    _ ↔ ∀ c ∈ mapped, c.toNat < 128 → isPlainChar c = true :=
        (Text.forall_mem_iff_pieces (fun _ => by decide) mapped).symm

/-- Every name is in ASCII, has no capital letters and no forbidden characters. -/
theorem standsInName : ∀ c ∈ name, StandsInName c := by
  refine @Text.forall_mem_of_pieces (· == '.') _ _ (fun c hc => ?_) fun e he c hc => ?_
  · rw [beq_iff_eq.1 hc]
    exact standsInName_of_isPlainChar (by decide)
  · obtain ⟨label, hlabel, hencode⟩ := exists_of_mem_forall₂ h.encodes he
    rcases Label.mem_encoded hencode hc with ⟨hc, hascii⟩ | rfl | hc
    · have hvalid := List.all_eq_true.1 h.valid label hlabel
      simp only [Label.isValid, Bool.and_eq_true, Bool.not_eq_true', List.any_eq_false] at hvalid
      have hkept := Mapping.isKept_of_isMapped (h.isDecoded label hlabel).mapped c hc
      exact ⟨hascii, hkept.not_isUpper, Bool.eq_false_iff.2 (hvalid.1.1 c hc)⟩
    · exact standsInName_of_isPlainChar (by decide)
    · exact standsInName_of_isPlainChar (isPlainChar_of_isDigit hc)

/-- The labels of the mapped text could be read. -/
theorem hasShortLabels : HasShortLabels mapped := by
  rintro piece hpiece ⟨text, rfl⟩
  obtain ⟨label, -, hdecode⟩ := exists_of_mem_forall₂
    (List.Forall₂.flip (R := fun label piece => Label.decode? piece = some label) h.decode) hpiece
  have hlength := (Label.decode?_mark_append_iff.1 hdecode).2.1
  rw [List.length_append]
  exact Nat.add_le_add_left hlength _

/-- A name is read as itself if its labels can be read again. -/
theorem reread (hshort : HasShortLabels name) : Reads name name labels name := by
  have hencodes := (List.forall₂_and_left ..).2 ⟨h.isDecoded, h.encodes⟩
  have hdecodes := (List.forall₂_and_left ..).2 ⟨hshort, List.Forall₂.flip
    (R := fun e label => Label.IsDecoded label ∧ Label.encode? label = some e) hencodes⟩
  refine ⟨map?_eq_self h.standsInName, hdecodes.imp ?_, h.valid, h.direction, h.encode⟩
  rintro e label ⟨hlength, hlabel, hencode⟩
  exact (Label.decode?_encoded_iff hencode hlabel).2 hlength

end Reads

/-- Plain characters without the mark of Punycode are read as they are. -/
theorem reads_of_plain {s : List Char} (hs : ∀ c ∈ s, isPlainChar c = true)
    (hmark : ∀ label ∈ Text.pieces (· == '.') s, ¬Label.mark <+: label) :
    Reads s s (Text.pieces (· == '.') s) s := by
  have hname : ∀ c ∈ s, StandsInName c := fun c hc => standsInName_of_isPlainChar (hs c hc)
  have hlabels : ∀ label ∈ Text.pieces (· == '.') s, ∀ c ∈ label, StandsInName c :=
    fun label hlabel c hc => hname c ((Text.infix_of_mem_pieces hlabel).subset hc)
  have hascii : ∀ label ∈ Text.pieces (· == '.') s, ∀ c ∈ label, c.toNat < 128 :=
    fun label hlabel c hc => (hlabels label hlabel c hc).ascii
  refine ⟨map?_eq_self hname,
    List.forall₂_same.2 fun label hlabel => Label.decode?_of_unmarked (hmark label hlabel),
    List.all_eq_true.2 fun label hlabel => ?_, Bool.and_eq_false_iff.2 (.inl ?_),
    Text.pieces (· == '.') s, List.forall₂_same.2 fun label hlabel => ?_,
    (Text.intercalate_pieces '.' s).symm⟩
  · exact Label.isValid_of_ascii (hascii label hlabel)
      fun c hc => (hlabels label hlabel c hc).allowed
  · exact List.any_eq_false.2 fun label hlabel =>
      Bool.eq_false_iff.1 (Label.isRightToLeft_of_ascii (hascii label hlabel))
  · rw [Label.encode?, if_pos (Text.isAscii_of_toNat_lt (hascii label hlabel))]

/-! ## Addresses -/

theorem isPlain_ipv4Chars (address : Nat) : IsPlain (ipv4Chars address) := by
  have hpieces : (Text.pieces (· == '.') (ipv4Chars address)).map List.isEmpty =
      [false, false, false, false] := by
    have hdigits (n : Nat) : (Nat.toDigits 10 (n % 256)).isEmpty = false :=
      List.isEmpty_eq_false_iff.2 (octet_digits (n % 256) (Nat.mod_lt _ (by decide))).1
    rw [pieces_ipv4Chars]
    simp [octets, hdigits]
  refine ⟨?_, ?_, ?_, ?_⟩
  · intro hnil
    rw [hnil] at hpieces
    cases hpieces
  · intro c hc
    rcases isDigit_of_mem_ipv4Chars address c hc with rfl | hc
    · decide
    · simp [isPlainChar, hc]
  · rw [Ne, Text.head?_eq_some_iff_pieces, hpieces]
    simp
  · rw [Ne, Text.getLast?_eq_some_iff_pieces, hpieces]
    rintro ⟨init, b, hlast⟩
    simpa using congrArg List.getLast? hlast

/-- The text of an address is read as itself. -/
theorem toAscii?_ipv4Chars (address : Nat) :
    toAscii? (ipv4Chars address) = some (ipv4Chars address) := by
  refine toAscii?_eq_some_iff.2 ⟨_, _, reads_of_plain (isPlain_ipv4Chars address).chars ?_⟩
  intro label hlabel hmark
  have hx : 'x' ∈ label := hmark.subset (by decide)
  have hdigit := isDigit_of_mem_ipv4Chars address 'x' ((Text.infix_of_mem_pieces hlabel).subset hx)
  exact absurd hdigit (by decide)

theorem read?_eq_some_iff {s host : List Char} : read? s = some host ↔
    ∃ name, toAscii? s = some name ∧ name ≠ [] ∧
      ((endsInNumber name = false ∧ host = name) ∨
        endsInNumber name = true ∧ ∃ address, ipv4? name = some address ∧
          host = ipv4Chars address) := by
  unfold read?
  cases toAscii? s with
  | none => simp
  | some name =>
    rw [Option.bind_eq_bind, Option.bind_some]
    cases name with
    | nil => simp
    | cons c name =>
      rw [List.isEmpty_cons, if_neg Bool.false_ne_true]
      dsimp only
      cases hnumber : endsInNumber (c :: name) with
      | false =>
        rw [if_neg Bool.false_ne_true]
        constructor
        · rintro ⟨⟩
          exact ⟨_, rfl, List.cons_ne_nil _ _, .inl ⟨hnumber, rfl⟩⟩
        · rintro ⟨_, ⟨⟩, -, ⟨-, rfl⟩ | ⟨htrue, -⟩⟩
          · rfl
          · cases hnumber.symm.trans htrue
      | true =>
        rw [if_pos rfl]
        constructor
        · intro h
          obtain ⟨address, haddress, h⟩ := Option.bind_eq_some_iff.1 h
          exact ⟨_, rfl, List.cons_ne_nil _ _,
            .inr ⟨hnumber, address, haddress, (Option.some.inj h).symm⟩⟩
        · rintro ⟨_, ⟨⟩, -, ⟨hfalse, -⟩ | ⟨-, address, haddress, rfl⟩⟩
          · cases hnumber.symm.trans hfalse
          · rw [haddress]
            rfl

/-! ## Trimming -/

theorem trimPoints_eq_self {s : List Char} (hfirst : s.head? ≠ some '.')
    (hlast : s.getLast? ≠ some '.') : trimPoints s = s := by
  have hstart {t : List Char} (ht : t.head? ≠ some '.') : t.dropWhile (· == '.') = t := by
    cases t with
    | nil => rfl
    | cons c t => rw [List.dropWhile_cons_of_neg (by simpa using ht)]
  rw [trimPoints, hstart hfirst, hstart (by rwa [List.head?_reverse]), List.reverse_reverse]

theorem getLast?_trimPoints (s : List Char) : (trimPoints s).getLast? ≠ some '.' := by
  rw [trimPoints, List.getLast?_reverse]
  intro h
  have hlast := List.head?_dropWhile_not (· == '.') (s.dropWhile (· == '.')).reverse
  rw [h] at hlast
  cases hlast

theorem head?_trimPoints (s : List Char) : (trimPoints s).head? ≠ some '.' := by
  intro h
  have hprefix : trimPoints s <+: s.dropWhile (· == '.') := by
    rw [← List.reverse_suffix, trimPoints, List.reverse_reverse]
    exact List.dropWhile_suffix _
  obtain ⟨t, ht⟩ := List.head?_eq_some_iff.1 h
  obtain ⟨u, hu⟩ := hprefix
  have hfirst := List.head?_dropWhile_not (· == '.') s
  rw [← hu, ht] at hfirst
  cases hfirst

theorem mem_of_mem_trimPoints {s : List Char} {c : Char} (h : c ∈ trimPoints s) : c ∈ s := by
  rw [trimPoints, List.mem_reverse] at h
  exact (List.dropWhile_sublist _).subset (List.mem_reverse.1 ((List.dropWhile_sublist _).subset h))

/-- Only sigmas have two small letters, and they are no ASCII characters. -/
theorem smallSigmas_of_ascii {s : List Char} (hs : ∀ c ∈ s, c.toNat < 128) (before : List Char) :
    Unicode.smallSigmas before s = s := by
  induction s generalizing before with
  | nil => rfl
  | cons c s ih =>
    obtain ⟨hc, hs⟩ := List.forall_mem_cons.1 hs
    have hsigma : c ≠ 'Σ' := by
      rintro rfl
      exact absurd hc (by decide)
    rw [Unicode.smallSigmas, if_neg hsigma, ih hs]

theorem isPlainChar_toLower {c : Char} (hc : c.toNat < 128) (h : mayBeWritten c = true) :
    isPlainChar c.toLower = true :=
  Text.forall_ascii (P := fun c => mayBeWritten c = true → isPlainChar c.toLower = true)
    (by decide +kernel) hc h

/-! ## Normal forms -/

/-- What is mapped of a text that names a host. -/
def bareName (s : List Char) : List Char := Unicode.smallSigmas [] (trimPoints (Text.trim s))

theorem bareName_of_ascii {s : List Char} (hs : ∀ c ∈ s, c.toNat < 128) :
    bareName s = trimPoints (Text.trim s) :=
  smallSigmas_of_ascii
    (fun c hc => hs c ((Text.isInfix_trim s).subset (mem_of_mem_trimPoints hc))) []

theorem normalize?_eq_some_iff {s host : List Char} : normalize? s = some host ↔
    trimPoints (Text.trim s) ≠ [] ∧ (∀ c ∈ trimPoints (Text.trim s), mayBeWritten c = true) ∧
      read? (bareName s) = some host := by
  rw [normalize?, bareName]
  split
  · rename_i hbad
    refine iff_of_false nofun ?_
    rintro ⟨hne, hall, -⟩
    simp [hne, List.all_eq_true.2 hall] at hbad
  · rename_i hgood
    simp only [Bool.or_eq_true, List.isEmpty_iff, Bool.not_eq_true', not_or, Bool.not_eq_false,
      List.all_eq_true] at hgood
    exact ⟨fun h => ⟨hgood.1, hgood.2, h⟩, fun h => h.2.2⟩

theorem IsPlain.trimmed {name : List Char} (h : IsPlain name) :
    trimPoints (Text.trim name) = name := by
  have hblank {c : Char} (hc : c ∈ name) : Text.isBlank c = false :=
    not_isBlank_of_isPlainChar (h.chars c hc)
  rw [Text.trim_eq_self fun c hc => hblank (List.mem_of_mem_head? hc),
    trimPoints_eq_self h.first h.last]
  exact fun c hc => hblank (List.mem_of_mem_getLast? hc)

section
variable {s host : List Char} (h : normalize? s = some host)
include h

/-- How a normal form comes about: a name that is read is written as it is, or as an address. -/
theorem exists_reads : ∃ mapped labels name, Reads (bareName s) mapped labels name ∧ name ≠ [] ∧
    ((endsInNumber name = false ∧ host = name) ∨ ∃ address, host = ipv4Chars address) := by
  obtain ⟨name, hname, hne, hhost⟩ := read?_eq_some_iff.1 (normalize?_eq_some_iff.1 h).2.2
  obtain ⟨mapped, labels, hreads⟩ := toAscii?_eq_some_iff.1 hname
  refine ⟨mapped, labels, name, hreads, hne, hhost.imp id ?_⟩
  rintro ⟨-, address, -, haddress⟩
  exact ⟨address, haddress⟩

/-- Every normal form is a name in ASCII. -/
theorem isAsciiName_of_normalize? : IsAsciiName host := by
  obtain ⟨mapped, labels, name, hreads, hne, ⟨-, rfl⟩ | ⟨address, rfl⟩⟩ := exists_reads h
  · exact ⟨hne, hreads.standsInName⟩
  · obtain ⟨hnonempty, hchars, -⟩ := isPlain_ipv4Chars address
    exact ⟨hnonempty, fun c hc => standsInName_of_isPlainChar (hchars c hc)⟩

/-- A normal form is plain if it is an address, or if what the mapping makes of the text is
clean. -/
theorem isPlain_iff_of_normalize? : ∃ mapped, Mapping.map? (bareName s) = some mapped ∧
    (IsPlain host ↔ (∃ address, host = ipv4Chars address) ∨ IsClean mapped) := by
  obtain ⟨mapped, labels, name, hreads, hne, hhost⟩ := exists_reads h
  refine ⟨mapped, hreads.map, ?_⟩
  obtain ⟨-, rfl⟩ | ⟨address, rfl⟩ := hhost
  · constructor
    · rintro ⟨-, hchars, hfirst, hlast⟩
      exact .inr ⟨hreads.isPlainChar_iff.1 hchars, mt hreads.head?_iff.2 hfirst,
        mt hreads.getLast?_iff.2 hlast⟩
    · rintro (⟨address, rfl⟩ | ⟨hchars, hfirst, hlast⟩)
      · exact isPlain_ipv4Chars address
      · exact ⟨hne, hreads.isPlainChar_iff.2 hchars, mt hreads.head?_iff.1 hfirst,
          mt hreads.getLast?_iff.1 hlast⟩
  · exact iff_of_true (isPlain_ipv4Chars address) (.inl ⟨address, rfl⟩)

/-- A text in ASCII has a plain normal form. -/
theorem isPlain_of_ascii (hs : ∀ c ∈ s, c.toNat < 128) : IsPlain host := by
  obtain ⟨mapped, hmapped, hiff⟩ := isPlain_iff_of_normalize? h
  obtain ⟨-, hwritten, -⟩ := normalize?_eq_some_iff.1 h
  have hbare : ∀ c ∈ trimPoints (Text.trim s), c.toNat < 128 := fun c hc =>
    hs c ((Text.isInfix_trim s).subset (mem_of_mem_trimPoints hc))
  rw [bareName_of_ascii hs, Mapping.map?_of_ascii hbare] at hmapped
  obtain rfl := Option.some.inj hmapped
  refine hiff.2 (.inr ⟨?_, ?_, ?_⟩)
  · intro d hd hascii
    obtain ⟨c, hc, rfl⟩ := List.mem_map.1 hd
    exact isPlainChar_toLower (hbare c hc) (hwritten c hc)
  · rw [Text.lower, List.head?_map, Ne, Option.map_eq_some_iff]
    rintro ⟨c, hc, hpoint⟩
    rw [(Text.toLower_eq_iff (by decide)).1 hpoint] at hc
    exact head?_trimPoints _ hc
  · rw [Text.lower, List.getLast?_map, Ne, Option.map_eq_some_iff]
    rintro ⟨c, hc, hpoint⟩
    rw [(Text.toLower_eq_iff (by decide)).1 hpoint] at hc
    exact getLast?_trimPoints _ hc

/-- A normal form is its own normal form if it is plain and its labels can be read again. -/
theorem normalize?_self_iff : normalize? host = some host ↔ IsPlain host ∧ HasShortLabels host := by
  have hascii : ∀ c ∈ host, c.toNat < 128 := fun c hc =>
    ((isAsciiName_of_normalize? h).chars c hc).ascii
  constructor
  · intro hself
    have hplain := isPlain_of_ascii hself hascii
    refine ⟨hplain, ?_⟩
    obtain ⟨mapped, labels, name, hreads, -⟩ := exists_reads hself
    have hmap := hreads.map
    rw [bareName_of_ascii hascii, hplain.trimmed,
      map?_eq_self fun c hc => standsInName_of_isPlainChar (hplain.chars c hc)] at hmap
    rw [Option.some.inj hmap]
    exact hreads.hasShortLabels
  · rintro ⟨hplain, hshort⟩
    refine normalize?_eq_some_iff.2 ⟨?_, ?_, ?_⟩
    · rw [hplain.trimmed]
      exact hplain.nonempty
    · rw [hplain.trimmed]
      exact fun c hc => mayBeWritten_of_isPlainChar (hplain.chars c hc)
    · rw [bareName_of_ascii hascii, hplain.trimmed, read?_eq_some_iff]
      obtain ⟨mapped, labels, name, hreads, hne, ⟨hnumber, rfl⟩ | ⟨address, rfl⟩⟩ := exists_reads h
      · exact ⟨_, toAscii?_eq_some_iff.2 ⟨_, _, hreads.reread hshort⟩, hne, .inl ⟨hnumber, rfl⟩⟩
      · refine ⟨_, toAscii?_ipv4Chars address, hplain.nonempty, .inr ?_⟩
        exact ⟨endsInNumber_ipv4Chars address, _, ipv4?_ipv4Chars address,
          (ipv4Chars_mod address).symm⟩

end

end ContentRules.Host
