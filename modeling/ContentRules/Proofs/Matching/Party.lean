import ContentRules.Proofs.Filter.HostsFiles
import ContentRules.Proofs.Native.Cover
import ContentRules.Proofs.Pattern.OwnHost

/-!
Which requests go to the site of their page. A URL is written from a scheme, user information, a
host, a port and a tail; the host that is read from it ends at its first colon, so a name and an
address of four octets are read in full, and an address in brackets is not. Main statement:
`firstParty_written_iff`.
-/

namespace ContentRules

namespace UrlHost

/-- A character that a name in a URL may hold: none of those that end it. -/
def isNameChar (c : Char) : Bool := !endsAuthority c && c != '@' && c != ':'

/-- The host of a URL in the forms in which it may be written. -/
inductive WrittenHost where
  | name (s : List Char) (ne_nil : s ≠ []) (plain : ∀ c ∈ s, isNameChar c = true)
  | ipv4 (address : List Char) (isLiteral : Host.isIpv4Literal address = true)
  /-- An address that has colons of its own stands in brackets. -/
  | ipv6 (address : List Char) (isLiteral : Host.isIpv6Literal address = true)

namespace WrittenHost

def text : WrittenHost → List Char
  | name s .. => s
  | ipv4 address _ => address
  | ipv6 address _ => '[' :: (address ++ [']'])

def isBracketed : WrittenHost → Bool
  | ipv6 .. => true
  | _ => false

/-- What stands before the first colon of the host. -/
def beforeColon (h : WrittenHost) : List Char := h.text.takeWhile (· != ':')

end WrittenHost

/-- An absolute URL in its parts. -/
structure WrittenUrl where
  scheme : List Char
  /-- What stands before an at sign in front of the host. -/
  userInfo : Option (List Char)
  host : WrittenHost
  /-- The digits after a colon behind the host. -/
  port : Option (List Char)
  /-- Path, query and fragment. -/
  tail : List Char
  scheme_plain : ':' ∉ scheme
  userInfo_plain : ∀ info ∈ userInfo, ∀ c ∈ info, endsAuthority c = false
  port_digits : ∀ digits ∈ port, ∀ c ∈ digits, c.isDigit = true
  tail_starts : ∀ c ∈ tail.head?, endsAuthority c = true

namespace WrittenUrl

/-- The host with the port. -/
def hostPort (u : WrittenUrl) : List Char := u.host.text ++ (u.port.map (':' :: ·)).getD []

/-- What stands between the scheme and the tail. -/
def authority (u : WrittenUrl) : List Char := (u.userInfo.map (· ++ ['@'])).getD [] ++ u.hostPort

def text (u : WrittenUrl) : List Char := u.scheme ++ "://".toList ++ (u.authority ++ u.tail)

end WrittenUrl

/-! ## The characters of a host -/

/-- A class of characters without the delimiters of a URL has only name characters in it. -/
theorem isNameChar_of_class {p : Char → Bool} (hp : ['/', '?', '#', '@', ':'].any p = false)
    {c : Char} (hc : p c = true) : isNameChar c = true := by
  have hne (d : Char) (hd : d ∈ ['/', '?', '#', '@', ':']) : c ≠ d := by
    rintro rfl
    exact List.any_eq_false.1 hp c hd hc
  simp [isNameChar, endsAuthority, hne '/', hne '?', hne '#', hne '@', hne ':']

theorem isNameChar_of_isDigit {c : Char} (h : c.isDigit = true) : isNameChar c = true :=
  isNameChar_of_class (by decide) h

theorem isNameChar_of_isIpv4Literal {s : List Char} (h : Host.isIpv4Literal s = true) :
    ∀ c ∈ s, isNameChar c = true := by
  unfold Host.isIpv4Literal at h
  rw [Bool.and_eq_true] at h
  have hpoint (c : Char) (hc : (c == '.') = true) : isNameChar c = true := by
    rw [beq_iff_eq.1 hc]
    decide
  refine Text.forall_mem_of_pieces hpoint fun piece hpiece c hc => ?_
  exact isNameChar_of_isDigit (Host.isDigit_of_isOctet (List.all_eq_true.1 h.2 piece hpiece) c hc)

theorem ne_nil_of_isIpv4Literal {s : List Char} (h : Host.isIpv4Literal s = true) : s ≠ [] := by
  rintro rfl
  exact absurd h (by decide)

/-- Eight groups are not written without a colon. -/
theorem colon_mem_of_isIpv6Literal {s : List Char} (h : Host.isIpv6Literal s = true) : ':' ∈ s := by
  unfold Host.isIpv6Literal at h
  split at h
  · by_contra hcolon
    have hparts : Host.colonParts s = [] ∨ Host.colonParts s = [s] := by
      cases s with
      | nil => exact .inl rfl
      | cons => exact .inr (Text.pieces_of_not_mem hcolon)
    rcases hparts with hparts | hparts <;> rw [hparts, beq_iff_eq, Host.groupCount?] at h
    · cases h
    · split at h
      · cases h
      · split at h <;> cases h
  · rename_i hcut
    rw [Text.cutAt_eq_some hcut]
    simp

theorem isAddressChar_of_isIpv6Literal {s : List Char} (h : Host.isIpv6Literal s = true) :
    ∀ c ∈ s, Host.isAddressChar c = true :=
  Host.isAddressChar_of_isIpLiteral (by rw [Host.isIpLiteral, h, Bool.or_true])

namespace WrittenHost

theorem text_ne_nil (h : WrittenHost) : h.text ≠ [] := by
  cases h with
  | name s ne_nil plain => exact ne_nil
  | ipv4 address isLiteral => exact ne_nil_of_isIpv4Literal isLiteral
  | ipv6 address isLiteral => exact List.cons_ne_nil _ _

/-- Outside brackets no colon stands in a host, nor another delimiter. -/
theorem isNameChar_of_mem {h : WrittenHost} (hh : h.isBracketed = false) :
    ∀ c ∈ h.text, isNameChar c = true := by
  cases h with
  | name s ne_nil plain => exact plain
  | ipv4 address isLiteral => exact isNameChar_of_isIpv4Literal isLiteral
  | ipv6 address isLiteral => cases hh

/-- No character of a host ends it but a colon. -/
theorem not_delimiter_of_mem (h : WrittenHost) :
    ∀ c ∈ h.text, endsAuthority c = false ∧ (c == '@') = false := by
  have hplain {c : Char} (hc : isNameChar c = true) :
      endsAuthority c = false ∧ (c == '@') = false := by
    simp only [isNameChar, Bool.and_eq_true, Bool.not_eq_true', bne_iff_ne] at hc
    exact ⟨hc.1.1, beq_eq_false_iff_ne.2 hc.1.2⟩
  cases h with
  | name s ne_nil plain => exact fun c hc => hplain (plain c hc)
  | ipv4 address isLiteral => exact fun c hc => hplain (isNameChar_of_isIpv4Literal isLiteral c hc)
  | ipv6 address isLiteral =>
    have haddress {c : Char} (hc : Host.isAddressChar c = true) :
        endsAuthority c = false ∧ (c == '@') = false := by
      by_cases hcolon : c = ':'
      · rw [hcolon]
        decide
      · refine hplain
          (isNameChar_of_class (p := fun d => Host.isAddressChar d && d != ':') (by decide) ?_)
        rw [hc, bne_iff_ne.2 hcolon]
        rfl
    refine List.forall_mem_cons.2 ⟨by decide, List.forall_mem_append.2
      ⟨fun c hc => ?_, List.forall_mem_singleton.2 (by decide)⟩⟩
    exact haddress (isAddressChar_of_isIpv6Literal isLiteral c hc)

theorem beforeColon_of_not_bracketed {h : WrittenHost} (hh : h.isBracketed = false) :
    h.beforeColon = h.text := by
  refine List.takeWhile_eq_self_iff.2 fun c hc => ?_
  have hplain := isNameChar_of_mem hh c hc
  simp only [isNameChar, Bool.and_eq_true] at hplain
  exact hplain.2

theorem beforeColon_ne_nil (h : WrittenHost) : h.beforeColon ≠ [] := by
  by_cases hh : h.isBracketed = true
  · cases h with
    | name | ipv4 => cases hh
    | ipv6 => exact List.cons_ne_nil _ _
  · rw [beforeColon_of_not_bracketed (by simpa using hh)]
    exact h.text_ne_nil

/-- A host in brackets is not read to its end. -/
theorem beforeColon_eq_text_iff (h : WrittenHost) :
    h.beforeColon = h.text ↔ h.isBracketed = false := by
  refine ⟨fun heq => ?_, beforeColon_of_not_bracketed⟩
  cases h with
  | name | ipv4 => rfl
  | ipv6 address isLiteral =>
    have hcolon : ':' ∈ '[' :: (address ++ [']']) := by
      simp [colon_mem_of_isIpv6Literal isLiteral]
    exact absurd (List.takeWhile_eq_self_iff.1 heq ':' hcolon) (by decide)

end WrittenHost

/-! ## The host that is read -/

theorem takeWhile_append_cons {p : Char → Bool} {x : Char} (hx : p x = false) (s r : List Char) :
    (s ++ x :: r).takeWhile p = s.takeWhile p := by
  induction s with
  | nil => exact List.takeWhile_cons_of_neg (by simp [hx])
  | cons c s ih => simp only [List.cons_append, List.takeWhile_cons, ih]

namespace WrittenUrl

variable (u : WrittenUrl)

theorem not_delimiter_of_mem_hostPort :
    ∀ c ∈ u.hostPort, endsAuthority c = false ∧ (c == '@') = false := by
  refine List.forall_mem_append.2 ⟨u.host.not_delimiter_of_mem, ?_⟩
  cases hport : u.port with
  | none => nofun
  | some digits =>
    refine List.forall_mem_cons.2 ⟨by decide, fun c hc => ?_⟩
    have hplain := isNameChar_of_isDigit (u.port_digits digits hport c hc)
    simp only [isNameChar, Bool.and_eq_true, Bool.not_eq_true', bne_iff_ne] at hplain
    exact ⟨hplain.1.1, beq_eq_false_iff_ne.2 hplain.1.2⟩

theorem authority?_text : authority? u.text = some u.authority := by
  have hends : ∀ c ∈ u.authority, (!endsAuthority c) = true := by
    refine List.forall_mem_append.2 ⟨?_, fun c hc => ?_⟩
    · cases hinfo : u.userInfo with
      | none => nofun
      | some info =>
        refine List.forall_mem_append.2 ⟨fun c hc => ?_, List.forall_mem_singleton.2 (by decide)⟩
        rw [u.userInfo_plain info hinfo c hc]
        rfl
    · rw [(u.not_delimiter_of_mem_hostPort c hc).1]
      rfl
  have htail : u.tail.takeWhile (!endsAuthority ·) = [] := by
    have hstarts := u.tail_starts
    cases htail : u.tail with
    | nil => rfl
    | cons c r =>
      rw [htail] at hstarts
      exact List.takeWhile_cons_of_neg (by simp [hstarts c rfl])
  rw [authority?, text, cutAt_scheme u.scheme_plain, Option.map_some]
  dsimp only
  rw [List.takeWhile_append_of_pos hends, htail, List.append_nil]

theorem cutLast_authority :
    Text.cutLast (· == '@') u.authority = u.userInfo.map (·, u.hostPort) := by
  have hhost : ∀ c ∈ u.hostPort, (c == '@') = false := fun c hc =>
    (u.not_delimiter_of_mem_hostPort c hc).2
  rw [authority]
  cases u.userInfo with
  | none => exact Text.cutLast_eq_none_iff.2 hhost
  | some info =>
    rw [Option.map_some, Option.getD_some, List.append_assoc, List.singleton_append]
    exact Text.cutLast_append_cons rfl hhost info

theorem takeWhile_hostPort : u.hostPort.takeWhile (· != ':') = u.host.beforeColon := by
  rw [hostPort]
  cases u.port with
  | none => rw [Option.map_none, Option.getD_none, List.append_nil, WrittenHost.beforeColon]
  | some digits => exact takeWhile_append_cons rfl _ _

/-- What is read of a URL is its host up to the first colon. -/
theorem ofUrl?_text : ofUrl? u.text = some u.host.beforeColon := by
  have hne : ¬ u.host.beforeColon.isEmpty = true := by simpa using u.host.beforeColon_ne_nil
  have hcut := u.cutLast_authority
  rw [ofUrl?, authority?_text]
  cases hinfo : u.userInfo with
  | none =>
    have hauthority : u.authority = u.hostPort := by
      rw [authority, hinfo]
      rfl
    rw [hinfo, hauthority, Option.map_none] at hcut
    simp only [hauthority, hcut, takeWhile_hostPort, if_neg hne]
  | some info =>
    rw [hinfo] at hcut
    simp only [hcut, Option.map_some, takeWhile_hostPort, if_neg hne]

end WrittenUrl

end UrlHost

/-! ## Sites -/

namespace Request

/-- The two hosts are equal up to the case of ASCII letters, or one of them lies below the other. -/
def IsSameSite (host page : List Char) : Prop :=
  Text.lower host = Text.lower page ∨ (∃ front, Text.lower host = front ++ '.' :: Text.lower page) ∨
    ∃ front, Text.lower page = front ++ '.' :: Text.lower host

theorem sameSite_iff (host page : List Char) :
    sameSite host page = true ↔ IsSameSite host page := by
  have hsuffix (a b : List Char) : '.' :: a <:+ b ↔ ∃ front, b = front ++ '.' :: a :=
    exists_congr fun _ => eq_comm
  rw [sameSite, Bool.or_eq_true, Domain.covers_iff, Domain.covers_iff, hsuffix, hsuffix, IsSameSite]
  constructor
  · rintro ((h | h) | (h | h))
    · exact .inl h
    · exact .inr (.inl h)
    · exact .inl h.symm
    · exact .inr (.inr h)
  · rintro (h | h | h)
    · exact .inl (.inl h)
    · exact .inl (.inr h)
    · exact .inr (.inr h)

/-- Hosts of one site end in the same character. -/
theorem IsSameSite.getLast?_eq {host page : List Char} (h : IsSameSite host page)
    (hhost : host ≠ [])
    (hpage : page ≠ []) : (Text.lower host).getLast? = (Text.lower page).getLast? := by
  have hlast (front : List Char) {s : List Char} (hs : s ≠ []) :
      (front ++ '.' :: Text.lower s).getLast? = (Text.lower s).getLast? := by
    have hne : Text.lower s ≠ [] := by simpa [Text.lower] using hs
    rw [List.getLast?_append_of_ne_nil _ (List.cons_ne_nil _ _), List.getLast?_cons_of_ne_nil hne]
  rcases h with h | ⟨front, h⟩ | ⟨front, h⟩
  · rw [h]
  · rw [h, hlast front hpage]
  · rw [h, hlast front hhost]

open UrlHost

theorem not_bracket_mem_beforeColon {h : WrittenHost} (hh : h.isBracketed = true) :
    ']' ∉ Text.lower h.beforeColon := by
  cases h with
  | name | ipv4 => cases hh
  | ipv6 address isLiteral =>
    obtain ⟨front, back, rfl⟩ := List.append_of_mem (colon_mem_of_isIpv6Literal isLiteral)
    have hread :
        (WrittenHost.ipv6 _ isLiteral).beforeColon = ('[' :: front).takeWhile (· != ':') := by
      rw [WrittenHost.beforeColon, WrittenHost.text, List.append_assoc, List.cons_append,
        ← List.cons_append, takeWhile_append_cons rfl]
    rw [hread, Text.lower]
    intro hmem
    obtain ⟨c, hc, hbracket⟩ := List.mem_map.1 hmem
    obtain rfl := (Text.toLower_eq_iff (by decide)).1 hbracket
    rcases List.mem_cons.1 ((List.takeWhile_sublist _).subset hc) with hc | hc
    · exact absurd hc (by decide)
    · exact absurd (isAddressChar_of_isIpv6Literal isLiteral ']' (by simp [hc])) (by decide)

/-- Nothing is of one site with an address in brackets and also with what is read of it: the address
ends in a bracket, and what is read of it does not. -/
theorem not_isSameSite_beforeColon {h : WrittenHost} (hh : h.isBracketed = true) {page : List Char}
    (hhost : IsSameSite h.text page) : ¬ IsSameSite h.beforeColon page := by
  intro hread
  have hlast : (Text.lower h.text).getLast? = some ']' := by
    cases h with
    | name | ipv4 => cases hh
    | ipv6 address =>
      rw [WrittenHost.text, ← List.cons_append, Text.lower_append]
      exact List.getLast?_concat
  by_cases hpage : page = []
  · subst hpage
    rcases hhost with heq | ⟨front, heq⟩ | ⟨front, heq⟩
    · rw [heq] at hlast
      cases hlast
    · rw [heq] at hlast
      cases hlast.symm.trans List.getLast?_concat
    · cases front <;> cases heq
  · rw [hhost.getLast?_eq h.text_ne_nil hpage,
      ← hread.getLast?_eq h.beforeColon_ne_nil hpage] at hlast
    exact not_bracket_mem_beforeColon hh (List.mem_of_getLast? hlast)

theorem loadTypes_ofPage_iff (url page : String) (types : ResourceTypes) :
    (ofPage url page types).loadTypes = .single .firstParty ↔ loadType url page = .firstParty := by
  change WordSet.single (loadType url page) = _ ↔ _
  cases loadType url page <;> decide

/-- The party of a request follows the hosts for every URL whose host is no address in brackets. Of
such an address only the part before its first colon is read; then the party still is the right one
if the page is neither of the site of the address nor of that of this part. -/
theorem firstParty_written_iff (u : WrittenUrl) (page : String) (types : ResourceTypes) :
    (ofUrl? u.text = some u.host.text ↔ u.host.isBracketed = false) ∧
      (((ofPage (String.ofList u.text) page types).loadTypes = .single .firstParty ↔
          IsSameSite u.host.text page.toList) ↔
        (u.host.isBracketed = true → ¬ IsSameSite u.host.text page.toList ∧
          ¬ IsSameSite u.host.beforeColon page.toList)) := by
  have hread : (ofPage (String.ofList u.text) page types).loadTypes = .single .firstParty ↔
      IsSameSite u.host.beforeColon page.toList := by
    rw [loadTypes_ofPage_iff, loadType, String.toList_ofList, u.ofUrl?_text, ← sameSite_iff]
    simp
  rw [u.ofUrl?_text, Option.some_inj, WrittenHost.beforeColon_eq_text_iff, hread]
  refine ⟨Iff.rfl, ?_⟩
  cases hh : u.host.isBracketed with
  | false => simp [WrittenHost.beforeColon_of_not_bracketed hh]
  | true =>
    constructor
    · intro hsame _
      exact ⟨fun h => not_isSameSite_beforeColon hh h (hsame.2 h),
        fun h => not_isSameSite_beforeColon hh (hsame.1 h) h⟩
    · intro h
      obtain ⟨hhost, hread⟩ := h rfl
      exact iff_of_false hread hhost

end Request

end ContentRules
