import ContentRules.Proofs.Filter.NetworkLines
import ContentRules.Proofs.Filter.OptionStatements
import ContentRules.Proofs.Filter.RuleLines
import ContentRules.Proofs.Host.Name
import ContentRules.Proofs.Pattern.Hosts

/-!
The sites that the rule of a line names: those of its lists, and the host of a line of a hosts file.
Each is the normal form of a part of the line. Main statement: `namesSite_normalForm`.
-/

namespace ContentRules

/-! ## Lists of sites -/

namespace DomainList

/-- The site is the normal form of a part of a text. -/
def NamedIn (s : List Char) (site : String) : Prop :=
  ∃ text, text <:+: s ∧ Host.normalize? text = some site.toList

/-- All sites of the list are named in a text. -/
structure AllNamedIn (s : List Char) (l : DomainList) : Prop where
  permitted : ∀ site ∈ l.permitted, NamedIn s site
  restricted : ∀ site ∈ l.restricted, NamedIn s site

variable {s t : List Char} {site : String} {l m : DomainList}

theorem NamedIn.mono (h : NamedIn s site) (hst : s <:+: t) : NamedIn t site := by
  obtain ⟨text, htext, hsite⟩ := h
  exact ⟨text, htext.trans hst, hsite⟩

theorem AllNamedIn.mono (h : AllNamedIn s l) (hst : s <:+: t) : AllNamedIn t l :=
  ⟨fun site hsite => (h.permitted site hsite).mono hst, fun site hsite =>
    (h.restricted site hsite).mono hst⟩

theorem allNamedIn_nil (s : List Char) : AllNamedIn s {} := ⟨nofun, nofun⟩

theorem AllNamedIn.append (hl : AllNamedIn s l) (hm : AllNamedIn s m) :
    AllNamedIn s ⟨l.permitted ++ m.permitted, l.restricted ++ m.restricted⟩ :=
  ⟨List.forall_mem_append.2 ⟨hl.permitted, hm.permitted⟩,
    List.forall_mem_append.2 ⟨hl.restricted, hm.restricted⟩⟩

theorem namedIn_of_readSite (h : readSite s = .ok site) : NamedIn s site := by
  unfold readSite at h
  split at h
  · rename_i host hhost
    cases h
    exact ⟨s, List.infix_refl s, by rw [hhost, String.toList_ofList]⟩
  · cases h

theorem mem_addOnce {sites : List String} {other : String} (h : other ∈ addOnce site sites) :
    other = site ∨ other ∈ sites := by
  unfold addOnce at h
  split at h
  · exact .inr h
  · exact (List.mem_append.1 h).symm.imp List.mem_singleton.1 id

/-- One piece more. -/
theorem AllNamedIn.addPiece {piece : List Char} (hl : AllNamedIn s l) (hpiece : piece <:+: s)
    (h : addPiece l piece = .ok m) : AllNamedIn s m := by
  have htrim : Text.trim piece <:+: s := (Text.isInfix_trim piece).trans hpiece
  have hadd {site : String} {text : List Char} {sites : List String} (htext : text <:+: s)
      (hsite : readSite text = .ok site) (hsites : ∀ other ∈ sites, NamedIn s other) :
      ∀ other ∈ addOnce site sites, NamedIn s other := by
    intro other hother
    rcases mem_addOnce hother with rfl | hother
    · exact (namedIn_of_readSite hsite).mono htext
    · exact hsites other hother
  unfold DomainList.addPiece at h
  split at h
  · cases h
    exact hl
  · rename_i text hcut
    rw [hcut] at htrim
    obtain ⟨site, hsite, h⟩ := bind_eq_ok.1 h
    cases h
    exact ⟨hl.permitted, hadd ((List.suffix_cons '~' text).isInfix.trans htrim) hsite hl.restricted⟩
  · obtain ⟨site, hsite, h⟩ := bind_eq_ok.1 h
    cases h
    exact ⟨hadd htrim hsite hl.permitted, hl.restricted⟩

theorem AllNamedIn.foldlM {pieces : List (List Char)} (hl : AllNamedIn s l)
    (hpieces : ∀ piece ∈ pieces, piece <:+: s) (h : pieces.foldlM DomainList.addPiece l = .ok m) :
    AllNamedIn s m := by
  induction pieces generalizing l with
  | nil =>
    cases h
    exact hl
  | cons piece pieces ih =>
    obtain ⟨hpiece, hpieces⟩ := List.forall_mem_cons.1 hpieces
    obtain ⟨l', hadd, h⟩ := bind_eq_ok.1 h
    exact ih (hl.addPiece hpiece hadd) hpieces h

theorem allNamedIn_of_read {separator : Char} (h : DomainList.read separator s = .ok l) :
    AllNamedIn s l :=
  (allNamedIn_nil s).foldlM (fun _ hpiece => Text.infix_of_mem_pieces hpiece) h

end DomainList

open DomainList

/-! ## Options -/

namespace Options

/-- The option that lists sites has the list as its value. -/
theorem Statement.allNamedIn_of_ofOption? {isException : Bool} {option : List Char} {l : DomainList}
    (h : ofOption? isException option = some (.sites l)) : AllNamedIn option l := by
  unfold ofOption? at h
  split at h
  · cases Progress.sites?_of_ofWord? h
  · rename_i name value hcut
    unfold ofValue? at h
    split at h
    · obtain ⟨l', hread, h⟩ := Option.map_eq_some_iff.1 h
      cases h
      obtain ⟨_, -, rfl, -⟩ := Text.cutFirst_eq_some _ _ _ _ hcut
      refine (DomainList.allNamedIn_of_read (toOption_eq_some.1 hread)).mono ?_
      exact ((List.suffix_cons _ value).trans (List.suffix_append _ _)).isInfix
    · split at h <;> cases h

/-- One option more. -/
theorem Progress.allNamedIn_of_add {s piece : List Char} {isException : Bool} {p q : Progress}
    (hp : AllNamedIn s p.domains) (hpiece : piece <:+: s) (h : p.add isException piece = .ok q) :
    AllNamedIn s q.domains := by
  obtain ⟨-, rfl⟩ := add_eq_ok_iff.1 h
  cases hst : Statement.ofOption? isException (Text.trim piece) with
  | none => exact hp
  | some st =>
    cases st with
    | sites l =>
      have hl := Statement.allNamedIn_of_ofOption? hst
      exact hp.append (hl.mono ((Text.isInfix_trim piece).trans hpiece))
    | _ => exact hp

theorem Progress.allNamedIn_of_foldlM {s : List Char} {isException : Bool}
    {pieces : List (List Char)}
    {p q : Progress} (hp : AllNamedIn s p.domains) (hpieces : ∀ piece ∈ pieces, piece <:+: s)
    (h : pieces.foldlM (Progress.add isException) p = .ok q) : AllNamedIn s q.domains := by
  induction pieces generalizing p with
  | nil =>
    cases h
    exact hp
  | cons piece pieces ih =>
    obtain ⟨hpiece, hpieces⟩ := List.forall_mem_cons.1 hpieces
    obtain ⟨p', hadd, h⟩ := bind_eq_ok.1 h
    exact ih (allNamedIn_of_add hp hpiece hadd) hpieces h

theorem allNamedIn_of_read {s : List Char} {isException : Bool} {o : Options} {l : DomainList}
    (h : Options.read isException s = .ok (o, l)) : AllNamedIn s l := by
  obtain ⟨p, hp, h⟩ := bind_eq_ok.1 h
  obtain ⟨types, -, h⟩ := bind_eq_ok.1 h
  cases h
  exact Progress.allNamedIn_of_foldlM (allNamedIn_nil s)
    (fun _ hpiece => Text.infix_of_mem_pieces hpiece) hp

end Options

/-! ## Lines -/

theorem CosmeticRule.prefix_of_findMarker {line sites after : List Char} {m : Marker}
    (h : findMarker line = some (sites, m, after)) : sites <+: line := by
  induction line generalizing sites with
  | nil => cases h
  | cons c line ih =>
    rw [findMarker] at h
    split at h
    · cases h
      exact List.nil_prefix
    · obtain ⟨⟨sites', m', after'⟩, hfind, h⟩ := Option.map_eq_some_iff.1 h
      cases h
      exact List.cons_prefix_cons.2 ⟨rfl, ih hfind⟩

theorem CosmeticRule.allNamedIn_of_read? {line : List Char} {rule : DomainList × RuleBody}
    (h : read? line = .ok (some rule)) : AllNamedIn line rule.1 := by
  unfold read? at h
  split at h
  · cases h
  rename_i sites m after hfind
  split at h
  · cases h
  dsimp only at h
  split at h
  · cases h
  obtain ⟨domains, hdomains, h⟩ := bind_eq_ok.1 h
  obtain ⟨body, -, h⟩ := bind_eq_ok.1 h
  cases h
  exact (DomainList.allNamedIn_of_read hdomains).mono (prefix_of_findMarker hfind).isInfix

namespace NetworkRule

theorem allNamedIn_of_readParts {isException : Bool} {rule : List Char} {domains : DomainList}
    {body : RuleBody}
    (h : readParts isException (splitOptions rule).1 (splitOptions rule).2 = .ok (domains, body)) :
    AllNamedIn rule domains := by
  obtain ⟨o, hoptions, -⟩ := readParts_eq_ok_iff.1 h
  cases hsplit : splitOptions rule with
  | mk pattern options =>
    rw [hsplit] at hoptions
    cases options with
    | none =>
      cases hoptions
      exact allNamedIn_nil rule
    | some options =>
      refine (Options.allNamedIn_of_read hoptions).mono ?_
      rw [eq_append_of_splitOptions hsplit]
      exact (List.suffix_cons '$' options).isInfix.trans (List.suffix_append _ _).isInfix

theorem infix_of_hostsFileHost? {line host : List Char} (h : hostsFileHost? line = some host) :
    host <:+: line := by
  unfold hostsFileHost? at h
  split at h
  · rename_i address _ rest hwords
    split at h
    · cases h
      have hmem : host ∈ Text.words line := by
        rw [hwords]
        exact .tail _ (.head _)
      rw [Text.words_eq] at hmem
      exact Text.infix_of_mem_pieces (List.mem_filter.1 hmem).1
    · cases h
  · cases h

/-- A line of a hosts file blocks its host, whatever else stands on it. -/
theorem read_of_hostsFileHost? {line host : List Char} (h : hostsFileHost? line = some host) :
    read line = (readSite host).map fun site => ({}, .network false ("||" ++ site ++ "^") {}) := by
  unfold read
  rw [h]
  dsimp only
  cases readSite host <;> rfl

theorem allNamedIn_of_read {line : List Char} {rule : DomainList × RuleBody}
    (h : read line = .ok rule) : AllNamedIn line rule.1 := by
  obtain ⟨domains, body⟩ := rule
  cases hhosts : hostsFileHost? line with
  | some host =>
    rw [read_of_hostsFileHost? hhosts] at h
    cases hsite : readSite host with
    | error e =>
      rw [hsite] at h
      cases h
    | ok site =>
      rw [hsite] at h
      cases h
      exact allNamedIn_nil line
  | none =>
    by_cases hline : ['@', '@'] <+: line
    · obtain ⟨rule, rfl⟩ := hline
      have hread := (read_excepts rule).symm.trans h
      refine (allNamedIn_of_readParts hread).mono ?_
      exact (List.dropWhile_suffix Text.isBlank).isInfix.trans
        (List.suffix_append ['@', '@'] rule).isInfix
    · rw [read_blocks hhosts hline] at h
      exact allNamedIn_of_readParts h

end NetworkRule

namespace Rule

theorem allNamedIn_of_read {number : Nat} {line : String} {rule : Rule}
    (h : Rule.read number line = .ok (some rule)) : AllNamedIn line.toList rule.domains := by
  suffices AllNamedIn (Text.trim line.toList) rule.domains from this.mono (Text.isInfix_trim _)
  unfold Rule.read at h
  dsimp only at h
  split at h
  · cases h
  obtain ⟨cosmetic, hcosmetic, h⟩ := bind_eq_ok.1 h
  cases cosmetic with
  | some found =>
    cases h
    exact CosmeticRule.allNamedIn_of_read? hcosmetic
  | none =>
    obtain ⟨found, hread, h⟩ := bind_eq_ok.1 h
    cases h
    exact NetworkRule.allNamedIn_of_read hread

/-- The rule of a line names a site: in its lists or, if the line is one of a hosts file, as the
host that it blocks. -/
inductive NamesSite (line : String) (rule : Rule) (site : String) : Prop
  | permitted (hsite : site ∈ rule.domains.permitted)
  | restricted (hsite : site ∈ rule.domains.restricted)
  | host (hline : (NetworkRule.hostsFileHost? (Text.trim line.toList)).isSome = true)
    (hbody : rule.body = .network false ("||" ++ site ++ "^") {})

/-- The host that a line of a hosts file blocks is named on the line. -/
theorem namedIn_of_hostsFile {number : Nat} {line : String} {rule : Rule} {site : String}
    (h : Rule.read number line = .ok (some rule))
    (hline : (NetworkRule.hostsFileHost? (Text.trim line.toList)).isSome = true)
    (hbody : rule.body = .network false ("||" ++ site ++ "^") {}) : NamedIn line.toList site := by
  obtain ⟨host, hhost⟩ := Option.isSome_iff_exists.1 hline
  rw [FilterList.eq_of_read h, hbody] at h
  obtain ⟨-, -, -, hread⟩ := read_eq_network_iff.1 h
  rw [NetworkRule.read_of_hostsFileHost? hhost] at hread
  cases hsite : readSite host with
  | error e =>
    rw [hsite] at hread
    cases hread
  | ok other =>
    rw [hsite] at hread
    have hother : "||" ++ other ++ "^" = "||" ++ site ++ "^" := by
      injection hread with hread
      injection hread with _ hread
      injection hread
    have hsame : other = site := by
      rw [← String.toList_inj] at hother ⊢
      simpa [String.toList_append] using hother
    rw [← hsame]
    exact (namedIn_of_readSite hsite).mono
      ((NetworkRule.infix_of_hostsFileHost? hhost).trans (Text.isInfix_trim _))

theorem namedIn_of_namesSite {number : Nat} {line : String} {rule : Rule} {site : String}
    (h : Rule.read number line = .ok (some rule)) (hsite : rule.NamesSite line site) :
    NamedIn line.toList site := by
  cases hsite with
  | permitted hsite => exact (allNamedIn_of_read h).permitted site hsite
  | restricted hsite => exact (allNamedIn_of_read h).restricted site hsite
  | host hline hbody => exact namedIn_of_hostsFile h hline hbody

/-- The site is taken for what it is: as a value of a condition it names one host and no host below
it, and the pattern of a hosts file names it literally and nothing else. -/
structure StandsForHost (site : String) : Prop where
  value : DomainValue.ofText site = ⟨site.toList, false⟩
  pattern : Pattern.host? ("||" ++ site ++ "^").toList = some (site.toList, true)

theorem isHostChar_of_isPlainChar {c : Char} (h : Host.isPlainChar c = true) :
    Pattern.isHostChar c = true :=
  Text.forall_ascii (P := fun c => Host.isPlainChar c = true → Pattern.isHostChar c = true)
    (by decide +kernel) (Host.standsInName_of_isPlainChar h).ascii h

theorem standsForHost_of_isPlain {site : String} (h : Host.IsPlain site.toList) :
    StandsForHost site := by
  constructor
  · unfold DomainValue.ofText
    split
    · rename_i host hstar
      have hplain := h.chars '*' (by rw [hstar]; exact .head _)
      cases hplain
    · rfl
  · have hpattern :=
      Pattern.host?_bars h.nonempty fun c hc => isHostChar_of_isPlainChar (h.chars c hc)
    rw [Host.lower_eq_self fun c hc => Host.standsInName_of_isPlainChar (h.chars c hc)] at hpattern
    rw [String.toList_append, String.toList_append]
    exact hpattern

/-- What holds of every site that the rule of a line names. It is a name in ASCII with small
letters; it is a plain host name if and only if what the mapping makes of the text on the line is
clean, and for a text in ASCII it always is; and it is its own normal form if and only if it is a
plain host name whose labels can be read again. -/
theorem namesSite_normalForm {number : Nat} {line : String} {rule : Rule} {site : String}
    (hread : Rule.read number line = .ok (some rule)) (hsite : rule.NamesSite line site) :
    Host.IsAsciiName site.toList ∧
      (Host.IsPlain site.toList → StandsForHost site) ∧
      (Host.normalize? site.toList = some site.toList ↔
        Host.IsPlain site.toList ∧ Host.HasShortLabels site.toList) ∧
      ∃ text mapped, text <:+: line.toList ∧ Host.normalize? text = some site.toList ∧
        Host.Mapping.map? (Host.bareName text) = some mapped ∧
        (Host.IsPlain site.toList ↔
          (∃ address, site.toList = Host.ipv4Chars address) ∨ Host.IsClean mapped) ∧
        ((∀ c ∈ text, c.toNat < 128) → Host.IsPlain site.toList) := by
  obtain ⟨text, htext, hnormal⟩ := namedIn_of_namesSite hread hsite
  obtain ⟨mapped, hmapped, hplain⟩ := Host.isPlain_iff_of_normalize? hnormal
  exact ⟨Host.isAsciiName_of_normalize? hnormal, standsForHost_of_isPlain,
    Host.normalize?_self_iff hnormal, text, mapped, htext, hnormal, hmapped, hplain,
    Host.isPlain_of_ascii hnormal⟩

/-- The full-width forms of signs are mapped to signs that a site may not have been written with. -/
theorem namesSite_normalForm_signs :
    (∃ rule, Rule.read 0 "a！b##.ad" = .ok (some rule) ∧ rule.NamesSite "a！b##.ad" "a!b" ∧
      Host.IsAsciiName "a!b".toList ∧ Host.normalize? "a!b".toList ≠ some "a!b".toList) ∧
    ∃ rule, Rule.read 0 "0.0.0.0 ＊a.com" = .ok (some rule) ∧
      rule.NamesSite "0.0.0.0 ＊a.com" "*a.com" ∧
      Host.IsAsciiName "*a.com".toList ∧
      Host.normalize? "*a.com".toList ≠ some "*a.com".toList := by
  have hmark : Rule.read 0 "a！b##.ad" =
      .ok (some ⟨0, "a！b##.ad", ⟨["a!b"], []⟩, .cosmetic false .elementHiding ".ad"⟩) := by
    decide +kernel
  have hstar : Rule.read 0 "0.0.0.0 ＊a.com" =
      .ok (some ⟨0, "0.0.0.0 ＊a.com", {}, .network false "||*a.com^" {}⟩) := by
    decide +kernel
  refine ⟨⟨_, hmark, .permitted (.head _), ?_⟩, _, hstar,
    .host (by decide +kernel) (by decide +kernel), ?_⟩
  · obtain ⟨hname, -, hself, -⟩ := namesSite_normalForm hmark (.permitted (.head _))
    refine ⟨hname, fun h => ?_⟩
    cases (hself.1 h).1.chars '!' (by decide)
  · obtain ⟨hname, -, hself, -⟩ := @namesSite_normalForm 0 _ _ "*a.com" hstar
      (.host (by decide +kernel) (by decide +kernel))
    refine ⟨hname, fun h => ?_⟩
    cases (hself.1 h).1.chars '*' (by decide)

end Rule

end ContentRules
