import ContentRules.Text.Ascii

/-!
Which pages an entry applies to. A domain value names one host; with a star in front it names the
host and everything below it. Hosts are compared without regard to the case of ASCII letters.
-/

namespace ContentRules

/-- The host is the domain or lies below it. -/
def Domain.covers (domain host : List Char) : Bool :=
  Text.sameIgnoringCase host domain || ('.' :: Text.lower domain).isSuffixOf (Text.lower host)

/-- A value of a condition: one host, or one with everything below it. -/
structure DomainValue where
  host : List Char
  withSubdomains : Bool := false
  deriving DecidableEq, Repr

namespace DomainValue

/-- The value that a text writes. -/
def ofText (s : String) : DomainValue :=
  match s.toList with
  | '*' :: host => ⟨host, true⟩
  | host => ⟨host, false⟩

/-- The text of a value. -/
def text (v : DomainValue) : String :=
  String.ofList (if v.withSubdomains then '*' :: v.host else v.host)

instance : Hashable DomainValue := ⟨fun v => hash v.text⟩

/-- The value admits a page of the given host. -/
def admits (v : DomainValue) (host : List Char) : Bool :=
  if v.withSubdomains then Domain.covers v.host host else Text.sameIgnoringCase host v.host

theorem text_ofText (s : String) : (ofText s).text = s := by
  unfold ofText
  split
  · rename_i host h
    simp [text, ← h]
  · simp [text]

end DomainValue

/-- The condition of an entry on the host of the page. -/
inductive DomainCondition where
  | only (values : List DomainValue)
  | except (values : List DomainValue)
  deriving DecidableEq, Hashable, Repr

namespace DomainCondition

/-- The values of the condition. -/
def values : DomainCondition → List DomainValue
  | only values => values
  | except values => values

/-- Only the pages of the given values; no values, no condition. -/
def only? (values : List DomainValue) : Option DomainCondition :=
  if values.isEmpty then none else some (only values)

/-- All but the pages of the given values; no values, no condition. -/
def except? (values : List DomainValue) : Option DomainCondition :=
  if values.isEmpty then none else some (except values)

/-- The condition holds for a page. -/
def admits (host : List Char) : DomainCondition → Bool
  | only values => values.any (·.admits host)
  | except values => !values.any (·.admits host)

/-- A page that an optional condition admits; without a condition, any page. -/
def admits? (condition : Option DomainCondition) (host : List Char) : Bool :=
  (condition.map (admits host)).getD true

end DomainCondition

end ContentRules
