import ContentRules.Host.Ipv4Number
import ContentRules.Host.Label
import ContentRules.Text.Blank
import ContentRules.Unicode.FinalSigma

/-!
The host names of filter rules, in the form in which browsers compare them: ASCII, letters small,
labels beyond ASCII in Punycode, and IPv4 addresses as four decimal octets.
-/

namespace ContentRules.Host

/-- The host in ASCII, if every label of it is valid. -/
def toAscii? (s : List Char) : Option (List Char) := do
  let mapped ← Mapping.map? s
  let labels ← (Text.pieces (· == '.') mapped).mapM Label.decode?
  if !labels.all Label.isValid then none
  if labels.any (·.any Label.isRightToLeft) && !labels.all Label.keepsDirection then none
  let encoded ← labels.mapM Label.encode?
  return ['.'].intercalate encoded

/-- The host as a browser reads it: a name, or an address if the last part is a number. -/
def read? (s : List Char) : Option (List Char) := do
  let name ← toAscii? s
  if name.isEmpty then none
  if endsInNumber name then return ipv4Chars (← ipv4? name)
  return name

/-- The text without the points at its two ends. -/
def trimPoints (s : List Char) : List Char :=
  ((s.dropWhile (· == '.')).reverse.dropWhile (· == '.')).reverse

/-- ASCII characters of a host as rules write it; every other character is left to the mapping. -/
def mayBeWritten (c : Char) : Bool :=
  128 ≤ c.toNat || c.isAlphanum || c == '.' || c == '-' || c == '_'

/-- The host that a rule names, blanks and points around it aside. -/
def normalize? (s : List Char) : Option (List Char) :=
  let bare := trimPoints (Text.trim s)
  if bare.isEmpty || !bare.all mayBeWritten then none
  else read? (Unicode.smallSigmas [] bare)

end ContentRules.Host
