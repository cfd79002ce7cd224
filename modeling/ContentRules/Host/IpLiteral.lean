import ContentRules.Text.Digit
import ContentRules.Text.Pieces

/-!
Texts that write an IP address in full: four decimal octets, or eight groups of hexadecimal digits
of which one run may be left out as `::` and the last two may be written as octets.
-/

namespace ContentRules.Host

/-- An octet in decimal, without leading zeros. -/
def isOctet (s : List Char) : Bool :=
  match s with
  | [a] => a.isDigit
  | [a, b] => a.isDigit && b.isDigit && a != '0'
  | [a, b, c] =>
    a.isDigit && b.isDigit && c.isDigit && a != '0' &&
      (a.toNat - 48) * 100 + (b.toNat - 48) * 10 + (c.toNat - 48) ≤ 255
  | _ => false

/-- Four octets with points between them. -/
def isIpv4Literal (s : List Char) : Bool :=
  let parts := Text.pieces (· == '.') s
  parts.length == 4 && parts.all isOctet

/-- One to four hexadecimal digits. -/
def isGroup (s : List Char) : Bool := 1 ≤ s.length && s.length ≤ 4 && s.all Text.isHexDigit

/-- The number of groups that colon-separated parts stand for. Octets stand for two and may come
last only. -/
def groupCount? : List (List Char) → Option Nat
  | [] => some 0
  | [p] => if isGroup p then some 1 else if isIpv4Literal p then some 2 else none
  | p :: ps => if isGroup p then (groupCount? ps).map (· + 1) else none

def colonParts (s : List Char) : List (List Char) :=
  if s.isEmpty then [] else Text.pieces (· == ':') s

/-- Eight groups, or fewer with one `::` for the groups left out. Before the `::` no octets
stand. -/
def isIpv6Literal (s : List Char) : Bool :=
  match Text.cutAt [':', ':'] s with
  | none => groupCount? (colonParts s) == some 8
  | some (head, tail) =>
    (colonParts head).all isGroup &&
      match groupCount? (colonParts tail) with
      | some n => (colonParts head).length + n ≤ 7
      | none => false

/-- The text is an IP address of either kind. -/
def isIpLiteral (s : List Char) : Bool := isIpv4Literal s || isIpv6Literal s

end ContentRules.Host
