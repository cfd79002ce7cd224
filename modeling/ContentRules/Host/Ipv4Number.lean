import ContentRules.Host.IpLiteral
import ContentRules.Text.Pieces

/-!
Hosts that are read as IPv4 addresses. A host whose last part is a number is an address of one to
four parts, each decimal, octal after a `0` or hexadecimal after `0x`; the last part fills all
octets that the others leave. An address is written as four decimal octets.
-/

namespace ContentRules.Host

/-- The number that one part writes, if it is one. -/
def partNumber? (s : List Char) : Option Nat :=
  match s with
  | [] => none
  | '0' :: 'x' :: r => if r.all Text.isHexDigit then some (Text.number 16 r) else none
  | '0' :: 'X' :: r => if r.all Text.isHexDigit then some (Text.number 16 r) else none
  | '0' :: c :: r =>
    if (c :: r).all fun d => '0' ≤ d && d ≤ '7' then some (Text.number 8 (c :: r)) else none
  | _ => if s.all Char.isDigit then some (Text.number 10 s) else none

/-- The parts of a host; a point at the end adds none. -/
def hostParts (s : List Char) : List (List Char) :=
  let parts := Text.pieces (· == '.') s
  if parts.getLast? = some [] then parts.dropLast else parts

/-- The last part of the host is a number, so the host must be an IPv4 address. -/
def endsInNumber (s : List Char) : Bool :=
  match (hostParts s).getLast? with
  | none => false
  | some part => (!part.isEmpty && part.all Char.isDigit) || (partNumber? part).isSome

/-- The address of four octets as one number below `2 ^ 32`. -/
def ipv4? (s : List Char) : Option Nat := do
  let parts := hostParts s
  if 4 < parts.length then none
  let numbers ← parts.mapM partNumber?
  let last ← numbers.getLast?
  let octets := numbers.dropLast
  if Nat.pow 256 (4 - octets.length) ≤ last then none
  if octets.any (255 < ·) then none
  return (octets.zipIdx.foldl (fun n (octet, i) => n + octet * Nat.pow 256 (3 - i)) last)

/-- The usual text of an address. -/
def ipv4Chars (address : Nat) : List Char :=
  ['.'].intercalate
    ([address / 0x1000000 % 256, address / 0x10000 % 256, address / 0x100 % 256, address % 256].map
      fun octet => (toString octet).toList)

end ContentRules.Host
