import ContentRules.Host.Ipv4Number
import ContentRules.Proofs.Text.Pieces

/-!
The usual text of an IPv4 address: digits and points, which are read as the address again. Main
statement: `ipv4?_ipv4Chars`.
-/

namespace ContentRules.Host

/-- The octets of an address, the highest first. -/
def octets (address : Nat) : List Nat :=
  [address / 0x1000000 % 256, address / 0x10000 % 256, address / 0x100 % 256, address % 256]

theorem lt_of_mem_octets {address n : Nat} (h : n ∈ octets address) : n < 256 := by
  have hall : ∀ n ∈ octets address, n < 256 := by simp [octets, Nat.mod_lt]
  exact hall n h

/-- The text of an octet holds digits only, and they write the octet. -/
theorem octet_digits :
    ∀ n < 256, Nat.toDigits 10 n ≠ [] ∧ (Nat.toDigits 10 n).all Char.isDigit = true ∧
    partNumber? (Nat.toDigits 10 n) = some n := by decide +kernel

theorem pieces_ipv4Chars (address : Nat) :
    Text.pieces (· == '.') (ipv4Chars address) = (octets address).map (Nat.toDigits 10) := by
  have htext : (fun octet : Nat => (toString octet).toList) = Nat.toDigits 10 := by
    funext octet
    rw [Nat.toString_eq_repr, Nat.repr_eq_ofList_toDigits, String.toList_ofList]
  rw [ipv4Chars, htext, ← octets]
  refine Text.pieces_intercalate (by simp [octets]) fun s hs hdot => ?_
  obtain ⟨n, hn, rfl⟩ := List.mem_map.1 hs
  cases List.all_eq_true.1 (octet_digits n (lt_of_mem_octets hn)).2.1 '.' hdot

theorem isDigit_of_mem_ipv4Chars (address : Nat) :
    ∀ c ∈ ipv4Chars address, c = '.' ∨ c.isDigit = true := by
  refine @Text.forall_mem_of_pieces (· == '.') _ _ (fun c hc => .inl (by simpa using hc)) ?_
  intro piece hpiece c hc
  rw [pieces_ipv4Chars] at hpiece
  obtain ⟨n, hn, rfl⟩ := List.mem_map.1 hpiece
  exact .inr (List.all_eq_true.1 (octet_digits n (lt_of_mem_octets hn)).2.1 c hc)

theorem hostParts_ipv4Chars (address : Nat) :
    hostParts (ipv4Chars address) = (octets address).map (Nat.toDigits 10) := by
  have hlast : ((octets address).map (Nat.toDigits 10)).getLast? ≠ some [] := by simp [octets]
  rw [hostParts, pieces_ipv4Chars, if_neg hlast]

theorem endsInNumber_ipv4Chars (address : Nat) : endsInNumber (ipv4Chars address) = true := by
  have hnumber := (octet_digits (address % 256) (Nat.mod_lt _ (by decide))).2.2
  rw [endsInNumber, hostParts_ipv4Chars]
  simp [octets, hnumber]

/-- The text of a number is read as the address in its lowest 32 bits. -/
theorem ipv4?_ipv4Chars (address : Nat) :
    ipv4? (ipv4Chars address) = some (address % 0x100000000) := by
  have hnumber (n : Nat) : partNumber? (Nat.toDigits 10 (n % 256)) = some (n % 256) :=
    (octet_digits (n % 256) (Nat.mod_lt _ (by decide))).2.2
  rw [ipv4?, hostParts_ipv4Chars]
  simp [octets, hnumber]
  omega

/-- Only the lowest 32 bits are written. -/
theorem ipv4Chars_mod (address : Nat) : ipv4Chars (address % 0x100000000) = ipv4Chars address := by
  have hoctets : octets (address % 0x100000000) = octets address := by
    simp only [octets, List.cons.injEq, and_true]
    omega
  rw [ipv4Chars, ipv4Chars, ← octets, ← octets, hoctets]

end ContentRules.Host
