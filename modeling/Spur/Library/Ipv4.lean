import Spur.Library.Fallible
import Spur.Library.Text

/-! Version 4 addresses as numbers below `2 ^ 32`: dotted text, its reading, and prefix blocks. -/
namespace Spur.Library.Ipv4
open Spur.Library.Text

def octets (ip : Nat) : List Nat := [ip / 2 ^ 24 % 256,ip / 2 ^ 16 % 256,ip / 2 ^ 8 % 256,ip % 256]

def format (ip : Nat) : List Char := ['.'].intercalate ((octets ip).map decimal)

def parseOctet (cs : List Char) : Option Nat :=
  if cs.all isDigit && cs.length ≤ 3 && (cs.length == 1 || cs.head? != some '0') then parseUnsigned 256 cs else none

def parse (cs : List Char) : Option Nat :=
  match (cs.splitOn '.').mapM parseOctet with
  | some [a,b,c,d] => some (((a * 256 + b) * 256 + c) * 256 + d)
  | _ => none

theorem parseOctet_decimal {octet : Nat} (small : octet < 256) : parseOctet (decimal octet) = some octet := by
  revert octet
  decide +kernel

theorem parseOctet_lt {cs : List Char} {octet : Nat} (read : parseOctet cs = some octet) : octet < 256 :=
  parseUnsigned_lt (Option.ite_none_right_eq_some.mp read).2

theorem notMem_decimal {n : Nat} {c : Char} (other : c.isDigit = false) : c ∉ decimal n := by
  intro listed
  have digit := Nat.isDigit_of_mem_toDigits (by decide) (by decide) listed
  rw [other] at digit
  cases digit

theorem parse_format {ip : Nat} (small : ip < 2 ^ 32) : parse (format ip) = some ip := by
  have pieces : (format ip).splitOn '.' = (octets ip).map decimal := by
    refine List.splitOn_intercalate '.' ?_ (by simp [octets])
    intro piece listed
    obtain ⟨octet,-,rfl⟩ := List.mem_map.mp listed
    exact notMem_decimal (by decide)
  have read : ((octets ip).map decimal).mapM parseOctet = some (octets ip) := by
    simp [octets,parseOctet_decimal,Nat.mod_lt]
  unfold parse
  rw [pieces,read]
  simp only [octets]
  congr 1
  omega

theorem notMem_format {ip : Nat} {c : Char} (other : c.isDigit = false) (noDot : c ≠ '.') : c ∉ format ip := by
  intro listed
  rcases mem_intercalate listed with dot | ⟨piece,inside,here⟩
  · exact noDot dot
  · obtain ⟨octet,-,rfl⟩ := List.mem_map.mp inside
    exact notMem_decimal other here

theorem parse_lt {cs : List Char} {ip : Nat} (read : parse cs = some ip) : ip < 2 ^ 32 := by
  unfold parse at read
  split at read
  next a b c d pieces =>
    have each (octet : Nat) (listed : octet ∈ [a,b,c,d]) : octet < 256 := by
      obtain ⟨piece,-,from_⟩ := Fallible.exists_of_mem_mapM pieces listed
      exact parseOctet_lt from_
    have first := each a (by simp)
    have second := each b (by simp)
    have third := each c (by simp)
    have fourth := each d (by simp)
    obtain rfl := Option.some.inj read
    omega
  next => cases read

theorem block_end_le {base len : Nat} (small : base < 2 ^ 32) (aligned : base % 2 ^ (32 - len) = 0) :
    base + 2 ^ (32 - len) ≤ 2 ^ 32 := by
  have divides : 2 ^ (32 - len) ∣ 2 ^ 32 := Nat.pow_dvd_pow 2 (Nat.sub_le 32 len)
  obtain ⟨blocks,whole⟩ := divides
  obtain ⟨block,here⟩ := Nat.dvd_of_mod_eq_zero aligned
  rw [whole,here] at small ⊢
  have before : block < blocks := Nat.lt_of_mul_lt_mul_left small
  calc 2 ^ (32 - len) * block + 2 ^ (32 - len) = 2 ^ (32 - len) * (block + 1) := by ring
    _ ≤ 2 ^ (32 - len) * blocks := Nat.mul_le_mul_left _ before

end Spur.Library.Ipv4
