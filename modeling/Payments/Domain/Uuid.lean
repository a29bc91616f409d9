import Payments.Domain.ValueObjects

namespace Payments
namespace Domain

/-!
# Identifiers that are ordered by time

`uuid7` puts the time in front and fills the rest with random bits.  The text
of an identifier is its 32 hexadecimal digits in five groups.
-/

/-- `secrets.randbits(count)`. -/
abbrev RandomBits (count : Nat) := Fin (2 ^ count)

/-- `milliseconds` is `int(time.time() * 1000)`. -/
def uuid7 (milliseconds : Nat) (rand_a : RandomBits 12) (rand_b : RandomBits 62) : UUID :=
  let timestamp_ms := milliseconds &&& 0xFFFFFFFFFFFF
  timestamp_ms <<< 80 ||| 0x7 <<< 76 ||| rand_a.val <<< 64 ||| 0x2 <<< 62 ||| rand_b.val

def hex_digit (value : Nat) : Char :=
  "0123456789abcdef".toList.getD value '0'

/-- The last `count` hexadecimal digits, the most significant one first. -/
def hex : Nat -> Nat -> List Char
  | 0, _ => []
  | count + 1, value => hex_digit (value / 16 ^ count % 16) :: hex count value

/-- `str(id)`. -/
def uuid_text (id : UUID) : String :=
  let digits := hex 32 id
  let group := fun start size => (digits.drop start).take size
  String.ofList (group 0 8 ++ '-' :: group 8 4 ++ '-' :: group 12 4 ++ '-' :: group 16 4 ++ '-' :: group 20 12)

example : uuid_text (uuid7 0x17F22E279B0 0xCC3 0x18C4DC0C0C07398F) = "017f22e2-79b0-7cc3-98c4-dc0c0c07398f" := by
  decide +kernel

end Domain
end Payments
