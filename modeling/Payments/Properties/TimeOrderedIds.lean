import Mathlib.Tactic.Ring
import Mathlib.Tactic.NormNum
import Payments.Domain.Uuid

namespace Payments
namespace Properties

open Domain

/-!
# Identifiers are ordered by the time of their creation

The five fields of an identifier do not overlap, so each of them can be read
back, and the time decides before anything else which of two identifiers is
the smaller one.  A text of hexadecimal digits, hyphens at the same places,
keeps this order.
-/

variable {milliseconds milliseconds' : Nat} {rand_a rand_a' : RandomBits 12} {rand_b rand_b' : RandomBits 62}

/-! ## The fields -/

/-- The fields stand side by side. -/
theorem uuid7_fields : uuid7 milliseconds rand_a rand_b =
    milliseconds % 2 ^ 48 * 2 ^ 80 + 7 * 2 ^ 76 + rand_a.val * 2 ^ 64 + 2 * 2 ^ 62 + rand_b.val := by
  have time : milliseconds &&& 0xFFFFFFFFFFFF = milliseconds % 2 ^ 48 := Nat.and_two_pow_sub_one_eq_mod _ 48
  have a := rand_a.isLt
  have b := rand_b.isLt
  have beside : forall (high low count : Nat), low < 2 ^ count -> high <<< count ||| low = high * 2 ^ count + low := by
    intro high low count small
    rw [← Nat.shiftLeft_add_eq_or_of_lt small, Nat.shiftLeft_eq]
  have versioned : (milliseconds % 2 ^ 48) <<< 80 ||| 0x7 <<< 76 = ((milliseconds % 2 ^ 48) * 2 ^ 4 + 7) <<< 76 := by
    rw [beside _ _ 80 (by decide), Nat.shiftLeft_eq, Nat.shiftLeft_eq]
    ring
  have randomized : ((milliseconds % 2 ^ 48) * 2 ^ 4 + 7) <<< 76 ||| rand_a.val <<< 64 =
      (((milliseconds % 2 ^ 48) * 2 ^ 4 + 7) * 2 ^ 12 + rand_a.val) <<< 64 := by
    have small : rand_a.val <<< 64 < 2 ^ 76 := by
      rw [Nat.shiftLeft_eq]
      omega
    rw [beside _ _ 76 small, Nat.shiftLeft_eq, Nat.shiftLeft_eq]
    ring
  have variants : (((milliseconds % 2 ^ 48) * 2 ^ 4 + 7) * 2 ^ 12 + rand_a.val) <<< 64 ||| 0x2 <<< 62 =
      ((((milliseconds % 2 ^ 48) * 2 ^ 4 + 7) * 2 ^ 12 + rand_a.val) * 2 ^ 2 + 2) <<< 62 := by
    rw [beside _ _ 64 (by decide), Nat.shiftLeft_eq, Nat.shiftLeft_eq]
    ring
  rw [uuid7, time, versioned, randomized, variants, beside _ _ 62 b]
  ring

/-! ## The order of texts -/

/-- Two texts whose first parts have the same length. -/
theorem append_lt_append {first second : List Char} (rest rest' : List Char) (same : first.length = second.length) :
    first ++ rest < second ++ rest' <-> first < second ∨ first = second ∧ rest < rest' := by
  induction first generalizing second with
  | nil =>
      cases List.length_eq_zero_iff.mp same.symm
      simp
  | cons head tail inductionHypothesis =>
      cases second with
      | nil => cases same
      | cons head' tail' =>
          have tails := inductionHypothesis (Nat.succ.inj same)
          simp only [List.cons_append, List.cons_lt_cons_iff, tails, List.cons.injEq]
          tauto

/-- Digits, a hyphen after each of some first groups. -/
def hyphenated : List Nat -> List Char -> List Char
  | [], digits => digits
  | size :: sizes, digits => digits.take size ++ '-' :: hyphenated sizes (digits.drop size)

/-- Hyphens at the same places do not change the order. -/
theorem hyphenated_lt (sizes : List Nat) {digits digits' : List Char} (same : digits.length = digits'.length) :
    hyphenated sizes digits < hyphenated sizes digits' <-> digits < digits' := by
  induction sizes generalizing digits digits' with
  | nil => exact Iff.rfl
  | cons size sizes inductionHypothesis =>
      have taken : (digits.take size).length = (digits'.take size).length := by
        rw [List.length_take, List.length_take, same]
      have dropped : (digits.drop size).length = (digits'.drop size).length := by
        rw [List.length_drop, List.length_drop, same]
      have whole := append_lt_append (digits.drop size) (digits'.drop size) taken
      rw [List.take_append_drop, List.take_append_drop] at whole
      rw [hyphenated, hyphenated, append_lt_append _ _ taken, List.cons_lt_cons_iff, inductionHypothesis dropped, whole]
      simp

theorem hex_length (count value : Nat) : (hex count value).length = count := by
  induction count with
  | zero => rfl
  | succ count inductionHypothesis => rw [hex, List.length_cons, inductionHypothesis]

theorem hex_digit_lt {digit digit' : Nat} (less : digit < digit') (small : digit' < 16) :
    hex_digit digit < hex_digit digit' := by
  have digits : forall smaller larger : Fin 16, smaller < larger -> hex_digit smaller < hex_digit larger := by decide
  exact digits ⟨digit, Nat.lt_trans less small⟩ ⟨digit', small⟩ less

/-- The digits are compared as the numbers they stand for. -/
theorem hex_lt {count value value' : Nat} (less : value % 16 ^ count < value' % 16 ^ count) :
    hex count value < hex count value' := by
  induction count with
  | zero =>
      rw [Nat.pow_zero, Nat.mod_one, Nat.mod_one] at less
      cases less
  | succ count inductionHypothesis =>
      rw [Nat.mod_pow_succ, Nat.mod_pow_succ] at less
      have low := Nat.mod_lt value' (Nat.pow_pos (n := count) (show 0 < 16 by decide))
      rw [hex, hex, List.cons_lt_cons_iff]
      rcases Nat.lt_trichotomy (value / 16 ^ count % 16) (value' / 16 ^ count % 16) with digit | digit | digit
      · exact .inl (hex_digit_lt digit (Nat.mod_lt _ (by decide)))
      · rw [digit] at less ⊢
        exact .inr ⟨rfl, inductionHypothesis (Nat.lt_of_add_lt_add_right less)⟩
      · have higher : 16 ^ count * (value' / 16 ^ count % 16 + 1) ≤ 16 ^ count * (value / 16 ^ count % 16) :=
          Nat.mul_le_mul_left _ digit
        rw [Nat.mul_add, Nat.mul_one] at higher
        omega

theorem uuid_text_eq (id : UUID) : uuid_text id = String.ofList (hyphenated [8, 4, 4, 4] (hex 32 id)) := by
  have whole : ((hex 32 id).drop 20).take 12 = (hex 32 id).drop 20 :=
    List.take_of_length_le (by rw [List.length_drop, hex_length])
  simp only [uuid_text, whole, hyphenated, List.drop_drop, List.drop_zero, List.append_assoc, List.cons_append]

/-- The texts of identifiers are in the order of the identifiers. -/
theorem uuid_text_lt {id id' : UUID} (less : id < id') (small : id' < 2 ^ 128) : uuid_text id < uuid_text id' := by
  rw [uuid_text_eq, uuid_text_eq, String.lt_iff, String.toList_ofList, String.toList_ofList,
    hyphenated_lt _ ((hex_length 32 id).trans (hex_length 32 id').symm)]
  have pow : 16 ^ 32 = 2 ^ 128 := by norm_num
  refine hex_lt ?_
  rw [pow, Nat.mod_eq_of_lt small, Nat.mod_eq_of_lt (Nat.lt_trans less small)]
  exact less

/-! ## What an identifier tells -/

/-- The fields of an identifier, as its layout names them. -/
structure Layout (id : UUID) (timestamp_ms : Nat) (rand_a : RandomBits 12) (rand_b : RandomBits 62) : Prop where
  sized : id < 2 ^ 128
  timestamp : id / 2 ^ 80 = timestamp_ms
  version : id / 2 ^ 76 % 2 ^ 4 = 7
  first_bits : id / 2 ^ 64 % 2 ^ 12 = rand_a.val
  variants : id / 2 ^ 62 % 2 ^ 2 = 2
  last_bits : id % 2 ^ 62 = rand_b.val

/-- What stands above a field of `count` bits. -/
theorem above_field {low count : Nat} (high : Nat) (small : low < 2 ^ count) :
    (high * 2 ^ count + low) / 2 ^ count = high := by
  rw [Nat.add_comm, Nat.add_mul_div_right low high (Nat.two_pow_pos count), Nat.div_eq_of_lt small, Nat.zero_add]

theorem within_field {low count : Nat} (high : Nat) (small : low < 2 ^ count) :
    (high * 2 ^ count + low) % 2 ^ count = low := by
  rw [Nat.add_comm, Nat.add_mul_mod_self_right, Nat.mod_eq_of_lt small]

theorem uuid7_layout (milliseconds : Nat) (rand_a : RandomBits 12) (rand_b : RandomBits 62) :
    Layout (uuid7 milliseconds rand_a rand_b) (milliseconds % 2 ^ 48) rand_a rand_b := by
  have a := rand_a.isLt
  have b := rand_b.isLt
  have time := Nat.mod_lt milliseconds (show 0 < 2 ^ 48 by decide)
  have nested : uuid7 milliseconds rand_a rand_b =
      (((milliseconds % 2 ^ 48 * 2 ^ 4 + 7) * 2 ^ 12 + rand_a.val) * 2 ^ 2 + 2) * 2 ^ 62 + rand_b.val := by
    rw [uuid7_fields]
    ring
  generalize uuid7 milliseconds rand_a rand_b = id at nested
  generalize milliseconds % 2 ^ 48 = timestamp at time nested
  have lower : id / 2 ^ 62 = ((timestamp * 2 ^ 4 + 7) * 2 ^ 12 + rand_a.val) * 2 ^ 2 + 2 := by
    rw [nested]
    exact above_field _ b
  have middle : id / 2 ^ 64 = (timestamp * 2 ^ 4 + 7) * 2 ^ 12 + rand_a.val := by
    rw [show 2 ^ 64 = 2 ^ 62 * 2 ^ 2 from rfl, ← Nat.div_div_eq_div_mul, lower]
    exact above_field _ (by decide)
  have upper : id / 2 ^ 76 = timestamp * 2 ^ 4 + 7 := by
    rw [show 2 ^ 76 = 2 ^ 64 * 2 ^ 12 from rfl, ← Nat.div_div_eq_div_mul, middle]
    exact above_field _ a
  have top : id / 2 ^ 80 = timestamp := by
    rw [show 2 ^ 80 = 2 ^ 76 * 2 ^ 4 from rfl, ← Nat.div_div_eq_div_mul, upper]
    exact above_field _ (by decide)
  constructor
  · have small : id / 2 ^ 80 < 2 ^ 48 := top ▸ time
    exact (Nat.div_lt_iff_lt_mul (Nat.two_pow_pos 80)).mp small
  · exact top
  · rw [upper]
    exact within_field _ (by decide)
  · rw [middle]
    exact within_field _ a
  · rw [lower]
    exact within_field _ (by decide)
  · rw [nested]
    exact within_field _ b

theorem Layout.unique {id : UUID} {timestamp timestamp' : Nat} (layout : Layout id timestamp rand_a rand_b)
    (layout' : Layout id timestamp' rand_a' rand_b') : timestamp = timestamp' ∧ rand_a = rand_a' ∧ rand_b = rand_b' :=
  ⟨layout.timestamp.symm.trans layout'.timestamp, Fin.ext (layout.first_bits.symm.trans layout'.first_bits),
    Fin.ext (layout.last_bits.symm.trans layout'.last_bits)⟩

/-- Different identifiers have different texts. -/
theorem uuid_text_injective {id id' : UUID} (small : id < 2 ^ 128) (small' : id' < 2 ^ 128)
    (same : uuid_text id = uuid_text id') : id = id' := by
  rcases Nat.lt_trichotomy id id' with less | equal | less
  · exact absurd (same ▸ uuid_text_lt less small') (String.lt_irrefl _)
  · exact equal
  · exact absurd (same ▸ uuid_text_lt less small) (String.lt_irrefl _)

/-- Every field of an identifier can be read back, two identifiers are equal
only when time and random bits are, and until the timestamps overflow an
identifier of a later millisecond is the greater one, as a number and as a
text. -/
theorem uuid7_ordered (milliseconds milliseconds' : Nat) (rand_a rand_a' : RandomBits 12)
    (rand_b rand_b' : RandomBits 62) :
    Layout (uuid7 milliseconds rand_a rand_b) (milliseconds % 2 ^ 48) rand_a rand_b ∧
      (uuid_text (uuid7 milliseconds rand_a rand_b) = uuid_text (uuid7 milliseconds' rand_a' rand_b') <->
        milliseconds % 2 ^ 48 = milliseconds' % 2 ^ 48 ∧ rand_a = rand_a' ∧ rand_b = rand_b') ∧
      (milliseconds < milliseconds' -> milliseconds' < 2 ^ 48 ->
        uuid7 milliseconds rand_a rand_b < uuid7 milliseconds' rand_a' rand_b' ∧
          uuid_text (uuid7 milliseconds rand_a rand_b) < uuid_text (uuid7 milliseconds' rand_a' rand_b')) := by
  have layout := uuid7_layout milliseconds rand_a rand_b
  have layout' := uuid7_layout milliseconds' rand_a' rand_b'
  refine ⟨layout, ⟨fun same => ?_, fun same => ?_⟩, fun later fits => ?_⟩
  · have equal := uuid_text_injective layout.sized layout'.sized same
    exact (equal ▸ layout).unique layout'
  · rw [uuid7_fields, uuid7_fields, same.1, same.2.1, same.2.2]
  · have less : uuid7 milliseconds rand_a rand_b < uuid7 milliseconds' rand_a' rand_b' := by
      have times : uuid7 milliseconds rand_a rand_b / 2 ^ 80 < uuid7 milliseconds' rand_a' rand_b' / 2 ^ 80 := by
        rw [layout.timestamp, layout'.timestamp, Nat.mod_eq_of_lt fits, Nat.mod_eq_of_lt (Nat.lt_trans later fits)]
        exact later
      exact Nat.lt_of_div_lt_div times
    exact ⟨less, uuid_text_lt less layout'.sized⟩

/-- The greatest random bits do not outweigh a millisecond. -/
theorem next_millisecond_greater : uuid7 0x17F22E279B0 0xFFF 0x3FFFFFFFFFFFFFFF < uuid7 0x17F22E279B1 0 0 ∧
    uuid_text (uuid7 0x17F22E279B0 0xFFF 0x3FFFFFFFFFFFFFFF) < uuid_text (uuid7 0x17F22E279B1 0 0) :=
  (uuid7_ordered 0x17F22E279B0 0x17F22E279B1 0xFFF 0 0x3FFFFFFFFFFFFFFF 0).2.2 (by decide) (by decide)

end Properties
end Payments
