import Mathlib.Data.List.TakeWhile
import Payments.Domain.Amounts
import Payments.Domain.Payment

namespace Payments
namespace Properties

open Domain

/-!
# Amounts as texts

A payload shows an amount by `str`.  A stored amount has two decimals, and then
its text is digits, a point and two digits, which the constructor of `Decimal`
reads as the same number again.
-/

variable {character : Char} {digits rest whole fraction : List Char}

/-! ## Digits -/

theorem decimal_digit_of_isDigit (digit : character.isDigit = true) :
    decimal_digit character = some (character.toNat - 48) := by
  have within : 48 ≤ character.toNat ∧ character.toNat ≤ 48 + 9 := by
    have bounds := Char.isDigit_iff_toNat.mp digit
    exact bounds
  have first : decimal_zeros.find? (fun start => decide (start ≤ character.toNat ∧ character.toNat ≤ start + 9)) =
      some 48 := List.find?_cons_of_pos (decide_eq_true within)
  rw [decimal_digit, first]
  rfl

/-- What stands behind the digits does not go on with a digit. -/
def Stops : List Char -> Prop
  | [] => True
  | character :: _ => decimal_digit character = none

theorem leading_digits_of_digits (all : forall character, character ∈ digits -> character.isDigit = true)
    (stops : Stops rest) :
    leading_digits (digits ++ rest) = (digits.map (fun character => character.toNat - 48), rest) := by
  induction digits with
  | nil =>
      cases rest with
      | nil => rfl
      | cons head tail =>
          have stops : decimal_digit head = none := stops
          rw [List.nil_append, leading_digits, stops]
          rfl
  | cons head tail inductionHypothesis =>
      have digit := decimal_digit_of_isDigit (all head List.mem_cons_self)
      have following := inductionHypothesis (fun character listed => all character (List.mem_cons_of_mem _ listed))
      rw [List.cons_append, leading_digits, digit, following]
      rfl

theorem number_of_digits_map (digits : List Char) :
    number_of_digits (digits.map (fun character => character.toNat - 48)) = Nat.ofDigitChars 10 digits 0 := by
  rw [number_of_digits, List.foldl_map, Nat.ofDigitChars_eq_foldl]
  rfl

/-! ## A text of digits with a point -/

/-- The text shows a number without sign and exponent. -/
structure Shown (whole fraction : List Char) : Prop where
  begun : whole ≠ []
  whole : forall character, character ∈ whole -> character.isDigit = true
  fraction : forall character, character ∈ fraction -> character.isDigit = true

namespace Shown

theorem printable (shown : Shown whole fraction) :
    forall character, character ∈ whole ++ '.' :: fraction -> is_space character = false ∧ character ≠ '_' := by
  intro character listed
  have of_digit : character.isDigit = true -> is_space character = false ∧ character ≠ '_' := by
    intro digit
    have bounds : 48 ≤ character.toNat ∧ character.toNat ≤ 57 := Char.isDigit_iff_toNat.mp digit
    refine ⟨?_, ?_⟩
    · simp only [is_space, List.mem_cons, List.not_mem_nil, or_false, decide_eq_false_iff_not]
      omega
    · rintro rfl
      exact absurd digit (by decide)
  rcases List.mem_append.mp listed with before | later
  · exact of_digit (shown.whole character before)
  · rcases List.mem_cons.mp later with rfl | after
    · decide
    · exact of_digit (shown.fraction character after)

/-- Nothing is stripped from the text. -/
theorem significant (shown : Shown whole fraction) :
    Decimal.significant (String.ofList (whole ++ '.' :: fraction)) = whole ++ '.' :: fraction := by
  have kept : forall characters : List Char, (forall character, character ∈ characters -> is_space character = false) ->
      characters.dropWhile is_space = characters := by
    intro characters visible
    rw [List.dropWhile_eq_self_iff]
    intro nonempty
    rw [visible _ (List.getElem_mem nonempty)]
    exact Bool.false_ne_true
  rw [Decimal.significant, String.toList_ofList, kept _ (fun character listed => (shown.printable character listed).1),
    kept _ (fun character listed => (shown.printable character (List.mem_reverse.mp listed)).1), List.reverse_reverse]
  refine List.filter_eq_self.mpr (fun character listed => ?_)
  exact bne_iff_ne.mpr (shown.printable character listed).2

theorem numeric (shown : Shown whole fraction) :
    Decimal.numeric false (whole ++ '.' :: fraction) =
      some (.finite false (Nat.ofDigitChars 10 (whole ++ fraction) 0) (0 - (fraction.length : Int))) := by
  have first : leading_digits (whole ++ '.' :: fraction) =
      (whole.map (fun character => character.toNat - 48), '.' :: fraction) :=
    leading_digits_of_digits shown.whole (by decide : decimal_digit '.' = none)
  have second : leading_digits fraction = (fraction.map (fun character => character.toNat - 48), []) := by
    have all := @leading_digits_of_digits fraction [] shown.fraction trivial
    rwa [List.append_nil] at all
  have begun : whole.map (fun character => character.toNat - 48) ≠ [] :=
    fun empty => shown.begun (List.map_eq_nil_iff.mp empty)
  rw [Decimal.numeric, first]
  simp only [second]
  rw [if_neg (fun empty => begun empty.1), ← List.map_append, number_of_digits_map, List.length_map]
  rfl

theorem read (shown : Shown whole fraction) :
    Decimal.read (String.ofList (whole ++ '.' :: fraction)) =
      some (.finite false (Nat.ofDigitChars 10 (whole ++ fraction) 0) (0 - (fraction.length : Int))) := by
  rcases List.exists_cons_of_ne_nil shown.begun with ⟨head, tail, rfl⟩
  have digit : head.isDigit = true := shown.whole head List.mem_cons_self
  have unsigned : leading_sign (head :: tail ++ '.' :: fraction) = (false, head :: tail ++ '.' :: fraction) := by
    rw [List.cons_append]
    unfold leading_sign
    split
    · next same =>
        cases same
        exact absurd digit (by decide)
    · next same =>
        cases same
        exact absurd digit (by decide)
    · rfl
  have lower : head.toLower = head := by
    have bounds : 48 ≤ head.toNat ∧ head.toNat ≤ 57 := Char.isDigit_iff_toNat.mp digit
    unfold Char.toLower
    refine dif_neg (fun upper => ?_)
    have above : 65 ≤ head.toNat := UInt32.le_iff_toNat_le.mp upper.1
    omega
  have named : forall (letter : Char) (others : List Char), letter.isDigit = false ->
      (head :: tail ++ '.' :: fraction).map Char.toLower ≠ letter :: others := by
    intro letter others unlike same
    rw [List.cons_append, List.map_cons, lower] at same
    cases same
    rw [unlike] at digit
    cases digit
  unfold Decimal.read
  rw [shown.significant, unsigned]
  dsimp only
  split
  · next same => exact absurd same (named 'i' _ (by decide))
  · next same => exact absurd same (named 'i' _ (by decide))
  · next same => exact absurd same (named 'n' _ (by decide))
  · next same => exact absurd same (named 's' _ (by decide))
  · exact shown.numeric

end Shown

/-! ## Stored amounts -/

/-- Where two decimals are shown: behind all digits but two, or behind zeros in their place. -/
theorem str_two_places (cents : Nat) : (Decimal.finite false cents (-2)).str = String.ofList
    (if 2 < (Nat.toDigits 10 cents).length then
      (Nat.toDigits 10 cents).take ((Nat.toDigits 10 cents).length - 2) ++
        '.' :: (Nat.toDigits 10 cents).drop ((Nat.toDigits 10 cents).length - 2)
    else '0' :: '.' :: (List.replicate (2 - (Nat.toDigits 10 cents).length) '0' ++ Nat.toDigits 10 cents)) := by
  have some_digit : 0 < (Nat.toDigits 10 cents).length := Nat.length_toDigits_pos
  have place : (if (-2 : Int) ≤ 0 ∧ -6 < -2 + ((Nat.toDigits 10 cents).length : Int) then
      -2 + ((Nat.toDigits 10 cents).length : Int) else 1) = -2 + ((Nat.toDigits 10 cents).length : Int) :=
    if_pos ⟨by decide, by omega⟩
  simp only [Decimal.str]
  rw [place, sub_self, if_neg Bool.false_ne_true, if_pos rfl, List.nil_append, List.append_nil]
  generalize Nat.toDigits 10 cents = digits
  by_cases many : 2 < digits.length
  · have inside : (-2 + (digits.length : Int)).toNat = digits.length - 2 := by omega
    rw [if_neg (by omega), if_neg (by omega), if_pos many, inside]
  · have missing : (-(-2 + (digits.length : Int))).toNat = 2 - digits.length := by omega
    rw [if_pos (by omega), if_neg many, missing]
    rfl

/-- An amount with two decimals is shown by digits, a point and two digits. -/
theorem shown_cents (cents : Nat) : Exists fun whole => Exists fun fraction => Shown whole fraction ∧
    fraction.length = 2 ∧ Nat.ofDigitChars 10 (whole ++ fraction) 0 = cents ∧
    (Decimal.finite false cents (-2)).str = String.ofList (whole ++ '.' :: fraction) := by
  have some_digit : 0 < (Nat.toDigits 10 cents).length := Nat.length_toDigits_pos
  have all : forall character, character ∈ Nat.toDigits 10 cents -> character.isDigit = true :=
    fun character listed => Nat.isDigit_of_mem_toDigits (by decide) (by decide) listed
  have number : Nat.ofDigitChars 10 (Nat.toDigits 10 cents) 0 = cents := Nat.ofDigitChars_ten_toDigits
  rw [str_two_places]
  generalize Nat.toDigits 10 cents = digits at some_digit all number
  by_cases many : 2 < digits.length
  · rw [if_pos many]
    refine ⟨digits.take (digits.length - 2), digits.drop (digits.length - 2), ⟨?_, ?_, ?_⟩, ?_, ?_, rfl⟩
    · refine List.ne_nil_of_length_pos ?_
      rw [List.length_take]
      omega
    · exact fun character listed => all character (List.mem_of_mem_take listed)
    · exact fun character listed => all character (List.mem_of_mem_drop listed)
    · rw [List.length_drop]
      omega
    · rw [List.take_append_drop]
      exact number
  · rw [if_neg many]
    refine ⟨['0'], List.replicate (2 - digits.length) '0' ++ digits, ⟨List.cons_ne_nil _ _, ?_, ?_⟩, ?_, ?_, rfl⟩
    · intro character listed
      rw [List.mem_singleton.mp listed]
      rfl
    · intro character listed
      rcases List.mem_append.mp listed with zero | digit
      · rw [List.eq_of_mem_replicate zero]
        rfl
      · exact all character digit
    · rw [List.length_append, List.length_replicate]
      omega
    · have zero : Nat.ofDigitChars 10 ['0'] 0 = 0 := by decide
      rw [Nat.ofDigitChars_append, Nat.ofDigitChars_append, zero, Nat.ofDigitChars_replicate_zero, mul_zero]
      exact number

/-- A stored amount is read back from its text. -/
theorem of_text_str {cents : Nat} (small : cents < 10 ^ 18) :
    Decimal.of_text (Decimal.finite false cents (-2)).str = .ok (.finite false cents (-2)) := by
  rcases shown_cents cents with ⟨whole, fraction, shown, places, number, text⟩
  have read : Decimal.read (Decimal.finite false cents (-2)).str = some (.finite false cents (-2)) := by
    rw [text, shown.read, number, places]
    rfl
  have digits : Nat.log 10 cents < 18 := Nat.log_lt_of_lt_pow' (by decide) small
  have representable : (Decimal.finite false cents (-2)).representable = true := by
    have below : -2 + (Nat.log 10 cents : Int) ≤ 999999999999999999 := by omega
    have precise : Nat.log 10 cents < 999999999999999999 := by omega
    exact decide_eq_true ⟨by decide, below, precise⟩
  rw [Decimal.of_text, read]
  dsimp only
  rw [if_pos representable]

end Properties
end Payments
