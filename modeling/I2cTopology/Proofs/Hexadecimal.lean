import I2cTopology.Proofs.Decimal
import Mathlib.Tactic.IntervalCases

/-!
# Hexadecimal digits read back

Chip addresses are written in hexadecimal, with zeros in front up to a width and sometimes behind the mark
`0x`.  Zeros in front change nothing, so an address is read back as itself, by the readers of C notation
too.

* `value?_hexadecimal`: the value of a written number.
* `cNotation?_hexadecimal`, `cNotation16?_hexadecimal`: a marked number in C notation.
-/

namespace I2cTopology
namespace Numeral

/-- Reading on through two runs of digits is reading on through one after the other. -/
theorem continue?_append (base high : Nat) (front back : List Char) :
    continue? base high (front ++ back) =
      (continue? base high front).bind fun value => continue? base value back := by
  induction front generalizing high with
  | nil => rfl
  | cons c rest ih =>
    simp only [List.cons_append, continue?, Option.bind_eq_bind]
    cases digitValue? base c with
    | none => rfl
    | some value => exact ih _

theorem digitValue?_digitChar {digit : Nat} (h : digit < 16) :
    digitValue? 16 digit.digitChar = some digit := by
  interval_cases digit <;> decide

/-- The digits of a number are read as the number. -/
theorem continue?_toDigits_sixteen (n : Nat) :
    continue? 16 0 (Nat.toDigits 16 n) = some n := by
  induction n using Nat.strongRecOn with
  | ind n ih =>
    by_cases hsmall : n < 16
    · rw [Nat.toDigits_of_lt_base hsmall]
      simp [continue?, digitValue?_digitChar hsmall]
    · rw [Nat.toDigits_of_base_le (by decide) (by omega), continue?_append, ih (n / 16) (by omega)]
      have hlast : n % 16 < 16 := Nat.mod_lt n (by decide)
      simp only [Option.bind_some, continue?, digitValue?_digitChar hlast, Option.bind_eq_bind,
        Option.some.injEq]
      omega

/-- Zeros in front of a numeral change nothing. -/
theorem continue?_replicate_zero (count : Nat) (digits : List Char) :
    continue? 16 0 (List.replicate count '0' ++ digits) = continue? 16 0 digits := by
  induction count with
  | zero => rfl
  | succ count ih =>
    have hzero : digitValue? 16 '0' = some 0 := by decide
    simp only [List.replicate_succ, List.cons_append, continue?, hzero, Option.bind_eq_bind,
      Option.bind_some]
    exact ih

/-- A number is written with its digits, and with zeros in front up to the width. -/
theorem toList_hexadecimal (width n : Nat) :
    (hexadecimal width n).toList = (Nat.toDigits 16 n).leftpad width '0' := by
  rw [hexadecimal, Text.padLeft, String.toList_append, String.toList_ofList, String.toList_ofList,
    String.length_ofList, List.leftpad]

theorem value?_hexadecimal (width n : Nat) :
    value? 16 (hexadecimal width n).toList = some n := by
  have hne : (hexadecimal width n).toList.isEmpty = false := by
    simp [toList_hexadecimal, List.leftpad, Nat.toDigits_ne_nil]
  rw [value?, hne, if_neg Bool.false_ne_true, toList_hexadecimal, List.leftpad,
    continue?_replicate_zero, continue?_toDigits_sixteen]

theorem isAlphanum_of_mem_toDigits {n : Nat} {c : Char} (hc : c ∈ Nat.toDigits 16 n) :
    c.isAlphanum = true := by
  have hlast {digit : Nat} (h : digit < 16) : digit.digitChar.isAlphanum = true := by
    interval_cases digit <;> decide
  induction n using Nat.strongRecOn with
  | ind n ih =>
    by_cases hsmall : n < 16
    · rw [Nat.toDigits_of_lt_base hsmall] at hc
      obtain rfl := List.mem_singleton.mp hc
      exact hlast hsmall
    · rw [Nat.toDigits_of_base_le (by decide) (by omega)] at hc
      obtain hfront | hback := List.mem_append.mp hc
      · exact ih (n / 16) (by omega) hfront
      · obtain rfl := List.mem_singleton.mp hback
        exact hlast (Nat.mod_lt n (by decide))

/-- A written number consists of digits and letters. -/
theorem isAlphanum_of_mem_hexadecimal {width n : Nat} {c : Char}
    (hc : c ∈ (hexadecimal width n).toList) : c.isAlphanum = true := by
  rw [toList_hexadecimal, List.leftpad] at hc
  obtain hzero | hdigit := List.mem_append.mp hc
  · obtain rfl := List.eq_of_mem_replicate hzero
    rfl
  · exact isAlphanum_of_mem_toDigits hdigit

/-- A number behind the mark for hexadecimal is read in C notation as itself. -/
theorem cNotation?_hexadecimal (width : Nat) (number : UInt32) :
    cNotation? ('0' :: 'x' :: (hexadecimal width number.toNat).toList) = some number := by
  have hbound : number.toNat < UInt32.size := number.toNat_lt
  simp [cNotation?, dropPlus, cNotationBase, below?, value?_hexadecimal, Option.filter, hbound]

/-- An address is read so into 16 bits. -/
theorem cNotation16?_hexadecimal (width : Nat) (address : UInt16) :
    cNotation16? ('0' :: 'x' :: (hexadecimal width address.toNat).toList) = some address := by
  have hsmall : address.toNat < UInt16.size := address.toNat_lt
  have hwide : (UInt32.ofNat address.toNat).toNat = address.toNat :=
    UInt32.toNat_ofNat_of_lt' (Nat.lt_trans hsmall (by decide))
  have hread := cNotation?_hexadecimal width (UInt32.ofNat address.toNat)
  rw [hwide] at hread
  rw [cNotation16?, hread]
  simp [hsmall]

end Numeral
end I2cTopology
