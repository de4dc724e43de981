import I2cTopology.Numeral
import Mathlib.Data.Nat.Notation
import Mathlib.Tactic.Common

/-!
# Decimal digits read back

A number that is written in decimal digits is read back as itself, by the readers of C notation too:
a written number opens with a zero only if it is zero, so neither the octal nor the hexadecimal rule
ever applies to it.

The digits hold none of the characters that separate the parts of a path.
-/

namespace I2cTopology
namespace Numeral

/-- A decimal digit has the value that its place in the character table gives it. -/
theorem digitValue?_of_isDigit {c : Char} (hc : c.isDigit = true) :
    digitValue? 10 c = some (c.toNat - '0'.toNat) := by
  simp only [Char.isDigit, ge_iff_le, Bool.and_eq_true, decide_eq_true_eq] at hc
  have hrange : '0' ≤ c ∧ c ≤ '9' := hc
  have hvalue : c.toNat - '0'.toNat < 10 := by
    have hupper : c.toNat ≤ '9'.toNat := hc.2
    simp only [Char.reduceToNat] at hupper ⊢
    omega
  simp only [digitValue?, hrange, and_self, if_true, hvalue]

/-- Reading on through a run of decimal digits computes the number that the digits stand for. -/
theorem continue?_of_isDigit (digits : List Char) (high : Nat)
    (hdigits : ∀ c ∈ digits, c.isDigit = true) :
    continue? 10 high digits = some (Nat.ofDigitChars 10 digits high) := by
  induction digits generalizing high with
  | nil => rfl
  | cons c rest ih =>
      have hvalue := digitValue?_of_isDigit (hdigits c List.mem_cons_self)
      have hrest : ∀ d ∈ rest, d.isDigit = true := fun d hd =>
        hdigits d (List.mem_cons_of_mem c hd)
      simp only [continue?, hvalue, Option.bind_eq_bind, Option.bind_some]
      rw [ih _ hrest, Nat.ofDigitChars_cons, Nat.mul_comm high 10]

theorem isDigit_of_mem_toDigits {n : Nat} {c : Char} (hc : c ∈ Nat.toDigits 10 n) :
    c.isDigit = true :=
  Nat.isDigit_of_mem_toDigits (by decide) (by decide) hc

/-- A character that is no digit does not occur among the digits of a number. -/
theorem not_mem_toDigits {c : Char} (hc : c.isDigit = false) (n : Nat) :
    c ∉ Nat.toDigits 10 n := by
  intro hmem
  have hdigit := isDigit_of_mem_toDigits hmem
  rw [hc] at hdigit
  contradiction

theorem value?_toDigits (n : Nat) : value? 10 (Nat.toDigits 10 n) = some n := by
  have hne : (Nat.toDigits 10 n).isEmpty = false := by
    simp [Nat.toDigits_ne_nil]
  rw [value?, hne, if_neg Bool.false_ne_true,
    continue?_of_isDigit _ _ fun c hc => isDigit_of_mem_toDigits hc,
    Nat.ofDigitChars_ten_toDigits]

/-- The digits of a positive number do not open with a zero. -/
theorem head?_toDigits_of_pos {n : Nat} (hn : 0 < n) :
    (Nat.toDigits 10 n).head? ≠ some '0' := by
  induction n using Nat.strongRecOn with
  | ind n ih =>
      by_cases hsmall : n < 10
      · rw [Nat.toDigits_of_lt_base hsmall]
        simp only [List.head?_cons, ne_eq, Option.some.injEq, Nat.digitChar_eq_zero]
        omega
      · have hhigh : 0 < n / 10 := by omega
        have hopens := ih (n / 10) (by omega) hhigh
        -- The digits of `n` open like those of `n / 10`, which are not empty.
        rw [Nat.toDigits_of_base_le (by decide) (by omega), List.head?_append]
        cases hhead : (Nat.toDigits 10 (n / 10)).head? with
        | none => exact absurd (List.head?_eq_none_iff.mp hhead) Nat.toDigits_ne_nil
        | some c => simpa [hhead] using hopens

theorem toList_toString (v : UInt32) : (toString v).toList = Nat.toDigits 10 v.toNat := by
  change (toString v.toNat).toList = _
  rw [Nat.toString_eq_repr, Nat.toList_repr]

/-- A written number takes one byte a digit. -/
theorem utf8ByteSize_toString (n : Nat) :
    (toString n).utf8ByteSize = (Nat.toDigits 10 n).length := by
  have hbytes : ∀ digits : List Char, (∀ c ∈ digits, c.isDigit = true) →
      (String.ofList digits).utf8ByteSize = digits.length := by
    intro digits hdigits
    induction digits with
    | nil => rfl
    | cons c rest ih =>
        have hdigit := hdigits c List.mem_cons_self
        have hone : c.utf8Size = 1 := by
          rw [Char.utf8Size_eq_one_iff]
          simp only [Char.isDigit, ge_iff_le, Bool.and_eq_true, decide_eq_true_eq] at hdigit
          exact UInt32.le_trans hdigit.2 (by decide)
        have hrest := ih fun d hd => hdigits d (List.mem_cons_of_mem c hd)
        rw [String.ofList_cons, String.utf8ByteSize_append, String.utf8ByteSize_singleton, hone, hrest,
          List.length_cons, Nat.add_comm]
  rw [Nat.toString_eq_ofList_toDigits]
  exact hbytes _ fun c hc => isDigit_of_mem_toDigits hc

/-- A larger number is not written shorter. -/
theorem utf8ByteSize_toString_mono {m n : Nat} (h : m ≤ n) :
    (toString m).utf8ByteSize ≤ (toString n).utf8ByteSize := by
  have hpos : 0 < (Nat.toDigits 10 n).length := Nat.length_toDigits_pos
  have hbound : n < 10 ^ (Nat.toDigits 10 n).length :=
    (Nat.length_toDigits_le_iff (by decide) hpos).mp (Nat.le_refl _)
  rw [utf8ByteSize_toString, utf8ByteSize_toString, Nat.length_toDigits_le_iff (by decide) hpos]
  exact Nat.lt_of_le_of_lt h hbound

theorem dropPlus_toDigits (n : Nat) : dropPlus (Nat.toDigits 10 n) = Nat.toDigits 10 n := by
  unfold dropPlus
  split
  · rename_i rest heq
    have hplus : '+' ∈ Nat.toDigits 10 n := heq ▸ List.mem_cons_self
    exact absurd hplus (not_mem_toDigits (by decide) n)
  · rfl

/-- Only a leading zero makes C notation take digits as other than decimal. -/
theorem cNotationBase_of_head?_ne {text : List Char} (h : text.head? ≠ some '0') :
    cNotationBase text = (10, text) := by
  unfold cNotationBase
  split
  case h_4 => rfl
  all_goals exact absurd rfl h

/-- C notation takes the digits of a number as decimal. -/
theorem cNotationBase_toDigits (n : Nat) :
    cNotationBase (Nat.toDigits 10 n) = (10, Nat.toDigits 10 n) := by
  rcases Nat.eq_zero_or_pos n with rfl | hpos
  · rfl
  · exact cNotationBase_of_head?_ne (head?_toDigits_of_pos hpos)

/-- The decimal digits of a 32-bit number are a numeral in C notation for it. -/
theorem cNotation?_toDigits (v : UInt32) : cNotation? (Nat.toDigits 10 v.toNat) = some v := by
  have hbound : v.toNat < UInt32.size := v.toNat_lt
  simp only [cNotation?, dropPlus_toDigits, cNotationBase_toDigits, below?, value?_toDigits]
  simp [Option.filter, hbound]

/-- The decimal digits of a 32-bit number are a decimal numeral for it. -/
theorem decimal32?_toDigits (v : UInt32) : decimal32? (Nat.toDigits 10 v.toNat) = some v := by
  have hbound : v.toNat < UInt32.size := v.toNat_lt
  simp [decimal32?, signed?, dropPlus_toDigits, below?, value?_toDigits, Option.filter, hbound]

end Numeral
end I2cTopology
