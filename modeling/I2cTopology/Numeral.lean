import I2cTopology.Text.Column
import I2cTopology.Text.Pieces

/-!
# Numerals

Reading unsigned integers in a fixed base or in C notation, and writing them in hexadecimal.
Digits are ASCII digits and letters. A numeral beyond the stated limit is refused, never reduced.
-/

namespace I2cTopology
namespace Numeral

/-- The value of a digit, for the bases up to sixteen. -/
def digitValue? (base : Nat) (c : Char) : Option Nat :=
  let value :=
    if '0' ≤ c ∧ c ≤ '9' then c.toNat - '0'.toNat
    else if 'a' ≤ c ∧ c ≤ 'f' then c.toNat - 'a'.toNat + 10
    else if 'A' ≤ c ∧ c ≤ 'F' then c.toNat - 'A'.toNat + 10
    else base
  if value < base then some value else none

/-- The value of a run of digits that continues a numeral of value `high`. -/
def continue? (base high : Nat) : List Char → Option Nat
  | [] => some high
  | c :: rest => do continue? base (high * base + (← digitValue? base c)) rest

/-- The value of a non-empty run of digits. -/
def value? (base : Nat) (digits : List Char) : Option Nat :=
  if digits.isEmpty then none else continue? base 0 digits

/-- The text without one leading plus sign. -/
def dropPlus : List Char → List Char
  | '+' :: rest => rest
  | text => text

/-- The value of a run of digits below the limit. -/
def below? (limit base : Nat) (digits : List Char) : Option Nat :=
  (value? base digits).filter (· < limit)

/-- A numeral in a fixed base with an optional plus sign, below the limit. -/
def signed? (limit base : Nat) (text : List Char) : Option Nat :=
  below? limit base (dropPlus text)

/-- A decimal numeral of 32 bits: an optional plus sign, then digits. -/
def decimal32? (text : List Char) : Option UInt32 :=
  (signed? UInt32.size 10 text).map UInt32.ofNat

/-- A decimal numeral of 32 bits with an optional sign. Zero is the only number that a minus sign may
stand before. -/
def integer32? : List Char → Option UInt32
  | '-' :: digits => (below? 1 10 digits).map UInt32.ofNat
  | text => decimal32? text

/-- A hexadecimal numeral of 16 bits without a base mark: an optional plus sign, then digits. -/
def hexadecimal16? (text : List Char) : Option UInt16 :=
  (signed? UInt16.size 16 text).map UInt16.ofNat

/-- The base that C notation gives to an unsigned numeral, with the digits that remain. A leading
`0x` or `0X` selects sixteen, and a leading zero before further characters selects eight. -/
def cNotationBase : List Char → Nat × List Char
  | '0' :: 'x' :: digits => (16, digits)
  | '0' :: 'X' :: digits => (16, digits)
  | '0' :: c :: digits => (8, c :: digits)
  | digits => (10, digits)

/-- A numeral of 32 bits in C notation: an optional plus sign, then decimal, octal or hexadecimal
digits. The whole text must be the numeral. -/
def cNotation? (text : List Char) : Option UInt32 :=
  let (base, digits) := cNotationBase (dropPlus text)
  (below? UInt32.size base digits).map UInt32.ofNat

/-- A numeral of 16 bits in C notation. -/
def cNotation16? (text : List Char) : Option UInt16 := do
  let value ← cNotation? text
  if value.toNat < UInt16.size then some (UInt16.ofNat value.toNat) else none

/-- The value in lower-case hexadecimal, with zeros in front up to a width. -/
def hexadecimal (width value : Nat) : String :=
  Text.padLeft '0' width (String.ofList (Nat.toDigits 16 value))

end Numeral
end I2cTopology
