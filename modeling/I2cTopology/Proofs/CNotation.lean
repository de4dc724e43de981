import I2cTopology.Proofs.Hexadecimal
import Mathlib.Data.List.Forall2
import Mathlib.Data.Nat.Digits.Defs

/-!
# The integers in C notation

A numeral is a run of digits, and its value is that of the digits in their base.  The readers of numerals
find exactly the numerals whose value is below their limit: no text is read that is none, none is refused
that is in reach, and no value is reduced.  In C notation the way a numeral opens gives its base, so no text
is a numeral in two ways.

* `IsNumeral`, `IsDecimal`, `IsHexadecimal`, `IsInteger`: the numerals of a base, decimal and hexadecimal
  numerals with an optional plus sign, and integers in C notation.
* `cNotation?_eq_some_iff`, `decimal32?_eq_some_iff`, `hexadecimal16?_eq_some_iff`: the readers find them.
* `cNotation?_exact`: what reading C notation comes to, overflow and written numbers included.
* `IsInteger.exists_isDigit`: every integer has a decimal digit in it.
-/

namespace I2cTopology
namespace Numeral

variable {base high limit value : Nat} {c : Char} {text digits : List Char}

/-! ## Digits -/

/-- The character is a digit of the base, with its value.  Small and capital letters are digits alike. -/
def Digit (base : Nat) (c : Char) (value : Nat) : Prop :=
  value < base ∧ (c = value.digitChar ∨ c = value.digitChar.toUpper)

theorem digit_of_digitValue? (h : digitValue? base c = some value) : Digit base c value := by
  obtain ⟨hbound, hfound⟩ := Option.ite_none_right_eq_some.mp h
  have hvalue := Option.some.inj hfound
  rw [hvalue] at hbound
  refine ⟨hbound, ?_⟩
  clear h hfound
  have hnumber : c = Char.ofNat c.toNat := (Char.ofNat_toNat c).symm
  -- The characters of each row of the table are gone through one by one.
  split at hvalue
  next hrow =>
    have hlow : 48 ≤ c.toNat := hrow.1
    have hhigh : c.toNat ≤ 57 := hrow.2
    generalize c.toNat = n at *
    subst hnumber hvalue
    interval_cases n <;> decide
  split at hvalue
  next hrow =>
    have hlow : 97 ≤ c.toNat := hrow.1
    have hhigh : c.toNat ≤ 102 := hrow.2
    generalize c.toNat = n at *
    subst hnumber hvalue
    interval_cases n <;> decide
  split at hvalue
  next hrow =>
    have hlow : 65 ≤ c.toNat := hrow.1
    have hhigh : c.toNat ≤ 70 := hrow.2
    generalize c.toNat = n at *
    subst hnumber hvalue
    interval_cases n <;> decide
  next => exact absurd hbound (hvalue ▸ Nat.lt_irrefl base)

theorem digitValue?_of_digit (hbase : base ≤ 16) (h : Digit base c value) :
    digitValue? base c = some value := by
  obtain ⟨hbound, hchar⟩ := h
  have hsmall : value < 16 := Nat.lt_of_lt_of_le hbound hbase
  rw [digitValue?, Option.ite_none_right_eq_some]
  obtain rfl | rfl := hchar <;> interval_cases value <;> exact ⟨hbound, rfl⟩

/-- The value of a digit is found, and nothing else is a digit. -/
theorem digitValue?_eq_some_iff (hbase : base ≤ 16) :
    digitValue? base c = some value ↔ Digit base c value :=
  ⟨digit_of_digitValue?, digitValue?_of_digit hbase⟩

theorem Digit.isAlphanum (h : Digit base c value) (hbase : base ≤ 16) : c.isAlphanum = true := by
  obtain ⟨hbound, hchar⟩ := h
  have hsmall : value < 16 := Nat.lt_of_lt_of_le hbound hbase
  obtain rfl | rfl := hchar <;> interval_cases value <;> decide

theorem Digit.isDigit (h : Digit 10 c value) : c.isDigit = true := by
  obtain ⟨hbound, hchar⟩ := h
  obtain rfl | rfl := hchar <;> interval_cases value <;> decide

/-! ## Numerals -/

/-- The text is a numeral of the base: at least one digit, and the value is that of the digits, of which the
last counts least. -/
def IsNumeral (base : Nat) (text : List Char) (value : Nat) : Prop :=
  text ≠ [] ∧ ∃ values, List.Forall₂ (Digit base) text values ∧ value = Nat.ofDigits base values.reverse

/-- Reading on through a run of digits moves what was read so far up by their number. -/
theorem continue?_eq_some_iff (hbase : base ≤ 16) :
    continue? base high text = some value ↔ ∃ values, List.Forall₂ (Digit base) text values ∧
      value = high * base ^ text.length + Nat.ofDigits base values.reverse := by
  induction text generalizing high with
  | nil =>
    rw [continue?, Option.some.injEq]
    constructor
    · rintro rfl
      exact ⟨[], .nil, by simp⟩
    · rintro ⟨values, hvalues, rfl⟩
      cases hvalues
      simp
  | cons c rest ih =>
    rw [continue?, Option.bind_eq_bind, Option.bind_eq_some_iff]
    simp only [digitValue?_eq_some_iff hbase, ih]
    -- The first digit is moved up past the digits behind it.
    have hvalue (first : Nat) (values : List Nat) (hlength : values.length = rest.length) :
        (high * base + first) * base ^ rest.length + Nat.ofDigits base values.reverse =
          high * base ^ (c :: rest).length + Nat.ofDigits base (first :: values).reverse := by
      rw [List.reverse_cons, Nat.ofDigits_append, Nat.ofDigits_singleton, List.length_reverse, hlength,
        List.length_cons]
      ring
    constructor
    · rintro ⟨first, hfirst, values, hvalues, rfl⟩
      exact ⟨first :: values, .cons hfirst hvalues, hvalue first values hvalues.length_eq.symm⟩
    · rintro ⟨values, hvalues, rfl⟩
      cases hvalues with
      | @cons _ first _ values hfirst hvalues =>
        exact ⟨first, hfirst, values, hvalues, (hvalue first values hvalues.length_eq.symm).symm⟩

theorem value?_eq_some_iff (hbase : base ≤ 16) : value? base text = some value ↔ IsNumeral base text value := by
  cases text with
  | nil => simp [value?, IsNumeral]
  | cons c rest =>
    rw [value?, List.isEmpty_cons, if_neg Bool.false_ne_true, continue?_eq_some_iff hbase]
    simp [IsNumeral]

/-- A numeral is read if its value is below the limit, and nothing else is. -/
theorem below?_eq_some_iff (hbase : base ≤ 16) :
    below? limit base text = some value ↔ IsNumeral base text value ∧ value < limit := by
  rw [below?, Option.filter_eq_some_iff, value?_eq_some_iff hbase, decide_eq_true_eq]

/-- If the numbers of a type are those below the limit, the number that is read is the value of the
numeral. -/
theorem map_below?_eq_some_iff {κ : Type} {ofNat : Nat → κ} {toNat : κ → Nat} (hbase : base ≤ 16)
    (hlimit : ∀ number, toNat number < limit) (hofNat : ∀ number, ofNat (toNat number) = number)
    (htoNat : ∀ value < limit, toNat (ofNat value) = value) {number : κ} :
    (below? limit base text).map ofNat = some number ↔ IsNumeral base text (toNat number) := by
  rw [Option.map_eq_some_iff]
  simp only [below?_eq_some_iff hbase]
  constructor
  · rintro ⟨value, ⟨hvalue, hsmall⟩, rfl⟩
    rwa [htoNat value hsmall]
  · intro hvalue
    exact ⟨_, ⟨hvalue, hlimit number⟩, hofNat number⟩

theorem map_ofNat_below?_eq_some_iff (hbase : base ≤ 16) {number : UInt32} :
    (below? UInt32.size base text).map UInt32.ofNat = some number ↔
      IsNumeral base text number.toNat :=
  map_below?_eq_some_iff hbase UInt32.toNat_lt (fun _ => UInt32.ofNat_toNat)
    fun _ hsmall => UInt32.toNat_ofNat_of_lt' hsmall

theorem IsNumeral.exists_digit (h : IsNumeral base text value) {c : Char} (hc : c ∈ text) :
    ∃ digit, Digit base c digit := by
  obtain ⟨-, values, hvalues, -⟩ := h
  induction hvalues with
  | nil => cases hc
  | cons hfirst _ ih =>
    obtain rfl | hc := List.mem_cons.mp hc
    · exact ⟨_, hfirst⟩
    · exact ih hc

theorem IsNumeral.isAlphanum_of_mem (h : IsNumeral base text value) (hbase : base ≤ 16) (hc : c ∈ text) :
    c.isAlphanum = true := by
  obtain ⟨digit, hdigit⟩ := h.exists_digit hc
  exact hdigit.isAlphanum hbase

/-! ## Signs -/

/-- The text is a numeral of some kind, with one plus sign before it or without. -/
def WithSign (kind : List Char → Nat → Prop) (text : List Char) (value : Nat) : Prop :=
  ∃ body, (text = body ∨ text = '+' :: body) ∧ kind body value

/-- A decimal numeral with an optional plus sign. -/
def IsDecimal : List Char → Nat → Prop :=
  WithSign (IsNumeral 10)

/-- A hexadecimal numeral without a mark, with an optional plus sign. -/
def IsHexadecimal : List Char → Nat → Prop :=
  WithSign (IsNumeral 16)

/-- A sign is dropped before the numeral is read. -/
theorem withSign_iff {kind : List Char → Nat → Prop} (h : ∀ rest value, ¬ kind ('+' :: rest) value) :
    WithSign kind text value ↔ kind (dropPlus text) value := by
  have hplain (body : List Char) (hbody : kind body value) : dropPlus body = body := by
    unfold dropPlus
    split
    · exact absurd hbody (h _ _)
    · rfl
  constructor
  · rintro ⟨body, rfl | rfl, hbody⟩
    · rwa [hplain text hbody]
    · exact hbody
  · intro hkind
    unfold dropPlus at hkind
    split at hkind
    · exact ⟨_, .inr rfl, hkind⟩
    · exact ⟨_, .inl rfl, hkind⟩

/-- Besides the sign there is nothing but digits and letters. -/
theorem WithSign.not_mem {kind : List Char → Nat → Prop} (h : WithSign kind text value)
    (hkind : ∀ body, kind body value → ∀ c ∈ body, c.isAlphanum = true) (hplus : c ≠ '+')
    (hc : c.isAlphanum = false) : c ∉ text := by
  have hbody (body : List Char) (hbody : kind body value) : c ∉ body := by
    intro hmem
    rw [hkind body hbody c hmem] at hc
    cases hc
  obtain ⟨body, rfl | rfl, hnumeral⟩ := h
  · exact hbody _ hnumeral
  · exact List.not_mem_cons_of_ne_of_not_mem hplus (hbody _ hnumeral)

theorem not_isNumeral_plus (hbase : base ≤ 16) (rest : List Char) (value : Nat) :
    ¬ IsNumeral base ('+' :: rest) value := by
  intro h
  cases h.isAlphanum_of_mem hbase List.mem_cons_self

theorem IsDecimal.not_mem (h : IsDecimal text value) (hplus : c ≠ '+') (hc : c.isAlphanum = false) :
    c ∉ text :=
  WithSign.not_mem h (fun _ hbody _ => hbody.isAlphanum_of_mem (by decide)) hplus hc

/-- Decimal numerals of 32 bits are read, and nothing else. -/
theorem decimal32?_eq_some_iff {number : UInt32} :
    decimal32? text = some number ↔ IsDecimal text number.toNat := by
  have hten : 10 ≤ 16 := by decide
  rw [IsDecimal, withSign_iff (not_isNumeral_plus hten), decimal32?, signed?,
    map_ofNat_below?_eq_some_iff hten]

/-- Hexadecimal numerals of 16 bits are read, and nothing else. -/
theorem hexadecimal16?_eq_some_iff {number : UInt16} :
    hexadecimal16? text = some number ↔ IsHexadecimal text number.toNat := by
  have hsixteen : 16 ≤ 16 := le_rfl
  rw [IsHexadecimal, withSign_iff (not_isNumeral_plus hsixteen), hexadecimal16?, signed?]
  exact map_below?_eq_some_iff hsixteen UInt16.toNat_lt (fun _ => UInt16.ofNat_toNat)
    fun _ hsmall => UInt16.toNat_ofNat_of_lt' hsmall

/-! ## Integers -/

/-- A numeral in C notation without a sign.  A zero in front gives the base: sixteen before a letter `x`, and
eight otherwise. -/
inductive IsUnsigned : List Char → Nat → Prop
  | hexadecimal {mark : Char} {digits : List Char} {value : Nat} (hmark : mark = 'x' ∨ mark = 'X')
      (hdigits : IsNumeral 16 digits value) : IsUnsigned ('0' :: mark :: digits) value
  | octal {digits : List Char} {value : Nat} (hdigits : IsNumeral 8 digits value) :
      IsUnsigned ('0' :: digits) value
  | decimal {digits : List Char} {value : Nat} (hdigits : IsNumeral 10 digits value)
      (hzero : digits = ['0'] ∨ digits.head? ≠ some '0') : IsUnsigned digits value

/-- An integer in C notation: a numeral with an optional plus sign. -/
def IsInteger : List Char → Nat → Prop :=
  WithSign IsUnsigned

theorem IsUnsigned.isNumeral (h : IsUnsigned text value) :
    IsNumeral (cNotationBase text).1 (cNotationBase text).2 value := by
  cases h with
  | hexadecimal hmark hdigits => obtain rfl | rfl := hmark <;> exact hdigits
  | @octal digits _ hdigits =>
    cases digits with
    | nil => exact absurd rfl hdigits.1
    | cons c rest =>
      -- A letter that marks sixteen as the base is no octal digit.
      obtain ⟨digit, hdigit⟩ := hdigits.exists_digit List.mem_cons_self
      have hmark {mark : Char} (hmark : digitValue? 8 mark = none) : c ≠ mark := by
        rintro rfl
        rw [digitValue?_of_digit (by decide) hdigit] at hmark
        cases hmark
      have hbase : cNotationBase ('0' :: c :: rest) = (8, c :: rest) := by
        rw [cNotationBase]
        · exact hmark (by decide)
        · exact hmark (by decide)
      rwa [hbase]
  | decimal hdigits hzero =>
    obtain rfl | hhead := hzero
    · exact hdigits
    · rwa [cNotationBase_of_head?_ne hhead]

theorem isUnsigned_of_isNumeral
    (h : IsNumeral (cNotationBase text).1 (cNotationBase text).2 value) : IsUnsigned text value := by
  unfold cNotationBase at h
  split at h
  · exact .hexadecimal (.inl rfl) h
  · exact .hexadecimal (.inr rfl) h
  · exact .octal h
  next hother =>
    refine .decimal h ?_
    match text with
    | [] => exact absurd rfl h.1
    | [c] =>
      by_cases hc : c = '0'
      · exact .inl (by rw [hc])
      · exact .inr (by simpa using hc)
    | c :: next :: rest =>
      refine .inr fun hhead => ?_
      obtain rfl := Option.some.inj hhead
      exact hother next rest rfl

theorem IsUnsigned.isAlphanum_of_mem (h : IsUnsigned text value) (hc : c ∈ text) :
    c.isAlphanum = true := by
  cases h with
  | hexadecimal hmark hdigits =>
    obtain rfl | hc := List.mem_cons.mp hc
    · rfl
    obtain rfl | hc := List.mem_cons.mp hc
    · obtain rfl | rfl := hmark <;> rfl
    · exact hdigits.isAlphanum_of_mem (by decide) hc
  | octal hdigits =>
    obtain rfl | hc := List.mem_cons.mp hc
    · rfl
    · exact hdigits.isAlphanum_of_mem (by decide) hc
  | decimal hdigits => exact hdigits.isAlphanum_of_mem (by decide) hc

theorem IsInteger.not_mem (h : IsInteger text value) (hplus : c ≠ '+') (hc : c.isAlphanum = false) :
    c ∉ text :=
  WithSign.not_mem h (fun _ hbody _ => hbody.isAlphanum_of_mem) hplus hc

/-- The marks of the other bases open with a zero, so every integer has a decimal digit. -/
theorem IsInteger.exists_isDigit (h : IsInteger text value) : ∃ c ∈ text, c.isDigit = true := by
  have hunsigned {body : List Char} (hbody : IsUnsigned body value) : ∃ c ∈ body, c.isDigit = true := by
    cases hbody with
    | hexadecimal => exact ⟨'0', List.mem_cons_self, rfl⟩
    | octal => exact ⟨'0', List.mem_cons_self, rfl⟩
    | decimal hdigits =>
      obtain ⟨c, hc⟩ := List.exists_mem_of_ne_nil _ hdigits.1
      obtain ⟨digit, hdigit⟩ := hdigits.exists_digit hc
      exact ⟨c, hc, hdigit.isDigit⟩
  obtain ⟨body, rfl | rfl, hbody⟩ := h
  · exact hunsigned hbody
  · obtain ⟨c, hc, hdigit⟩ := hunsigned hbody
    exact ⟨c, List.mem_cons_of_mem _ hc, hdigit⟩

theorem IsInteger.ne_nil (h : IsInteger text value) : text ≠ [] := by
  obtain ⟨c, hc, -⟩ := h.exists_isDigit
  exact List.ne_nil_of_mem hc

/-- What kind of integer a text is can be told from how it opens behind the sign. -/
theorem isInteger_iff : IsInteger text value ↔
    IsNumeral (cNotationBase (dropPlus text)).1 (cNotationBase (dropPlus text)).2 value := by
  have hplus (rest : List Char) (value : Nat) : ¬ IsUnsigned ('+' :: rest) value := fun h =>
    not_isNumeral_plus (by simp [cNotationBase]) rest value h.isNumeral
  rw [IsInteger, withSign_iff hplus]
  exact ⟨IsUnsigned.isNumeral, isUnsigned_of_isNumeral⟩

theorem cNotationBase_le (text : List Char) : (cNotationBase text).1 ≤ 16 := by
  unfold cNotationBase
  split <;> simp

/-- A text is an integer with one value at most. -/
theorem IsInteger.unique {other : Nat} (h : IsInteger text value) (hother : IsInteger text other) :
    value = other := by
  rw [isInteger_iff, ← value?_eq_some_iff (cNotationBase_le _)] at h hother
  exact Option.some.inj (h.symm.trans hother)

/-- Exactly the integers of 32 bits are read, each as its value. -/
theorem cNotation?_eq_some_iff {number : UInt32} :
    cNotation? text = some number ↔ IsInteger text number.toNat := by
  rw [isInteger_iff, cNotation?, map_ofNat_below?_eq_some_iff (cNotationBase_le _)]

/-- **Integers in C notation.**  A text is read as a value exactly if it is an integer of that value below
the limit of 32 bits, and an integer from the limit on is refused, not reduced.  What is written in decimal,
or in hexadecimal behind the mark and with any number of zeros in front, is read back. -/
theorem cNotation?_exact :
    (∀ (text : String) (value : Nat), (cNotation? text.toList).map UInt32.toNat = some value ↔
      IsInteger text.toList value ∧ value < 2 ^ 32) ∧
    (∀ (text : String) (value : Nat), IsInteger text.toList value → 2 ^ 32 ≤ value →
      cNotation? text.toList = none) ∧
    ∀ number : UInt32, cNotation? (toString number).toList = some number ∧
      ∀ width, cNotation? ("0x" ++ hexadecimal width number.toNat).toList = some number := by
  refine ⟨fun text value => ?_, fun text value hinteger hlimit => ?_, fun number => ⟨?_, fun width => ?_⟩⟩
  · rw [Option.map_eq_some_iff]
    simp only [cNotation?_eq_some_iff]
    constructor
    · rintro ⟨number, hnumber, rfl⟩
      exact ⟨hnumber, number.toNat_lt⟩
    · rintro ⟨hinteger, hlimit⟩
      have hnumber : (UInt32.ofNat value).toNat = value := UInt32.toNat_ofNat_of_lt' hlimit
      exact ⟨UInt32.ofNat value, hnumber.symm ▸ hinteger, hnumber⟩
  · -- A number that was read would be the value too.
    refine Option.eq_none_iff_forall_ne_some.mpr fun number hread => ?_
    have hvalue := hinteger.unique (cNotation?_eq_some_iff.mp hread)
    have hnumber : number.toNat < 2 ^ 32 := number.toNat_lt
    omega
  · rw [toList_toString, cNotation?_toDigits]
  · rw [String.toList_append]
    exact cNotation?_hexadecimal width number

/-- The first number that takes 33 bits is an integer that is refused, in spite of the zeros in front. -/
theorem cNotation?_exact_limit :
    IsInteger "+0x000100000000".toList (2 ^ 32) ∧ 2 ^ 32 ≤ 2 ^ 32 ∧
      cNotation? "+0x000100000000".toList = none := by
  have hinteger : IsInteger "+0x000100000000".toList (2 ^ 32) := by
    rw [isInteger_iff, ← value?_eq_some_iff (cNotationBase_le _)]
    decide
  exact ⟨hinteger, le_rfl, cNotation?_exact.2.1 _ _ hinteger le_rfl⟩

/-- Of the integers that are read into 16 bits none is reduced either. -/
theorem cNotation16?_eq_some_iff {number : UInt16} :
    cNotation16? text = some number ↔ IsInteger text number.toNat := by
  rw [cNotation16?, Option.bind_eq_bind, Option.bind_eq_some_iff]
  constructor
  · rintro ⟨value, hvalue, hnumber⟩
    obtain ⟨hlimit, heq⟩ := Option.ite_none_right_eq_some.mp hnumber
    obtain rfl := Option.some.inj heq
    rw [UInt16.toNat_ofNat_of_lt' hlimit]
    exact cNotation?_eq_some_iff.mp hvalue
  · intro h
    have hlimit : number.toNat < UInt16.size := number.toNat_lt
    have hvalue : (UInt32.ofNat number.toNat).toNat = number.toNat :=
      UInt32.toNat_ofNat_of_lt' (Nat.lt_trans hlimit (by decide))
    refine ⟨UInt32.ofNat number.toNat, cNotation?_eq_some_iff.mpr (by rwa [hvalue]), ?_⟩
    rw [hvalue, if_pos hlimit, UInt16.ofNat_toNat]

end Numeral
end I2cTopology
