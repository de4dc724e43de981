import I2cTopology.Proofs.CNotation
import I2cTopology.Proofs.ConfigText

/-!
# The grammar of configuration lines

The first word of a line declares an entry if it can be taken apart into a name, the bus type, perhaps a bus,
and an address, each of which may be a wildcard.  The parts are held together by dashes and hold none
themselves, so a word is taken apart in one way only, and nothing in a line is read as another part than the
one it stands for.

* `Parts`, `Parts.Declares`: what a word is made of, and the entry that it declares.
* `parseLine_outcome`: the lines that declare an entry are read as it, lines without a word as nothing, and
  all others are malformed.
-/

namespace I2cTopology
namespace ExpectedChip

open Numeral (IsDecimal IsInteger)

/-- What a word that declares an entry is made of. -/
@[ext]
structure Parts where
  name : List Char
  bus : Option (List Char)
  address : List Char

/-- The parts with the bus type and the dashes between them. -/
def Parts.word : Parts → List Char
  | ⟨name, none, address⟩ => name ++ ['-', 'i', '2', 'c', '-'] ++ address
  | ⟨name, some bus, address⟩ => name ++ ['-', 'i', '2', 'c', '-'] ++ bus ++ ['-'] ++ address

/-- The adapters that a bus selects.  A number is kept with its decimal form, a path as it stands. -/
inductive SelectsBus : Option (List Char) → BusSelector → Prop
  | missing : SelectsBus none {}
  | any : SelectsBus (some ['*']) {}
  | number {text : List Char} {nr : UInt32} (hnr : IsDecimal text nr.toNat) :
      SelectsBus (some text) { nr := some nr, path := some (toString nr) }
  | path {text : List Char} {path : BusPath} (hfree : '-' ∉ text) (hmark : ':' ∈ text ∨ '.' ∈ text)
      (hpath : BusPath.parse (String.ofList text) = .ok path) :
      SelectsBus (some text) { path := some (String.ofList text) }

/-- The addresses that an address part selects. -/
inductive SelectsAddress : List Char → Option UInt16 → Prop
  | any : SelectsAddress ['*'] none
  | number {text : List Char} {number : UInt16} (hnumber : IsInteger text number.toNat)
      (hlimit : number ≤ 0x3ff) : SelectsAddress text (some number)

/-- The entry that the parts of a word declare. -/
structure Parts.Declares (parts : Parts) (origin : Origin) (entry : ExpectedChip) : Prop where
  name_free : '-' ∉ parts.name
  name : entry.name = if parts.name = ['*'] then none else some (String.ofList parts.name)
  bus : SelectsBus parts.bus entry.bus
  address : SelectsAddress parts.address entry.address
  origin : entry.origin = origin
  matched : entry.matched = false
  available : entry.available = false

/-! ## Single parts -/

theorem SelectsBus.dash_not_mem {text : List Char} {selector : BusSelector}
    (h : SelectsBus (some text) selector) : '-' ∉ text := by
  cases h with
  | any => decide
  | number hnr => exact hnr.not_mem (by decide) (by decide)
  | path hfree => exact hfree

theorem SelectsAddress.dash_not_mem {text : List Char} {number : Option UInt16}
    (h : SelectsAddress text number) : '-' ∉ text := by
  cases h with
  | any => decide
  | number hnumber => exact hnumber.not_mem (by decide) (by decide)

theorem SelectsAddress.ne_nil {text : List Char} {number : Option UInt16}
    (h : SelectsAddress text number) : text ≠ [] := by
  cases h with
  | any => exact List.cons_ne_nil _ _
  | number hnumber => exact hnumber.ne_nil

theorem addressSelector_eq_ok_iff {text : List Char} {number : Option UInt16} :
    addressSelector text = .ok number ↔ SelectsAddress text number := by
  constructor
  · intro h
    unfold addressSelector at h
    split at h
    next hwild =>
      obtain rfl := Except.ok.inj h
      exact hwild ▸ .any
    · split at h
      next address haddress =>
        obtain rfl := Except.ok.inj h
        obtain ⟨hread, hlimit⟩ := Option.filter_eq_some_iff.mp haddress
        exact .number (Numeral.cNotation16?_eq_some_iff.mp hread) (of_decide_eq_true hlimit)
      next => cases h
  · intro h
    cases h with
    | any => rfl
    | @number _ number hnumber hlimit =>
      have hwild : text ≠ ['*'] := by
        rintro rfl
        exact hnumber.not_mem (by decide) (by decide) List.mem_cons_self
      have hbound : decide (number ≤ maxAddress) = true := decide_eq_true hlimit
      rw [addressSelector, if_neg hwild, Numeral.cNotation16?_eq_some_iff.mpr hnumber,
        Option.filter_some, if_pos hbound]

/-- The text is a path rather than a number. -/
theorem any_mark_iff {text : List Char} :
    (text.any fun c => c == ':' || c == '.') = true ↔ ':' ∈ text ∨ '.' ∈ text := by
  simp [List.any_eq_true, and_or_left, exists_or]

theorem selectsBus_of_busSelector {bus : Option (List Char)} {selector : BusSelector}
    (h : busSelector bus = .ok selector) (hfree : ∀ text ∈ bus, '-' ∉ text) : SelectsBus bus selector := by
  unfold busSelector at h
  split at h
  · obtain rfl := Except.ok.inj h
    exact .missing
  next text =>
    split at h
    next hwild =>
      obtain rfl := Except.ok.inj h
      exact hwild ▸ .any
    split at h
    next hmark =>
      split at h
      · cases h
      next path hpath =>
        obtain rfl := Except.ok.inj h
        exact .path (hfree text rfl) (any_mark_iff.mp hmark) hpath
    · unfold nrSelector at h
      split at h
      next nr hnr =>
        obtain rfl := Except.ok.inj h
        exact .number (Numeral.decimal32?_eq_some_iff.mp hnr)
      next => cases h

theorem SelectsBus.busSelector_eq {bus : Option (List Char)} {selector : BusSelector}
    (h : SelectsBus bus selector) : busSelector bus = .ok selector := by
  cases h with
  | missing => rfl
  | any => rfl
  | @number text nr hnr =>
    -- Neither the wildcard nor the marks of a path occur in a number.
    have hwild : text ≠ ['*'] := by
      rintro rfl
      exact hnr.not_mem (by decide) (by decide) List.mem_cons_self
    have hplain : ¬ (text.any fun c => c == ':' || c == '.') = true := by
      rw [any_mark_iff, not_or]
      exact ⟨hnr.not_mem (by decide) (by decide), hnr.not_mem (by decide) (by decide)⟩
    rw [busSelector, if_neg hwild, if_neg hplain, nrSelector, Numeral.decimal32?_eq_some_iff.mpr hnr]
  | @path text path _ hmark hpath =>
    have hwild : text ≠ ['*'] := by
      rintro rfl
      simp at hmark
    rw [busSelector, if_neg hwild, if_pos (any_mark_iff.mpr hmark), hpath]

/-! ## Words -/

/-- A word is taken apart in one way only. -/
theorem Spells.unique {word name name' address address' : List Char} {bus bus' : Option (List Char)}
    (h : Spells word name bus address) (h' : Spells word name' bus' address') :
    name = name' ∧ bus = bus' ∧ address = address' := by
  have hkind : '-' ∉ ['i', '2', 'c'] := by decide
  obtain ⟨hname, hafterName⟩ :=
    Text.eq_of_append_separator (h.word_eq.symm.trans h'.word_eq) h.name_free h'.name_free
  obtain ⟨-, hafterKind⟩ := Text.eq_of_append_separator hafterName hkind hkind
  have hsplit := splitBus_eq_iff.mpr ⟨rfl, h.bus_free⟩
  rw [hafterKind, splitBus_eq_iff.mpr ⟨rfl, h'.bus_free⟩] at hsplit
  obtain ⟨hbus, haddress⟩ := Prod.mk.inj hsplit
  exact ⟨hname, hbus.symm, haddress.symm⟩

theorem Parts.word_eq (parts : Parts) : parts.word = parts.name ++ '-' :: (['i', '2', 'c'] ++ '-' ::
    ((parts.bus.map fun text => text ++ ['-']).getD [] ++ parts.address)) := by
  obtain ⟨name, bus, address⟩ := parts
  cases bus <;> simp [Parts.word]

theorem Parts.Declares.spells {parts : Parts} {origin : Origin} {entry : ExpectedChip}
    (h : parts.Declares origin entry) : Spells parts.word parts.name parts.bus parts.address := by
  refine ⟨parts.word_eq, h.name_free, ?_, h.address.ne_nil⟩
  have hbus := h.bus
  cases hparts : parts.bus with
  | none => exact h.address.dash_not_mem
  | some text => exact (hparts ▸ hbus).dash_not_mem

theorem Parts.Declares.unique {parts other : Parts} {origin : Origin} {entry entry' : ExpectedChip}
    (h : parts.Declares origin entry) (h' : other.Declares origin entry') (hword : parts.word = other.word) :
    parts = other := by
  obtain ⟨hname, hbus, haddress⟩ := h.spells.unique (hword ▸ h'.spells)
  exact Parts.ext hname hbus haddress

/-- The words that declare an entry are those whose parts do. -/
theorem parseWord_eq_ok_iff_declares {word : List Char} {origin : Origin} {entry : ExpectedChip} :
    parseWord word origin = .ok entry ↔ ∃ parts : Parts, parts.word = word ∧ parts.Declares origin entry := by
  rw [parseWord_eq_ok_iff]
  constructor
  · rintro ⟨name, bus, address, selector, number, hspells, hbus, haddress, rfl⟩
    have hfree : ∀ text ∈ bus, '-' ∉ text := by
      rintro text rfl
      exact hspells.bus_free
    refine ⟨⟨name, bus, address⟩, ?_, hspells.name_free, rfl, selectsBus_of_busSelector hbus hfree,
      addressSelector_eq_ok_iff.mp haddress, rfl, rfl, rfl⟩
    rw [Parts.word_eq, hspells.word_eq]
  · rintro ⟨parts, rfl, h⟩
    refine ⟨parts.name, parts.bus, parts.address, entry.bus, entry.address, h.spells,
      h.bus.busSelector_eq, addressSelector_eq_ok_iff.mpr h.address, ?_⟩
    obtain ⟨-, hname, -, -, horigin, hmatched, havailable⟩ := h
    cases entry
    simp_all

/-! ## Lines -/

/-- The parts of a word declare one entry only. -/
theorem Parts.Declares.entry_unique {parts : Parts} {origin : Origin} {entry entry' : ExpectedChip}
    (h : parts.Declares origin entry) (h' : parts.Declares origin entry') : entry = entry' := by
  have hread := parseWord_eq_ok_iff_declares.mpr ⟨parts, rfl, h⟩
  rw [parseWord_eq_ok_iff_declares.mpr ⟨parts, rfl, h'⟩] at hread
  exact (Except.ok.inj hread).symm

theorem parseLine_eq_ok_none_iff {line : List Char} {origin : Origin} :
    parseLine line origin = .ok none ↔ Text.firstWord '#' line = [] := by
  unfold parseLine
  by_cases hword : Text.firstWord '#' line = []
  · simp [hword]
  · cases hread : parseWord (Text.firstWord '#' line) origin <;> simp [hword, hread, Except.map]

/-- **The grammar of configuration lines.**  The word of a line reaches from its first character that is no
blank to the next blank or hash.  A line without a word declares nothing.  A line declares an entry if its
word is made of parts that declare the entry, and no word is made of such parts in two ways.  Every other
line is malformed. -/
theorem parseLine_outcome (line : List Char) (origin : Origin) :
    let word := (line.dropWhile Text.isBlank).takeWhile fun c => !(c == '#' || Text.isBlank c)
    (parseLine line origin = .ok none ↔ word = []) ∧
    (∀ entry, parseLine line origin = .ok (some entry) ↔
      ∃ parts : Parts, parts.word = word ∧ parts.Declares origin entry) ∧
    (∀ (parts other : Parts) (entry entry' : ExpectedChip), parts.word = word → other.word = word →
      parts.Declares origin entry → other.Declares origin entry' → parts = other ∧ entry = entry') ∧
    (word ≠ [] → (∀ (parts : Parts) (entry : ExpectedChip), parts.word = word →
      ¬ parts.Declares origin entry) → ∃ fault, parseLine line origin = .error fault) := by
  intro word
  have hnone : parseLine line origin = .ok none ↔ word = [] := parseLine_eq_ok_none_iff
  have hsome (entry : ExpectedChip) : parseLine line origin = .ok (some entry) ↔
      ∃ parts : Parts, parts.word = word ∧ parts.Declares origin entry :=
    parseLine_eq_ok_some_iff.trans parseWord_eq_ok_iff_declares
  refine ⟨hnone, hsome, ?_, ?_⟩
  · intro parts other entry entry' hparts hother hdeclares hdeclares'
    obtain rfl := hdeclares.unique hdeclares' (hparts.trans hother.symm)
    exact ⟨rfl, hdeclares.entry_unique hdeclares'⟩
  · intro hword hother
    cases hread : parseLine line origin with
    | error fault => exact ⟨fault, rfl⟩
    | ok entry =>
      cases entry with
      | none => exact absurd (hnone.mp hread) hword
      | some entry =>
        obtain ⟨parts, hparts, hdeclares⟩ := (hsome entry).mp hread
        exact absurd hdeclares (hother parts entry hparts)

/-- A number with leading zeros declares one entry in one way, and a bare name declares none. -/
theorem parseLine_outcome_lm75 :
    (∃! parts : Parts, parts.word = "lm75-i2c-007-0x48".toList ∧ parts.Declares ⟨"chips", 1⟩
      { name := some "lm75", bus := { nr := some 7, path := some "7" }, address := some 0x48,
        origin := ⟨"chips", 1⟩ }) ∧
      ∃ fault, parseLine "lm75".toList ⟨"chips", 2⟩ = .error fault := by
  constructor
  · obtain ⟨-, hdeclares, hunique, -⟩ := parseLine_outcome " lm75-i2c-007-0x48 # sensor".toList ⟨"chips", 1⟩
    obtain ⟨parts, hword, hparts⟩ := (hdeclares
      { name := some "lm75", bus := { nr := some 7, path := some "7" }, address := some 0x48,
        origin := ⟨"chips", 1⟩ }).mp rfl
    exact ⟨parts, ⟨hword, hparts⟩, fun other h => (hunique other parts _ _ h.1 hword h.2 hparts).1⟩
  · obtain ⟨-, -, -, hmalformed⟩ := parseLine_outcome "lm75".toList ⟨"chips", 2⟩
    refine hmalformed (by decide) fun parts entry hword _ => ?_
    have hdash : '-' ∈ parts.word := by simp [parts.word_eq]
    rw [hword] at hdash
    revert hdash
    decide

end ExpectedChip
end I2cTopology
