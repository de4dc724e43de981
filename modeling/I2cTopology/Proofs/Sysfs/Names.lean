import I2cTopology.Proofs.CNotation
import I2cTopology.Proofs.FilePathText
import I2cTopology.Proofs.Forest.Lineage
import I2cTopology.Scan.Survey

/-!
# Names that are read back

The kernel names links, channels and adapters after numbers, and a scan reads the numbers out of the names.

* `adapterNr?_eq_some_iff`, `chipAddress?_eq_some_iff`: the names of adapters and of chips.
* `adapterNr?_linkName`, `outputNr?_channelName`: links and channels.
* `adapterNr?_directoryName`: directories of chips, which are no adapters.
* `muxName?_legacyName`: channels that tell their output number by their name.
* `muxName?_eq_none`: names that tell none.
-/

namespace I2cTopology

namespace Text

theorem dropOpening?_eq_some_iff {opening text rest : List Char} :
    dropOpening? opening text = some rest ↔ text = opening ++ rest := by
  induction opening generalizing text with
  | nil => exact Option.some_inj
  | cons o opening ih =>
    cases text with
    | nil => exact ⟨nofun, nofun⟩
    | cons c text =>
      rw [dropOpening?, List.cons_append, List.cons.injEq, ← ih]
      split
      next heq => exact ⟨fun h => ⟨heq.symm, h⟩, And.right⟩
      next hne => exact ⟨nofun, fun h => absurd h.1.symm hne⟩

/-- What is cut at a marker is put together again with the marker in between. -/
theorem eq_of_cutAt? {marker text front back : List Char} (h : cutAt? marker text = some (front, back)) :
    text = front ++ (marker ++ back) := by
  induction text generalizing front with
  | nil =>
    obtain ⟨after, hafter, heq⟩ := Option.map_eq_some_iff.mp h
    obtain ⟨rfl, rfl⟩ := Prod.mk.inj heq
    exact (dropOpening?_eq_some_iff.mp hafter).trans (List.nil_append _).symm
  | cons c rest ih =>
    rw [cutAt?] at h
    split at h
    next after hafter =>
      obtain ⟨rfl, rfl⟩ := Prod.mk.inj (Option.some.inj h)
      exact (dropOpening?_eq_some_iff.mp hafter).trans (List.nil_append _).symm
    next =>
      obtain ⟨⟨before, after⟩, hrest, heq⟩ := Option.map_eq_some_iff.mp h
      obtain ⟨rfl, rfl⟩ := Prod.mk.inj heq
      rw [ih hrest, List.cons_append]

/-- A text is cut at a marker whose first character does not occur before. -/
theorem cutAt?_append {c : Char} {marker front : List Char} (back : List Char) (h : c ∉ front) :
    cutAt? (c :: marker) (front ++ (c :: marker ++ back)) = some (front, back) := by
  induction front with
  | nil =>
    have hdrop : dropOpening? (c :: marker) (c :: (marker ++ back)) = some back :=
      dropOpening?_eq_some_iff.mpr rfl
    rw [List.nil_append, List.cons_append, cutAt?, hdrop]
  | cons d rest ih =>
    have hdrop : dropOpening? (c :: marker) (d :: (rest ++ (c :: marker ++ back))) = none := by
      have hne : c ≠ d := fun heq => h (heq ▸ List.mem_cons_self)
      rw [dropOpening?, if_neg hne]
    rw [List.cons_append, cutAt?, hdrop, ih fun hmem => h (List.mem_cons_of_mem d hmem)]
    rfl

end Text

namespace Scan

theorem after?_eq_some_iff {opening name : String} {rest : List Char} :
    after? opening name = some rest ↔ name.toList = opening.toList ++ rest :=
  Text.dropOpening?_eq_some_iff

/-! ## What a name tells -/

/-- The names of adapters are `i2c-` and a decimal numeral of 32 bits, and the kernel id is its value. -/
theorem adapterNr?_eq_some_iff {name : String} {nr : UInt32} :
    adapterNr? name = some nr ↔
      ∃ digits, name.toList = "i2c-".toList ++ digits ∧ Numeral.IsDecimal digits nr.toNat := by
  rw [adapterNr?, Option.bind_eq_bind, Option.bind_eq_some_iff]
  simp only [after?_eq_some_iff, Numeral.decimal32?_eq_some_iff]

/-- The names of chips on an adapter are the digits of its kernel id, a dash and a hexadecimal numeral of 16
bits, and the address is its value. -/
theorem chipAddress?_eq_some_iff {nr : UInt32} {name : String} {address : UInt16} :
    chipAddress? nr name = some address ↔
      ∃ digits, name.toList = Nat.toDigits 10 nr.toNat ++ '-' :: digits ∧
        Numeral.IsHexadecimal digits address.toNat := by
  have hopening (digits : List Char) :
      (s!"{nr}-").toList ++ digits = Nat.toDigits 10 nr.toNat ++ '-' :: digits := by
    rw [← Numeral.toList_toString, String.toList_append, List.append_assoc]
    rfl
  rw [chipAddress?, Option.bind_eq_bind, Option.bind_eq_some_iff]
  simp only [after?_eq_some_iff, Numeral.hexadecimal16?_eq_some_iff, hopening]

/-- What reads as an adapter is not passed over. -/
theorem isAdapterEntry_of_adapterNr? {entry : String} {nr : UInt32} (h : adapterNr? entry = some nr) :
    isAdapterEntry entry = true := by
  obtain ⟨rest, hrest, -⟩ := adapterNr?_eq_some_iff.mp h
  rw [isAdapterEntry, after?_eq_some_iff.mpr hrest, Option.isSome_some]

/-! ## Links and channels -/

/-- The name of the link to an adapter, and of the adapter's directory. -/
def linkName (nr : UInt32) : String :=
  s!"i2c-{nr}"

/-- The name of the link from a multiplexer chip to a channel. -/
def channelName (output : UInt32) : String :=
  s!"channel-{output}"

theorem toList_linkName (nr : UInt32) :
    (linkName nr).toList = "i2c-".toList ++ Nat.toDigits 10 nr.toNat := by
  rw [linkName, ← Numeral.toList_toString]
  exact String.toList_append

theorem toList_channelName (output : UInt32) :
    (channelName output).toList = "channel-".toList ++ Nat.toDigits 10 output.toNat := by
  rw [channelName, ← Numeral.toList_toString]
  exact String.toList_append

@[simp] theorem adapterNr?_linkName (nr : UInt32) : adapterNr? (linkName nr) = some nr := by
  rw [adapterNr?, after?_eq_some_iff.mpr (toList_linkName nr)]
  exact Numeral.decimal32?_toDigits nr

@[simp] theorem outputNr?_channelName (output : UInt32) :
    outputNr? (channelName output) = some output := by
  rw [outputNr?, after?_eq_some_iff.mpr (toList_channelName output)]
  exact Numeral.decimal32?_toDigits output

theorem plainName_linkName (nr : UInt32) : FilePath.PlainName (linkName nr) := by
  have hlong : 4 ≤ (linkName nr).toList.length := by
    rw [toList_linkName, List.length_append]
    exact Nat.le_add_right 4 _
  have hne {text : String} (htext : text.toList.length < 4) : linkName nr ≠ text := by
    rintro rfl
    omega
  refine ⟨fun hslash => ?_, hne (by decide), hne (by decide), hne (by decide)⟩
  rw [toList_linkName, List.mem_append] at hslash
  obtain hslash | hslash := hslash
  · exact absurd hslash (by decide)
  · exact Numeral.not_mem_toDigits (by decide) _ hslash

/-! ## Directories of chips -/

/-- The name of a chip's directory begins with a digit. -/
theorem exists_toList_directoryName (nr : UInt32) (address : UInt16) : ∃ digit rest,
    digit.isDigit = true ∧ (Chip.directoryName nr address).toList = digit :: rest ∧ '/' ∉ rest := by
  have htext : (Chip.directoryName nr address).toList =
      Nat.toDigits 10 nr.toNat ++ ('-' :: (Numeral.hexadecimal 4 address.toNat).toList) := by
    have hstring (text : String) : toString text = text := rfl
    rw [Chip.directoryName, ← Numeral.toList_toString]
    simp only [hstring, String.toList_append, List.append_assoc]
    rfl
  cases hdigits : Nat.toDigits 10 nr.toNat with
  | nil => exact absurd hdigits Nat.toDigits_ne_nil
  | cons digit rest =>
    have hdigit {c : Char} (hc : c ∈ digit :: rest) : c.isDigit = true :=
      Numeral.isDigit_of_mem_toDigits (hdigits ▸ hc)
    rw [htext, hdigits, List.cons_append]
    refine ⟨digit, _, hdigit List.mem_cons_self, rfl, fun hslash => ?_⟩
    rw [List.mem_append, List.mem_cons] at hslash
    obtain hslash | hslash | hslash := hslash
    · exact absurd (hdigit (List.mem_cons_of_mem digit hslash)) (by decide)
    · exact absurd hslash (by decide)
    · exact absurd (Numeral.isAlphanum_of_mem_hexadecimal hslash) (by decide)

theorem plainName_directoryName (nr : UInt32) (address : UInt16) :
    FilePath.PlainName (Chip.directoryName nr address) := by
  obtain ⟨digit, rest, hdigit, htext, hrest⟩ := exists_toList_directoryName nr address
  have hne {text : String} (hhead : ∀ c ∈ text.toList.head?, c.isDigit = false) :
      Chip.directoryName nr address ≠ text := by
    intro heq
    have hnone := hhead digit (by rw [← heq, htext]; rfl)
    rw [hdigit] at hnone
    cases hnone
  refine ⟨?_, hne (by simp), hne (by simp), hne (by simp)⟩
  rw [htext, List.mem_cons, not_or]
  refine ⟨fun hslash => ?_, hrest⟩
  subst hslash
  cases hdigit

/-- The directory of a chip is not taken for that of an adapter. -/
theorem adapterNr?_directoryName (nr : UInt32) (address : UInt16) :
    adapterNr? (Chip.directoryName nr address) = none := by
  obtain ⟨digit, rest, hdigit, htext, -⟩ := exists_toList_directoryName nr address
  refine Option.eq_none_iff_forall_ne_some.mpr fun other hother => ?_
  obtain ⟨digits, hname, -⟩ := adapterNr?_eq_some_iff.mp hother
  rw [htext] at hname
  obtain ⟨rfl, -⟩ := List.cons.inj hname
  cases hdigit

/-! ## Adapter names -/

/-- The name that tells the output number of a channel without a multiplexer chip. -/
def legacyName (number output : UInt32) : String :=
  s!"i2c-{number}-mux (chan_id {output})"

/-- The name begins like that of a channel without a multiplexer chip: `i2c-M-mux (chan_id K`, where
`M` and `K` are decimal numbers. -/
def TellsOutput (name : String) : Prop :=
  ∃ number output rest, name.toList =
      "i2c-".toList ++ (number ++ ("-mux (chan_id ".toList ++ (output ++ rest))) ∧
    (Numeral.decimal32? number).isSome ∧ (Numeral.decimal32? output).isSome

theorem not_tellsOutput {name : String} (h : after? "i2c-" name = none) : ¬ TellsOutput name := by
  rintro ⟨number, output, rest, hname, -⟩
  rw [after?_eq_some_iff.mpr hname] at h
  cases h

theorem toList_legacyName (number output : UInt32) :
    (legacyName number output).toList = "i2c-".toList ++ (Nat.toDigits 10 number.toNat ++
      ("-mux (chan_id ".toList ++ (Nat.toDigits 10 output.toNat ++ [')']))) := by
  have htext (text : String) : toString text = text := rfl
  rw [legacyName, ← Numeral.toList_toString, ← Numeral.toList_toString]
  simp only [htext, String.toList_append, List.append_assoc]
  rfl

theorem muxName?_legacyName (number output : UInt32) :
    muxName? (legacyName number output) = some (number, output) := by
  have hdash : '-' ∉ Nat.toDigits 10 number.toNat := Numeral.not_mem_toDigits (by decide) _
  have hdigits : (Nat.toDigits 10 output.toNat ++ [')']).takeWhile (fun c => '0' ≤ c && c ≤ '9') =
      Nat.toDigits 10 output.toNat := by
    rw [List.takeWhile_append_of_pos, List.takeWhile_cons_of_neg (by decide), List.append_nil]
    intro c hc
    exact Numeral.isDigit_of_mem_toDigits hc
  have hcut : Text.cutAt? "-mux (chan_id ".toList (Nat.toDigits 10 number.toNat ++
      ("-mux (chan_id ".toList ++ (Nat.toDigits 10 output.toNat ++ [')']))) =
        some (Nat.toDigits 10 number.toNat, Nat.toDigits 10 output.toNat ++ [')']) :=
    Text.cutAt?_append _ hdash
  rw [muxName?, after?_eq_some_iff.mpr (toList_legacyName number output)]
  simp only [Option.bind_eq_bind, Option.bind_some, hcut, hdigits, Numeral.decimal32?_toDigits]
  rfl

/-- A name that does not begin so tells no output number. -/
theorem muxName?_eq_none {name : String} (h : ¬ TellsOutput name) : muxName? name = none := by
  rw [Option.eq_none_iff_forall_ne_some]
  rintro ⟨nr, output⟩ htold
  apply h
  obtain ⟨rest, hrest, htold⟩ := Option.bind_eq_some_iff.mp htold
  obtain ⟨⟨number, tail⟩, hcut, htold⟩ := Option.bind_eq_some_iff.mp htold
  obtain ⟨_, hnumber, htold⟩ := Option.bind_eq_some_iff.mp htold
  obtain ⟨_, houtput, -⟩ := Option.bind_eq_some_iff.mp htold
  refine ⟨number, tail.takeWhile fun c => '0' ≤ c && c ≤ '9',
    tail.dropWhile fun c => '0' ≤ c && c ≤ '9', ?_, by simp [hnumber], by simp [houtput]⟩
  rw [List.takeWhile_append_dropWhile, ← Text.eq_of_cutAt? hcut]
  exact after?_eq_some_iff.mp hrest

end Scan
end I2cTopology
