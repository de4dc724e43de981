import I2cTopology.ExpectedChip.Reading
import I2cTopology.Proofs.Hexadecimal
import I2cTopology.Proofs.PathText
import Mathlib.Data.List.Basic
import Mathlib.Data.List.TakeWhile

/-!
# Writing a configuration and reading it again

An entry is written as one word with three dashes between its parts.  Reading takes the word apart at the
same dashes, and each part is read as what it was written for: a bus that was a number is written as its
path, any other bus as it was given, an address in hexadecimal whatever its base was.  So what is left of a
configuration after comments, blanks and malformed lines can be written down, and it reads the same.

* `parseWord_eq_ok_iff`: the words that declare an entry.
* `parseLine_display`: an entry that was read is read again from what is written of it.
* `mem_parseConfig_iff`: the entries of a configuration are those that its lines declare.
* `parseConfig_written`: the same of a whole configuration, entry by entry.
-/

namespace I2cTopology

namespace Text

/-! ## Pieces, lines and words -/

/-- Cutting at a separator undoes joining with it. -/
theorem pieces_intercalate {separator : Char} {parts : List (List Char)} (hne : parts ≠ [])
    (h : ∀ part ∈ parts, separator ∉ part) : pieces separator ([separator].intercalate parts) = parts := by
  induction parts with
  | nil => exact absurd rfl hne
  | cons part rest ih =>
    have hpart := pieces_of_not_mem (h part List.mem_cons_self)
    cases rest with
    | nil => rw [List.intercalate_singleton, hpart]
    | cons next others =>
      rw [List.intercalate_cons_cons, List.append_assoc, List.singleton_append,
        pieces_append_separator, hpart,
        ih (List.cons_ne_nil _ _) fun other hother => h other (List.mem_cons_of_mem _ hother),
        List.singleton_append]

/-- The character may occur in the first word of a line. -/
def WordChar (c : Char) : Prop :=
  c ≠ '#' ∧ isBlank c = false

theorem wordChar_of_isAlphanum {c : Char} (hc : c.isAlphanum = true) : WordChar c := by
  refine ⟨fun h => ?_, ?_⟩
  · subst h
    cases hc
  · have hnumber : c.isAlphanum = (decide (c.val ≥ 'A'.val ∧ c.val ≤ 'Z'.val) ||
        (decide (c.val ≥ 'a'.val) && decide (c.val ≤ 'z'.val)) ||
        (decide (c.val ≥ '0'.val) && decide (c.val ≤ '9'.val))) := rfl
    simp only [hnumber, Bool.or_eq_true, Bool.and_eq_true, decide_eq_true_eq, ge_iff_le,
      UInt32.le_iff_toNat_le] at hc
    simp only [isBlank, Char.toNat]
    simp at hc ⊢
    omega

theorem wordChar_of_mem_firstWord {line : List Char} {c : Char} (hc : c ∈ firstWord '#' line) :
    WordChar c := by
  have hkept := List.mem_takeWhile_imp hc
  simp only [Bool.not_eq_true', Bool.or_eq_false_iff, beq_eq_false_iff_ne] at hkept
  exact hkept

theorem firstWord_of_forall {line : List Char} (h : ∀ c ∈ line, WordChar c) :
    firstWord '#' line = line := by
  have hskip : skipBlanks line = line := by
    cases line with
    | nil => rfl
    | cons c rest =>
      rw [skipBlanks, List.dropWhile_cons_of_neg]
      simp [(h c List.mem_cons_self).2]
  rw [firstWord, hskip, List.takeWhile_eq_self_iff]
  intro c hc
  simp [(h c hc).1, (h c hc).2]

/-- Lines that are words are read back from the text in which they follow one another. -/
theorem lines_intercalate {parts : List (List Char)} (hne : ∀ part ∈ parts, part ≠ [])
    (hword : ∀ part ∈ parts, ∀ c ∈ part, WordChar c) : lines (['\n'].intercalate parts) = parts := by
  have hlines : ∀ parts : List (List Char), (∀ part ∈ parts, part ≠ []) →
      (∀ part ∈ parts, ∀ c ∈ part, WordChar c) → linesOfPieces parts = parts := by
    intro parts hne hword
    fun_induction linesOfPieces parts with
    | case1 => rfl
    | case2 last hempty =>
      exact absurd (List.isEmpty_iff.mp hempty) (hne last List.mem_cons_self)
    | case3 last hempty => rfl
    | case4 piece next others ih =>
      have hkept : dropReturn piece = piece := by
        rw [dropReturn, if_neg]
        intro hlast
        cases (hword piece List.mem_cons_self _ (List.mem_of_getLast? hlast)).2
      rw [hkept, ih (fun part hpart => hne part (List.mem_cons_of_mem _ hpart))
        fun part hpart => hword part (List.mem_cons_of_mem _ hpart)]
  cases parts with
  | nil => rfl
  | cons part rest =>
    rw [lines, pieces_intercalate (List.cons_ne_nil _ _), hlines _ hne hword]
    intro other hother hmem
    cases (hword other hother _ hmem).2

end Text

namespace ExpectedChip

open Text (WordChar)

/-! ## Words that declare an entry -/

/-- The word is made of these parts: a name, the bus type, a bus if one is given, and an address. -/
structure Spells (word name : List Char) (bus : Option (List Char)) (address : List Char) : Prop where
  word_eq : word = name ++ '-' :: (['i', '2', 'c'] ++ '-' ::
    ((bus.map fun text => text ++ ['-']).getD [] ++ address))
  name_free : '-' ∉ name
  bus_free : '-' ∉ bus.getD address
  address_ne_nil : address ≠ []

theorem splitBus_eq_iff {text : List Char} {bus : Option (List Char)} {address : List Char} :
    splitBus text = (bus, address) ↔
      text = (bus.map fun front => front ++ ['-']).getD [] ++ address ∧ '-' ∉ bus.getD address := by
  unfold splitBus
  cases hcut : Text.cut? '-' text with
  | none =>
    have hfree := Text.cut?_eq_none_iff.mp hcut
    constructor
    · intro h
      obtain ⟨rfl, rfl⟩ := Prod.mk.inj h
      exact ⟨rfl, hfree⟩
    · rintro ⟨rfl, -⟩
      cases bus with
      | none => rfl
      | some front => simp at hfree
  | some parts =>
    obtain ⟨front, back⟩ := parts
    obtain ⟨rfl, hfront⟩ := Text.cut?_eq_some_iff.mp hcut
    constructor
    · intro h
      obtain ⟨rfl, rfl⟩ := Prod.mk.inj h
      exact ⟨by simp, hfront⟩
    · rintro ⟨htext, hfree⟩
      cases bus with
      | none =>
        obtain rfl : front ++ '-' :: back = address := htext
        simp at hfree
      | some other =>
        have hother : Text.cut? '-' (other ++ '-' :: address) = some (other, address) :=
          Text.cut?_append_separator address hfree
        rw [show other ++ '-' :: address = front ++ '-' :: back by simpa using htext.symm, hcut] at hother
        obtain ⟨rfl, rfl⟩ := Prod.mk.inj (Option.some.inj hother)
        rfl

/-- **The words that declare an entry**, and the entry that each declares. -/
theorem parseWord_eq_ok_iff {word : List Char} {origin : Origin} {entry : ExpectedChip} :
    parseWord word origin = .ok entry ↔
      ∃ name bus address selector number, Spells word name bus address ∧
        busSelector bus = .ok selector ∧ addressSelector address = .ok number ∧
        entry = {
          name := if name = ['*'] then none else some (String.ofList name)
          bus := selector
          address := number
          origin := origin } := by
  constructor
  · intro h
    unfold parseWord at h
    split at h
    · cases h
    next name afterName hname =>
      split at h
      · cases h
      next kind afterKind hkind =>
        split at h
        · cases h
        next hi2c =>
          rw [not_not] at hi2c
          subst hi2c
          dsimp only at h
          split at h
          · cases h
          next hne =>
            obtain ⟨rfl, hfree⟩ := Text.cut?_eq_some_iff.mp hname
            obtain ⟨rfl, -⟩ := Text.cut?_eq_some_iff.mp hkind
            obtain ⟨htext, hbusFree⟩ := splitBus_eq_iff.mp (Prod.mk.eta (p := splitBus afterKind)).symm
            have hspells : Spells _ name (splitBus afterKind).1 (splitBus afterKind).2 :=
              ⟨by rw [← htext], hfree, hbusFree, by simpa using hne⟩
            cases hbus : busSelector (splitBus afterKind).1 with
            | error fault =>
              rw [hbus] at h
              cases h
            | ok selector =>
              cases haddress : addressSelector (splitBus afterKind).2 with
              | error fault =>
                rw [hbus, haddress] at h
                cases h
              | ok number =>
                rw [hbus, haddress] at h
                exact ⟨name, _, _, selector, number, hspells, hbus, haddress, (Except.ok.inj h).symm⟩
  · rintro ⟨name, bus, address, selector, number, ⟨rfl, hname, hbusFree, hne⟩, hbus, haddress, rfl⟩
    have hsplit := splitBus_eq_iff.mpr ⟨rfl, hbusFree⟩
    have hkind : '-' ∉ ['i', '2', 'c'] := by decide
    have hempty : address.isEmpty = false := by simpa using hne
    unfold parseWord
    rw [Text.cut?_append_separator _ hname]
    dsimp only
    rw [Text.cut?_append_separator _ hkind]
    simp only [ne_eq, not_true_eq_false, if_false, hsplit, hempty, hbus, haddress]
    rfl

/-! ## Parts that are read again -/

/-- The bus of an entry as it is written. -/
def busText (bus : BusSelector) : List Char :=
  (bus.path.getD "*").toList

/-- The address of an entry as it is written. -/
def addressText : Option UInt16 → List Char
  | some address => '0' :: 'x' :: (Numeral.hexadecimal 2 address.toNat).toList
  | none => ['*']

theorem toList_display (entry : ExpectedChip) :
    entry.display.toList = (entry.name.getD "*").toList ++ '-' :: (entry.bus.kind.name.toList ++
      '-' :: (busText entry.bus ++ '-' :: addressText entry.address)) := by
  have htext (text : String) : toString text = text := rfl
  obtain ⟨name, bus, address, origin, matched, available⟩ := entry
  cases address with
  | none =>
    have hstar : ("*" : String).toList = ['*'] := rfl
    simp [display, addressText, busText, htext, hstar]
  | some address =>
    have hmark : ("0x" : String).toList = ['0', 'x'] := rfl
    simp [display, addressText, busText, htext, hmark]

theorem addressSelector_of_le {number : UInt16} (h : number ≤ maxAddress) :
    addressSelector (addressText (some number)) = .ok (some number) := by
  have hread : (Numeral.cNotation16? (addressText (some number))).filter (· ≤ maxAddress) =
      some number := by
    rw [addressText, Numeral.cNotation16?_hexadecimal, Option.filter_some]
    simp [h]
  have hstar : addressText (some number) ≠ ['*'] := by simp [addressText]
  rw [addressSelector, if_neg hstar, hread]

/-- An address in a line is one of ten bits. -/
theorem le_maxAddress_of_addressSelector {text : List Char} {number : UInt16}
    (h : addressSelector text = .ok (some number)) : number ≤ maxAddress := by
  unfold addressSelector at h
  split at h
  · cases h
  · split at h
    next other hother =>
      obtain rfl := Option.some.inj (Except.ok.inj h)
      exact of_decide_eq_true (Option.filter_eq_some_iff.mp hother).2
    next => cases h

theorem addressSelector_addressText {text : List Char} {address : Option UInt16}
    (h : addressSelector text = .ok address) :
    addressSelector (addressText address) = .ok address := by
  cases address with
  | none => rfl
  | some number => exact addressSelector_of_le (le_maxAddress_of_addressSelector h)

theorem toList_busText_nr (nr : UInt32) :
    busText { nr := some nr, path := some (toString nr) } = Nat.toDigits 10 nr.toNat := by
  show (toString nr.toNat).toList = _
  rw [Nat.toString_eq_repr, Nat.toList_repr]

/-- A kernel id in decimal is read as the kernel id: it is neither the wildcard nor a path. -/
theorem busSelector_toDigits (nr : UInt32) :
    busSelector (some (Nat.toDigits 10 nr.toNat)) = .ok { nr := some nr, path := some (toString nr) } := by
  have hother {c : Char} (hc : c.isDigit = false) := Numeral.not_mem_toDigits hc nr.toNat
  have hwild : Nat.toDigits 10 nr.toNat ≠ ['*'] := fun heq =>
    hother (c := '*') (by decide) (heq ▸ List.mem_singleton_self _)
  have hplain : ((Nat.toDigits 10 nr.toNat).any fun c => c == ':' || c == '.') = false := by
    rw [List.any_eq_false]
    intro c hc hmark
    simp only [Bool.or_eq_true, beq_iff_eq] at hmark
    obtain rfl | rfl := hmark <;> exact hother (by decide) hc
  rw [busSelector, if_neg hwild, hplain, if_neg Bool.false_ne_true, nrSelector,
    Numeral.decimal32?_toDigits]

/-- What a bus in a line may select: every adapter, a kernel id, or a path that is kept as it stands. -/
theorem busSelector_cases {bus : Option (List Char)} {selector : BusSelector}
    (h : busSelector bus = .ok selector) :
    selector = {} ∨ (∃ nr : UInt32, selector = { nr := some nr, path := some (toString nr) }) ∨
      ∃ text, bus = some text ∧ selector = { path := some (String.ofList text) } := by
  unfold busSelector at h
  split at h
  · exact .inl (Except.ok.inj h).symm
  next text =>
    split at h
    · exact .inl (Except.ok.inj h).symm
    split at h
    · split at h
      · cases h
      · exact .inr (.inr ⟨text, rfl, (Except.ok.inj h).symm⟩)
    · unfold nrSelector at h
      split at h
      next nr _ => exact .inr (.inl ⟨nr, (Except.ok.inj h).symm⟩)
      next => cases h

/-- A written bus is read as the bus. -/
theorem busSelector_busText {bus : Option (List Char)} {selector : BusSelector}
    (h : busSelector bus = .ok selector) : busSelector (some (busText selector)) = .ok selector := by
  obtain rfl | ⟨nr, rfl⟩ | ⟨text, rfl, rfl⟩ := busSelector_cases h
  · rfl
  · rw [toList_busText_nr, busSelector_toDigits]
  · have htext : busText { path := some (String.ofList text) } = text := String.toList_ofList
    rw [htext, h]

/-- The characters of a written bus were read, or are those of a number or of the wildcard. -/
theorem mem_busText {bus : Option (List Char)} {selector : BusSelector}
    (h : busSelector bus = .ok selector) {c : Char} (hc : c ∈ busText selector) :
    c = '*' ∨ c.isDigit = true ∨ c ∈ bus.getD [] := by
  obtain rfl | ⟨nr, rfl⟩ | ⟨text, rfl, rfl⟩ := busSelector_cases h
  · exact .inl (List.mem_singleton.mp hc)
  · exact .inr (.inl (Numeral.isDigit_of_mem_toDigits (toList_busText_nr nr ▸ hc)))
  · exact .inr (.inr ((String.toList_ofList (l := text)) ▸ hc))

theorem isAlphanum_of_mem_addressText {address : Option UInt16} {c : Char}
    (hc : c ∈ addressText address) : c = '*' ∨ c.isAlphanum = true := by
  cases address with
  | none => exact .inl (List.mem_singleton.mp hc)
  | some number =>
    obtain rfl | hc := List.mem_cons.mp hc
    · exact .inr rfl
    obtain rfl | hc := List.mem_cons.mp hc
    · exact .inr rfl
    · exact .inr (Numeral.isAlphanum_of_mem_hexadecimal hc)

/-! ## Entries that are read again -/

/-- A name that was read is written as it stood. -/
theorem toList_name (name : List Char) :
    ((if name = ['*'] then none else some (String.ofList name)).getD "*").toList = name := by
  split
  next hstar => exact hstar.symm
  next => exact String.toList_ofList

/-- What is written of an entry spells its parts. -/
theorem spells_display {word name address : List Char} {bus : Option (List Char)}
    {selector : BusSelector} {number : Option UInt16} (hspells : Spells word name bus address)
    (hbus : busSelector bus = .ok selector) (origin : Origin) :
    Spells (display {
        name := if name = ['*'] then none else some (String.ofList name)
        bus := selector
        address := number
        origin := origin }).toList name (some (busText selector)) (addressText number) := by
  have hkind : selector.kind = .i2c := by
    obtain rfl | ⟨nr, rfl⟩ | ⟨text, rfl, rfl⟩ := busSelector_cases hbus <;> rfl
  refine ⟨?_, hspells.name_free, fun hdash => ?_, ?_⟩
  · rw [toList_display, hkind, toList_name]
    simp [BusKind.name]
  · obtain hc | hc | hc := mem_busText hbus hdash
    · cases hc
    · cases hc
    · cases bus with
      | none => cases hc
      | some text => exact hspells.bus_free hc
  · cases number <;> simp [addressText]

/-- The words that a line declares an entry with. -/
theorem parseLine_eq_ok_some_iff {line : List Char} {origin : Origin} {entry : ExpectedChip} :
    parseLine line origin = .ok (some entry) ↔
      parseWord (Text.firstWord '#' line) origin = .ok entry := by
  unfold parseLine
  dsimp only
  split
  next hempty =>
    rw [List.isEmpty_iff.mp hempty]
    exact ⟨nofun, nofun⟩
  next =>
    cases parseWord (Text.firstWord '#' line) origin with
    | error fault => exact ⟨nofun, nofun⟩
    | ok other => simp [Except.map]

/-- What is written of an entry is a word if its name and its bus are. -/
theorem wordChar_display {entry : ExpectedChip}
    (hname : ∀ c ∈ (entry.name.getD "*").toList, WordChar c) (hbus : ∀ c ∈ busText entry.bus, WordChar c)
    {c : Char} (hc : c ∈ entry.display.toList) : WordChar c := by
  have hletter {c : Char} (hc : c.isAlphanum = true) := Text.wordChar_of_isAlphanum hc
  have hdash : WordChar '-' := ⟨by decide, rfl⟩
  have hkind (kind : BusKind) : kind.name.toList.all Char.isAlphanum = true := by cases kind <;> decide
  rw [toList_display] at hc
  simp only [List.mem_append, List.mem_cons] at hc
  obtain hc | rfl | hc | rfl | hc | rfl | hc := hc
  · exact hname c hc
  · exact hdash
  · exact hletter (List.all_eq_true.mp (hkind _) c hc)
  · exact hdash
  · exact hbus c hc
  · exact hdash
  · obtain rfl | hc := isAlphanum_of_mem_addressText hc
    · exact ⟨by decide, rfl⟩
    · exact hletter hc

/-- What is written of an entry that was read is a word. -/
theorem wordChar_of_mem_display {line : List Char} {origin : Origin} {entry : ExpectedChip}
    (h : parseLine line origin = .ok (some entry)) {c : Char} (hc : c ∈ entry.display.toList) :
    WordChar c := by
  rw [parseLine_eq_ok_some_iff] at h
  obtain ⟨name, bus, address, selector, number, hspells, hbus, -, rfl⟩ := parseWord_eq_ok_iff.mp h
  have hword {c : Char} (hc : c ∈ name ∨ c ∈ bus.getD []) : WordChar c := by
    suffices hmem : c ∈ Text.firstWord '#' line from Text.wordChar_of_mem_firstWord hmem
    rw [hspells.word_eq]
    obtain hc | hc := hc
    · exact List.mem_append_left _ hc
    · cases bus with
      | none => cases hc
      | some text =>
        have hc : c ∈ text := hc
        simp [hc]
  refine wordChar_display (fun c hc => ?_) (fun c hc => ?_) hc
  · rw [toList_name] at hc
    exact hword (.inl hc)
  · obtain rfl | hdigit | hc := mem_busText hbus hc
    · exact ⟨by decide, rfl⟩
    · exact Text.wordChar_of_isAlphanum (by simp [Char.isAlphanum, hdigit])
    · exact hword (.inr hc)

/-- **Reading a written entry.**  An entry that was read is read again, wherever it is written. -/
theorem parseLine_display {line : List Char} {origin : Origin} {entry : ExpectedChip}
    (h : parseLine line origin = .ok (some entry)) (place : Origin) :
    parseLine entry.display.toList place = .ok (some { entry with origin := place }) := by
  have hword : Text.firstWord '#' entry.display.toList = entry.display.toList :=
    Text.firstWord_of_forall fun _ => wordChar_of_mem_display h
  rw [parseLine_eq_ok_some_iff, hword]
  rw [parseLine_eq_ok_some_iff] at h
  obtain ⟨name, bus, address, selector, number, hspells, hbus, haddress, rfl⟩ :=
    parseWord_eq_ok_iff.mp h
  exact parseWord_eq_ok_iff.mpr ⟨name, _, _, selector, number, spells_display hspells hbus origin,
    busSelector_busText hbus, addressSelector_addressText haddress, rfl⟩

theorem display_ne_nil (entry : ExpectedChip) : entry.display.toList ≠ [] := by
  rw [toList_display]
  simp

/-! ## Configurations -/

theorem entryOf?_eq_some_iff {origin : Origin} {read : Except LineFault (Option ExpectedChip)}
    {entry : ExpectedChip} : entryOf? (origin, read) = some entry ↔ read = .ok (some entry) := by
  cases read <;> simp [entryOf?]

/-- The entries of a configuration are those that its lines declare, each in its place. -/
theorem mem_parseConfig_iff {text source : String} {entry : ExpectedChip} :
    entry ∈ parseConfig text source ↔ ∃ position line,
      (Text.lines text.toList)[position]? = some line ∧
        parseLine line ⟨source, position + 1⟩ = .ok (some entry) := by
  rw [parseConfig, readLines, List.mem_filterMap]
  constructor
  · rintro ⟨read, hread, hentry⟩
    obtain ⟨⟨line, position⟩, hline, rfl⟩ := List.mem_map.mp hread
    exact ⟨position, line, List.mem_zipIdx_iff_getElem?.mp hline, entryOf?_eq_some_iff.mp hentry⟩
  · rintro ⟨position, line, hline, hentry⟩
    have hindexed := List.mem_zipIdx_iff_getElem? (x := (line, position)).mpr hline
    exact ⟨_, List.mem_map_of_mem hindexed, entryOf?_eq_some_iff.mpr hentry⟩

theorem origin_of_parseLine {line : List Char} {origin : Origin} {entry : ExpectedChip}
    (h : parseLine line origin = .ok (some entry)) : entry.origin = origin := by
  rw [parseLine_eq_ok_some_iff, parseWord_eq_ok_iff] at h
  obtain ⟨_, _, _, _, _, -, -, -, rfl⟩ := h
  rfl

/-- The entries of a configuration stand in the order of their lines. -/
theorem pairwise_lt_line_parseConfig (text source : String) :
    (parseConfig text source).Pairwise fun a b => a.origin.line < b.origin.line := by
  have hsorted : (Text.lines text.toList).zipIdx.Pairwise fun a b => a.2 < b.2 := by
    rw [← List.pairwise_map, List.zipIdx_map_snd]
    exact List.pairwise_lt_range'
  have hline {line : List Char × Nat} {entry : ExpectedChip}
      (h : entryOf? (⟨source, line.2 + 1⟩, parseLine line.1 ⟨source, line.2 + 1⟩) = some entry) :
      entry.origin.line = line.2 + 1 :=
    congrArg Origin.line (origin_of_parseLine (entryOf?_eq_some_iff.mp h))
  rw [parseConfig, readLines, List.filterMap_map, List.pairwise_filterMap]
  refine hsorted.imp fun hlt first hfirst second hsecond => ?_
  rw [hline hfirst, hline hsecond]
  exact Nat.succ_lt_succ hlt

/-- Entries that are written one to a line are read as themselves, and each line is in order. -/
theorem readLines_written {entries : List ExpectedChip} {source : String}
    (h : ∀ entry ∈ entries, ∃ line origin, parseLine line origin = .ok (some entry)) :
    readLines ("\n".intercalate (entries.map display)) source =
      entries.mapIdx fun position entry =>
        (⟨source, position + 1⟩, .ok (some { entry with origin := ⟨source, position + 1⟩ })) := by
  have hlines : Text.lines ("\n".intercalate (entries.map display)).toList =
      entries.map fun entry => entry.display.toList := by
    have hfeed : ("\n" : String).toList = ['\n'] := rfl
    rw [String.toList_intercalate, hfeed, List.map_map, Text.lines_intercalate]
    · rfl
    · intro part hpart
      obtain ⟨entry, -, rfl⟩ := List.mem_map.mp hpart
      exact display_ne_nil entry
    · intro part hpart
      obtain ⟨entry, hentry, rfl⟩ := List.mem_map.mp hpart
      obtain ⟨line, origin, hline⟩ := h entry hentry
      exact fun _ => wordChar_of_mem_display hline
  apply List.ext_getElem?
  intro position
  simp only [readLines, hlines, List.getElem?_map, List.getElem?_zipIdx, List.getElem?_mapIdx,
    Option.map_map, Nat.zero_add]
  cases hentry : entries[position]? with
  | none => rfl
  | some entry =>
    obtain ⟨line, origin, hline⟩ := h entry (List.mem_of_getElem? hentry)
    simp only [Option.map_some, Function.comp_apply, parseLine_display hline]

/-- **Configurations and texts.**  The entries of a configuration are those that its lines declare, in the
order of the lines and each with the number of its own.  Written one to a line, they are read as the same
entries in the same order, only that each now comes from its own line, and no line is malformed. -/
theorem parseConfig_written (text source : String) :
    let entries := parseConfig text source
    let written := "\n".intercalate (entries.map display)
    (∀ entry, entry ∈ entries ↔ ∃ position line, (Text.lines text.toList)[position]? = some line ∧
      parseLine line ⟨source, position + 1⟩ = .ok (some entry)) ∧
    (entries.Pairwise fun a b => a.origin.line < b.origin.line) ∧
    parseConfig written source =
        (entries.mapIdx fun position entry =>
          { entry with origin := { entry.origin with line := position + 1 } }) ∧
      configNotices written source = [] := by
  intro entries written
  have hread : readLines written source = entries.mapIdx fun position entry =>
      (⟨source, position + 1⟩, .ok (some { entry with origin := ⟨source, position + 1⟩ })) := by
    refine readLines_written fun entry hentry => ?_
    obtain ⟨position, line, -, hline⟩ := mem_parseConfig_iff.mp hentry
    exact ⟨line, _, hline⟩
  have hsource : ∀ entry ∈ entries, entry.origin.source = source := by
    intro entry hentry
    obtain ⟨position, line, -, hline⟩ := mem_parseConfig_iff.mp hentry
    rw [origin_of_parseLine hline]
  refine ⟨fun entry => mem_parseConfig_iff, pairwise_lt_line_parseConfig text source, ?_, ?_⟩
  · rw [parseConfig, hread, List.mapIdx_eq_zipIdx_map, List.mapIdx_eq_zipIdx_map, List.filterMap_map,
      List.filterMap_eq_map_iff_forall_eq_some]
    intro indexed hindexed
    simp [entryOf?, hsource _ (List.fst_mem_of_mem_zipIdx hindexed)]
  · rw [configNotices, hread, List.filterMap_eq_nil_iff]
    intro line hline
    obtain ⟨position, hlt, rfl⟩ := List.mem_mapIdx.mp hline
    rfl

/-- A configuration with a comment, a malformed line, an empty one and two entries. -/
def boardConfig : String :=
  "# header\nlm75-i2c-0-0x48\nbogus\n\n*-i2c-1:0.2-*\n"

theorem parseConfig_written_board :
    (parseConfig boardConfig "board.conf").map display = ["lm75-i2c-0-0x48", "*-i2c-1:0.2-*"] ∧
      (parseConfig boardConfig "board.conf").map (fun entry => entry.origin.line) = [2, 5] ∧
      (parseConfig "lm75-i2c-0-0x48\n*-i2c-1:0.2-*" "board.conf").map
        (fun entry => entry.origin.line) = [1, 2] := by
  have hdisplay : (parseConfig boardConfig "board.conf").map display =
      ["lm75-i2c-0-0x48", "*-i2c-1:0.2-*"] := by
    with_unfolding_all rfl
  have hlines : (parseConfig boardConfig "board.conf").map (fun entry => entry.origin.line) = [2, 5] := by
    with_unfolding_all rfl
  have hlength : (parseConfig boardConfig "board.conf").length = 2 := by
    rw [← List.length_map, hdisplay]
    rfl
  obtain ⟨first, second, hentries⟩ := List.length_eq_two.mp hlength
  have hwritten : "\n".intercalate ["lm75-i2c-0-0x48", "*-i2c-1:0.2-*"] =
      "lm75-i2c-0-0x48\n*-i2c-1:0.2-*" := by
    decide
  obtain ⟨-, -, hagain, -⟩ := parseConfig_written boardConfig "board.conf"
  rw [hdisplay, hwritten, hentries] at hagain
  refine ⟨hdisplay, hlines, ?_⟩
  rw [hagain]
  rfl

end ExpectedChip
end I2cTopology
