import I2cTopology.Proofs.Forest.Subtrees
import I2cTopology.Proofs.Matching

/-!
# Every chip can be configured

A chip that a scan found is asked for by an entry with its name, the path of its adapter and its address.
Written out and read again, the entry points at the adapter, is matched there, and no chip elsewhere or at
another address satisfies it.  The path is written as a kernel id if it is one step and is read as such.

* `Chip.expected`: the entry that asks for a chip.
* `Surveyed.exists_busSelector_path`: a line may name an adapter by its path.
* `Surveyed.eq_of_satisfies`: an entry with a path is satisfied on one adapter only.
* `expected_matches`: the entry of a chip, from the line to the match.
-/

namespace I2cTopology

/-- The entry that asks for exactly this chip. -/
def Chip.expected (chip : Chip) (origin : Origin) : ExpectedChip where
  name := chip.name
  bus := { path := some chip.bus.path }
  address := some chip.address
  origin := origin

namespace Forest

variable {found : List Adapter} {forest : Forest} {id other : AdapterId} {chip : Chip}

/-! ## Paths in lines -/

/-- A path of more than one step has a colon. -/
theorem colon_mem_lineagePath (adapters : Array Adapter) (id parent : AdapterId)
    (above : List AdapterId) : ':' ∈ (lineagePath adapters (id :: parent :: above)).toList := by
  rw [lineagePath, String.toList_append, String.toList_append]
  exact List.mem_append_left _ (List.mem_append_right _ (List.mem_singleton_self _))

/-- The path of a placed adapter can be read if it is not too deep. -/
theorem BuiltFrom.exists_parse_path_iff (h : BuiltFrom found forest) (hid : forest.Placed id) :
    (∃ path, BusPath.parse (forest.path id) = .ok path) ↔
      (Text.pieces ':' (forest.path id).toList).length < BusPath.maxTokens := by
  obtain ⟨above, habove, hfits⟩ := (h.placed_iff id).mp hid
  have hne : lineageSteps found.toArray (id :: above) ≠ [] := lineageSteps_ne_nil id above
  rw [BusPath.parse, h.path_eq habove hfits, toList_lineagePath h.distinctNrs,
    BusPath.pieces_joined_segments hne, List.length_map,
    BusPath.parseChars_joined hne (walkable_lineageSteps _)]
  split
  next hshallow => exact iff_of_true ⟨_, rfl⟩ hshallow
  next hdeep =>
    refine iff_of_false ?_ hdeep
    rintro ⟨_, hparse⟩
    cases hparse

/-- The path of a placed adapter may stand in a line. -/
theorem BuiltFrom.exists_busSelector_path (h : BuiltFrom found forest) (hid : forest.Placed id)
    (hdepth : (Text.pieces ':' (forest.path id).toList).length < BusPath.maxTokens) :
    ∃ selector, ExpectedChip.busSelector (some (forest.path id).toList) = .ok selector ∧
      selector.path = some (forest.path id) ∧ selector.Readable := by
  have hparse := (h.exists_parse_path_iff hid).mpr hdepth
  obtain ⟨above, habove, hfits⟩ := (h.placed_iff id).mp hid
  have hpath := h.path_eq habove hfits
  cases above with
  | nil =>
    -- The path of a root is its kernel id.
    have hroot : forest.path id = toString (nrOf found.toArray id) := hpath
    refine ⟨{ nr := some (nrOf found.toArray id), path := some (forest.path id) }, ?_, rfl, hparse⟩
    rw [hroot, Numeral.toList_toString, ExpectedChip.busSelector_toDigits]
  | cons parent above =>
    have hcolon := colon_mem_lineagePath found.toArray id parent above
    rw [← hpath] at hcolon
    refine ⟨{ path := some (forest.path id) }, ?_, rfl, hparse⟩
    obtain ⟨path, hparse⟩ := hparse
    have hwild : (forest.path id).toList ≠ ['*'] := by
      intro hstar
      rw [hstar] at hcolon
      simp at hcolon
    have hmark : ((forest.path id).toList.any fun c => c == ':' || c == '.') = true :=
      List.any_eq_true.mpr ⟨':', hcolon, rfl⟩
    rw [ExpectedChip.busSelector, if_neg hwild, if_pos hmark, String.ofList_toList, hparse]

/-- What the path of a placed adapter is written with. -/
theorem BuiltFrom.isDigit_or_mark_of_mem_path (h : BuiltFrom found forest) (hid : forest.Placed id)
    {c : Char} (hc : c ∈ (forest.path id).toList) : c.isDigit = true ∨ c = '.' ∨ c = ':' := by
  obtain ⟨above, habove, hfits⟩ := (h.placed_iff id).mp hid
  rw [h.path_eq habove hfits, toList_lineagePath h.distinctNrs] at hc
  exact BusPath.isDigit_or_mark_of_mem_joined hc

/-- Placed adapters with the same path are the same. -/
theorem BuiltFrom.eq_of_path_eq (h : BuiltFrom found forest) (hid : forest.Placed id)
    (hother : forest.Placed other) (hpath : forest.path id = forest.path other) : id = other := by
  obtain ⟨above, habove, hfits⟩ := (h.placed_iff id).mp hid
  obtain ⟨aboveOther, haboveOther, hfitsOther⟩ := (h.placed_iff other).mp hother
  rw [h.path_eq habove hfits, h.path_eq haboveOther hfitsOther] at hpath
  exact h.path_injOn habove haboveOther hpath

/-! ## The entry of a chip -/

/-- The entry of a chip is read from its line if the parts of the line are set apart. -/
theorem parseLine_expected {name : String} {selector : BusSelector} (hname : chip.name = some name)
    (hstar : name ≠ "*") (hplain : ∀ c ∈ name.toList, c ≠ '-' ∧ Text.WordChar c)
    (hpath : ∀ c ∈ chip.bus.path.toList, c ≠ '-' ∧ Text.WordChar c)
    (hselector : ExpectedChip.busSelector (some chip.bus.path.toList) = .ok selector)
    (haddress : chip.address ≤ ExpectedChip.maxAddress) (origin place : Origin) :
    ∃ entry, ExpectedChip.parseLine (chip.expected origin).display.toList place = .ok (some entry) ∧
      entry.name = some name ∧ entry.bus = selector ∧ entry.address = some chip.address := by
  have hword : Text.firstWord '#' (chip.expected origin).display.toList =
      (chip.expected origin).display.toList := by
    refine Text.firstWord_of_forall fun c hc => ExpectedChip.wordChar_display ?_ ?_ hc
    · simp only [Chip.expected, hname, Option.getD_some]
      exact fun c hc => (hplain c hc).2
    · exact fun c hc => (hpath c hc).2
  have hspells : ExpectedChip.Spells (chip.expected origin).display.toList name.toList
      (some chip.bus.path.toList) (ExpectedChip.addressText (some chip.address)) := by
    refine ⟨?_, fun hdash => (hplain _ hdash).1 rfl, fun hdash => (hpath _ hdash).1 rfl, ?_⟩
    · rw [ExpectedChip.toList_display]
      simp [Chip.expected, hname, ExpectedChip.busText, BusKind.name]
    · simp [ExpectedChip.addressText]
  have hnamed : name.toList ≠ ['*'] := fun h => hstar (String.toList_inj.mp h)
  refine ⟨{ name := some name, bus := selector, address := some chip.address, origin := place }, ?_,
    rfl, rfl, rfl⟩
  rw [ExpectedChip.parseLine_eq_ok_some_iff, hword, ExpectedChip.parseWord_eq_ok_iff]
  refine ⟨_, _, _, _, _, hspells, hselector, ExpectedChip.addressSelector_of_le haddress, ?_⟩
  rw [if_neg hnamed, String.ofList_toList]

/-- Chips that satisfy an entry with a path and an address sit on one adapter, at that address. -/
theorem Surveyed.eq_of_satisfies (h : Surveyed forest) {entry : ExpectedChip} {address : UInt16}
    (hid : forest.Placed id) (hpath : entry.bus.path = some (forest.path id))
    (haddress : entry.address = some address) (hchip : chip ∈ forest.chips)
    (hsatisfies : chip.satisfies entry = true) : chip.adapter = id ∧ chip.address = address := by
  obtain ⟨other, hchip⟩ := h.mem_chips_iff.mp hchip
  have hsame := h.path_eq_of_satisfies hchip hsatisfies hpath
  obtain ⟨hother, rfl, -⟩ := h.chips other chip hchip
  obtain ⟨found, origin, hbuilt, horigin⟩ := h.built
  have hplaced {id : AdapterId} (h : forest.Placed id) := placed_of_plain_eq horigin.symm h
  simp only [Chip.satisfies, haddress, Bool.and_eq_true, beq_iff_eq] at hsatisfies
  refine ⟨?_, hsatisfies.1.2.symm⟩
  rw [← path_eq_of_plain_eq horigin, ← path_eq_of_plain_eq horigin] at hsame
  exact (hbuilt.eq_of_path_eq (hplaced hid) (hplaced hother) hsame).symm

/-- **Every chip can be configured.**  Take a forest that a scan found, whatever was answered, and a chip on
an adapter with a path of at most nineteen steps.  If its address has ten bits and its name is not the
wildcard and has neither a dash nor a blank nor the mark of a comment, then the entry that asks for the chip,
written out, is read as an entry

* that points at the adapter of the chip, so it is available after a reconciliation,
* that the chip satisfies, so it is matched after a reconciliation,
* that no chip on another adapter or at another address satisfies. -/
theorem expected_matches {σ : Type} {settings : Settings} {before after : σ} {talk : List Exchange}
    (scan : (Scan.scan settings).run.Dialogue before talk (some (.ok forest)) after)
    (hchip : chip ∈ forest.chips)
    (hdepth : (Text.pieces ':' chip.bus.path.toList).length ≤ 19)
    (haddress : chip.address ≤ ExpectedChip.maxAddress) {name : String} (hname : chip.name = some name)
    (hstar : name ≠ "*")
    (hplain : ∀ c ∈ name.toList, c ≠ '-' ∧ c ≠ '#' ∧ Text.isBlank c = false) (origin place : Origin) :
    ∃ entry, ExpectedChip.parseLine (chip.expected origin).display.toList place = .ok (some entry) ∧
      forest.entryAdapter? entry = some chip.adapter ∧
      (forest.reconcileEntry entry).available = true ∧ (forest.reconcileEntry entry).matched = true ∧
      chip.satisfies entry = true ∧
      ∀ other ∈ forest.chips, other.satisfies entry = true →
        other.adapter = chip.adapter ∧ other.address = chip.address := by
  have hsurveyed := ((Scan.ensures_scan settings).of_dialogue scan).1
  obtain ⟨id, hmem⟩ := hsurveyed.mem_chips_iff.mp hchip
  obtain ⟨hplaced, rfl, hbus⟩ := hsurveyed.chips id chip hmem
  obtain ⟨found, built, hbuilt, horigin⟩ := hsurveyed.built
  have hbuiltPlaced := placed_of_plain_eq horigin.symm hplaced
  have hpath : chip.bus.path = built.path chip.adapter := by
    rw [hbus, path_eq_of_plain_eq horigin]
    rfl
  rw [hpath] at hdepth
  obtain ⟨selector, hselector, hselected, hreadable⟩ :=
    hbuilt.exists_busSelector_path hbuiltPlaced (Nat.lt_succ_of_le hdepth)
  rw [← hpath] at hselector hselected
  have hmarks : ∀ c ∈ chip.bus.path.toList, c ≠ '-' ∧ Text.WordChar c := by
    intro c hc
    rw [hpath] at hc
    obtain hdigit | rfl | rfl := hbuilt.isDigit_or_mark_of_mem_path hbuiltPlaced hc
    · refine ⟨fun hdash => ?_, Text.wordChar_of_isAlphanum (by simp [Char.isAlphanum, hdigit])⟩
      subst hdash
      cases hdigit
    · exact ⟨by decide, by decide, rfl⟩
    · exact ⟨by decide, by decide, rfl⟩
  obtain ⟨entry, hread, hentryName, rfl, hnumber⟩ :=
    parseLine_expected hname hstar hplain hmarks hselector haddress origin place
  have hsatisfies : chip.satisfies entry = true := by
    simp [Chip.satisfies, hname, hentryName, hselected, hnumber, Text.eqIgnoringCase]
  have hany : entry.bus.isAny = false := by simp [BusSelector.isAny, hselected]
  have hmatched := (hsurveyed.matched_reconcileEntry_iff hreadable hany).mpr ⟨chip, hchip, hsatisfies⟩
  refine ⟨entry, hread, hsurveyed.entryAdapter?_eq_some hreadable hany hmem hsatisfies,
    available_of_matched hmatched, hmatched, hsatisfies, fun other hother hother' => ?_⟩
  rw [hbus] at hselected
  exact hsurveyed.eq_of_satisfies hplaced hselected hnumber hother hother'

theorem expected_matches_sensor : ∃ entry,
    ExpectedChip.parseLine "bench-i2c-0-0x48".toList ⟨"etc", 1⟩ = .ok (some entry) ∧
      sensorForest.entryAdapter? entry = some 0 ∧
      (sensorForest.reconcileEntry entry).available = true ∧
      (sensorForest.reconcileEntry entry).matched = true ∧ sensor.satisfies entry = true ∧
      ∀ other ∈ sensorForest.chips, other.satisfies entry = true →
        other.adapter = 0 ∧ other.address = 0x48 := by
  obtain ⟨talk, scan⟩ := exists_scan_sensorMachine
  have hchips : sensorForest.chips = [sensor] := by with_unfolding_all rfl
  have hchip : sensor ∈ sensorForest.chips := hchips ▸ List.mem_singleton_self sensor
  have hname : sensor.name = some "bench" := rfl
  have hplain : ∀ c ∈ "bench".toList, c ≠ '-' ∧ c ≠ '#' ∧ Text.isBlank c = false := by
    have htext : "bench".toList = ['b', 'e', 'n', 'c', 'h'] := rfl
    rw [htext]
    simp [Text.isBlank]
  have hline : (sensor.expected ⟨"etc", 1⟩).display = "bench-i2c-0-0x48" := by with_unfolding_all rfl
  have hmatches := expected_matches scan hchip (by decide) (by decide) hname (by decide) hplain
    ⟨"etc", 1⟩ ⟨"etc", 1⟩
  rw [hline] at hmatches
  exact hmatches

end Forest
end I2cTopology
