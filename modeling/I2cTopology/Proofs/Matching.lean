import I2cTopology.Proofs.Context.Flags

/-!
# Two ways of matching

A reconciliation looks for the one adapter that an entry points at and for a chip on it.  The list of
configured chips is made the other way round: every chip of the forest is held against every entry, and the
bus of an entry is compared as a text with the path that the chip carries.  On a forest that a scan found,
the two agree about every entry that a line declares and that names its bus.

* `configuredChips_eq_nil_iff`: when no chip is configured.
* `Surveyed.mem_chips_iff`: nobody but placed adapters has chips.
* `reconcile_agrees`: the flags of an entry against the chips of the whole forest.
-/

namespace I2cTopology

/-- What entries are compared with: the name of a chip, its address and the path of its bus. -/
def Chip.features (chip : Chip) : Option String × UInt16 × String :=
  (chip.name, chip.address, chip.bus.path)

theorem Chip.satisfies_eq_of_features_eq {a b : Chip} (h : a.features = b.features) :
    a.satisfies = b.satisfies := by
  simp only [features, Prod.mk.injEq] at h
  obtain ⟨hname, haddress, hpath⟩ := h
  funext entry
  rw [satisfies, satisfies, hname, haddress, hpath]

namespace Forest

variable {forest other : Forest} {entries : List ExpectedChip} {entry : ExpectedChip} {chip : Chip}

/-! ## Configured chips -/

theorem lastSatisfied?_eq_none_iff :
    lastSatisfied? entries chip = none ↔ ∀ entry ∈ entries, chip.satisfies entry = false := by
  rw [lastSatisfied?, Option.map_eq_none_iff, List.getLast?_eq_none_iff, List.filter_eq_nil_iff]
  constructor
  · intro h entry hentry
    obtain ⟨position, hposition⟩ := List.mem_iff_getElem?.mp hentry
    simpa using h (entry, position) (List.mem_zipIdx_iff_getElem?.mpr hposition)
  · intro h indexed hindexed
    simp [h _ (List.fst_mem_of_mem_zipIdx hindexed)]

/-- No chip is configured exactly if none satisfies an entry. -/
theorem configuredChips_eq_nil_iff :
    forest.configuredChips entries = [] ↔
      ∀ chip ∈ forest.chips, ∀ entry ∈ entries, chip.satisfies entry = false := by
  simp only [configuredChips, configuredOn, List.flatMap_eq_nil_iff, List.filterMap_eq_nil_iff,
    Option.map_eq_none_iff, lastSatisfied?_eq_none_iff]
  constructor
  · intro h chip hchip
    obtain ⟨seat, hseat, hchip⟩ := List.mem_flatMap.mp hchip
    obtain ⟨position, hposition⟩ := List.mem_iff_getElem?.mp hchip
    exact h seat hseat (chip, position) (List.mem_zipIdx_iff_getElem?.mpr hposition)
  · intro h seat hseat indexed hindexed
    exact h _ (List.mem_flatMap.mpr ⟨seat, hseat, List.fst_mem_of_mem_zipIdx hindexed⟩)

theorem satisfies_of_lastSatisfied? {position : Nat}
    (h : lastSatisfied? entries chip = some position) :
    ∃ entry, entries[position]? = some entry ∧ chip.satisfies entry = true := by
  obtain ⟨⟨entry, index⟩, hlast, rfl⟩ := Option.map_eq_some_iff.mp h
  obtain ⟨hmem, hsatisfies⟩ := List.mem_filter.mp (List.mem_of_getLast? hlast)
  exact ⟨entry, List.mem_zipIdx_iff_getElem?.mp hmem, hsatisfies⟩

/-- The list of configured chips has nothing but configured chips. -/
theorem configured_of_mem_configuredChips {found : ConfiguredChip}
    (h : found ∈ forest.configuredChips entries) : forest.Configured entries found := by
  obtain ⟨seat, -, hfound⟩ := List.mem_flatMap.mp h
  obtain ⟨⟨chip, position⟩, hchip, hlast⟩ := List.mem_filterMap.mp hfound
  obtain ⟨index, hindex, rfl⟩ := Option.map_eq_some_iff.mp hlast
  obtain ⟨entry, hentry, hsatisfies⟩ := satisfies_of_lastSatisfied? hindex
  exact configured_of_getElem? (List.mem_zipIdx_iff_getElem?.mp hchip) hentry hsatisfies

/-- The addresses of the chips of an adapter that satisfy an entry. -/
def configuredAddresses (forest : Forest) (entries : List ExpectedChip) (id : AdapterId) : List UInt16 :=
  ((forest.adapter id).chips.filter fun chip => entries.any chip.satisfies).map Chip.address

/-- The first configured chip has the first of the addresses. -/
theorem configuredAddresses_of_firstConfigured? {id : AdapterId} {found : ConfiguredChip}
    (h : forest.firstConfigured? entries id = some found) :
    ∃ rest, forest.configuredAddresses entries id = (forest.chipAt found).address :: rest := by
  obtain ⟨front, ⟨chip, position⟩, back, hsplit, hentry, hfront⟩ := List.findSome?_eq_some_iff.mp h
  obtain ⟨index, hindex, rfl⟩ := Option.map_eq_some_iff.mp hentry
  obtain ⟨hlt, hsatisfies, -⟩ := List.findIdx?_eq_some_iff_getElem.mp hindex
  have hconfigured : entries.any chip.satisfies = true :=
    List.any_eq_true.mpr ⟨_, List.getElem_mem hlt, hsatisfies⟩
  have hchip : (chip, position) ∈ (forest.adapter id).chips.zipIdx := by simp [hsplit]
  have hat : forest.chipAt ⟨id, position, index⟩ = chip :=
    chipAt_eq_of_getElem? (List.mem_zipIdx_iff_getElem?.mp hchip)
  -- Nothing in front of the chip satisfies an entry.
  have hnone : (front.map Prod.fst).filter (fun chip => entries.any chip.satisfies) = [] := by
    rw [List.filter_eq_nil_iff]
    intro other hother
    obtain ⟨pair, hpair, rfl⟩ := List.mem_map.mp hother
    simpa [List.findIdx?_eq_none_iff] using hfront pair hpair
  have hchips : (forest.adapter id).chips = front.map Prod.fst ++ chip :: back.map Prod.fst := by
    rw [← List.zipIdx_map_fst 0 (forest.adapter id).chips, hsplit, List.map_append, List.map_cons]
  rw [configuredAddresses, hchips, List.filter_append, hnone, List.nil_append, List.filter_cons,
    if_pos hconfigured, hat]
  exact ⟨_, rfl⟩

theorem firstConfigured?_eq_none_iff {id : AdapterId} :
    forest.firstConfigured? entries id = none ↔ forest.configuredAddresses entries id = [] := by
  rw [configuredAddresses, List.map_eq_nil_iff, List.filter_eq_nil_iff, firstConfigured?,
    List.findSome?_eq_none_iff]
  constructor
  · intro h chip hchip
    obtain ⟨position, hposition⟩ := List.mem_iff_getElem?.mp hchip
    simpa [List.findIdx?_eq_none_iff] using h (chip, position) (List.mem_zipIdx_iff_getElem?.mpr hposition)
  · intro h indexed hindexed
    simpa [List.findIdx?_eq_none_iff] using h _ (List.fst_mem_of_mem_zipIdx hindexed)

/-- The addresses are in order if the chips are. -/
theorem Ordered.configuredAddresses (h : forest.Ordered) (entries : List ExpectedChip)
    (id : AdapterId) : (forest.configuredAddresses entries id).Pairwise (· ≤ ·) := by
  rw [Forest.configuredAddresses, List.pairwise_map]
  exact (h id).filter _

/-- Which addresses are configured has nothing to do with the flags of the entries. -/
theorem configuredAddresses_reconcile (id : AdapterId) :
    forest.configuredAddresses (other.reconcile entries) id = forest.configuredAddresses entries id := by
  have hany (chip : Chip) : (other.reconcile entries).any chip.satisfies = entries.any chip.satisfies := by
    rw [reconcile, List.any_map]
    congr 1
    funext entry
    rw [Function.comp_apply, reconcileEntry_eq]
    rfl
  simp only [configuredAddresses, hany]

theorem configuredAddresses_markMatched (position : Nat) (id : AdapterId) :
    forest.configuredAddresses (markMatched entries position) id =
      forest.configuredAddresses entries id := by
  have hany (chip : Chip) :
      (markMatched entries position).any chip.satisfies = entries.any chip.satisfies := by
    induction entries generalizing position with
    | nil => rw [markMatched, List.modify_nil]
    | cons entry rest ih =>
      cases position with
      | zero => rfl
      | succ position =>
        have hrest := ih position
        rw [markMatched] at hrest ⊢
        rw [List.modify_succ_cons, List.any_cons, List.any_cons, hrest]
  simp only [configuredAddresses, hany]

/-- Chips with the same features satisfy the same entries. -/
theorem addresses_eq_of_features_eq {chips others : List Chip}
    (h : chips.map Chip.features = others.map Chip.features) :
    (chips.filter fun chip => entries.any chip.satisfies).map Chip.address =
      (others.filter fun chip => entries.any chip.satisfies).map Chip.address := by
  induction chips generalizing others with
  | nil => rw [List.map_eq_nil_iff.mp h.symm]
  | cons chip rest ih =>
    obtain ⟨first, last, rfl, hfirst, hlast⟩ := List.map_eq_cons_iff.mp h.symm
    have haddress : first.address = chip.address := congrArg (fun features => features.2.1) hfirst
    rw [List.filter_cons, List.filter_cons, Chip.satisfies_eq_of_features_eq hfirst]
    split
    · rw [List.map_cons, List.map_cons, haddress, ih hlast.symm]
    · exact ih hlast.symm

/-- Chips that go away take their addresses with them. -/
theorem configuredAddresses_sublist {id later : AdapterId}
    (h : ((other.adapter later).chips.map Chip.features).Sublist
      ((forest.adapter id).chips.map Chip.features)) :
    (other.configuredAddresses entries later).Sublist (forest.configuredAddresses entries id) := by
  obtain ⟨kept, hkept, heq⟩ := List.sublist_map_iff.mp h
  rw [configuredAddresses, addresses_eq_of_features_eq heq]
  exact (hkept.filter _).map _

/-! ## Flags and chips -/

/-- Nobody but placed adapters has chips. -/
theorem Surveyed.mem_chips_iff (h : Surveyed forest) :
    chip ∈ forest.chips ↔ ∃ id, chip ∈ (forest.adapter id).chips := by
  rw [Forest.chips, List.mem_flatMap]
  constructor
  · rintro ⟨seat, -, hchip⟩
    exact ⟨seat.id, hchip⟩
  · rintro ⟨id, hchip⟩
    have hplaced := (h.chips id chip hchip).placed
    rw [Placed, preorder_ids] at hplaced
    obtain ⟨seat, hseat, rfl⟩ := List.mem_map.mp hplaced
    exact ⟨seat, hseat, hchip⟩

/-- An entry that names its bus is matched exactly if some chip of the forest satisfies it. -/
theorem Surveyed.matched_reconcileEntry_iff (h : Surveyed forest) (hreadable : entry.bus.Readable)
    (hany : entry.bus.isAny = false) :
    (forest.reconcileEntry entry).matched = true ↔
      ∃ chip ∈ forest.chips, chip.satisfies entry = true := by
  rw [reconcileEntry_eq, Option.any_eq_true]
  constructor
  · rintro ⟨id, -, hmatched⟩
    obtain ⟨chip, hchip, hsatisfies⟩ := List.any_eq_true.mp hmatched
    exact ⟨chip, h.mem_chips_iff.mpr ⟨id, hchip⟩, hsatisfies⟩
  · rintro ⟨chip, hchip, hsatisfies⟩
    obtain ⟨id, hchip⟩ := h.mem_chips_iff.mp hchip
    exact ⟨id, h.entryAdapter?_eq_some hreadable hany hchip hsatisfies,
      List.any_eq_true.mpr ⟨chip, hchip, hsatisfies⟩⟩

theorem available_of_matched (hmatched : (forest.reconcileEntry entry).matched = true) :
    (forest.reconcileEntry entry).available = true := by
  rw [reconcileEntry_eq, Option.any_eq_true] at hmatched
  obtain ⟨id, hid, -⟩ := hmatched
  rw [reconcileEntry_eq]
  exact Option.isSome_iff_exists.mpr ⟨id, hid⟩

/-- An entry for every bus points at no adapter. -/
theorem reconcileEntry_of_isAny (hany : entry.bus.isAny = true) :
    forest.reconcileEntry entry = { entry with matched := false, available := false } := by
  rw [BusSelector.isAny, Bool.and_eq_true, Option.isNone_iff_eq_none, Option.isNone_iff_eq_none] at hany
  have hnone : forest.entryAdapter? entry = none := by rw [entryAdapter?, hany.1, hany.2]
  rw [reconcileEntry, hnone]

/-- **The two ways of matching agree.**  Take a forest that a scan found, whatever was answered, and an
entry that a line declares.  After a reconciliation of any configuration that has the entry,

* if the entry names its bus, it is matched exactly if some chip of the forest satisfies it, that is if
  any chip is configured by this entry alone, and if it is matched, its adapter is available;
* if the entry is for every bus, neither flag is set. -/
theorem reconcile_agrees {σ : Type} {settings : Settings} {before after : σ} {talk : List Exchange}
    (scan : (Scan.scan settings).run.Dialogue before talk (some (.ok forest)) after)
    {line : List Char} {origin : Origin}
    (hline : ExpectedChip.parseLine line origin = .ok (some entry)) {position : Nat}
    (hentry : entries[position]? = some entry) :
    ∃ flagged, (forest.reconcile entries)[position]? = some flagged ∧
      (entry.bus.isAny = false →
        (flagged.matched = true ↔ ∃ chip ∈ forest.chips, chip.satisfies entry = true) ∧
        (flagged.matched = true ↔ forest.configuredChips [entry] ≠ []) ∧
        (flagged.matched = true → flagged.available = true)) ∧
      (entry.bus.isAny = true → flagged.matched = false ∧ flagged.available = false) := by
  have hsurveyed := ((Scan.ensures_scan settings).of_dialogue scan).1
  refine ⟨forest.reconcileEntry entry, ?_, fun hany => ?_, fun hany => ?_⟩
  · rw [reconcile, List.getElem?_map, hentry, Option.map_some]
  · have hmatched := hsurveyed.matched_reconcileEntry_iff (ExpectedChip.readable_of_parseLine hline) hany
    refine ⟨hmatched, ?_, available_of_matched⟩
    rw [hmatched, ne_eq, configuredChips_eq_nil_iff]
    simp
  · rw [reconcileEntry_of_isAny hany]
    exact ⟨rfl, rfl⟩

/-- A chip that is expected anywhere, and one that is expected on the adapter of the sensor. -/
def sensorEntries : List ExpectedChip :=
  [{ name := none, bus := {}, address := some 0x48, origin := ⟨"etc", 1⟩ },
    { name := none, bus := { nr := some 0, path := some "0" }, address := some 0x48, origin := ⟨"etc", 2⟩ }]

theorem reconcile_agrees_sensor :
    (sensorForest.reconcile sensorEntries).map ExpectedChip.matched = [false, true] := by
  obtain ⟨talk, scan⟩ := exists_scan_sensorMachine
  have hany : ExpectedChip.parseLine "*-i2c-*-72 # anywhere".toList ⟨"etc", 1⟩ =
      .ok sensorEntries[0]? := by
    with_unfolding_all rfl
  have hnamed : ExpectedChip.parseLine "*-i2c-0-0x48".toList ⟨"etc", 2⟩ = .ok sensorEntries[1]? := by
    with_unfolding_all rfl
  have hchips : sensorForest.chips = [sensor] := by with_unfolding_all rfl
  have hsatisfied : ∃ chip ∈ sensorForest.chips, chip.satisfies sensorEntries[1] = true :=
    ⟨sensor, hchips ▸ List.mem_singleton_self sensor, by with_unfolding_all rfl⟩
  have hfirst : sensorEntries[0]? = some sensorEntries[0] := rfl
  have hsecond : sensorEntries[1]? = some sensorEntries[1] := rfl
  obtain ⟨anywhere, hanywhere, -, hunmatched⟩ := reconcile_agrees scan hany hfirst
  obtain ⟨there, hthere, hmatched, -⟩ := reconcile_agrees scan hnamed hsecond
  obtain rfl := Option.some.inj hanywhere
  obtain rfl := Option.some.inj hthere
  exact congrArg₂ (fun a b => [a, b]) (hunmatched rfl).1 ((hmatched rfl).1.mpr hsatisfied)

end Forest
end I2cTopology
