import I2cTopology.Proofs.Configurable

/-!
# What a bus selector selects

A selector is read in two ways.  The adapter of an entry is looked up, by the path of the selector if it has
one and by its kernel id otherwise.  A chip is held against an entry by the path alone.  So a selector with a
path means the same both ways as long as paths can be read, which they can from all lines, and a selector with
nothing but a kernel id is satisfied by chips on every bus.

* `BusSelector.LeadsTo`: when a selector leads to the bus of a chip that satisfies it.
* `Chip.satisfies_of_path_eq_none`: without a path the kernel id is not looked at.
* `selectors_agree_iff`: the two readings against each other.
-/

namespace I2cTopology

/-- Looked up, the selector leads to a bus on which it is satisfied: the path of the bus is short enough to be
read, or there is no path and the kernel id is that of the bus. -/
def BusSelector.LeadsTo (selector : BusSelector) (bus : BusDescriptor) : Prop :=
  match selector.path with
  | some _ => (Text.pieces ':' bus.path.toList).length < BusPath.maxTokens
  | none => selector.nr = some bus.nr

/-- Without a path the bus of an entry makes no difference to the chips. -/
theorem Chip.satisfies_of_path_eq_none {entry : ExpectedChip} (hpath : entry.bus.path = none) (chip : Chip) :
    chip.satisfies entry = chip.satisfies { entry with bus := {} } := by
  rw [satisfies, satisfies, hpath]

namespace Forest

variable {found : List Adapter} {forest : Forest} {entry : ExpectedChip} {id : AdapterId} {chip : Chip}

/-- The path of a placed adapter leads to it if it is not too deep. -/
theorem BuiltFrom.resolve_path_eq_ok_iff (h : BuiltFrom found forest) (hid : forest.Placed id) :
    forest.resolve (forest.path id) = .ok (some id) ↔
      (Text.pieces ':' (forest.path id).toList).length < BusPath.maxTokens := by
  rw [← h.exists_parse_path_iff hid]
  refine ⟨fun hresolve => ?_, fun ⟨path, hparse⟩ => h.resolve_path_of_parse hid hparse⟩
  cases hparse : BusPath.parse (forest.path id) with
  | ok path => exact ⟨path, rfl⟩
  | error refusal =>
    rw [resolve, hparse] at hresolve
    cases hresolve

/-- An entry whose path, if it has one, is that of a placed adapter points at it exactly if its selector
leads there. -/
theorem BuiltFrom.entryAdapter?_eq_some_iff (h : BuiltFrom found forest) (hid : forest.Placed id)
    (hpath : ∀ text, entry.bus.path = some text → text = forest.path id) :
    forest.entryAdapter? entry = some id ↔ entry.bus.LeadsTo (forest.descriptor id) := by
  rw [BusSelector.LeadsTo]
  cases htext : entry.bus.path with
  | some text =>
    obtain rfl := hpath text htext
    simp only [entryAdapter?, htext]
    refine Iff.trans ?_ (h.resolve_path_eq_ok_iff hid)
    cases forest.resolve (forest.path id) <;> simp
  | none =>
    have hnr : nrOf found.toArray id = (forest.adapter id).nr := by rw [h.adapter_eq, nrOf]
    cases hselected : entry.bus.nr with
    | none => simp [entryAdapter?, htext, hselected]
    | some nr =>
      simp only [entryAdapter?, htext, hselected, h.lookup?_eq_some_iff, hnr, Option.some.injEq]
      exact ⟨fun h => h.2.symm, fun h => ⟨hid, h.symm⟩⟩

/-- An entry points at the adapter of a chip that satisfies it exactly if its selector leads there. -/
theorem Surveyed.entryAdapter?_eq_some_iff (h : Surveyed forest) (hchip : chip ∈ (forest.adapter id).chips)
    (hsatisfies : chip.satisfies entry = true) :
    forest.entryAdapter? entry = some id ↔ entry.bus.LeadsTo (forest.descriptor id) := by
  have hplaced := (h.chips id chip hchip).placed
  have hpath (text : String) (htext : entry.bus.path = some text) : text = forest.path id :=
    h.path_eq_of_satisfies hchip hsatisfies htext
  obtain ⟨found, origin, hbuilt, horigin⟩ := h.built
  rw [← entryAdapter?_eq_of_plain_eq horigin, ← descriptor_plain, ← horigin, descriptor_plain]
  refine hbuilt.entryAdapter?_eq_some_iff (placed_of_plain_eq horigin.symm hplaced) fun text htext => ?_
  rw [hpath text htext, path_eq_of_plain_eq horigin]

/-- **When the two readings of a selector agree.**  Take a forest that a scan found, whatever was answered,
and any entry.

* The entry points at the adapter of a chip that satisfies it, or that is listed with it as configured,
  exactly if its selector leads there: by a path of at most nineteen steps, or without a path by the kernel id
  of this adapter.
* An entry without a path is satisfied by the same chips as if it were for every bus.
* If the entry is declared by a line and names its bus, it points at the adapter of every such chip. -/
theorem selectors_agree_iff {σ : Type} {settings : Settings} {before after : σ} {talk : List Exchange}
    (scan : (Scan.scan settings).run.Dialogue before talk (some (.ok forest)) after)
    (entry : ExpectedChip) :
    (∀ id, ∀ chip ∈ (forest.adapter id).chips, chip.satisfies entry = true →
      (forest.entryAdapter? entry = some id ↔ entry.bus.LeadsTo (forest.descriptor id))) ∧
    (∀ entries, ∀ pair ∈ forest.configuredChips entries, entries[pair.entry]? = some entry →
      (forest.entryAdapter? entry = some pair.adapter ↔
        entry.bus.LeadsTo (forest.descriptor pair.adapter))) ∧
    (entry.bus.path = none → ∀ chip : Chip, chip.satisfies entry = chip.satisfies { entry with bus := {} }) ∧
    (∀ line origin, ExpectedChip.parseLine line origin = .ok (some entry) → entry.bus.isAny = false →
      ∀ id, ∀ chip ∈ (forest.adapter id).chips, chip.satisfies entry = true →
        forest.entryAdapter? entry = some id) := by
  have hsurveyed := ((Scan.ensures_scan settings).of_dialogue scan).1
  refine ⟨fun id chip hchip => hsurveyed.entryAdapter?_eq_some_iff hchip, ?_,
    Chip.satisfies_of_path_eq_none, ?_⟩
  · intro entries pair hpair hentry
    obtain ⟨hchip, other, hother, hsatisfies⟩ := configured_of_mem_configuredChips hpair
    obtain rfl := Option.some.inj (hentry.symm.trans hother)
    exact hsurveyed.entryAdapter?_eq_some_iff (List.mem_of_getElem? hchip) hsatisfies
  · intro line origin hline hany id chip hchip hsatisfies
    exact hsurveyed.entryAdapter?_eq_some (ExpectedChip.readable_of_parseLine hline) hany hchip hsatisfies

/-- The sensor satisfies an entry for the bus with the number one, which is not its own. -/
theorem selectors_agree_iff_sensor :
    (∃ chip ∈ (sensorForest.adapter 0).chips,
      chip.satisfies { (default : ExpectedChip) with bus := { nr := some 1 } } = true) ∧
    sensorForest.entryAdapter? { (default : ExpectedChip) with bus := { nr := some 1 } } ≠ some 0 ∧
    sensorForest.entryAdapter? { (default : ExpectedChip) with bus := { nr := some 0 } } = some 0 := by
  obtain ⟨talk, scan⟩ := exists_scan_sensorMachine
  have hchips : (sensorForest.adapter 0).chips = [sensor] := by with_unfolding_all rfl
  have hsensor : sensor ∈ (sensorForest.adapter 0).chips := hchips ▸ List.mem_singleton_self sensor
  have hnr : (sensorForest.descriptor 0).nr = 0 := by with_unfolding_all rfl
  obtain ⟨hother, -⟩ := selectors_agree_iff scan { (default : ExpectedChip) with bus := { nr := some 1 } }
  obtain ⟨hown, -⟩ := selectors_agree_iff scan { (default : ExpectedChip) with bus := { nr := some 0 } }
  refine ⟨⟨sensor, hsensor, rfl⟩, fun hpoints => ?_, (hown 0 sensor hsensor rfl).mpr ?_⟩
  · have hsame : some 1 = some (sensorForest.descriptor 0).nr := (hother 0 sensor hsensor rfl).mp hpoints
    rw [hnr] at hsame
    cases hsame
  · exact congrArg some hnr.symm

end Forest
end I2cTopology
