import I2cTopology.Proofs.Account
import I2cTopology.Proofs.Matching

/-!
# The list of configured chips

Two searches look for chips that satisfy an entry.  One lists all such chips of a forest, each with the last
entry that it satisfies; the other takes the first such chip of one adapter, with the first entry that it
satisfies, and marks the entry.  They differ in the entries and agree about the chips.

* `lastSatisfied?_isGreatest`: the last entry that a chip satisfies.
* `map_place_configuredChips`: the list is the list of all chips, with the others left out.
* `find?_configuredChips`, `firstConfigured?_eq`: the first chip of an adapter is its first in the list.
* `configured_searches`: the two searches against each other.
-/

namespace I2cTopology

/-- The place of a chip: its adapter and its position there. -/
def ConfiguredChip.place (found : ConfiguredChip) : AdapterId × Nat :=
  (found.adapter, found.position)

namespace Forest

variable {forest : Forest} {entries : List ExpectedChip} {chip : Chip} {id : AdapterId}

/-- The positions of the entries that a chip satisfies. -/
def satisfiedBy (entries : List ExpectedChip) (chip : Chip) : Set Nat :=
  { position | ∃ entry, entries[position]? = some entry ∧ chip.satisfies entry = true }

/-- The places of all chips on an adapter, in the order of its list. -/
def placesOn (forest : Forest) (id : AdapterId) : List (AdapterId × Nat) :=
  (List.range (forest.adapter id).chips.length).map fun position => (id, position)

/-- The places of all chips, adapters in pre-order. -/
def places (forest : Forest) : List (AdapterId × Nat) :=
  forest.preorder.flatMap fun (_, id) => forest.placesOn id

/-- Does the chip at a place satisfy an entry? -/
def isConfigured (forest : Forest) (entries : List ExpectedChip) (place : AdapterId × Nat) : Bool :=
  (forest.adapter place.1).chips[place.2]?.any fun chip => entries.any chip.satisfies

/-- The configuration differs from the one before it in one entry, which is marked as matched. -/
structure Marks (entries marked : List ExpectedChip) (position : Nat) : Prop where
  entry : ∃ entry, entries[position]? = some entry ∧
    marked[position]? = some { entry with matched := true }
  others : ∀ other ≠ position, marked[other]? = entries[other]?

/-! ## The last entry and the first -/

/-- The last entry that a chip satisfies stands behind all others that it satisfies. -/
theorem lastSatisfied?_isGreatest {position : Nat} (h : lastSatisfied? entries chip = some position) :
    IsGreatest (satisfiedBy entries chip) position := by
  refine ⟨satisfies_of_lastSatisfied? h, ?_⟩
  rintro other ⟨entry, hentry, hsatisfies⟩
  obtain ⟨last, hlast, rfl⟩ := Option.map_eq_some_iff.mp h
  have hsorted : entries.zipIdx.Pairwise fun a b => a.2 < b.2 := by
    rw [← List.pairwise_map, List.zipIdx_map_snd]
    exact List.pairwise_lt_range' 1
  obtain ⟨front, hsplit⟩ := List.getLast?_eq_some_iff.mp hlast
  have hmem : (entry, other) ∈ front ++ [last] := by
    rw [← hsplit]
    exact List.mem_filter.mpr ⟨List.mem_zipIdx_iff_getElem?.mpr hentry, hsatisfies⟩
  have hkept : (front ++ [last]).Pairwise fun a b => a.2 < b.2 := by
    rw [← hsplit]
    exact hsorted.filter _
  obtain hfront | hself := List.mem_append.mp hmem
  · exact Nat.le_of_lt ((List.pairwise_append.mp hkept).2.2 _ hfront _ (List.mem_singleton_self _))
  · rw [← List.mem_singleton.mp hself]

/-- The first entry that a chip satisfies stands before all others that it satisfies. -/
theorem findIdx?_isLeast {position : Nat} (h : entries.findIdx? chip.satisfies = some position) :
    IsLeast (satisfiedBy entries chip) position := by
  obtain ⟨hlt, hsatisfies, hbefore⟩ := List.findIdx?_eq_some_iff_getElem.mp h
  refine ⟨⟨_, List.getElem?_eq_getElem hlt, hsatisfies⟩, ?_⟩
  rintro other ⟨entry, hentry, hother⟩
  by_contra hlater
  refine hbefore other (Nat.lt_of_not_le hlater) ?_
  obtain ⟨_, heq⟩ := List.getElem?_eq_some_iff.mp hentry
  rw [heq]
  exact hother

/-- There is a last entry exactly if there is any. -/
theorem isSome_lastSatisfied? : (lastSatisfied? entries chip).isSome = entries.any chip.satisfies := by
  rw [Bool.eq_iff_iff, ← not_iff_not, Bool.not_eq_true, Bool.not_eq_true, Option.isSome_eq_false_iff,
    Option.isNone_iff_eq_none, lastSatisfied?_eq_none_iff, List.any_eq_false]
  simp only [Bool.not_eq_true]

/-- Marking an entry leaves the others alone. -/
theorem marks_markMatched {position : Nat} (h : position < entries.length) :
    Marks entries (markMatched entries position) position where
  entry := by
    refine ⟨entries[position], List.getElem?_eq_getElem h, ?_⟩
    rw [markMatched, List.getElem?_modify_eq, List.getElem?_eq_getElem h]
    rfl
  others other hother := by
    rw [markMatched, List.getElem?_modify]
    simp only [if_neg hother.symm]
    exact Option.map_id'

/-! ## The list -/

theorem isConfigured_of_mem_zipIdx (entries : List ExpectedChip) {position : Nat}
    (h : (chip, position) ∈ (forest.adapter id).chips.zipIdx) :
    forest.isConfigured entries (id, position) = entries.any chip.satisfies := by
  rw [isConfigured, List.mem_zipIdx_iff_getElem?.mp h, Option.any_some]

/-- On one adapter the configured chips are all its chips, with the others left out. -/
theorem map_place_configuredOn (forest : Forest) (entries : List ExpectedChip) (id : AdapterId) :
    (forest.configuredOn entries id).map ConfiguredChip.place =
      (forest.placesOn id).filter (forest.isConfigured entries) := by
  have hplaces : forest.placesOn id =
      (forest.adapter id).chips.zipIdx.map fun pair => (id, pair.2) := by
    rw [placesOn, List.range_eq_range', ← List.zipIdx_map_snd 0, List.map_map]
    rfl
  rw [hplaces, configuredOn, List.map_filterMap, List.filter_map, ← List.filterMap_eq_filter,
    List.map_filterMap]
  apply List.filterMap_congr
  rintro ⟨chip, position⟩ hchip
  have hconfigured := isConfigured_of_mem_zipIdx entries hchip
  simp only [Option.guard, Function.comp_apply, hconfigured, ← isSome_lastSatisfied?, Option.map_map]
  cases lastSatisfied? entries chip <;> rfl

/-- The list of configured chips is the list of all chips, with the others left out. -/
theorem map_place_configuredChips (forest : Forest) (entries : List ExpectedChip) :
    (forest.configuredChips entries).map ConfiguredChip.place =
      forest.places.filter (forest.isConfigured entries) := by
  rw [configuredChips, places, preorder, List.flatMap_map, List.map_flatMap, List.filter_flatMap]
  simp only [map_place_configuredOn]

/-- A place belongs to one adapter. -/
theorem fst_of_mem_placesOn {place : AdapterId × Nat} (h : place ∈ forest.placesOn id) :
    place.1 = id := by
  obtain ⟨position, -, rfl⟩ := List.mem_map.mp h
  rfl

/-- No place is listed twice if no adapter is. -/
theorem nodup_places (hnodup : (forest.preorder.map Prod.snd).Nodup) : forest.places.Nodup := by
  rw [places, List.nodup_flatMap]
  refine ⟨fun seat _ => List.nodup_range.map fun a b h => (Prod.mk.inj h).2, ?_⟩
  refine (List.pairwise_map.mp hnodup).imp fun {first second} hne place hfirst hsecond => hne ?_
  rw [← fst_of_mem_placesOn hfirst, fst_of_mem_placesOn hsecond]

/-- A chip in the list comes with the last entry that it satisfies. -/
theorem isGreatest_of_mem_configuredChips {found : ConfiguredChip}
    (h : found ∈ forest.configuredChips entries) :
    IsGreatest (satisfiedBy entries (forest.chipAt found)) found.entry := by
  obtain ⟨seat, -, hfound⟩ := List.mem_flatMap.mp h
  obtain ⟨⟨chip, position⟩, hchip, hlast⟩ := List.mem_filterMap.mp hfound
  obtain ⟨index, hindex, rfl⟩ := Option.map_eq_some_iff.mp hlast
  rw [chipAt_eq_of_getElem? (List.mem_zipIdx_iff_getElem?.mp hchip)]
  exact lastSatisfied?_isGreatest hindex

/-! ## The first chip of an adapter -/

theorem adapter_of_mem_configuredOn {found : ConfiguredChip} (h : found ∈ forest.configuredOn entries id) :
    found.adapter = id := by
  obtain ⟨_, -, hfound⟩ := List.mem_filterMap.mp h
  obtain ⟨_, -, rfl⟩ := Option.map_eq_some_iff.mp hfound
  rfl

/-- A chip that is listed satisfies a first entry as well as a last one. -/
theorem isSome_findIdx?_of_mem_configuredOn {found : ConfiguredChip}
    (h : found ∈ forest.configuredOn entries id) :
    (entries.findIdx? (forest.chipAt found).satisfies).isSome = true := by
  obtain ⟨⟨chip, position⟩, hchip, hlast⟩ := List.mem_filterMap.mp h
  obtain ⟨entry, hentry, rfl⟩ := Option.map_eq_some_iff.mp hlast
  rw [chipAt_eq_of_getElem? (List.mem_zipIdx_iff_getElem?.mp hchip), List.findIdx?_isSome,
    ← isSome_lastSatisfied?, hentry]
  rfl

/-- The first chip in the list on a placed adapter is the first of those on the adapter. -/
theorem find?_configuredChips (hplaced : forest.Placed id) :
    (forest.configuredChips entries).find? (·.adapter == id) =
      (forest.configuredOn entries id).head? := by
  have hlook (seat : Seat) : (forest.configuredOn entries seat.id).find? (·.adapter == id) =
      if seat.id = id then (forest.configuredOn entries id).head? else none := by
    split
    next hsame =>
      subst hsame
      cases hlist : forest.configuredOn entries seat.id with
      | nil => rfl
      | cons found rest =>
        have hself : (found.adapter == seat.id) = true :=
          beq_iff_eq.mpr (adapter_of_mem_configuredOn (hlist ▸ List.mem_cons_self))
        rw [List.find?_cons, hself, List.head?_cons]
    next hother =>
      refine List.find?_eq_none.mpr fun found hfound heq => hother ?_
      rw [← adapter_of_mem_configuredOn hfound, beq_iff_eq.mp heq]
  rw [configuredChips, List.find?_flatMap]
  simp only [hlook]
  cases hhead : (forest.configuredOn entries id).head? with
  | none => exact List.findSome?_eq_none_iff.mpr fun _ _ => by split <;> rfl
  | some found =>
    rw [Placed, preorder_ids] at hplaced
    obtain ⟨seat, hseat, rfl⟩ := List.mem_map.mp hplaced
    have hsome : (forest.seats.findSome? fun other =>
        if other.id = seat.id then some found else none).isSome = true :=
      List.findSome?_isSome_iff.mpr ⟨seat, hseat, by rw [if_pos rfl]; rfl⟩
    obtain ⟨other, hother⟩ := Option.isSome_iff_exists.mp hsome
    obtain ⟨candidate, -, hcandidate⟩ := List.exists_of_findSome?_eq_some hother
    split at hcandidate
    · rw [hother, hcandidate]
    · cases hcandidate

/-- Two searches that stop at the same elements stop at the same one. -/
theorem findSome?_eq_bind {α β γ : Type} {list : List α} {f : α → Option β} {g : α → Option γ}
    {k : β → Option γ} (hsame : ∀ a ∈ list, g a = (f a).bind k)
    (hstops : ∀ a ∈ list, ∀ b, f a = some b → (k b).isSome = true) :
    list.findSome? g = (list.findSome? f).bind k := by
  induction list with
  | nil => rfl
  | cons a list ih =>
    rw [List.findSome?_cons, List.findSome?_cons, hsame a List.mem_cons_self]
    cases hf : f a with
    | none =>
      exact ih (fun b hb => hsame b (List.mem_cons_of_mem a hb))
        fun b hb => hstops b (List.mem_cons_of_mem a hb)
    | some b =>
      obtain ⟨c, hc⟩ := Option.isSome_iff_exists.mp (hstops a List.mem_cons_self b hf)
      rw [Option.bind_some, hc]

/-- The first configured chip of an adapter stands at the place of the first in its list, and comes with the
first entry instead of the last. -/
theorem firstConfigured?_eq (forest : Forest) (entries : List ExpectedChip) (id : AdapterId) :
    forest.firstConfigured? entries id = (forest.configuredOn entries id).head?.bind fun found =>
      (entries.findIdx? (forest.chipAt found).satisfies).map fun lowest =>
        { found with entry := lowest } := by
  rw [firstConfigured?, configuredOn, List.head?_filterMap]
  -- Both searches stop at the first chip that satisfies an entry.
  apply findSome?_eq_bind
  · rintro ⟨chip, position⟩ hchip
    dsimp only
    cases hlast : lastSatisfied? entries chip with
    | some entry =>
      have hat : forest.chipAt ⟨id, position, entry⟩ = chip :=
        chipAt_eq_of_getElem? (List.mem_zipIdx_iff_getElem?.mp hchip)
      rw [Option.map_some, Option.bind_some, hat]
    | none =>
      rw [Option.map_none, Option.bind_none,
        List.findIdx?_eq_none_iff.mpr (lastSatisfied?_eq_none_iff.mp hlast)]
      rfl
  · intro pair hchip found hfound
    have hlisted : found ∈ forest.configuredOn entries id :=
      List.mem_filterMap.mpr ⟨pair, hchip, hfound⟩
    rw [Option.isSome_map]
    exact isSome_findIdx?_of_mem_configuredOn hlisted

/-- Without a chip nothing is marked, with one the entry that comes with it is. -/
theorem claimFirst_eq (forest : Forest) (entries : List ExpectedChip) (id : AdapterId) :
    forest.claimFirst entries id = (forest.firstConfigured? entries id,
      (forest.firstConfigured? entries id).elim entries fun found => markMatched entries found.entry) := by
  rw [claimFirst]
  cases forest.firstConfigured? entries id <;> rfl

/-- There is a first configured chip on an adapter exactly if there are any. -/
theorem isSome_firstConfigured? (forest : Forest) (entries : List ExpectedChip) (id : AdapterId) :
    (forest.firstConfigured? entries id).isSome = (forest.configuredOn entries id).head?.isSome := by
  rw [firstConfigured?_eq]
  cases hhead : (forest.configuredOn entries id).head? with
  | none => rfl
  | some found =>
    rw [Option.bind_some, Option.isSome_map,
      isSome_findIdx?_of_mem_configuredOn (List.mem_of_head? hhead)]
    rfl

/-- Whoever claims the first chip of an adapter marks the first entry that the chip satisfies. -/
theorem claimFirst_of_head? {first : ConfiguredChip}
    (hfirst : (forest.configuredOn entries id).head? = some first) :
    ∃ lowest, (forest.claimFirst entries id).1 = some { first with entry := lowest } ∧
      IsLeast (satisfiedBy entries (forest.chipAt first)) lowest ∧
      Marks entries (forest.claimFirst entries id).2 lowest := by
  have hsome := isSome_firstConfigured? forest entries id
  rw [hfirst, firstConfigured?_eq, hfirst, Option.bind_some, Option.isSome_map] at hsome
  obtain ⟨lowest, hlowest⟩ := Option.isSome_iff_exists.mp hsome
  have hclaimed : forest.firstConfigured? entries id = some { first with entry := lowest } := by
    rw [firstConfigured?_eq, hfirst, Option.bind_some, hlowest, Option.map_some]
  obtain ⟨hlt, -⟩ := List.findIdx?_eq_some_iff_getElem.mp hlowest
  rw [claimFirst_eq, hclaimed]
  exact ⟨lowest, rfl, findIdx?_isLeast hlowest, marks_markMatched hlt⟩

/-- **The two searches against each other.**  Take a forest that was built, with any chips on its adapters,
and any entries.

* No place of a chip is listed twice, and the list of configured chips goes through the places, adapters in
  pre-order and chips as they stand on them, and takes those whose chip satisfies an entry.
* Each chip in the list comes with the last entry that it satisfies.
* The search on a placed adapter finds a chip exactly if the list has one there.  It finds the first of them
  and the first entry that this chip satisfies, marks that entry and no other, and without a chip it marks
  nothing. -/
theorem configured_searches {found : List Adapter} {origin : Forest} (hbuilt : BuiltFrom found origin)
    (hplain : origin.plain = forest.plain) (entries : List ExpectedChip) :
    forest.places.Nodup ∧
    (forest.configuredChips entries).map ConfiguredChip.place =
      forest.places.filter (forest.isConfigured entries) ∧
    (∀ chip ∈ forest.configuredChips entries,
      IsGreatest (satisfiedBy entries (forest.chipAt chip)) chip.entry) ∧
    ∀ id, forest.Placed id →
      ((forest.claimFirst entries id).1.isSome = true ↔
        ∃ chip ∈ forest.configuredChips entries, chip.adapter = id) ∧
      (∀ first, (forest.configuredChips entries).find? (·.adapter == id) = some first →
        ∃ lowest, (forest.claimFirst entries id).1 = some { first with entry := lowest } ∧
          IsLeast (satisfiedBy entries (forest.chipAt first)) lowest ∧
          Marks entries (forest.claimFirst entries id).2 lowest) ∧
      ((forest.claimFirst entries id).1 = none → (forest.claimFirst entries id).2 = entries) := by
  have hnodup : (forest.preorder.map Prod.snd).Nodup := by
    rw [preorder_ids, ← seats_eq_of_plain_eq hplain, ← preorder_ids]
    exact (List.nodup_append.mp (hbuilt.ids_perm.nodup_iff.mpr List.nodup_range)).1
  refine ⟨nodup_places hnodup, map_place_configuredChips forest entries,
    fun chip hchip => isGreatest_of_mem_configuredChips hchip, fun id hplaced => ⟨?_, ?_, ?_⟩⟩
  · rw [claimFirst_eq, isSome_firstConfigured?, ← find?_configuredChips hplaced, List.find?_isSome]
    simp only [beq_iff_eq]
  · intro first hfirst
    rw [find?_configuredChips hplaced] at hfirst
    exact claimFirst_of_head? hfirst
  · intro hnone
    rw [claimFirst_eq] at hnone ⊢
    dsimp only at hnone ⊢
    rw [hnone, Option.elim_none]

/-- The sample forest with two chips on its root and one on its second channel. -/
def stockedForest : Forest :=
  let onRoot : List Chip :=
    [{ (default : Chip) with address := 0x20, bus := ⟨.i2c, 3, "3"⟩, name := some "pcf8574", adapter := 2 },
      { (default : Chip) with address := 0x48, bus := ⟨.i2c, 3, "3"⟩, name := some "lm75", adapter := 2 }]
  let onChannel : List Chip :=
    [{ (default : Chip) with address := 0x48, bus := ⟨.mux, 7, "3:1.1"⟩, name := none, adapter := 0 }]
  (sampleForest.modify 2 fun adapter => { adapter with chips := onRoot }).modify 0 fun adapter =>
    { adapter with chips := onChannel }

/-- Entries that overlap: a name, an address, and an address on the second channel. -/
def overlappingEntries : List ExpectedChip :=
  [{ name := some "lm75", bus := {}, address := none, origin := ⟨"etc", 1⟩ },
    { name := none, bus := {}, address := some 0x48, origin := ⟨"etc", 2⟩ },
    { name := none, bus := { path := some "3:1.1" }, address := some 0x48, origin := ⟨"etc", 3⟩ }]

theorem configured_searches_stocked :
    (stockedForest.configuredChips overlappingEntries).map ConfiguredChip.place = [(2, 1), (0, 0)] ∧
      (stockedForest.claimFirst overlappingEntries 0).1.isSome = true ∧
      ∃ lowest, (stockedForest.claimFirst overlappingEntries 2).1 = some ⟨2, 1, lowest⟩ ∧
        Marks overlappingEntries (stockedForest.claimFirst overlappingEntries 2).2 lowest := by
  have hplain : sampleForest.plain = stockedForest.plain := by
    rw [stockedForest, plain_modify, plain_modify]
    all_goals exact fun _ => rfl
  obtain ⟨-, hplaces, -, hclaims⟩ := configured_searches ⟨_, build_sample⟩ hplain overlappingEntries
  have hlist : stockedForest.configuredChips overlappingEntries = [⟨2, 1, 1⟩, ⟨0, 0, 2⟩] := by
    with_unfolding_all rfl
  have hconfigured : stockedForest.places.filter (stockedForest.isConfigured overlappingEntries) =
      [(2, 1), (0, 0)] := by with_unfolding_all rfl
  have hroot : stockedForest.Placed 2 := by decide
  have hchannel : stockedForest.Placed 0 := by decide
  refine ⟨hplaces.trans hconfigured, (hclaims 0 hchannel).1.mpr ⟨⟨0, 0, 2⟩, ?_, rfl⟩, ?_⟩
  · rw [hlist]
    exact List.mem_cons_of_mem _ (List.mem_singleton_self _)
  · obtain ⟨lowest, hclaimed, -, hmarks⟩ := (hclaims 2 hroot).2.1 ⟨2, 1, 1⟩ (by rw [hlist]; rfl)
    exact ⟨lowest, hclaimed, hmarks⟩

end Forest
end I2cTopology
