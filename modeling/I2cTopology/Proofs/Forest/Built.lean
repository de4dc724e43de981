import I2cTopology.Proofs.Forest.Planting

/-!
# What a forest is built from

The stages of building a forest, named, and what each yields when kernel ids are distinct: what grows
from the roots, who is left waiting, and the seats.  `construct_eq` states the building as a choice
between these, and `build_eq_ok` takes a built forest apart.
-/

namespace I2cTopology
namespace Forest

/-! ## The stages -/

/-- The branches that grow from the roots, and the adapters left waiting. -/
def growth (adapters : Array Adapter) : List Branch × List AdapterId :=
  grow adapters ((sortedRoots adapters).map (rootSlot adapters))
    ((List.range adapters.size).filter fun id => !declares adapters .root id)

/-- The adapters that the growth leaves waiting. -/
def orphansOf (adapters : Array Adapter) : List AdapterId :=
  (growth adapters).2

/-- The seats of what has grown. -/
def seatsOf (adapters : Array Adapter) : List Seat :=
  (growth adapters).1.filterMap Branch.seat?

/-- The branches that have no path. -/
def pathlessOf (adapters : Array Adapter) : List Branch :=
  (growth adapters).1.filter (·.slot.stamp.path?.isNone)

/-- The adapters without a seat. -/
def unplacedOf (adapters : Array Adapter) : List AdapterId :=
  orphansOf adapters ++ (pathlessOf adapters).map (·.slot.id)

/-- What is built from adapters whose placed kernel ids have the given index. -/
def builtOf (adapters : Array Adapter) (index : KernelIndex) : Built where
  forest := {
    adapters := adapters
    seats := seatsOf adapters
    unplaced := unplacedOf adapters
    index := index }
  orphans := orphansOf adapters
  overlong := ((pathlessOf adapters).filter (·.slot.stamp = .tooLong)).map (·.slot.id)

/-- The adapter without a place that a policy complains about, if it does. -/
def complaint? (adapters : Array Adapter) : OrphanPolicy → Option (UInt32 × UInt32)
  | .warn => none
  | .strict => orphan? adapters (orphansOf adapters)

/-- The stages are those of the building. -/
theorem construct_stages (found : List Adapter) (policy : OrphanPolicy) :
    construct found policy = (do
      let everyone ← (KernelIndex.build (nrOf found.toArray)
        (List.range found.toArray.size)).mapError .duplicateNr
      if let some id := cycle? found.toArray everyone (orphansOf found.toArray) then
        throw (.parentCycle (nrOf found.toArray id))
      if policy = .strict then
        if let some (nr, parent) := orphan? found.toArray (orphansOf found.toArray) then
          throw (.orphaned nr parent)
      let index ← (KernelIndex.build (nrOf found.toArray)
        ((seatsOf found.toArray).map Seat.id)).mapError .duplicateNr
      return builtOf found.toArray index) := rfl

/-- Building looks for faults in their order, and puts the stages together if there is none. -/
theorem construct_eq (found : List Adapter) (policy : OrphanPolicy) :
    construct found policy =
      match KernelIndex.build (nrOf found.toArray) (List.range found.toArray.size) with
      | .error nr => .error (.duplicateNr nr)
      | .ok everyone =>
        match cycle? found.toArray everyone (orphansOf found.toArray) with
        | some id => .error (.parentCycle (nrOf found.toArray id))
        | none =>
          match complaint? found.toArray policy with
          | some (nr, parent) => .error (.orphaned nr parent)
          | none =>
            match KernelIndex.build (nrOf found.toArray)
              ((seatsOf found.toArray).map Seat.id) with
            | .error nr => .error (.duplicateNr nr)
            | .ok index => .ok (builtOf found.toArray index) := by
  rw [construct_stages]
  cases KernelIndex.build (nrOf found.toArray) (List.range found.toArray.size) with
  | error nr => rfl
  | ok everyone =>
      simp only [Except.mapError, bind, Except.bind]
      cases cycle? found.toArray everyone (orphansOf found.toArray) with
      | some id => rfl
      | none =>
          cases policy with
          | warn =>
              simp only [complaint?, reduceCtorEq, if_false]
              cases KernelIndex.build (nrOf found.toArray)
                ((seatsOf found.toArray).map Seat.id) <;> rfl
          | strict =>
              simp only [complaint?, if_true]
              cases orphan? found.toArray (orphansOf found.toArray) with
              | some fault => rfl
              | none =>
                  cases KernelIndex.build (nrOf found.toArray)
                    ((seatsOf found.toArray).map Seat.id) <;> rfl

/-! ## Growth from the roots -/

section Growth

variable {adapters : Array Adapter}

theorem map_id_rootSlots :
    ((sortedRoots adapters).map (rootSlot adapters)).map Slot.id = sortedRoots adapters := by
  rw [List.map_map]
  exact List.map_id _

/-- At the start everybody's children wait, because only roots do not. -/
theorem waiting_roots (hnr : DistinctNrs adapters) :
    Waiting adapters ((sortedRoots adapters).map (rootSlot adapters))
      ((List.range adapters.size).filter fun id => !declares adapters .root id) := by
  have hperm : (sortedRoots adapters ++
      (List.range adapters.size).filter fun id => !declares adapters .root id).Perm
      (List.range adapters.size) :=
    ((byNr_perm _).append_right _).trans (List.filter_append_perm _ _)
  refine ⟨?_, ?_⟩
  · rw [map_id_rootSlots]
    exact (hperm.map (nrOf adapters)).nodup_iff.mpr hnr
  · intro id _
    rw [List.filter_filter, childrenOf]
    apply List.filter_congr
    intro child _
    by_cases hdeclares : declares adapters (.adapter (nrOf adapters id)) child = true
    · have hnot : declares adapters .root child = false := by
        rw [Bool.eq_false_iff, ne_eq, declares_iff, (declares_iff _ _).mp hdeclares]
        exact DeclaredParent.noConfusion
      simp [hdeclares, hnot]
    · simp [Bool.eq_false_iff.mpr hdeclares]

theorem grown_growth (hnr : DistinctNrs adapters) :
    Grown adapters ((sortedRoots adapters).map (rootSlot adapters)) (growth adapters).1 :=
  grown_grow (waiting_roots hnr)

/-- Every adapter grows or is left waiting, once. -/
theorem growth_perm :
    ((growth adapters).1.map (·.slot.id) ++ orphansOf adapters).Perm
      (List.range adapters.size) := by
  refine (grow_perm _ _).trans ?_
  rw [map_id_rootSlots]
  exact ((byNr_perm _).append_right _).trans (List.filter_append_perm _ _)

theorem orphansOf_sublist : (orphansOf adapters).Sublist (List.range adapters.size) :=
  (grow_sublist _ _).trans List.filter_sublist

/-- Exactly the adapters are left waiting whose lineage ends at no root. -/
theorem mem_orphansOf (hnr : DistinctNrs adapters) (id : AdapterId) :
    id ∈ orphansOf adapters ↔ id < adapters.size ∧ ¬ Rooted adapters id := by
  have hgrown : id ∈ (growth adapters).1.map (·.slot.id) ↔ Rooted adapters id := by
    apply (grown_growth hnr).mem_iff_rooted
    rw [map_id_rootSlots]
    exact byNr_perm _
  have hrange : id ∈ (growth adapters).1.map (·.slot.id) ++ orphansOf adapters ↔
      id < adapters.size := by rw [growth_perm.mem_iff, List.mem_range]
  have hnodup : ((growth adapters).1.map (·.slot.id) ++ orphansOf adapters).Nodup :=
    growth_perm.nodup_iff.mpr List.nodup_range
  rw [List.mem_append, hgrown] at hrange
  constructor
  · intro horphan
    refine ⟨hrange.mp (Or.inr horphan), ?_⟩
    intro hrooted
    exact (List.nodup_append.mp hnodup).2.2 id (hgrown.mpr hrooted) id horphan rfl
  · rintro ⟨hid, hnot⟩
    exact (hrange.mpr hid).resolve_left hnot

/-! ## Seats -/

theorem planted_seatsOf (hnr : DistinctNrs adapters) :
    Planted adapters [] (sortedRoots adapters) (seatsOf adapters) := by
  apply planted_of_grown hnr (grown_growth hnr)
  · rfl
  · exact fun id hid => ((mem_sortedRoots id).mp hid).1

theorem lineage_of_mem_sortedRoots {id : AdapterId} (hid : id ∈ sortedRoots adapters) :
    Lineage adapters id [] := by
  obtain ⟨hlt, hroot⟩ := (mem_sortedRoots id).mp hid
  exact Lineage.root hlt hroot

/-- Every adapter has a seat or is left out, once. -/
theorem seatsOf_perm :
    ((seatsOf adapters).map Seat.id ++ unplacedOf adapters).Perm (List.range adapters.size) := by
  -- Each branch has a path and gives a seat, or has none and is counted among those left out.
  have hseats : ∀ branches : List Branch,
      ((branches.filterMap Branch.seat?).map Seat.id ++
        (branches.filter (·.slot.stamp.path?.isNone)).map (·.slot.id)).Perm
          (branches.map (·.slot.id)) := by
    intro branches
    induction branches with
    | nil => exact List.Perm.refl _
    | cons branch rest ih =>
        cases hpath : branch.slot.stamp.path? with
        | none =>
            have hnone : branch.seat? = none := by rw [Branch.seat?, hpath, Option.map_none]
            have hkept : branch.slot.stamp.path?.isNone = true := by rw [hpath, Option.isNone_none]
            rw [List.filterMap_cons_none hnone, List.filter_cons, if_pos hkept, List.map_cons,
              List.map_cons]
            exact List.perm_middle.trans (ih.cons _)
        | some path =>
            obtain ⟨seat, hseat, hid⟩ : ∃ seat, branch.seat? = some seat ∧
                seat.id = branch.slot.id := by
              rw [Branch.seat?, hpath]
              exact ⟨_, rfl, rfl⟩
            have hdropped : ¬ branch.slot.stamp.path?.isNone = true := by
              rw [hpath, Option.isNone_some]
              exact Bool.false_ne_true
            rw [List.filterMap_cons_some hseat, List.filter_cons, if_neg hdropped, List.map_cons,
              List.map_cons, hid]
            exact ih.cons _
  have hgrowth := hseats (growth adapters).1
  refine List.Perm.trans ?_ (@growth_perm adapters)
  calc
    ((seatsOf adapters).map Seat.id ++ unplacedOf adapters).Perm
        ((seatsOf adapters).map Seat.id ++
          ((pathlessOf adapters).map (·.slot.id) ++ orphansOf adapters)) :=
      List.perm_append_comm.append_left _
    List.Perm _ ((growth adapters).1.map (·.slot.id) ++ orphansOf adapters) := by
      rw [← List.append_assoc]
      exact hgrowth.append_right _

theorem nodup_seatsOf : ((seatsOf adapters).map Seat.id).Nodup :=
  (List.nodup_append.mp (seatsOf_perm.nodup_iff.mpr List.nodup_range)).1

/-- **Seats.**  The seats are those of the adapters whose lineage ends at a root and whose path
fits. -/
theorem mem_seatsOf (hnr : DistinctNrs adapters) (seat : Seat) :
    seat ∈ seatsOf adapters ↔ ∃ above, Lineage adapters seat.id above ∧
      Fits adapters (seat.id :: above) ∧ seat = seatOf adapters seat.id above := by
  have hplanted := planted_seatsOf hnr
  constructor
  · intro hseat
    obtain ⟨front, hfront⟩ :=
      hplanted.seat_inversion (fun _ => lineage_of_mem_sortedRoots) hseat
    rw [List.append_nil] at hfront
    exact ⟨front, hfront⟩
  · rintro ⟨above, habove, hfits, heq⟩
    rw [heq]
    clear heq
    generalize seat.id = id at habove hfits
    -- Along a lineage that fits, every adapter has a seat: the root does, and a parent's seat brings
    -- those of its children.
    induction habove with
    | root hid hroot => exact hplanted.seatOf_mem ((mem_sortedRoots _).mpr ⟨hid, hroot⟩) hfits
    | child hangs hparent ih =>
        have hparentFits := fits_of_fits_cons (List.cons_ne_nil _ _) hfits
        exact hplanted.child_mem hnr (fun _ => lineage_of_mem_sortedRoots) hparent
          (ih hparentFits) hangs hfits

theorem distinctNrs_iff_exists_index :
    DistinctNrs adapters ↔
      ∃ everyone, KernelIndex.build (nrOf adapters) (List.range adapters.size) = .ok everyone := by
  constructor
  · exact fun hnr => ⟨_, (KernelIndex.build_eq_ok_iff _ _ _).mpr ⟨hnr, rfl⟩⟩
  · rintro ⟨everyone, hbuild⟩
    exact ((KernelIndex.build_eq_ok_iff _ _ _).mp hbuild).1

/-- The placed adapters have an index. -/
theorem exists_seats_index (hnr : DistinctNrs adapters) :
    ∃ index, KernelIndex.build (nrOf adapters) ((seatsOf adapters).map Seat.id) = .ok index := by
  refine ⟨_, (KernelIndex.build_eq_ok_iff _ _ _).mpr ⟨?_, rfl⟩⟩
  have hnodup := (seatsOf_perm.map (nrOf adapters)).nodup_iff.mpr hnr
  rw [List.map_append] at hnodup
  exact (List.nodup_append.mp hnodup).1

end Growth

/-! ## A built forest -/

/-- Once the kernel ids are known to differ, the placed adapters have an index as well, and building goes
on to look for circles and for orphans. -/
theorem build_of_index {found : List Adapter} {everyone : KernelIndex}
    (heveryone : KernelIndex.build (nrOf found.toArray) (List.range found.toArray.size) = .ok everyone)
    (policy : OrphanPolicy) :
    DistinctNrs found.toArray ∧ ∃ index,
      KernelIndex.build (nrOf found.toArray) ((seatsOf found.toArray).map Seat.id) = .ok index ∧
      build found policy =
        match cycle? found.toArray everyone (orphansOf found.toArray) with
        | some id => .error (.parentCycle (nrOf found.toArray id))
        | none =>
          match complaint? found.toArray policy with
          | some (nr, parent) => .error (.orphaned nr parent)
          | none => .ok (builtOf found.toArray index).forest := by
  have hnr : DistinctNrs found.toArray := distinctNrs_iff_exists_index.mpr ⟨everyone, heveryone⟩
  obtain ⟨index, hindex⟩ := exists_seats_index hnr
  refine ⟨hnr, index, hindex, ?_⟩
  rw [build, construct_eq, heveryone]
  cases hcycle : cycle? found.toArray everyone (orphansOf found.toArray) with
  | some id => simp only [hcycle]; rfl
  | none =>
      cases hcomplaint : complaint? found.toArray policy with
      | some fault => simp only [hcycle]; rfl
      | none => simp only [hcycle, hindex]; rfl

/-- What building yields, taken apart. -/
theorem build_eq_ok {found : List Adapter} {policy : OrphanPolicy} {forest : Forest}
    (h : build found policy = .ok forest) :
    DistinctNrs found.toArray ∧ forest.adapters = found.toArray ∧
      forest.seats = seatsOf found.toArray ∧ forest.unplaced = unplacedOf found.toArray ∧
      KernelIndex.build (nrOf found.toArray) ((seatsOf found.toArray).map Seat.id) =
        .ok forest.index := by
  cases heveryone : KernelIndex.build (nrOf found.toArray) (List.range found.toArray.size) with
  | error nr =>
      rw [build, construct_eq, heveryone] at h
      cases h
  | ok everyone =>
      obtain ⟨hnr, index, hindex, hbuild⟩ := build_of_index heveryone policy
      rw [hbuild] at h
      split at h
      · cases h
      · split at h
        · cases h
        · cases h
          exact ⟨hnr, rfl, rfl, rfl, hindex⟩

end Forest
end I2cTopology
