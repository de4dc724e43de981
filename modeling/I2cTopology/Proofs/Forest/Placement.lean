import I2cTopology.Proofs.Forest.Built
import Mathlib

/-!
# Places in a built forest

What a built forest answers about one adapter.  A placed adapter has exactly one lineage, and its seat,
its path, its children and its parent are those which that lineage determines; about any other adapter
the forest answers nothing.

* `BuiltFrom.placed_iff`, `BuiltFrom.placed_iff_utf8ByteSize_le`: who is placed.
* `BuiltFrom.seat?_eq`: the seat of a placed adapter.
* `BuiltFrom.utf8ByteSize_path_le`: how long paths are.
* `BuiltFrom.parent?_eq_some_iff`, `BuiltFrom.mem_children_iff`: the links between placed adapters.
* `BuiltFrom.lookup?_eq_some_iff`: the index finds the placed adapters and nobody else.
-/

namespace I2cTopology
namespace Forest

/-- The adapter occurs in the pre-order of the forest. -/
def Placed (forest : Forest) (id : AdapterId) : Prop :=
  id ∈ forest.preorder.map Prod.snd

instance (forest : Forest) (id : AdapterId) : Decidable (forest.Placed id) :=
  inferInstanceAs (Decidable (id ∈ forest.preorder.map Prod.snd))

/-- The adapter right above a placed adapter. -/
def parent? (forest : Forest) (id : AdapterId) : Option AdapterId :=
  (forest.seat? id).bind Seat.parent

/-- The forest is what is built from the adapters. -/
def BuiltFrom (found : List Adapter) (forest : Forest) : Prop :=
  ∃ policy, build found policy = .ok forest

theorem preorder_ids (forest : Forest) :
    forest.preorder.map Prod.snd = forest.seats.map Seat.id := by
  rw [preorder, List.map_map]
  rfl

/-- About an adapter that is not placed there is nothing to know. -/
theorem seat?_eq_none {forest : Forest} {id : AdapterId} (hid : ¬ forest.Placed id) :
    forest.seat? id = none := by
  apply List.find?_eq_none.mpr
  intro seat hseat heq
  apply hid
  rw [Placed, preorder_ids, ← eq_of_beq heq]
  exact List.mem_map_of_mem hseat

theorem path_eq_empty {forest : Forest} {id : AdapterId} (hid : ¬ forest.Placed id) :
    forest.path id = "" := by
  rw [path, seat?_eq_none hid]
  rfl

theorem children_eq_nil {forest : Forest} {id : AdapterId} (hid : ¬ forest.Placed id) :
    forest.children id = [] := by
  rw [children, seat?_eq_none hid]
  rfl

theorem parent?_eq_none {forest : Forest} {id : AdapterId} (hid : ¬ forest.Placed id) :
    forest.parent? id = none := by
  rw [parent?, seat?_eq_none hid]
  rfl

namespace BuiltFrom

variable {found : List Adapter} {forest : Forest}

theorem distinctNrs (h : BuiltFrom found forest) : DistinctNrs found.toArray := by
  obtain ⟨policy, hbuild⟩ := h
  exact (build_eq_ok hbuild).1

theorem adapters_eq (h : BuiltFrom found forest) : forest.adapters = found.toArray := by
  obtain ⟨policy, hbuild⟩ := h
  exact (build_eq_ok hbuild).2.1

theorem seats_eq (h : BuiltFrom found forest) : forest.seats = seatsOf found.toArray := by
  obtain ⟨policy, hbuild⟩ := h
  exact (build_eq_ok hbuild).2.2.1

theorem unplaced_eq (h : BuiltFrom found forest) : forest.unplaced = unplacedOf found.toArray := by
  obtain ⟨policy, hbuild⟩ := h
  exact (build_eq_ok hbuild).2.2.2.1

theorem index_eq (h : BuiltFrom found forest) :
    KernelIndex.build (nrOf found.toArray) ((seatsOf found.toArray).map Seat.id) =
      .ok forest.index := by
  obtain ⟨policy, hbuild⟩ := h
  exact (build_eq_ok hbuild).2.2.2.2

theorem adapter_eq (h : BuiltFrom found forest) (id : AdapterId) :
    forest.adapter id = found.toArray[id]?.getD default := by
  rw [adapter, h.adapters_eq]

/-! ## Who is placed -/

theorem placed_iff_mem (h : BuiltFrom found forest) (id : AdapterId) :
    forest.Placed id ↔ id ∈ (seatsOf found.toArray).map Seat.id := by
  rw [Placed, preorder_ids, h.seats_eq]

/-- Everybody has a place or is left out. -/
theorem ids_perm (h : BuiltFrom found forest) :
    (forest.preorder.map Prod.snd ++ forest.unplaced).Perm (List.range found.length) := by
  rw [preorder_ids, h.seats_eq, h.unplaced_eq]
  exact seatsOf_perm

theorem not_placed_of_mem_unplaced (h : BuiltFrom found forest) {id : AdapterId}
    (hid : id ∈ forest.unplaced) : ¬ forest.Placed id := by
  have hnodup := h.ids_perm.nodup_iff.mpr List.nodup_range
  exact fun hplaced => (List.nodup_append.mp hnodup).2.2 id hplaced id hid rfl

/-- Whoever has a lineage and a path that fits is placed, and nobody else is. -/
theorem placed_iff (h : BuiltFrom found forest) (id : AdapterId) :
    forest.Placed id ↔
      ∃ above, Lineage found.toArray id above ∧ Fits found.toArray (id :: above) := by
  rw [h.placed_iff_mem, List.mem_map]
  constructor
  · rintro ⟨seat, hseat, rfl⟩
    obtain ⟨above, habove, hfits, -⟩ := (mem_seatsOf h.distinctNrs seat).mp hseat
    exact ⟨above, habove, hfits⟩
  · rintro ⟨above, habove, hfits⟩
    exact ⟨seatOf found.toArray id above,
      (mem_seatsOf h.distinctNrs _).mpr ⟨above, habove, hfits, rfl⟩, rfl⟩

/-- Whoever has a lineage is placed if the path takes 255 bytes at most, and not otherwise. -/
theorem placed_iff_utf8ByteSize_le (h : BuiltFrom found forest) {id : AdapterId} {above : List AdapterId}
    (habove : Lineage found.toArray id above) :
    forest.Placed id ↔ (lineagePath found.toArray (id :: above)).utf8ByteSize ≤ 255 := by
  rw [h.placed_iff]
  constructor
  · rintro ⟨_, hother, hfits⟩
    obtain rfl := habove.unique h.distinctNrs hother
    exact hfits
  · exact fun hfits => ⟨above, habove, hfits⟩

/-- The pre-order lists the placed adapters with the lengths of their lineages. -/
theorem mem_preorder_iff (h : BuiltFrom found forest) (depth : Nat) (id : AdapterId) :
    (depth, id) ∈ forest.preorder ↔ ∃ above, Lineage found.toArray id above ∧
      Fits found.toArray (id :: above) ∧ depth = above.length := by
  rw [preorder, h.seats_eq, List.mem_map]
  constructor
  · rintro ⟨seat, hseat, heq⟩
    obtain ⟨rfl, rfl⟩ := Prod.mk.inj heq
    obtain ⟨above, habove, hfits, hdetermined⟩ := (mem_seatsOf h.distinctNrs seat).mp hseat
    refine ⟨above, habove, hfits, ?_⟩
    rw [hdetermined]
    rfl
  · rintro ⟨above, habove, hfits, rfl⟩
    exact ⟨seatOf found.toArray id above,
      (mem_seatsOf h.distinctNrs _).mpr ⟨above, habove, hfits, rfl⟩, rfl⟩

/-- With an adapter, everybody above it is placed. -/
theorem placed_parent (h : BuiltFrom found forest) {id parent : AdapterId}
    (hid : forest.Placed id) (hangs : HangsOff found.toArray id parent) : forest.Placed parent := by
  obtain ⟨above, habove, hfits⟩ := (h.placed_iff id).mp hid
  obtain ⟨rest, rfl, hparent⟩ := habove.eq_cons_of_hangsOff h.distinctNrs hangs
  exact (h.placed_iff parent).mpr ⟨rest, hparent, fits_of_fits_cons (List.cons_ne_nil _ _) hfits⟩

/-! ## What is known about a placed adapter -/

/-- **The seat of a placed adapter** is the one that its lineage determines. -/
theorem seat?_eq (h : BuiltFrom found forest) {id : AdapterId} {above : List AdapterId}
    (habove : Lineage found.toArray id above) (hfits : Fits found.toArray (id :: above)) :
    forest.seat? id = some (seatOf found.toArray id above) := by
  have hseat : seatOf found.toArray id above ∈ forest.seats := by
    rw [h.seats_eq]
    exact (mem_seatsOf h.distinctNrs _).mpr ⟨above, habove, hfits, rfl⟩
  have hnodup : (forest.seats.map Seat.id).Nodup := h.seats_eq ▸ nodup_seatsOf
  exact find?_key_eq_some hnodup hseat

section Lineage

variable {id : AdapterId} {above : List AdapterId}

theorem path_eq (h : BuiltFrom found forest) (habove : Lineage found.toArray id above)
    (hfits : Fits found.toArray (id :: above)) :
    forest.path id = lineagePath found.toArray (id :: above) := by
  rw [path, h.seat?_eq habove hfits]
  rfl

/-- No path takes more than 255 bytes. -/
theorem utf8ByteSize_path_le (h : BuiltFrom found forest) (id : AdapterId) :
    (forest.path id).utf8ByteSize ≤ 255 := by
  by_cases hplaced : forest.Placed id
  · obtain ⟨above, habove, hfits⟩ := (h.placed_iff id).mp hplaced
    rw [h.path_eq habove hfits]
    exact hfits
  · rw [path_eq_empty hplaced]
    exact Nat.zero_le _

theorem children_eq (h : BuiltFrom found forest) (habove : Lineage found.toArray id above)
    (hfits : Fits found.toArray (id :: above)) :
    forest.children id = (sortedChildren found.toArray id).filter fun child =>
      Fits found.toArray (child :: id :: above) := by
  rw [children, h.seat?_eq habove hfits]
  rfl

theorem parent?_eq (h : BuiltFrom found forest) (habove : Lineage found.toArray id above)
    (hfits : Fits found.toArray (id :: above)) : forest.parent? id = above.head? := by
  rw [parent?, h.seat?_eq habove hfits]
  rfl

theorem ordinal_eq (h : BuiltFrom found forest) (habove : Lineage found.toArray id above)
    (hfits : Fits found.toArray (id :: above)) :
    (forest.seat? id).bind Seat.ordinal = seatOrdinal found.toArray id above := by
  rw [h.seat?_eq habove hfits]
  rfl

end Lineage

/-! ## Links -/

/-- The parent of a placed adapter is the one that it declares. -/
theorem parent?_eq_some_iff (h : BuiltFrom found forest) (id parent : AdapterId) :
    forest.parent? id = some parent ↔ forest.Placed id ∧ HangsOff found.toArray id parent := by
  by_cases hid : forest.Placed id
  · obtain ⟨above, habove, hfits⟩ := (h.placed_iff id).mp hid
    rw [h.parent?_eq habove hfits]
    cases habove with
    | root _ hroot => simp [hid, not_hangsOff_of_root hroot]
    | @child _ declared rest hangs _ =>
        simp only [List.head?_cons, Option.some.injEq, hid, true_and]
        constructor
        · rintro rfl
          exact hangs
        · exact fun hangs' => hangs.unique h.distinctNrs hangs'
  · simp [parent?_eq_none hid, hid]

/-- The children of an adapter are the placed adapters that declare it as their parent. -/
theorem mem_children_iff (h : BuiltFrom found forest) (id parent : AdapterId) :
    id ∈ forest.children parent ↔ forest.Placed id ∧ HangsOff found.toArray id parent := by
  by_cases hparent : forest.Placed parent
  · obtain ⟨above, habove, hfits⟩ := (h.placed_iff parent).mp hparent
    rw [h.children_eq habove hfits, List.mem_filter, mem_sortedChildren habove.lt_size,
      decide_eq_true_eq]
    constructor
    · rintro ⟨hangs, hfitsChild⟩
      exact ⟨(h.placed_iff id).mpr ⟨_, Lineage.child hangs habove, hfitsChild⟩, hangs⟩
    · rintro ⟨hid, hangs⟩
      obtain ⟨aboveChild, haboveChild, hfitsChild⟩ := (h.placed_iff id).mp hid
      obtain rfl := haboveChild.unique h.distinctNrs (Lineage.child hangs habove)
      exact ⟨hangs, hfitsChild⟩
  · rw [children_eq_nil hparent]
    refine iff_of_false List.not_mem_nil ?_
    rintro ⟨hid, hangs⟩
    exact hparent (h.placed_parent hid hangs)

/-! ## The index -/

/-- The index finds the placed adapters by their kernel ids, and nobody else. -/
theorem lookup?_eq_some_iff (h : BuiltFrom found forest) (nr : UInt32) (id : AdapterId) :
    forest.lookup? nr = some id ↔ forest.Placed id ∧ nrOf found.toArray id = nr := by
  rw [lookup?, KernelIndex.lookup?_eq_some_iff h.index_eq, h.placed_iff_mem]

end BuiltFrom

/-! ## A forest in full -/

/-- A root with two channels of one output number, and an adapter whose parent was not found. -/
def sample : List Adapter :=
  [{ nr := 7, declaredParent := .adapter 3, channel := some 1 },
    { nr := 9, declaredParent := .adapter 40 },
    { nr := 3, declaredParent := .root },
    { nr := 5, declaredParent := .adapter 3, channel := some 1 }]

/-- The forest of the sample. -/
def sampleForest : Forest where
  adapters := sample.toArray
  seats := [
    { id := 2, depth := 0, parent := none, ordinal := none, path := "3", children := [3, 0] },
    { id := 3, depth := 1, parent := some 2, ordinal := some 0, path := "3:0.1", children := [] },
    { id := 0, depth := 1, parent := some 2, ordinal := some 1, path := "3:1.1", children := [] }]
  unplaced := [1]
  index := ⟨#[(3, 2), (5, 3), (7, 0)]⟩

theorem build_sample : build sample .warn = .ok sampleForest := by
  cbv

end Forest
end I2cTopology
