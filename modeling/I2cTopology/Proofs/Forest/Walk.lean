import I2cTopology.Proofs.Forest.Placement

/-!
# Walks along children

A forest is kept as a run of seats, but it is meant as roots with lists of children.  `Walked` states
the pre-order by these lists alone: an adapter, then the walk from its children one level deeper, then
the walk from its siblings.  The pre-order of a built forest is the walk from its roots, and a subtree
is the walk from its top.

* `BuiltFrom.roots_eq`: the roots, by kernel id.
* `BuiltFrom.walked_preorder`, `BuiltFrom.walked_subtree`: the two walks.
-/

namespace I2cTopology
namespace Forest

/-- The adapters that a walk along the lists of children meets, with their depths, when it starts from
siblings of one depth. -/
inductive Walked (forest : Forest) : Nat → List AdapterId → List (Nat × AdapterId) → Prop
  | nil {depth : Nat} : Walked forest depth [] []
  | cons {depth : Nat} {id : AdapterId} {ids : List AdapterId} {below rest : List (Nat × AdapterId)}
      (hbelow : Walked forest (depth + 1) (forest.children id) below)
      (hrest : Walked forest depth ids rest) :
      Walked forest depth (id :: ids) ((depth, id) :: (below ++ rest))

/-- Among what is planted below a lineage, the seats of the lineage's own depth are those of the
siblings whose paths fit, in order. -/
theorem Planted.ids_at_depth {adapters : Array Adapter} {above ids : List AdapterId} {seats : List Seat}
    (h : Planted adapters above ids seats) :
    (seats.filter (·.depth == above.length)).map Seat.id =
      ids.filter fun id => Fits adapters (id :: above) := by
  induction h with
  | nil => rfl
  | cut hlong _ ih => rw [ih, List.filter_cons_of_neg (by simpa using hlong)]
  | @seat above id ids below rest hfits hbelow _ _ ihrest =>
      have hdeeper : below.filter (·.depth == above.length) = [] := by
        rw [List.filter_eq_nil_iff]
        intro seat hseat
        have hdepth := hbelow.length_le_depth hseat
        rw [List.length_cons] at hdepth
        simp only [beq_iff_eq]
        omega
      have hself : ((seatOf adapters id above).depth == above.length) = true := beq_self_eq_true _
      have hkept : decide (Fits adapters (id :: above)) = true := decide_eq_true hfits
      rw [List.filter_cons, if_pos hself, List.filter_append, hdeeper, List.nil_append,
        List.map_cons, ihrest, List.filter_cons, if_pos hkept, seatOf_id]

theorem subtree_ids (forest : Forest) (id : AdapterId) :
    (forest.subtree id).map Prod.snd = (limb id forest.seats).map Seat.id := by
  rw [subtree, List.map_map]
  rfl

namespace BuiltFrom

variable {found : List Adapter} {forest : Forest}

/-! ## Roots -/

/-- The roots are the adapters without a declared parent whose paths fit, by kernel id. -/
theorem roots_eq (h : BuiltFrom found forest) :
    forest.roots =
      (sortedRoots found.toArray).filter fun id => Fits found.toArray [id] := by
  rw [roots, h.seats_eq]
  exact (planted_seatsOf h.distinctNrs).ids_at_depth

theorem mem_roots_iff (h : BuiltFrom found forest) (id : AdapterId) :
    id ∈ forest.roots ↔
      forest.Placed id ∧ declaredParentOf found.toArray id = .root := by
  rw [h.roots_eq, List.mem_filter, mem_sortedRoots, decide_eq_true_eq]
  constructor
  · rintro ⟨⟨hid, hroot⟩, hfits⟩
    exact ⟨(h.placed_iff id).mpr ⟨[], Lineage.root hid hroot, hfits⟩, hroot⟩
  · rintro ⟨hid, hroot⟩
    obtain ⟨above, habove, hfits⟩ := (h.placed_iff id).mp hid
    obtain rfl := habove.eq_nil_of_root hroot
    exact ⟨⟨habove.lt_size, hroot⟩, hfits⟩

/-! ## The walk from a generation of siblings -/

/-- The seats planted below a lineage are those that the walk from the siblings meets.  Depths may be
counted from anywhere above. -/
theorem walked_of_planted (h : BuiltFrom found forest) {above ids : List AdapterId}
    {seats : List Seat} (hplanted : Planted found.toArray above ids seats)
    (hids : ∀ id ∈ ids, Lineage found.toArray id above) {base : Nat} (hbase : base ≤ above.length) :
    forest.Walked (above.length - base) (ids.filter fun id => Fits found.toArray (id :: above))
      (seats.map fun seat => (seat.depth - base, seat.id)) := by
  induction hplanted with
  | nil => exact Walked.nil
  | @cut above id ids rest hlong _ ih =>
      have hdropped : ¬ decide (Fits found.toArray (id :: above)) = true := by simpa using hlong
      rw [List.filter_cons, if_neg hdropped]
      exact ih (fun other hother => hids other (List.mem_cons_of_mem _ hother)) hbase
  | @seat above id ids below rest hfits _ _ ihbelow ihrest =>
      have hid : Lineage found.toArray id above := hids id List.mem_cons_self
      have hkept : decide (Fits found.toArray (id :: above)) = true := decide_eq_true hfits
      have hdepth : (id :: above).length - base = above.length - base + 1 := by
        rw [List.length_cons]
        omega
      have hbelow := ihbelow (fun _ => hid.of_mem_sortedChildren) (Nat.le_succ_of_le hbase)
      rw [hdepth, ← h.children_eq hid hfits] at hbelow
      have hrest := ihrest (fun other hother => hids other (List.mem_cons_of_mem _ hother)) hbase
      rw [List.filter_cons, if_pos hkept, List.map_cons, List.map_append]
      exact Walked.cons hbelow hrest

/-- **The pre-order** is the walk from the roots. -/
theorem walked_preorder (h : BuiltFrom found forest) :
    forest.Walked 0 forest.roots forest.preorder := by
  rw [h.roots_eq, preorder, h.seats_eq]
  exact h.walked_of_planted (planted_seatsOf h.distinctNrs) (fun _ => lineage_of_mem_sortedRoots)
    (Nat.le_refl _)

/-- The limb of a placed adapter is its seat and what is planted below it. -/
theorem limb_eq (h : BuiltFrom found forest) {id : AdapterId} {above : List AdapterId}
    (habove : Lineage found.toArray id above) (hfits : Fits found.toArray (id :: above)) :
    ∃ below, limb id forest.seats = seatOf found.toArray id above :: below ∧
      Planted found.toArray (id :: above) (sortedChildren found.toArray id) below := by
  have hnr := h.distinctNrs
  have hseat : seatOf found.toArray id above ∈ seatsOf found.toArray :=
    (mem_seatsOf hnr _).mpr ⟨above, habove, hfits, rfl⟩
  obtain ⟨lineage, below, hlineage, hlimb, hbelow⟩ :=
    (planted_seatsOf hnr).limb_eq (fun _ => lineage_of_mem_sortedRoots) nodup_seatsOf hseat
  rw [seatOf_id] at hlineage hlimb hbelow
  obtain rfl := habove.unique hnr hlineage
  refine ⟨below, ?_, hbelow⟩
  rw [h.seats_eq, hlimb]

/-- **Subtrees.**  The subtree of a placed adapter is the walk from it, with depths counted from
there. -/
theorem walked_subtree (h : BuiltFrom found forest) {id : AdapterId} (hid : forest.Placed id) :
    forest.Walked 0 [id] (forest.subtree id) := by
  obtain ⟨above, habove, hfits⟩ := (h.placed_iff id).mp hid
  obtain ⟨below, hlimb, hbelow⟩ := h.limb_eq habove hfits
  have hwalk := h.walked_of_planted hbelow (fun _ => habove.of_mem_sortedChildren)
    (Nat.le_succ above.length)
  have hdepth : (id :: above).length - above.length = 1 := by
    rw [List.length_cons]
    omega
  rw [hdepth, ← h.children_eq habove hfits] at hwalk
  have hsubtree : forest.subtree id =
      (0, id) :: (below.map (fun seat => (seat.depth - above.length, seat.id)) ++ []) := by
    rw [subtree, hlimb, List.append_nil]
    simp only [List.head?_cons, Option.map_some, Option.getD_some, List.map_cons, seatOf, Nat.sub_self]
  rw [hsubtree]
  exact Walked.cons hwalk Walked.nil

end BuiltFrom

end Forest
end I2cTopology
