import I2cTopology.Proofs.Forest.Growth

/-!
# What is planted

Once the slots without a path are cut away, the seats of a forest are determined by the flat list:
`Planted` states them from the top, a generation of siblings below one lineage at a time.  An adapter
whose path fits takes its seat in front of everything below it; one whose path is too long is cut away
with everything below it, whose paths are longer still.

* `planted_of_grown`: the seats of what has grown are planted.
* `Planted.seat_inversion`: every seat is the one that a fitting lineage determines.
* `Planted.limb_eq`: the limb of a seated adapter is its seat and what is planted below it.
-/

namespace I2cTopology
namespace Forest

variable {adapters : Array Adapter}

/-! ## The slot and the seat of a lineage -/

/-- The path of the adapter, which stands first, below its lineage is one that is given. -/
def Fits (adapters : Array Adapter) (chain : List AdapterId) : Prop :=
  (lineagePath adapters chain).utf8ByteSize ≤ maxPathLength

instance (chain : List AdapterId) : Decidable (Fits adapters chain) :=
  inferInstanceAs (Decidable ((lineagePath adapters chain).utf8ByteSize ≤ maxPathLength))

/-- The stamp of an adapter, which stands first, below its lineage. -/
def stampOf (adapters : Array Adapter) : List AdapterId → Stamp
  | [] => .buried
  | [id] => .ofPath (toString (nrOf adapters id))
  | id :: parent :: above =>
    (stampOf adapters (parent :: above)).extend
      (segment (adapters[id]?.getD default) (ordinalOf adapters id))

/-- The ordinal of an adapter below its lineage. Roots have none. -/
def seatOrdinal (adapters : Array Adapter) (id : AdapterId) : List AdapterId → Option Nat
  | [] => none
  | _ :: _ => some (ordinalOf adapters id)

/-- The slot that a lineage determines. -/
def slotOf (adapters : Array Adapter) (id : AdapterId) (above : List AdapterId) : Slot where
  id := id
  depth := above.length
  parent := above.head?
  ordinal := seatOrdinal adapters id above
  stamp := stampOf adapters (id :: above)

/-- The seat that a lineage determines, if its path fits. -/
def seatOf (adapters : Array Adapter) (id : AdapterId) (above : List AdapterId) : Seat where
  id := id
  depth := above.length
  parent := above.head?
  ordinal := seatOrdinal adapters id above
  path := lineagePath adapters (id :: above)
  children := (sortedChildren adapters id).filter fun child => Fits adapters (child :: id :: above)

@[simp] theorem slotOf_id (id : AdapterId) (above : List AdapterId) :
    (slotOf adapters id above).id = id := rfl

@[simp] theorem seatOf_id (id : AdapterId) (above : List AdapterId) :
    (seatOf adapters id above).id = id := rfl

/-- A path that does not fit leads to no path that fits. -/
theorem fits_of_fits_cons {id : AdapterId} {above : List AdapterId} (habove : above ≠ [])
    (h : Fits adapters (id :: above)) : Fits adapters above := by
  have hlonger := @utf8ByteSize_lineagePath_lt adapters above id habove
  unfold Fits at h ⊢
  omega

theorem path?_ofPath (text : String) :
    (Stamp.ofPath text).path? = if text.utf8ByteSize ≤ maxPathLength then some text else none := by
  unfold Stamp.ofPath
  split <;> rfl

/-- A stamp gives the path of the lineage if it fits, and none otherwise. -/
theorem path?_stampOf {chain : List AdapterId} (hchain : chain ≠ []) :
    (stampOf adapters chain).path? =
      if Fits adapters chain then some (lineagePath adapters chain) else none := by
  fun_induction stampOf adapters chain with
  | case1 => exact absurd rfl hchain
  | case2 id => exact path?_ofPath _
  | case3 id parent above ih =>
      have hparent := ih (List.cons_ne_nil _ _)
      by_cases hfits : Fits adapters (parent :: above)
      · rw [if_pos hfits] at hparent
        cases hstamp : stampOf adapters (parent :: above) with
        | path text =>
            rw [hstamp] at hparent
            obtain rfl : text = lineagePath adapters (parent :: above) := Option.some.inj hparent
            exact path?_ofPath _
        | tooLong => simp [hstamp, Stamp.path?] at hparent
        | buried => simp [hstamp, Stamp.path?] at hparent
      · have hlong : ¬ Fits adapters (id :: parent :: above) :=
          mt (fits_of_fits_cons (List.cons_ne_nil _ _)) hfits
        rw [if_neg hfits] at hparent
        rw [if_neg hlong]
        cases hstamp : stampOf adapters (parent :: above) with
        | path text => simp [hstamp, Stamp.path?] at hparent
        | tooLong => rfl
        | buried => rfl

/-- The children of a slot take the slots that their lineages determine. -/
theorem childSlots_slotOf (hnr : DistinctNrs adapters) {id : AdapterId} (hid : id < adapters.size)
    (above : List AdapterId) :
    (slotOf adapters id above).childSlots adapters (childrenOf adapters id) =
      (sortedChildren adapters id).map fun child => slotOf adapters child (id :: above) := by
  have hnumbered := numbered_sortedChildren hnr hid
  rw [childSlots_eq, ← sortedChildren, hnumbered, List.map_map]
  rfl

/-- A branch whose slot a lineage determines gives the seat that the lineage determines, if the path
fits. -/
theorem seat?_slotOf (hnr : DistinctNrs adapters) {id : AdapterId} (hid : id < adapters.size)
    (above : List AdapterId) :
    (Branch.mk (slotOf adapters id above)
        ((slotOf adapters id above).childSlots adapters (childrenOf adapters id))).seat? =
      if Fits adapters (id :: above) then some (seatOf adapters id above) else none := by
  have hkept : ((sortedChildren adapters id).map fun child =>
        slotOf adapters child (id :: above)).filter (·.stamp.path?.isSome) =
      ((sortedChildren adapters id).filter fun child =>
        Fits adapters (child :: id :: above)).map fun child => slotOf adapters child (id :: above) := by
    rw [List.filter_map]
    congr 1
    apply List.filter_congr
    intro child _
    simp only [Function.comp_apply, slotOf, path?_stampOf (List.cons_ne_nil _ _)]
    split <;> simp_all
  rw [Branch.seat?, childSlots_slotOf hnr hid, hkept, List.map_map]
  simp only [slotOf, path?_stampOf (List.cons_ne_nil id above)]
  by_cases hfits : Fits adapters (id :: above)
  · rw [if_pos hfits, if_pos hfits, Option.map_some, seatOf]
    congr 2
    exact List.map_id _
  · rw [if_neg hfits, if_neg hfits, Option.map_none]

/-! ## Generations of siblings -/

/-- The seats of siblings below one lineage, each followed by the seats below it, without those that
no path fits. -/
inductive Planted (adapters : Array Adapter) :
    List AdapterId → List AdapterId → List Seat → Prop
  | nil {above : List AdapterId} : Planted adapters above [] []
  | cut {above : List AdapterId} {id : AdapterId} {ids : List AdapterId} {rest : List Seat}
      (hlong : ¬ Fits adapters (id :: above)) (hrest : Planted adapters above ids rest) :
      Planted adapters above (id :: ids) rest
  | seat {above : List AdapterId} {id : AdapterId} {ids : List AdapterId} {below rest : List Seat}
      (hfits : Fits adapters (id :: above))
      (hbelow : Planted adapters (id :: above) (sortedChildren adapters id) below)
      (hrest : Planted adapters above ids rest) :
      Planted adapters above (id :: ids) (seatOf adapters id above :: (below ++ rest))

/-- What is planted below a lineage is one list of seats. -/
theorem Planted.unique {above ids : List AdapterId} {seats seats' : List Seat}
    (h : Planted adapters above ids seats) (h' : Planted adapters above ids seats') :
    seats = seats' := by
  induction h generalizing seats' with
  | nil =>
      cases h'
      rfl
  | cut hlong _ ih =>
      cases h' with
      | cut _ hrest' => exact ih hrest'
      | seat hfits _ _ => exact absurd hfits hlong
  | seat hfits _ _ ihbelow ihrest =>
      cases h' with
      | cut hlong _ => exact absurd hfits hlong
      | seat _ hbelow' hrest' => rw [ihbelow hbelow', ihrest hrest']

theorem path?_extend_of_none {stamp : Stamp} (h : stamp.path? = none) (text : String) :
    (stamp.extend text).path? = none := by
  cases stamp with
  | path => simp [Stamp.path?] at h
  | tooLong => rfl
  | buried => rfl

/-- Below slots without a path there are no seats. -/
theorem Grown.filterMap_seat?_eq_nil {stack : List Slot} {branches : List Branch}
    (h : Grown adapters stack branches) (hstack : ∀ slot ∈ stack, slot.stamp.path? = none) :
    branches.filterMap Branch.seat? = [] := by
  induction h with
  | nil => rfl
  | @cons slot stack below rest _ _ ihbelow ihrest =>
      have hslot : slot.stamp.path? = none := hstack slot List.mem_cons_self
      have hbelow : below.filterMap Branch.seat? = [] := by
        apply ihbelow
        intro child hchild
        obtain ⟨⟨id, ordinal⟩, -, rfl⟩ := List.mem_map.mp hchild
        exact path?_extend_of_none hslot _
      have hrest : rest.filterMap Branch.seat? = [] :=
        ihrest fun other hother => hstack other (List.mem_cons_of_mem _ hother)
      have hnone : (Branch.mk slot
          (slot.childSlots adapters (childrenOf adapters slot.id))).seat? = none := by
        rw [Branch.seat?, hslot, Option.map_none]
      rw [List.filterMap_cons_none hnone, List.filterMap_append, hbelow, hrest, List.append_nil]

/-- **Planting.**  The seats of what grows from the slots of siblings are planted. -/
theorem planted_of_grown (hnr : DistinctNrs adapters) {stack : List Slot} {branches : List Branch}
    (h : Grown adapters stack branches) {above ids : List AdapterId}
    (hstack : stack = ids.map fun id => slotOf adapters id above)
    (hids : ∀ id ∈ ids, id < adapters.size) :
    Planted adapters above ids (branches.filterMap Branch.seat?) := by
  induction h generalizing above ids with
  | nil =>
      obtain rfl : ids = [] := List.map_eq_nil_iff.mp hstack.symm
      exact Planted.nil
  | @cons slot stack below rest hbelow hrest ihbelow ihrest =>
      cases ids with
      | nil => simp at hstack
      | cons id ids =>
          rw [List.map_cons] at hstack
          obtain ⟨hslot, htail⟩ := List.cons.inj hstack
          subst hslot
          have hid : id < adapters.size := hids id List.mem_cons_self
          have hothers : Planted adapters above ids (rest.filterMap Branch.seat?) :=
            ihrest htail fun other hother => hids other (List.mem_cons_of_mem _ hother)
          have hseat := seat?_slotOf hnr hid above
          rw [slotOf_id]
          by_cases hfits : Fits adapters (id :: above)
          · rw [if_pos hfits] at hseat
            rw [List.filterMap_cons_some hseat, List.filterMap_append]
            refine Planted.seat hfits ?_ hothers
            apply ihbelow (childSlots_slotOf hnr hid above)
            intro child hchild
            exact ((mem_sortedChildren hid child).mp hchild).1
          · -- What grows below a slot without a path has no seats.
            have hnone : below.filterMap Branch.seat? = [] := by
              apply hbelow.filterMap_seat?_eq_nil
              intro child hchild
              obtain ⟨⟨other, ordinal⟩, -, rfl⟩ := List.mem_map.mp hchild
              apply path?_extend_of_none
              exact (path?_stampOf (List.cons_ne_nil id above)).trans (if_neg hfits)
            rw [if_neg hfits] at hseat
            rw [List.filterMap_cons_none hseat, List.filterMap_append, hnone, List.nil_append]
            exact Planted.cut hfits hothers

/-! ## Depths -/

/-- Siblings have the depth of their lineage. -/
theorem Planted.depth_of_head? {above ids : List AdapterId} {seats : List Seat}
    (h : Planted adapters above ids seats) {seat : Seat} (hseat : seats.head? = some seat) :
    seat.depth = above.length := by
  induction h with
  | nil => simp at hseat
  | cut _ _ ih => exact ih hseat
  | seat _ _ _ _ _ =>
      obtain rfl := Option.some.inj hseat
      rfl

/-- Nobody planted below a lineage is less deep than it. -/
theorem Planted.length_le_depth {above ids : List AdapterId} {seats : List Seat}
    (h : Planted adapters above ids seats) {seat : Seat} (hseat : seat ∈ seats) :
    above.length ≤ seat.depth := by
  induction h with
  | nil => exact absurd hseat List.not_mem_nil
  | cut _ _ ih => exact ih hseat
  | @seat above id ids below rest _ _ _ ihbelow ihrest =>
      rcases List.mem_cons.mp hseat with rfl | hdeeper
      · exact Nat.le_refl _
      · rcases List.mem_append.mp hdeeper with hin | hin
        · have hdepth := ihbelow hin
          rw [List.length_cons] at hdepth
          omega
        · exact ihrest hin

/-! ## Who is planted -/

/-- Siblings whose paths fit have seats. -/
theorem Planted.seatOf_mem {above ids : List AdapterId} {seats : List Seat}
    (h : Planted adapters above ids seats) {id : AdapterId} (hid : id ∈ ids)
    (hfits : Fits adapters (id :: above)) : seatOf adapters id above ∈ seats := by
  induction h with
  | nil => exact absurd hid List.not_mem_nil
  | @cut above other ids rest hlong _ ih =>
      rcases List.mem_cons.mp hid with rfl | hrest
      · exact absurd hfits hlong
      · exact ih hrest hfits
  | seat _ _ _ _ ihrest =>
      rcases List.mem_cons.mp hid with rfl | hrest
      · exact List.mem_cons_self
      · exact List.mem_cons_of_mem _ (List.mem_append_right _ (ihrest hrest hfits))

/-- Every seat is the one that a lineage through the siblings' own determines, and its path fits. -/
theorem Planted.seat_inversion {above ids : List AdapterId} {seats : List Seat}
    (h : Planted adapters above ids seats) (hids : ∀ id ∈ ids, Lineage adapters id above)
    {seat : Seat} (hseat : seat ∈ seats) :
    ∃ front, Lineage adapters seat.id (front ++ above) ∧
      Fits adapters (seat.id :: (front ++ above)) ∧
      seat = seatOf adapters seat.id (front ++ above) := by
  induction h with
  | nil => exact absurd hseat List.not_mem_nil
  | cut _ _ ih => exact ih (fun id hid => hids id (List.mem_cons_of_mem _ hid)) hseat
  | @seat above id ids below rest hfits _ _ ihbelow ihrest =>
      have hid : Lineage adapters id above := hids id List.mem_cons_self
      rcases List.mem_cons.mp hseat with rfl | hdeeper
      · exact ⟨[], hid, hfits, rfl⟩
      · rcases List.mem_append.mp hdeeper with hin | hin
        · -- What is found below the sibling has the sibling at the end of its front part.
          obtain ⟨front, hlineage, hdeeperFits, heq⟩ :=
            ihbelow (fun _ => hid.of_mem_sortedChildren) hin
          rw [List.append_cons] at hlineage hdeeperFits heq
          exact ⟨front ++ [id], hlineage, hdeeperFits, heq⟩
        · exact ihrest (fun other hother => hids other (List.mem_cons_of_mem _ hother)) hin

/-- With a seat there are the seats of all children whose paths fit. -/
theorem Planted.child_mem (hnr : DistinctNrs adapters) {above ids : List AdapterId}
    {seats : List Seat} (h : Planted adapters above ids seats)
    (hids : ∀ id ∈ ids, Lineage adapters id above) {parent child : AdapterId}
    {lineage : List AdapterId} (hparent : Lineage adapters parent lineage)
    (hseat : seatOf adapters parent lineage ∈ seats) (hangs : HangsOff adapters child parent)
    (hfits : Fits adapters (child :: parent :: lineage)) :
    seatOf adapters child (parent :: lineage) ∈ seats := by
  induction h with
  | nil => exact absurd hseat List.not_mem_nil
  | cut _ _ ih => exact ih (fun id hid => hids id (List.mem_cons_of_mem _ hid)) hseat
  | @seat above id ids below rest _ hbelow _ ihbelow ihrest =>
      have hid : Lineage adapters id above := hids id List.mem_cons_self
      apply List.mem_cons_of_mem
      apply List.mem_append.mpr
      rcases List.mem_cons.mp hseat with heq | hdeeper
      · -- The seat at the front is the parent's, so the children are the next generation.
        obtain rfl : parent = id := congrArg Seat.id heq
        obtain rfl := hid.unique hnr hparent
        exact Or.inl (hbelow.seatOf_mem ((mem_sortedChildren hid.lt_size child).mpr hangs) hfits)
      · rcases List.mem_append.mp hdeeper with hin | hin
        · exact Or.inl (ihbelow (fun _ => hid.of_mem_sortedChildren) hin)
        · exact Or.inr
            (ihrest (fun other hother => hids other (List.mem_cons_of_mem _ hother)) hin)

/-! ## Limbs -/

theorem limb_append_of_not_mem {id : AdapterId} {front : List Seat} (back : List Seat)
    (h : id ∉ front.map Seat.id) : limb id (front ++ back) = limb id back := by
  induction front with
  | nil => rfl
  | cons seat rest ih =>
      rw [List.map_cons, List.mem_cons, not_or] at h
      have hne : (seat.id == id) = false := beq_false_of_ne (Ne.symm h.1)
      rw [List.cons_append, limb, hne, if_neg Bool.false_ne_true, ih h.2]

/-- A limb ends where the next seat is no deeper than any seat before it. -/
theorem limb_append_of_mem {id : AdapterId} {front : List Seat} (back : List Seat)
    (hmem : id ∈ front.map Seat.id)
    (hback : ∀ next ∈ back.head?, ∀ seat ∈ front, next.depth ≤ seat.depth) :
    limb id (front ++ back) = limb id front := by
  induction front with
  | nil => exact absurd hmem List.not_mem_nil
  | cons seat rest ih =>
      rw [List.cons_append, limb, limb]
      by_cases hid : (seat.id == id) = true
      · rw [if_pos hid, if_pos hid]
        have hend : back.takeWhile (fun below => decide (seat.depth < below.depth)) = [] := by
          cases back with
          | nil => rfl
          | cons next others =>
              have hnext := hback next rfl seat List.mem_cons_self
              rw [List.takeWhile_cons_of_neg]
              simpa using hnext
        -- The limb may fill all of the front, and then ends there because of the next seat.
        rw [List.takeWhile_append, hend, List.append_nil]
        split
        · rename_i hwhole
          have hall := (List.takeWhile_prefix
            (p := fun below : Seat => decide (seat.depth < below.depth)) (l := rest)).eq_of_length
              hwhole
          rw [hall]
        · rfl
      · rw [if_neg hid, if_neg hid]
        apply ih
        · rcases List.mem_cons.mp hmem with heq | hrest
          · exact absurd (beq_iff_eq.mpr heq.symm) hid
          · exact hrest
        · exact fun next hnext other hother =>
            hback next hnext other (List.mem_cons_of_mem _ hother)

/-- **Limbs.**  The limb of a seat is the seat and what is planted below it. -/
theorem Planted.limb_eq {above ids : List AdapterId} {seats : List Seat}
    (h : Planted adapters above ids seats) (hids : ∀ id ∈ ids, Lineage adapters id above)
    (hnodup : (seats.map Seat.id).Nodup) {seat : Seat} (hseat : seat ∈ seats) :
    ∃ lineage below, Lineage adapters seat.id lineage ∧ limb seat.id seats = seat :: below ∧
      Planted adapters (seat.id :: lineage) (sortedChildren adapters seat.id) below := by
  induction h with
  | nil => exact absurd hseat List.not_mem_nil
  | cut _ _ ih => exact ih (fun id hid => hids id (List.mem_cons_of_mem _ hid)) hnodup hseat
  | @seat above id ids below rest _ hbelow hrest ihbelow ihrest =>
      have hid : Lineage adapters id above := hids id List.mem_cons_self
      have hchildren : ∀ child ∈ sortedChildren adapters id,
          Lineage adapters child (id :: above) := fun _ => hid.of_mem_sortedChildren
      have hothers : ∀ other ∈ ids, Lineage adapters other above := fun other hother =>
        hids other (List.mem_cons_of_mem _ hother)
      -- The seats behind this generation's next sibling are no deeper than what is below this one.
      have hend : ∀ next ∈ rest.head?, ∀ deeper ∈ below, next.depth < deeper.depth := by
        intro next hnext deeper hdeeper
        have hnextDepth := hrest.depth_of_head? hnext
        have hdeeperDepth := hbelow.length_le_depth hdeeper
        rw [List.length_cons] at hdeeperDepth
        omega
      rw [List.map_cons, List.map_append, List.nodup_cons, List.nodup_append] at hnodup
      obtain ⟨hfresh, hnodupBelow, hnodupRest, hdisjoint⟩ := hnodup
      have hskip : ∀ other ∈ below ++ rest,
          limb other.id (seatOf adapters id above :: (below ++ rest)) =
            limb other.id (below ++ rest) := by
        intro other hother
        have hother_mem : other.id ∈ below.map Seat.id ++ rest.map Seat.id := by
          rw [← List.map_append]
          exact List.mem_map_of_mem hother
        have hne : ((seatOf adapters id above).id == other.id) = false := by
          apply beq_false_of_ne
          intro heq
          exact hfresh (heq ▸ hother_mem)
        rw [limb, hne, if_neg Bool.false_ne_true]
      rcases List.mem_cons.mp hseat with rfl | hdeeper
      · -- Everything below is deeper than this seat, and the next sibling is not.
        refine ⟨above, below, hid, ?_, hbelow⟩
        have hself : ((seatOf adapters id above).id == id) = true := beq_self_eq_true id
        change limb id _ = _
        rw [limb, if_pos hself]
        congr 1
        have hall : ∀ deeper ∈ below,
            decide ((seatOf adapters id above).depth < deeper.depth) = true := by
          intro deeper hdeeper
          have hdepth := hbelow.length_le_depth hdeeper
          exact decide_eq_true hdepth
        rw [List.takeWhile_append_of_pos hall]
        cases hrestSeats : rest with
        | nil => simp
        | cons next others =>
            have hhead : rest.head? = some next := by rw [hrestSeats, List.head?_cons]
            have hnext := hrest.depth_of_head? hhead
            rw [List.takeWhile_cons_of_neg, List.append_nil]
            rw [hnext]
            simp [seatOf]
      · rw [hskip seat hdeeper]
        rcases List.mem_append.mp hdeeper with hin | hin
        · rw [limb_append_of_mem rest (List.mem_map_of_mem hin)
            fun next hnext other hother => Nat.le_of_lt (hend next hnext other hother)]
          exact ihbelow hchildren hnodupBelow hin
        · have hnot : seat.id ∉ below.map Seat.id := fun hmem =>
            hdisjoint seat.id hmem seat.id (List.mem_map_of_mem hin) rfl
          rw [limb_append_of_not_mem rest hnot]
          exact ihrest hothers hnodupRest hin

end Forest
end I2cTopology
