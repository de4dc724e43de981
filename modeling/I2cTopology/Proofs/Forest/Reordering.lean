import I2cTopology.Proofs.Forest.Embedding

/-!
# Discovery order

A forest does not depend on the order in which its adapters were found.  Two lists with the same
adapters embed into each other, and as kernel ids, ordinals and with them all steps of paths are the
same, so are the sorted generations of siblings: the seats of the one list are those of the other, with
other positions.

* `Keeps.seatsOf_eq`: the seats of a list that keeps whoever has a place in another one.
* `reorders_of_perm`: a permuted list of adapters reorders the list.
* `build_perm`: building from a permuted list.
-/

namespace I2cTopology
namespace Forest

/-! ## What a forest shows -/

/-- What a forest shows of a placed adapter. -/
structure Row where
  depth : Nat
  nr : UInt32
  path : String
  ordinal : Option Nat
  channel : Option UInt32
  deriving DecidableEq, Repr

/-- What a forest shows of its placed adapters, in pre-order. -/
def rows (forest : Forest) : List Row :=
  forest.preorder.map fun (depth, id) =>
    { depth := depth
      nr := (forest.adapter id).nr
      path := forest.path id
      ordinal := forest.ordinal? id
      channel := (forest.adapter id).channel }

/-- The kernel ids of the adapters that were left out. -/
def unplacedNrs (forest : Forest) : List UInt32 :=
  forest.unplaced.map fun id => (forest.adapter id).nr

/-- What a seat shows of its adapter. -/
def rowOf (adapters : Array Adapter) (seat : Seat) : Row where
  depth := seat.depth
  nr := nrOf adapters seat.id
  path := seat.path
  ordinal := seat.ordinal
  channel := channelOf adapters seat.id

namespace BuiltFrom

variable {found : List Adapter} {forest : Forest}

/-- The rows of a forest are those of its seats. -/
theorem rows_eq (h : BuiltFrom found forest) :
    forest.rows = (seatsOf found.toArray).map (rowOf found.toArray) := by
  rw [rows, preorder, h.seats_eq, List.map_map]
  apply List.map_congr_left
  intro seat hseat
  obtain ⟨above, habove, hfits, hdetermined⟩ := (mem_seatsOf h.distinctNrs seat).mp hseat
  have hpath : forest.path seat.id = seat.path :=
    (h.path_eq habove hfits).trans (congrArg Seat.path hdetermined).symm
  have hordinal : forest.ordinal? seat.id = seat.ordinal :=
    (h.ordinal_eq habove hfits).trans (congrArg Seat.ordinal hdetermined).symm
  simp only [Function.comp_apply, h.adapter_eq, hpath, hordinal]
  rfl

/-- The kernel ids of the rows and of those left out are the kernel ids of all adapters. -/
theorem nrs_perm (h : BuiltFrom found forest) :
    (forest.rows.map Row.nr ++ forest.unplacedNrs).Perm (found.map Adapter.nr) := by
  have hnrs := (@seatsOf_perm found.toArray).map (nrOf found.toArray)
  rw [map_nrOf_range, List.map_append, List.map_map] at hnrs
  have hunplaced : forest.unplacedNrs = (unplacedOf found.toArray).map (nrOf found.toArray) := by
    simp only [unplacedNrs, h.unplaced_eq, h.adapter_eq]
    rfl
  rw [h.rows_eq, List.map_map, hunplaced]
  exact hnrs

end BuiltFrom

/-! ## Lists that keep the placed adapters -/

variable {σ : AdapterId → AdapterId} {a b : Array Adapter}

/-- The map leads every position of the one list to an adapter of the other one with the same kernel id,
output number and ordinal, and leaves out nobody who has a place. -/
structure Keeps (σ : AdapterId → AdapterId) (a b : Array Adapter) : Prop
    extends Embeds σ a b where
  distinct : DistinctNrs a
  distinct' : DistinctNrs b
  nrOf_eq : ∀ {id}, id < a.size → nrOf b (σ id) = nrOf a id
  channelOf_eq : ∀ {id}, id < a.size → channelOf b (σ id) = channelOf a id
  ordinalOf_eq : ∀ {id}, id < a.size → ordinalOf b (σ id) = ordinalOf a id
  onto : ∀ {image above}, Lineage b image above → Fits b (image :: above) →
    ∃ id < a.size, σ id = image

/-- The seat at another position. -/
def relocate (σ : AdapterId → AdapterId) (seat : Seat) : Seat :=
  { seat with
    id := σ seat.id
    parent := seat.parent.map σ
    children := seat.children.map σ }

/-- Siblings whose paths do not fit may be left out of what is planted. -/
theorem Planted.of_filter {adapters : Array Adapter} {above ids : List AdapterId} {seats : List Seat}
    (h : Planted adapters above (ids.filter fun id => Fits adapters (id :: above)) seats) :
    Planted adapters above ids seats := by
  induction ids generalizing seats with
  | nil => exact h
  | cons id rest ih =>
      by_cases hfits : Fits adapters (id :: above)
      · rw [List.filter_cons_of_pos (by simpa using hfits)] at h
        cases h with
        | cut hlong _ => exact absurd hfits hlong
        | seat _ hbelow hrest => exact Planted.seat hfits hbelow (ih hrest)
      · rw [List.filter_cons_of_neg (by simpa using hfits)] at h
        exact Planted.cut hfits (ih h)

namespace Keeps

theorem sameStep (hk : Keeps σ a b) {id : AdapterId} (hid : id < a.size) :
    SameStep σ a b id := by
  refine ⟨fun _ => hk.nrOf_eq hid, fun _ => ?_⟩
  have hnr : (adapterOf b (σ id)).nr = (adapterOf a id).nr := hk.nrOf_eq hid
  have hchannel : (adapterOf b (σ id)).channel = (adapterOf a id).channel := hk.channelOf_eq hid
  simp only [segmentOf, segment, hk.ordinalOf_eq hid, hnr, hchannel]

theorem path_eq (hk : Keeps σ a b) {id : AdapterId} {above : List AdapterId}
    (h : Lineage a id above) :
    lineagePath b (σ id :: above.map σ) = lineagePath a (id :: above) :=
  h.path_map_eq fun _ hmember => hk.sameStep (h.mem_lt_size hmember)

theorem fits_iff (hk : Keeps σ a b) {id : AdapterId} {above : List AdapterId}
    (h : Lineage a id above) : Fits b (σ id :: above.map σ) ↔ Fits a (id :: above) := by
  rw [Fits, Fits, hk.path_eq h]

/-- Siblings of the one list, those whose paths fit, are siblings of the other one, in the same order:
both are sorted by distinct kernel ids, so that their members decide. -/
theorem filter_eq_map (hk : Keeps σ a b) (above : List AdapterId) {ids images : List AdapterId}
    (hids : ids.Pairwise fun x y => nrOf a x < nrOf a y)
    (himages : images.Pairwise fun x y => nrOf b x < nrOf b y)
    (hlineage : ∀ id ∈ ids, Lineage a id above)
    (hlineage' : ∀ image ∈ images, Lineage b image (above.map σ))
    (hmem : ∀ id < a.size, σ id ∈ images ↔ id ∈ ids) :
    (images.filter fun image => Fits b (image :: above.map σ)) =
      (ids.filter fun id => Fits a (id :: above)).map σ := by
  apply eq_of_pairwise_nrOf_lt (himages.filter _)
  · apply List.pairwise_map.mpr
    apply (hids.filter _).imp_of_mem
    intro x y hx hy hless
    have hlt : ∀ z ∈ ids.filter fun id => Fits a (id :: above), z < a.size := fun z hz =>
      (hlineage z (List.mem_filter.mp hz).1).lt_size
    rwa [hk.nrOf_eq (hlt x hx), hk.nrOf_eq (hlt y hy)]
  · intro image
    simp only [List.mem_filter, List.mem_map, decide_eq_true_eq]
    constructor
    · rintro ⟨himage, hfits⟩
      obtain ⟨id, hid, rfl⟩ := hk.onto (hlineage' image himage) hfits
      have hin := (hmem id hid).mp himage
      exact ⟨id, ⟨hin, (hk.fits_iff (hlineage id hin)).mp hfits⟩, rfl⟩
    · rintro ⟨id, ⟨hin, hfits⟩, rfl⟩
      have hid := hlineage id hin
      exact ⟨(hmem id hid.lt_size).mpr hin, (hk.fits_iff hid).mpr hfits⟩

/-- The children of an adapter whose paths fit, by kernel id. -/
theorem children_eq (hk : Keeps σ a b) {id : AdapterId} {above : List AdapterId}
    (h : Lineage a id above) :
    ((sortedChildren b (σ id)).filter fun child => Fits b (child :: σ id :: above.map σ)) =
      ((sortedChildren a id).filter fun child => Fits a (child :: id :: above)).map σ := by
  have himage : Lineage b (σ id) (above.map σ) := hk.lineage h
  refine hk.filter_eq_map (id :: above) (pairwise_lt_sortedChildren hk.distinct id)
    (pairwise_lt_sortedChildren hk.distinct' (σ id)) (fun _ => h.of_mem_sortedChildren)
    (fun _ => himage.of_mem_sortedChildren) ?_
  intro child hchild
  rw [mem_sortedChildren himage.lt_size, mem_sortedChildren h.lt_size]
  constructor
  · intro hangs
    obtain ⟨parent, hparent, hangs'⟩ := hk.exists_parent hchild hangs
    have hsame : parent = id := by
      apply hk.distinct.inj hangs'.2.1 h.lt_size
      rw [← hk.nrOf_eq hangs'.2.1, ← hk.nrOf_eq h.lt_size, hparent]
    exact hsame ▸ hangs'
  · exact fun hangs => hk.hangsOff hangs

/-- The roots whose paths fit, by kernel id. -/
theorem roots_eq (hk : Keeps σ a b) :
    ((sortedRoots b).filter fun id => Fits b [id]) =
      ((sortedRoots a).filter fun id => Fits a [id]).map σ := by
  refine hk.filter_eq_map [] (pairwise_lt_sortedRoots hk.distinct)
    (pairwise_lt_sortedRoots hk.distinct') (fun _ => lineage_of_mem_sortedRoots)
    (fun _ => lineage_of_mem_sortedRoots) ?_
  intro id hid
  simp only [mem_sortedRoots, hk.lt_size hid, hid, true_and]
  exact hk.root_iff hid

/-- The seat of an adapter is the one it had, with other positions. -/
theorem seatOf_eq (hk : Keeps σ a b) {id : AdapterId} {above : List AdapterId}
    (h : Lineage a id above) :
    seatOf b (σ id) (above.map σ) = relocate σ (seatOf a id above) := by
  have hordinal : seatOrdinal b (σ id) (above.map σ) = seatOrdinal a id above := by
    cases above with
    | nil => rfl
    | cons parent rest => exact congrArg some (hk.ordinalOf_eq h.lt_size)
  simp only [seatOf, relocate, List.length_map, List.head?_map, hk.path_eq h, hk.children_eq h,
    hordinal]

/-- What is planted below a lineage is planted below its image, with other positions. -/
theorem planted (hk : Keeps σ a b) {above ids : List AdapterId} {seats : List Seat}
    (h : Planted a above ids seats) (hids : ∀ id ∈ ids, Lineage a id above) :
    Planted b (above.map σ) ((ids.filter fun id => Fits a (id :: above)).map σ)
      (seats.map (relocate σ)) := by
  induction h with
  | nil => exact Planted.nil
  | @cut above id ids rest hlong _ ih =>
      rw [List.filter_cons_of_neg (by simpa using hlong)]
      exact ih fun other hother => hids other (List.mem_cons_of_mem _ hother)
  | @seat above id ids below rest hfits _ _ ihbelow ihrest =>
      have hid : Lineage a id above := hids id List.mem_cons_self
      have hbelow := ihbelow fun _ => hid.of_mem_sortedChildren
      have hrest := ihrest fun other hother => hids other (List.mem_cons_of_mem _ hother)
      rw [← hk.children_eq hid] at hbelow
      rw [List.filter_cons_of_pos (by simpa using hfits), List.map_cons, List.map_cons,
        List.map_append, ← hk.seatOf_eq hid]
      exact Planted.seat ((hk.fits_iff hid).mpr hfits) hbelow.of_filter hrest

/-- **Seats.**  The seats of the two lists are the same, at other positions. -/
theorem seatsOf_eq (hk : Keeps σ a b) : seatsOf b = (seatsOf a).map (relocate σ) := by
  have hplanted := hk.planted (planted_seatsOf hk.distinct) fun _ => lineage_of_mem_sortedRoots
  rw [← hk.roots_eq] at hplanted
  exact (planted_seatsOf hk.distinct').unique hplanted.of_filter

/-- The seats of the two lists show the same. -/
theorem map_rowOf_seatsOf (hk : Keeps σ a b) :
    (seatsOf b).map (rowOf b) = (seatsOf a).map (rowOf a) := by
  rw [hk.seatsOf_eq, List.map_map]
  apply List.map_congr_left
  intro seat hseat
  obtain ⟨above, habove, -, -⟩ := (mem_seatsOf hk.distinct seat).mp hseat
  simp only [Function.comp_apply, rowOf, relocate, hk.nrOf_eq habove.lt_size,
    hk.channelOf_eq habove.lt_size]

end Keeps

/-! ## Reordered lists -/

/-- The map leads every position to one of the same adapter, and to the same ordinal, and leaves no
position out. -/
structure Reorders (σ : AdapterId → AdapterId) (a b : Array Adapter) : Prop
    extends Embeds σ a b where
  distinct : DistinctNrs a
  distinct' : DistinctNrs b
  adapterOf_eq : ∀ {id}, id < a.size → adapterOf b (σ id) = adapterOf a id
  ordinalOf_eq : ∀ {id}, id < a.size → ordinalOf b (σ id) = ordinalOf a id
  onto : ∀ {image}, image < b.size → ∃ id < a.size, σ id = image

theorem Reorders.keeps (hr : Reorders σ a b) : Keeps σ a b where
  toEmbeds := hr.toEmbeds
  distinct := hr.distinct
  distinct' := hr.distinct'
  nrOf_eq hid := congrArg Adapter.nr (hr.adapterOf_eq hid)
  channelOf_eq hid := congrArg Adapter.channel (hr.adapterOf_eq hid)
  ordinalOf_eq hid := hr.ordinalOf_eq hid
  onto himage _ := hr.onto himage.lt_size

/-- The seats of a reordered list show what those of the list show. -/
theorem Reorders.map_rowOf_seatsOf (hr : Reorders σ a b) :
    (seatsOf b).map (rowOf b) = (seatsOf a).map (rowOf a) :=
  hr.keeps.map_rowOf_seatsOf

/-! ## Permutations -/

variable {found found' : List Adapter}

theorem repeats_perm (h : found.Perm found') (nr : UInt32) : Repeats found nr ↔ Repeats found' nr := by
  rw [Repeats, Repeats, (h.map Adapter.nr).count_eq]

theorem distinctNrs_perm (h : found.Perm found') :
    DistinctNrs found.toArray ↔ DistinctNrs found'.toArray := by
  simp only [distinctNrs_iff_not_repeats, repeats_perm h]

/-- **Permutations.**  The adapters of a permuted list, where they stand now. -/
theorem reorders_of_perm (h : found.Perm found') (hnr : DistinctNrs found.toArray) :
    Reorders (fun id => found'.idxOf (adapterOf found.toArray id)) found.toArray found'.toArray := by
  have hnr' : DistinctNrs found'.toArray := (distinctNrs_perm h).mp hnr
  have hnodup' : found'.Nodup := by
    rw [DistinctNrs, map_nrOf_range] at hnr'
    exact hnr'.of_map
  have hmem : ∀ id < found.length, adapterOf found.toArray id ∈ found' := fun id hid =>
    h.mem_iff.mp (List.mem_of_getElem? (getElem?_of_lt hid))
  have hlt : ∀ id < found.length,
      found'.idxOf (adapterOf found.toArray id) < found'.length := fun id hid =>
    List.idxOf_lt_length_of_mem (hmem id hid)
  have hsame : ∀ id < found.length,
      adapterOf found'.toArray (found'.idxOf (adapterOf found.toArray id)) =
        adapterOf found.toArray id := by
    intro id hid
    apply adapterOf_of_getElem?
    rw [List.getElem?_eq_getElem (hlt id hid), List.getElem_idxOf]
  have honto : ∀ image < found'.length, ∃ id < found.length,
      found'.idxOf (adapterOf found.toArray id) = image := by
    intro image himage
    have hfound : found'[image] ∈ found := h.mem_iff.mpr (List.getElem_mem himage)
    obtain ⟨id, hid⟩ := List.mem_iff_getElem?.mp hfound
    obtain ⟨hlt', -⟩ := List.getElem?_eq_some_iff.mp hid
    refine ⟨id, hlt', ?_⟩
    rw [adapterOf_of_getElem? hid, hnodup'.idxOf_getElem image himage]
  refine
    { toEmbeds := embeds_of_same_adapters hlt hsame fun _ _ above habove _ => honto above habove
      distinct := hnr
      distinct' := hnr'
      adapterOf_eq := fun {id} hid => hsame id hid
      ordinalOf_eq := ?_
      onto := fun {image} himage => honto image himage }
  intro id hid
  rw [ordinalOf_eq_earlierSiblings, ordinalOf_eq_earlierSiblings, hsame id hid, earlierSiblings,
    earlierSiblings, h.countP_eq]

/-- **Discovery order.**  From a permuted list of adapters building ends in the same way, and reports
the same repeated kernel id; the forests show the same in pre-order, and leave out the same kernel
ids. -/
theorem build_perm (h : found.Perm found') (policy : OrphanPolicy) :
    ending (build found policy) = ending (build found' policy) ∧
    (∀ nr, build found policy = .error (.duplicateNr nr) ↔
      build found' policy = .error (.duplicateNr nr)) ∧
    (∀ forest forest', build found policy = .ok forest → build found' policy = .ok forest' →
      forest.rows = forest'.rows ∧ forest.unplacedNrs.Perm forest'.unplacedNrs) := by
  refine ⟨?_, ?_, ?_⟩
  · exact ending_build_congr policy (distinctNrs_perm h)
      (fun hnr => ⟨_, (reorders_of_perm h hnr).toEmbeds⟩)
      (fun hnr => ⟨_, (reorders_of_perm h.symm hnr).toEmbeds⟩)
  · intro nr
    simp only [build_eq_duplicateNr_iff, repeats_perm h]
  · intro forest forest' hbuild hbuild'
    have hbuilt : BuiltFrom found forest := ⟨policy, hbuild⟩
    have hbuilt' : BuiltFrom found' forest' := ⟨policy, hbuild'⟩
    have hrows : forest.rows = forest'.rows := by
      rw [hbuilt.rows_eq, hbuilt'.rows_eq, (reorders_of_perm h hbuilt.distinctNrs).map_rowOf_seatsOf]
    refine ⟨hrows, ?_⟩
    -- The rows are the same, so what remains of the kernel ids is the same too.
    have hnrs := (hbuilt.nrs_perm.trans (h.map Adapter.nr)).trans hbuilt'.nrs_perm.symm
    rw [hrows] at hnrs
    exact (List.perm_append_left_iff _).mp hnrs

/-- The sample in reverse gives the same rows. -/
theorem build_perm_sample :
    sample.Perm sample.reverse ∧
      ∃ forest, build sample.reverse .warn = .ok forest ∧ forest.rows = sampleForest.rows := by
  have hperm : sample.Perm sample.reverse := (List.reverse_perm sample).symm
  obtain ⟨hending, -, hforests⟩ := build_perm hperm .warn
  refine ⟨hperm, ?_⟩
  rw [build_sample] at hending
  cases hbuild : build sample.reverse .warn with
  | error fault => cases fault <;> rw [hbuild] at hending <;> contradiction
  | ok forest => exact ⟨forest, rfl, (hforests sampleForest forest build_sample hbuild).1.symm⟩

end Forest
end I2cTopology
