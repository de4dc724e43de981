import I2cTopology.Proofs.Forest.Reordering

/-!
# Building once more from what has a place

A forest leaves out adapters without a root and adapters whose paths are too long.  Of siblings that
share an output number the ones with larger kernel ids add no shorter segments, so it is always the last
ones of such a group that are cut.  The ordinals of the others count nobody who is left out, and
building from them alone gives the same forest without complaint.

* `BuiltFrom.placed_of_earlier`: whoever comes before a placed sibling in its group is placed.
* `BuiltFrom.earlierSiblings_placedAdapters`: ordinals count placed adapters only.
* `build_placedAdapters`: building from the placed adapters alone.
-/

namespace I2cTopology

/-- The adapter with nothing but its kernel id, its declared parent and its output number. -/
def Adapter.bare (adapter : Adapter) : Adapter where
  nr := adapter.nr
  declaredParent := adapter.declaredParent
  channel := adapter.channel

theorem Adapter.bare_eq_iff {one other : Adapter} :
    one.bare = other.bare ↔ one.nr = other.nr ∧ one.declaredParent = other.declaredParent ∧
      one.channel = other.channel := by
  simp [Adapter.bare]

namespace Forest

/-- The adapters that have a place, in pre-order. -/
def placedAdapters (forest : Forest) : List Adapter :=
  forest.preorder.map fun (_, id) => forest.adapter id

variable {adapters : Array Adapter} {found found' : List Adapter} {forest : Forest}

/-! ## Groups of siblings -/

/-- Whoever comes before a sibling in its group adds no longer segment to a path. -/
theorem utf8ByteSize_segmentOf_le {earlier id : AdapterId} (hearlier : earlier < adapters.size)
    (hparent : declaredParentOf adapters earlier = declaredParentOf adapters id)
    (hchannel : channelOf adapters earlier = channelOf adapters id)
    (hless : nrOf adapters earlier < nrOf adapters id) :
    (segmentOf adapters earlier).utf8ByteSize ≤ (segmentOf adapters id).utf8ByteSize := by
  have hsame : (adapterOf adapters earlier).channel = (adapterOf adapters id).channel := hchannel
  unfold segmentOf segment
  rw [hsame]
  cases (adapterOf adapters id).channel with
  | none => exact Numeral.utf8ByteSize_toString_mono (UInt32.lt_iff_toNat_lt.mp hless).le
  | some output =>
      have hordinals := Numeral.utf8ByteSize_toString_mono
        (ordinalOf_lt_of_nrOf_lt hearlier hparent hchannel hless).le
      simp only [String.utf8ByteSize_append]
      omega

/-- Every ordinal below that of an adapter is taken by one of those that the ordinal counts. -/
theorem exists_groupBefore_of_lt (hnr : DistinctNrs adapters) {id : AdapterId}
    {ordinal : Nat} (h : ordinal < ordinalOf adapters id) :
    ∃ other ∈ groupBefore adapters id, ordinalOf adapters other = ordinal := by
  -- As many distinct ordinals below a number as the number says: they are all of them.
  have hbelow : (groupBefore adapters id).map (ordinalOf adapters) ⊆
      List.range (ordinalOf adapters id) := by
    intro smaller hsmaller
    obtain ⟨other, hother, rfl⟩ := List.mem_map.mp hsmaller
    obtain ⟨hlt, hparent, hchannel, hless⟩ := (mem_groupBefore id other).mp hother
    exact List.mem_range.mpr (ordinalOf_lt_of_nrOf_lt hlt hparent hchannel hless)
  have hnodup : ((groupBefore adapters id).map (ordinalOf adapters)).Nodup := by
    apply (nodup_groupBefore id).map_on
    intro x hx y hy heq
    obtain ⟨hxlt, hxparent, hxchannel, -⟩ := (mem_groupBefore id x).mp hx
    obtain ⟨hylt, hyparent, hychannel, -⟩ := (mem_groupBefore id y).mp hy
    exact ordinalOf_injOn hnr hxlt hylt (hxparent.trans hyparent.symm)
      (hxchannel.trans hychannel.symm) heq
  have hlength : (List.range (ordinalOf adapters id)).length ≤
      ((groupBefore adapters id).map (ordinalOf adapters)).length := by
    rw [List.length_range, List.length_map, ordinalOf_eq_length]
  have hperm := (hnodup.subperm hbelow).perm_of_length_le hlength
  exact List.mem_map.mp (hperm.mem_iff.mpr (List.mem_range.mpr h))

namespace BuiltFrom

/-- **Cuts come last.**  Whoever comes before a placed adapter in its group has a place. -/
theorem placed_of_earlier (h : BuiltFrom found forest) {earlier id : AdapterId}
    (hid : forest.Placed id) (hearlier : earlier < found.length)
    (hparent : declaredParentOf found.toArray earlier = declaredParentOf found.toArray id)
    (hchannel : channelOf found.toArray earlier = channelOf found.toArray id)
    (hless : nrOf found.toArray earlier < nrOf found.toArray id) : forest.Placed earlier := by
  obtain ⟨above, habove, hfits⟩ := (h.placed_iff id).mp hid
  refine (h.placed_iff earlier).mpr ⟨above, ?_⟩
  cases habove with
  | root hlt hroot =>
      refine ⟨Lineage.root hearlier (hparent.trans hroot), Nat.le_trans ?_ hfits⟩
      exact Numeral.utf8ByteSize_toString_mono (UInt32.lt_iff_toNat_lt.mp hless).le
  | @child _ parent rest hangs hlineage =>
      refine ⟨Lineage.child ⟨hearlier, hangs.2.1, hparent.trans hangs.2.2⟩ hlineage, ?_⟩
      have hsegment : (segmentOf found.toArray earlier).utf8ByteSize ≤
          (segmentOf found.toArray id).utf8ByteSize :=
        utf8ByteSize_segmentOf_le hearlier hparent hchannel hless
      unfold Fits at hfits ⊢
      rw [lineagePath_cons_segmentOf _ (List.cons_ne_nil parent rest),
        String.utf8ByteSize_append] at hfits ⊢
      omega

theorem placedAdapters_eq (h : BuiltFrom found forest) :
    forest.placedAdapters = (forest.preorder.map Prod.snd).map (adapterOf found.toArray) := by
  rw [placedAdapters, List.map_map]
  exact List.map_congr_left fun place _ => h.adapter_eq place.2

theorem mem_placedAdapters (h : BuiltFrom found forest) (adapter : Adapter) :
    adapter ∈ forest.placedAdapters ↔
      ∃ id, forest.Placed id ∧ adapterOf found.toArray id = adapter := by
  rw [h.placedAdapters_eq, List.mem_map]
  rfl

theorem adapters_perm (h : BuiltFrom found forest) :
    (forest.placedAdapters ++ forest.unplaced.map (adapterOf found.toArray)).Perm found := by
  have hperm := h.ids_perm.map (adapterOf found.toArray)
  rwa [List.map_append, ← h.placedAdapters_eq, map_adapterOf_range] at hperm

/-- **Ordinals count placed adapters only.** -/
theorem earlierSiblings_placedAdapters (h : BuiltFrom found forest) {id : AdapterId}
    (hid : forest.Placed id) :
    earlierSiblings forest.placedAdapters (adapterOf found.toArray id) =
      earlierSiblings found (adapterOf found.toArray id) := by
  unfold earlierSiblings
  rw [← h.adapters_perm.countP_eq, List.countP_append, Nat.left_eq_add, List.countP_eq_zero]
  intro adapter hadapter hcounted
  obtain ⟨other, hout, rfl⟩ := List.mem_map.mp hadapter
  obtain ⟨hparent, hchannel, hless⟩ := of_decide_eq_true hcounted
  have hother : other < found.length := by
    rw [← List.mem_range, ← h.ids_perm.mem_iff]
    exact List.mem_append_right _ hout
  exact h.not_placed_of_mem_unplaced hout (h.placed_of_earlier hid hother hparent hchannel hless)

end BuiltFrom

/-! ## The same declarations -/

/-- The two lists hold the same kernel ids, declared parents and output numbers, in any order. -/
def SameDeclarations (found found' : List Adapter) : Prop :=
  (found.map Adapter.bare).Perm (found'.map Adapter.bare)

theorem SameDeclarations.symm (h : SameDeclarations found found') : SameDeclarations found' found :=
  List.Perm.symm h

theorem SameDeclarations.earlierSiblings_eq (h : SameDeclarations found found')
    {adapter adapter' : Adapter} (hbare : adapter.bare = adapter'.bare) :
    earlierSiblings found adapter = earlierSiblings found' adapter' := by
  have hcount : ∀ (others : List Adapter) (one : Adapter),
      earlierSiblings others one = earlierSiblings (others.map Adapter.bare) one.bare := by
    intro others one
    unfold earlierSiblings
    rw [List.countP_map]
    rfl
  have hperm : (found.map Adapter.bare).Perm (found'.map Adapter.bare) := h
  rw [hcount found, hcount found', hbare, earlierSiblings, earlierSiblings, hperm.countP_eq]

theorem SameDeclarations.nrs_perm (h : SameDeclarations found found') :
    (found.map Adapter.nr).Perm (found'.map Adapter.nr) := by
  have hnrs := List.Perm.map Adapter.nr h
  rwa [List.map_map, List.map_map] at hnrs

theorem SameDeclarations.exists_bare_eq (h : SameDeclarations found found') {adapter : Adapter}
    (hmem : adapter ∈ found) : ∃ adapter' ∈ found', adapter'.bare = adapter.bare :=
  List.mem_map.mp (List.Perm.mem_iff h |>.mp (List.mem_map_of_mem hmem))

/-- The positions in the list that was found first of adapters that are found once more. -/
theorem exists_positions (h : BuiltFrom found forest)
    (hsame : SameDeclarations found' forest.placedAdapters) :
    ∃ σ : AdapterId → AdapterId, ∀ id < found'.length, forest.Placed (σ id) ∧
      (adapterOf found.toArray (σ id)).bare = (adapterOf found'.toArray id).bare := by
  have hposition : ∀ id : AdapterId, ∃ image, id < found'.length → forest.Placed image ∧
      (adapterOf found.toArray image).bare = (adapterOf found'.toArray id).bare := by
    intro id
    by_cases hid : id < found'.length
    · obtain ⟨adapter, hadapter, hbare⟩ :=
        hsame.exists_bare_eq (List.mem_of_getElem? (getElem?_of_lt hid))
      obtain ⟨image, hplaced, rfl⟩ := (h.mem_placedAdapters adapter).mp hadapter
      exact ⟨image, fun _ => ⟨hplaced, hbare⟩⟩
    · exact ⟨id, fun hlt => absurd hlt hid⟩
  exact Classical.skolem.mp hposition

theorem distinctNrs_of_sameDeclarations (h : BuiltFrom found forest)
    (hsame : SameDeclarations found' forest.placedAdapters) : DistinctNrs found'.toArray := by
  have hnr := h.distinctNrs
  unfold DistinctNrs at hnr ⊢
  rw [map_nrOf_range] at hnr ⊢
  rw [hsame.nrs_perm.nodup_iff]
  have hall := (h.adapters_perm.map Adapter.nr).nodup_iff.mpr hnr
  rw [List.map_append] at hall
  exact (List.nodup_append.mp hall).1

/-- **Keeping the placed adapters.**  A list with the declarations of the placed adapters keeps all that
matters to their seats. -/
theorem exists_keeps (h : BuiltFrom found forest)
    (hsame : SameDeclarations found' forest.placedAdapters) :
    ∃ σ, Keeps σ found'.toArray found.toArray ∧ ∀ id < found'.length, forest.Placed (σ id) := by
  obtain ⟨σ, hσ⟩ := exists_positions h hsame
  have hlt : ∀ id < found'.length, σ id < found.length := by
    intro id hid
    obtain ⟨above, habove, -⟩ := (h.placed_iff _).mp (hσ id hid).1
    exact habove.lt_size
  have hnrs : ∀ id < found'.length, nrOf found.toArray (σ id) = nrOf found'.toArray id :=
    fun id hid => (Adapter.bare_eq_iff.mp (hσ id hid).2).1
  have hparents : ∀ id < found'.length,
      declaredParentOf found.toArray (σ id) = declaredParentOf found'.toArray id :=
    fun id hid => (Adapter.bare_eq_iff.mp (hσ id hid).2).2.1
  have honto : ∀ image, forest.Placed image → ∃ id < found'.length, σ id = image := by
    intro image himage
    obtain ⟨adapter, hadapter, hbare⟩ :=
      hsame.symm.exists_bare_eq ((h.mem_placedAdapters _).mpr ⟨image, himage, rfl⟩)
    obtain ⟨id, hid⟩ := List.mem_iff_getElem?.mp hadapter
    obtain ⟨hidlt, -⟩ := List.getElem?_eq_some_iff.mp hid
    obtain ⟨above, habove, -⟩ := (h.placed_iff image).mp himage
    refine ⟨id, hidlt, h.distinctNrs.inj (hlt id hidlt) habove.lt_size ?_⟩
    rw [← adapterOf_of_getElem? hid] at hbare
    exact (hnrs id hidlt).trans (Adapter.bare_eq_iff.mp hbare).1
  refine ⟨σ, ?_, fun id hid => (hσ id hid).1⟩
  refine
    { toEmbeds := embeds_of_same_declarations hlt hnrs hparents ?_
      distinct := distinctNrs_of_sameDeclarations h hsame
      distinct' := h.distinctNrs
      nrOf_eq := fun {id} hid => hnrs id hid
      channelOf_eq := fun {id} hid => (Adapter.bare_eq_iff.mp (hσ id hid).2).2.2
      ordinalOf_eq := ?_
      onto := fun habove hfits => honto _ ((h.placed_iff _).mpr ⟨_, habove, hfits⟩) }
  · -- Whoever is declared by a placed adapter is placed, and so it is found once more.
    intro child hchild above habove hdeclared
    apply honto
    apply h.placed_parent (hσ child hchild).1
    exact ⟨hlt child hchild, habove, (hparents child hchild).trans hdeclared⟩
  · intro id hid
    rw [ordinalOf_eq_earlierSiblings, ordinalOf_eq_earlierSiblings,
      ← h.earlierSiblings_placedAdapters (hσ id hid).1]
    exact hsame.symm.earlierSiblings_eq (hσ id hid).2

/-! ## Building once more -/

/-- **Building once more from the placed adapters.**  From adapters with the declarations of those that
have a place in a forest, in any order, building succeeds under the strict policy; it leaves out nobody,
and the forest shows the same rows.  So nobody is missing in a group of siblings: below the ordinal of
an adapter, every number is the ordinal of a placed sibling with the same output number. -/
theorem build_placedAdapters {policy : OrphanPolicy} (h : build found policy = .ok forest) :
    (∀ found', SameDeclarations found' forest.placedAdapters →
      ∃ forest', build found' .strict = .ok forest' ∧ forest'.unplaced = [] ∧
        forest'.rows = forest.rows) ∧
    (∀ id ordinal, forest.ordinal? id = some ordinal → ∀ smaller < ordinal,
      ∃ sibling, forest.parent? sibling = forest.parent? id ∧
        (forest.adapter sibling).channel = (forest.adapter id).channel ∧
        forest.ordinal? sibling = some smaller) := by
  have hbuilt : BuiltFrom found forest := ⟨policy, h⟩
  constructor
  · intro found' hsame
    obtain ⟨σ, hkeeps, hplaced⟩ := exists_keeps hbuilt hsame
    have hfits : ∀ id < found'.length, ∃ above, Lineage found'.toArray id above ∧
        Fits found'.toArray (id :: above) := by
      intro id hid
      obtain ⟨above', habove', hfits'⟩ := (hbuilt.placed_iff _).mp (hplaced id hid)
      obtain ⟨above, habove, rfl⟩ := hkeeps.exists_lineage hid habove'
      exact ⟨above, habove, (hkeeps.fits_iff habove).mp hfits'⟩
    have hrooted : ∀ id < found'.toArray.size, Rooted found'.toArray id := fun id hid =>
      (hfits id hid).imp fun _ => And.left
    obtain ⟨forest', hbuild'⟩ := exists_build_of_rooted hkeeps.distinct hrooted .strict
    have hbuilt' : BuiltFrom found' forest' := ⟨.strict, hbuild'⟩
    refine ⟨forest', hbuild', ?_, ?_⟩
    · apply List.eq_nil_iff_forall_not_mem.mpr
      intro id hout
      have hid : id < found'.length := by
        rw [← List.mem_range, ← hbuilt'.ids_perm.mem_iff]
        exact List.mem_append_right _ hout
      exact hbuilt'.not_placed_of_mem_unplaced hout ((hbuilt'.placed_iff id).mpr (hfits id hid))
    · rw [hbuilt'.rows_eq, hbuilt.rows_eq, hkeeps.map_rowOf_seatsOf]
  · intro id ordinal hordinal smaller hsmaller
    have hid : forest.Placed id := by
      by_contra hout
      rw [ordinal?, seat?_eq_none hout] at hordinal
      contradiction
    obtain ⟨above, habove, hfits⟩ := (hbuilt.placed_iff id).mp hid
    rw [ordinal?, hbuilt.ordinal_eq habove hfits] at hordinal
    cases habove with
    | root _ _ => exact absurd hordinal (Option.some_ne_none _).symm
    | @child _ parent rest hangs hparent =>
        obtain rfl : ordinalOf found.toArray id = ordinal := Option.some.inj hordinal
        obtain ⟨sibling, hsibling, rfl⟩ := exists_groupBefore_of_lt hbuilt.distinctNrs hsmaller
        obtain ⟨hlt, hdeclared, hchannel, hless⟩ := (mem_groupBefore id sibling).mp hsibling
        have hangs' : HangsOff found.toArray sibling parent :=
          ⟨hlt, hangs.2.1, hdeclared.trans hangs.2.2⟩
        have hin := hbuilt.placed_of_earlier hid hlt hdeclared hchannel hless
        obtain ⟨above', habove', hfits'⟩ := (hbuilt.placed_iff sibling).mp hin
        obtain rfl := habove'.unique hbuilt.distinctNrs (Lineage.child hangs' hparent)
        refine ⟨sibling, ?_, ?_, hbuilt.ordinal_eq habove' hfits'⟩
        · rw [(hbuilt.parent?_eq_some_iff sibling parent).mpr ⟨hin, hangs'⟩,
            (hbuilt.parent?_eq_some_iff id parent).mpr ⟨hid, hangs⟩]
        · rw [hbuilt.adapter_eq, hbuilt.adapter_eq]
          exact hchannel

/-- The sample without the adapter whose parent was not found, in another order. -/
theorem build_placedAdapters_sample :
    build sample .warn = .ok sampleForest ∧
      ∃ forest, build [sample[0], sample[3], sample[2]] .strict = .ok forest ∧
        forest.unplaced = [] ∧ forest.rows = sampleForest.rows := by
  have hsame : SameDeclarations [sample[0], sample[3], sample[2]] sampleForest.placedAdapters := by
    unfold SameDeclarations
    decide
  exact ⟨build_sample, (build_placedAdapters build_sample).1 _ hsame⟩

end Forest
end I2cTopology
