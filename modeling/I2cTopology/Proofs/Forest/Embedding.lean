import I2cTopology.Proofs.Forest.Faults
import I2cTopology.Proofs.Forest.Ordinals

/-!
# Forests within forests

Two lists of adapters are compared by a map `σ` of positions.  The map embeds the one list into the
other if roots go to roots, nobody's parent changes and nobody gets one who had none.  Then lineages go
to lineages; and if every adapter of a lineage adds the same step to the path in both lists, the paths
are the same, and so it is in both forests or in neither that the adapter has its place.

* `Embeds.exists_lineage`: the lineage of an image is the image of the lineage.
* `Embeds.placed_iff`, `Embeds.path_eq`: places and paths under the same steps.
* `ending_build_congr`: how building ends, for two lists with the same faults.
-/

namespace I2cTopology
namespace Forest

open Relation (TransGen)

variable {σ : AdapterId → AdapterId} {a b : Array Adapter}

/-! ## Embeddings -/

/-- The map of positions keeps roots and declared parents, and brings in nobody's parent. -/
structure Embeds (σ : AdapterId → AdapterId) (a b : Array Adapter) : Prop where
  lt_size : ∀ {id}, id < a.size → σ id < b.size
  root_iff : ∀ {id}, id < a.size →
    (declaredParentOf b (σ id) = .root ↔ declaredParentOf a id = .root)
  hangsOff : ∀ {child parent}, HangsOff a child parent → HangsOff b (σ child) (σ parent)
  exists_parent : ∀ {child above}, child < a.size → HangsOff b (σ child) above →
    ∃ parent, σ parent = above ∧ HangsOff a child parent

/-- A map to positions with the same kernel ids and declared parents is an embedding, if whoever is
declared in the one list and found in the other is found in both. -/
theorem embeds_of_same_declarations (hlt : ∀ id < a.size, σ id < b.size)
    (hnrs : ∀ id < a.size, nrOf b (σ id) = nrOf a id)
    (hparents : ∀ id < a.size, declaredParentOf b (σ id) = declaredParentOf a id)
    (honto : ∀ child < a.size, ∀ above < b.size,
      declaredParentOf a child = .adapter (nrOf b above) → ∃ parent < a.size, σ parent = above) :
    Embeds σ a b := by
  refine ⟨fun {id} => hlt id, ?_, ?_, ?_⟩
  · intro id hid
    rw [hparents id hid]
  · rintro child parent ⟨hchild, hparent, hdeclared⟩
    refine ⟨hlt child hchild, hlt parent hparent, ?_⟩
    rw [hparents child hchild, hnrs parent hparent, hdeclared]
  · rintro child above hchild ⟨-, habove, hdeclared⟩
    rw [hparents child hchild] at hdeclared
    obtain ⟨parent, hparent, rfl⟩ := honto child hchild above habove hdeclared
    rw [hnrs parent hparent] at hdeclared
    exact ⟨parent, rfl, hchild, hparent, hdeclared⟩

theorem embeds_of_same_adapters (hlt : ∀ id < a.size, σ id < b.size)
    (hsame : ∀ id < a.size, adapterOf b (σ id) = adapterOf a id)
    (honto : ∀ child < a.size, ∀ above < b.size,
      declaredParentOf a child = .adapter (nrOf b above) → ∃ parent < a.size, σ parent = above) :
    Embeds σ a b :=
  embeds_of_same_declarations hlt (fun id hid => congrArg Adapter.nr (hsame id hid))
    (fun id hid => congrArg Adapter.declaredParent (hsame id hid)) honto

namespace Embeds

theorem lineage (he : Embeds σ a b) {id : AdapterId} {above : List AdapterId}
    (h : Lineage a id above) : Lineage b (σ id) (above.map σ) := by
  induction h with
  | root hid hroot => exact Lineage.root (he.lt_size hid) ((he.root_iff hid).mpr hroot)
  | child hangs _ ih => exact Lineage.child (he.hangsOff hangs) ih

/-- **Lineages of images.**  The lineage of an image is the image of a lineage. -/
theorem exists_lineage (he : Embeds σ a b) {id : AdapterId} (hid : id < a.size)
    {above' : List AdapterId} (h : Lineage b (σ id) above') :
    ∃ above, Lineage a id above ∧ above' = above.map σ := by
  -- On the way up from the image each next adapter is an image again, because nobody's parent is new.
  generalize himage : σ id = image at h
  induction h generalizing id with
  | root _ hroot =>
      subst himage
      exact ⟨[], Lineage.root hid ((he.root_iff hid).mp hroot), rfl⟩
  | child hangs _ ih =>
      subst himage
      obtain ⟨parent, himage, hparent⟩ := he.exists_parent hid hangs
      obtain ⟨above, habove, rfl⟩ := ih hparent.2.1 himage
      exact ⟨parent :: above, Lineage.child hparent habove, by rw [List.map_cons, himage]⟩

theorem rooted_iff (he : Embeds σ a b) {id : AdapterId} (hid : id < a.size) :
    Rooted b (σ id) ↔ Rooted a id := by
  constructor
  · rintro ⟨above', h⟩
    obtain ⟨above, habove, -⟩ := he.exists_lineage hid h
    exact ⟨above, habove⟩
  · rintro ⟨above, h⟩
    exact ⟨above.map σ, he.lineage h⟩

/-- A circle goes to a circle. -/
theorem onCircle (he : Embeds σ a b) {id : AdapterId} (h : OnCircle a id) : OnCircle b (σ id) :=
  TransGen.lift σ (fun _ _ => he.hangsOff) id id h

/-- If everybody has a root in the larger list, so it is in the smaller one. -/
theorem all_rooted (he : Embeds σ a b) (h : ∀ id < b.size, Rooted b id) :
    ∀ id < a.size, Rooted a id :=
  fun id hid => (he.rooted_iff hid).mp (h (σ id) (he.lt_size hid))

end Embeds

/-! ## Steps of a path -/

/-- The segment that an adapter adds to the path of its parent. -/
def segmentOf (adapters : Array Adapter) (id : AdapterId) : String :=
  segment (adapterOf adapters id) (ordinalOf adapters id)

theorem lineagePath_cons_segmentOf {adapters : Array Adapter} {above : List AdapterId}
    (id : AdapterId) (h : above ≠ []) :
    lineagePath adapters (id :: above) =
      lineagePath adapters above ++ ":" ++ segmentOf adapters id :=
  lineagePath_cons id h

/-- The adapter adds the same text to a path in both lists. -/
structure SameStep (σ : AdapterId → AdapterId) (a b : Array Adapter) (id : AdapterId) : Prop where
  nr_eq : declaredParentOf a id = .root → nrOf b (σ id) = nrOf a id
  segment_eq : declaredParentOf a id ≠ .root → segmentOf b (σ id) = segmentOf a id

/-- With the same steps all the way from the root, the paths are the same. -/
theorem Lineage.path_map_eq {id : AdapterId} {above : List AdapterId} (h : Lineage a id above)
    (hsteps : ∀ member ∈ id :: above, SameStep σ a b member) :
    lineagePath b ((id :: above).map σ) = lineagePath a (id :: above) := by
  induction h with
  | @root id _ hroot =>
      have hnr := (hsteps id List.mem_cons_self).nr_eq hroot
      exact congrArg (fun nr : UInt32 => toString nr) hnr
  | @child id parent above hangs _ ih =>
      have hid : declaredParentOf a id ≠ .root := by
        rw [hangs.2.2]
        exact DeclaredParent.noConfusion
      have hparent := ih fun member hmember => hsteps member (List.mem_cons_of_mem id hmember)
      rw [List.map_cons, lineagePath_cons_segmentOf (σ id) (by simp), hparent,
        (hsteps id List.mem_cons_self).segment_eq hid,
        lineagePath_cons_segmentOf id (List.cons_ne_nil parent above)]

/-! ## Places -/

section Places

variable {found found' : List Adapter} {forest forest' : Forest}

/-- Who is placed in the other forest, said of the lineages of this one. -/
theorem Embeds.placed_iff_fits (he : Embeds σ found.toArray found'.toArray)
    (h' : BuiltFrom found' forest') {id : AdapterId} (hid : id < found.length) :
    forest'.Placed (σ id) ↔
      ∃ above, Lineage found.toArray id above ∧ Fits found'.toArray ((id :: above).map σ) := by
  rw [h'.placed_iff]
  constructor
  · rintro ⟨above', habove', hfits⟩
    obtain ⟨above, habove, rfl⟩ := he.exists_lineage hid habove'
    exact ⟨above, habove, hfits⟩
  · rintro ⟨above, habove, hfits⟩
    exact ⟨above.map σ, he.lineage habove, hfits⟩

/-- The adapters of every lineage of the adapter add the same texts to a path in both lists. -/
def SameSteps (σ : AdapterId → AdapterId) (a b : Array Adapter) (id : AdapterId) : Prop :=
  ∀ above, Lineage a id above → ∀ member ∈ id :: above, SameStep σ a b member

/-- **Places under the same steps.**  The adapter is placed in both forests or in neither. -/
theorem Embeds.placed_iff (he : Embeds σ found.toArray found'.toArray)
    (h : BuiltFrom found forest) (h' : BuiltFrom found' forest') {id : AdapterId}
    (hid : id < found.length) (hsteps : SameSteps σ found.toArray found'.toArray id) :
    forest'.Placed (σ id) ↔ forest.Placed id := by
  rw [he.placed_iff_fits h' hid, h.placed_iff]
  apply exists_congr
  intro above
  apply and_congr_right
  intro habove
  rw [Fits, Fits, habove.path_map_eq (hsteps above habove)]

/-- Under the same steps, a lineage and its image fit, or the adapter is placed in neither forest. -/
theorem Embeds.fits_or_not_placed (he : Embeds σ found.toArray found'.toArray)
    (h : BuiltFrom found forest) (h' : BuiltFrom found' forest') {id : AdapterId}
    (hid : id < found.length) (hsteps : SameSteps σ found.toArray found'.toArray id) :
    (∃ above, Lineage found.toArray id above ∧ Fits found.toArray (id :: above) ∧
      Fits found'.toArray (σ id :: above.map σ)) ∨
    ¬ forest.Placed id ∧ ¬ forest'.Placed (σ id) := by
  by_cases hin : forest.Placed id
  · left
    obtain ⟨above, habove, hfits⟩ := (h.placed_iff id).mp hin
    have hsame := habove.path_map_eq (hsteps above habove)
    exact ⟨above, habove, hfits, by rwa [← List.map_cons, Fits, hsame]⟩
  · exact Or.inr ⟨hin, mt (he.placed_iff h h' hid hsteps).mp hin⟩

/-- **Paths under the same steps.**  The adapter has the same path in both forests. -/
theorem Embeds.path_eq (he : Embeds σ found.toArray found'.toArray)
    (h : BuiltFrom found forest) (h' : BuiltFrom found' forest') {id : AdapterId}
    (hid : id < found.length) (hsteps : SameSteps σ found.toArray found'.toArray id) :
    forest'.path (σ id) = forest.path id := by
  rcases he.fits_or_not_placed h h' hid hsteps with ⟨above, habove, hfits, hfits'⟩ | ⟨hout, hout'⟩
  · rw [h.path_eq habove hfits, h'.path_eq (he.lineage habove) hfits']
    exact habove.path_map_eq (hsteps above habove)
  · rw [path_eq_empty hout, path_eq_empty hout']

/-- With the same steps and the same ordinal off the list, the adapter has the same ordinal in both
forests. -/
theorem Embeds.ordinal?_eq (he : Embeds σ found.toArray found'.toArray)
    (h : BuiltFrom found forest) (h' : BuiltFrom found' forest') {id : AdapterId}
    (hid : id < found.length) (hsteps : SameSteps σ found.toArray found'.toArray id)
    (hordinal : ordinalOf found'.toArray (σ id) = ordinalOf found.toArray id) :
    forest'.ordinal? (σ id) = forest.ordinal? id := by
  rcases he.fits_or_not_placed h h' hid hsteps with ⟨above, habove, hfits, hfits'⟩ | ⟨hout, hout'⟩
  · rw [ordinal?, ordinal?, h.ordinal_eq habove hfits, h'.ordinal_eq (he.lineage habove) hfits']
    cases above with
    | nil => rfl
    | cons parent rest => exact congrArg some hordinal
  · rw [ordinal?, ordinal?, seat?_eq_none hout, seat?_eq_none hout']

end Places

/-! ## How building ends -/

/-- The ways in which building ends: with a forest, or with a fault of one kind. -/
inductive Ending where
  | forest
  | duplicateNr
  | parentCycle
  | orphaned
  deriving DecidableEq, Repr

/-- The way in which building has ended. -/
def ending : Except TopologyFault Forest → Ending
  | .ok _ => .forest
  | .error (.duplicateNr _) => .duplicateNr
  | .error (.parentCycle _) => .parentCycle
  | .error (.orphaned _ _) => .orphaned

open Classical in
/-- Kernel ids, circles and roots decide how building ends. -/
theorem ending_build (found : List Adapter) (policy : OrphanPolicy) :
    ending (build found policy) =
      if DistinctNrs found.toArray then
        if ∃ id, OnCircle found.toArray id then .parentCycle
        else if policy = .strict ∧ ¬ ∀ id < found.toArray.size, Rooted found.toArray id then .orphaned
        else .forest
      else .duplicateNr := by
  rcases build_cases found policy with ⟨nr, hbuild, hrepeats, -⟩ | ⟨hnr, id, hcircle, hbuild⟩ |
    ⟨hnr, hstraight, rfl, id, parent, hfirst, -, hbuild⟩ |
    ⟨hnr, hstraight, hrooted, forest, hbuild⟩
  · have hnot : ¬ DistinctNrs found.toArray := by
      rw [distinctNrs_iff_not_repeats, not_not]
      exact ⟨nr, hrepeats⟩
    rw [hbuild, if_neg hnot]
    rfl
  · rw [hbuild, if_pos hnr, if_pos ⟨id, hcircle⟩]
    rfl
  · have hunrooted : ¬ ∀ id < found.toArray.size, Rooted found.toArray id :=
      fun hall => hfirst.2.1 (hall id hfirst.1)
    rw [hbuild, if_pos hnr, if_neg (not_exists.mpr hstraight), if_pos ⟨rfl, hunrooted⟩]
    rfl
  · have hfine : ¬ (policy = .strict ∧ ¬ ∀ id < found.toArray.size, Rooted found.toArray id) :=
      fun ⟨hstrict, hunrooted⟩ => hunrooted (hrooted hstrict)
    rw [hbuild, if_pos hnr, if_neg (not_exists.mpr hstraight), if_neg hfine]
    rfl

/-- **Endings.**  Building ends alike for two lists that embed into each other, if repeated kernel ids
are found in both or in neither. -/
theorem ending_build_congr {found found' : List Adapter} (policy : OrphanPolicy)
    (hnr : DistinctNrs found.toArray ↔ DistinctNrs found'.toArray)
    (hthere : DistinctNrs found.toArray → ∃ σ, Embeds σ found.toArray found'.toArray)
    (hback : DistinctNrs found'.toArray → ∃ τ, Embeds τ found'.toArray found.toArray) :
    ending (build found policy) = ending (build found' policy) := by
  -- A circle is carried along by an embedding, a missing root back along it: hence the two of them.
  classical
  rw [ending_build, ending_build]
  by_cases hdistinct : DistinctNrs found.toArray
  · obtain ⟨σ, hσ⟩ := hthere hdistinct
    obtain ⟨τ, hτ⟩ := hback (hnr.mp hdistinct)
    have hcircle : (∃ id, OnCircle found.toArray id) ↔ ∃ id, OnCircle found'.toArray id :=
      ⟨fun ⟨id, h⟩ => ⟨σ id, hσ.onCircle h⟩, fun ⟨id, h⟩ => ⟨τ id, hτ.onCircle h⟩⟩
    have hrooted : (∀ id < found.toArray.size, Rooted found.toArray id) ↔
        ∀ id < found'.toArray.size, Rooted found'.toArray id := ⟨hτ.all_rooted, hσ.all_rooted⟩
    have hunrooted := and_congr_right' (a := policy = .strict) (not_congr hrooted)
    rw [if_pos hdistinct, if_pos (hnr.mp hdistinct)]
    exact if_congr hcircle rfl (if_congr hunrooted rfl rfl)
  · rw [if_neg hdistinct, if_neg (mt hnr.mpr hdistinct)]

end Forest
end I2cTopology
