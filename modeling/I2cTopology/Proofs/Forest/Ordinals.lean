import I2cTopology.Proofs.Forest.Walk

/-!
# Ordinals and paths without growth

What a built forest says about ordinals and paths, counted off the list of adapters alone.  The growth
numbers a group of siblings anew whenever one more of them is attached; the outcome is that each has
for its ordinal how many of the group have a smaller kernel id.  The count ranges over the whole list,
so it also sees siblings that were left out because their paths are too long.

* `ordinalOf_eq_earlierSiblings`: positions in the list do not matter to the ordinal.
* `build_numbering`: ordinals and paths of a built forest.
-/

namespace I2cTopology
namespace Forest

/-! ## Counting off the list -/

/-- The number of adapters with the same declared parent, the same output number (none being one of
them) and a smaller kernel id. -/
def earlierSiblings (found : List Adapter) (adapter : Adapter) : Nat :=
  found.countP fun other =>
    other.declaredParent = adapter.declaredParent ∧ other.channel = adapter.channel ∧
      other.nr < adapter.nr

/-- The ordinal of an adapter is counted off the list. -/
theorem ordinalOf_eq_earlierSiblings (found : List Adapter) (id : AdapterId) :
    ordinalOf found.toArray id = earlierSiblings found (adapterOf found.toArray id) := by
  let counted (other : Adapter) : Bool :=
    other.declaredParent = declaredParentOf found.toArray id ∧
      other.channel = channelOf found.toArray id ∧ other.nr < nrOf found.toArray id
  calc
    ordinalOf found.toArray id
        = (List.range found.length).countP (counted ∘ adapterOf found.toArray) := rfl
    _ = ((List.range found.length).map (adapterOf found.toArray)).countP counted :=
      List.countP_map.symm
    _ = found.countP counted := by rw [map_adapterOf_range]

/-! ## Built forests -/

/-- The ordinal of a placed adapter among its siblings, if it is no root. -/
def ordinal? (forest : Forest) (id : AdapterId) : Option Nat :=
  (forest.seat? id).bind Seat.ordinal

/-- The ordinal of a placed adapter that hangs off another one is the number of those that it counts. -/
theorem BuiltFrom.ordinal?_eq_some {found : List Adapter} {forest : Forest}
    (h : BuiltFrom found forest) {id parent : AdapterId} (hplaced : forest.Placed id)
    (hangs : HangsOff found.toArray id parent) :
    forest.ordinal? id = some (ordinalOf found.toArray id) := by
  obtain ⟨above, habove, hfits⟩ := (h.placed_iff id).mp hplaced
  obtain ⟨rest, rfl, -⟩ := habove.eq_cons_of_hangsOff h.distinctNrs hangs
  exact h.ordinal_eq habove hfits

/-- **Ordinals and paths.**  A root has no ordinal, and its kernel id for a path.  Any other placed
adapter has for its ordinal the number of adapters with its declared parent, its output number and a
smaller kernel id; its path goes on after that of its parent with ordinal and output number, or with
its kernel id if it has no output number. -/
theorem build_numbering {found : List Adapter} {policy : OrphanPolicy} {forest : Forest}
    (h : build found policy = .ok forest) :
    (∀ id adapter, found[id]? = some adapter → id ∈ forest.roots →
      forest.ordinal? id = none ∧ forest.path id = toString adapter.nr) ∧
    (∀ id adapter, found[id]? = some adapter → forest.Placed id → id ∉ forest.roots →
      ∃ parent, forest.parent? id = some parent ∧
        forest.ordinal? id = some (earlierSiblings found adapter) ∧
        forest.path id = forest.path parent ++ ":" ++
          match adapter.channel with
          | some output => s!"{earlierSiblings found adapter}.{output}"
          | none => toString adapter.nr) := by
  have hbuilt : BuiltFrom found forest := ⟨policy, h⟩
  constructor
  · intro id adapter hadapter hroot
    obtain ⟨hplaced, hdeclared⟩ := (hbuilt.mem_roots_iff id).mp hroot
    obtain ⟨above, habove, hfits⟩ := (hbuilt.placed_iff id).mp hplaced
    obtain rfl := habove.eq_nil_of_root hdeclared
    refine ⟨hbuilt.ordinal_eq habove hfits, ?_⟩
    rw [hbuilt.path_eq habove hfits, ← adapterOf_of_getElem? hadapter]
    rfl
  · intro id adapter hadapter hplaced hroot
    obtain ⟨above, habove, hfits⟩ := (hbuilt.placed_iff id).mp hplaced
    cases habove with
    | root _ hdeclared => exact absurd ((hbuilt.mem_roots_iff id).mpr ⟨hplaced, hdeclared⟩) hroot
    | @child _ parent rest hangs hparent =>
        have hlineage := Lineage.child hangs hparent
        have hparentFits := fits_of_fits_cons (List.cons_ne_nil parent rest) hfits
        have hcount : ordinalOf found.toArray id = earlierSiblings found adapter := by
          rw [ordinalOf_eq_earlierSiblings, adapterOf_of_getElem? hadapter]
        refine ⟨parent, hbuilt.parent?_eq hlineage hfits, ?_, ?_⟩
        · rw [ordinal?, hbuilt.ordinal_eq hlineage hfits, seatOrdinal, hcount]
        · rw [hbuilt.path_eq hlineage hfits, hbuilt.path_eq hparent hparentFits,
            lineagePath_cons id (List.cons_ne_nil parent rest), hcount]
          change _ ++ segment (adapterOf found.toArray id) _ = _
          rw [adapterOf_of_getElem? hadapter]
          rfl

/-- In the sample the channel with the larger kernel id was found first. -/
theorem build_numbering_sample :
    build sample .warn = .ok sampleForest ∧
      sampleForest.ordinal? 2 = none ∧ sampleForest.path 2 = "3" ∧
      sampleForest.ordinal? 0 = some 1 ∧ sampleForest.path 0 = "3:1.1" := by
  obtain ⟨hroots, hothers⟩ := build_numbering build_sample
  obtain ⟨hnone, hpath⟩ := hroots 2 _ rfl (by decide)
  obtain ⟨parent, hparent, hordinal, hbelow⟩ := hothers 0 _ rfl (by decide) (by decide)
  obtain rfl : 2 = parent := Option.some.inj hparent
  refine ⟨build_sample, hnone, hpath, hordinal, ?_⟩
  rw [hbelow, hpath]
  rfl

end Forest
end I2cTopology
