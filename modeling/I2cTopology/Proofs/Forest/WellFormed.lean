import I2cTopology.Proofs.Forest.Walk

/-!
# Well-formed forests

A built forest is a forest, and it is one over the adapters that were found: nobody is lost or placed
twice, parents and children agree with what the adapters declare, siblings are in order, depths count
ancestors, and the index and the paths know exactly the placed adapters.

* `Lineage.mem_iff`: a lineage holds those to whom declared parents lead.
* `build_wellFormed`: building yields a well-formed forest.
-/

namespace I2cTopology
namespace Forest

open Relation (TransGen)

variable {adapters : Array Adapter}

/-! ## Ancestors -/

/-- The adapters above an adapter are those to whom declared parents lead. -/
theorem Lineage.mem_iff (hnr : DistinctNrs adapters) {id : AdapterId} {above : List AdapterId}
    (h : Lineage adapters id above) (ancestor : AdapterId) :
    ancestor ∈ above ↔ TransGen (HangsOff adapters) id ancestor := by
  induction h with
  | root _ hroot =>
      refine iff_of_false List.not_mem_nil ?_
      intro hway
      obtain ⟨parent, hstep, -⟩ := TransGen.head'_iff.mp hway
      exact not_hangsOff_of_root hroot hstep
  | @child id parent above hangs _ ih =>
      rw [List.mem_cons, ih]
      constructor
      · rintro (rfl | hway)
        · exact TransGen.single hangs
        · exact TransGen.head hangs hway
      · intro hway
        obtain ⟨next, hstep, hrest⟩ := TransGen.head'_iff.mp hway
        obtain rfl := hangs.unique hnr hstep
        rcases Relation.reflTransGen_iff_eq_or_transGen.mp hrest with heq | hfurther
        · exact Or.inl heq
        · exact Or.inr hfurther

/-- Nobody occurs twice on the way up. -/
theorem Lineage.nodup (hnr : DistinctNrs adapters) {id : AdapterId} {above : List AdapterId}
    (h : Lineage adapters id above) : (id :: above).Nodup := by
  induction h with
  | root _ _ => exact List.nodup_singleton _
  | @child id parent above hangs hparent ih =>
      refine List.nodup_cons.mpr ⟨?_, ih⟩
      intro hmem
      -- The lineage of whoever occurs again would be shorter than itself.
      obtain ⟨front, back, hsplit⟩ := List.append_of_mem hmem
      have hchild : Lineage adapters id (parent :: above) := Lineage.child hangs hparent
      have hshorter : Lineage adapters id back := by
        rw [hsplit] at hchild
        exact hchild.of_append
      have hlength := congrArg List.length (hshorter.unique hnr hchild)
      rw [hsplit, List.length_append, List.length_cons] at hlength
      omega

/-! ## Going up -/

/-- Going up from a placed adapter leads to the ancestor. -/
def HasAncestor (forest : Forest) : AdapterId → AdapterId → Prop :=
  TransGen fun id parent => forest.parent? id = some parent

namespace BuiltFrom

variable {found : List Adapter} {forest : Forest}

theorem hasAncestor_iff (h : BuiltFrom found forest) {id : AdapterId} (hid : forest.Placed id)
    (ancestor : AdapterId) :
    forest.HasAncestor id ancestor ↔ TransGen (HangsOff found.toArray) id ancestor := by
  constructor
  · intro hway
    exact TransGen.mono (fun child parent hlink =>
      ((h.parent?_eq_some_iff child parent).mp hlink).2) _ _ hway
  · intro hway
    -- Going up, one meets placed adapters only.
    induction hway using TransGen.head_induction_on with
    | single hangs => exact TransGen.single ((h.parent?_eq_some_iff _ _).mpr ⟨hid, hangs⟩)
    | head hangs _ ih =>
        exact TransGen.head ((h.parent?_eq_some_iff _ _).mpr ⟨hid, hangs⟩)
          (ih (h.placed_parent hid hangs))

theorem path_ne_empty_iff (h : BuiltFrom found forest) (id : AdapterId) :
    forest.path id ≠ "" ↔ forest.Placed id := by
  by_cases hid : forest.Placed id
  · obtain ⟨above, habove, hfits⟩ := (h.placed_iff id).mp hid
    rw [h.path_eq habove hfits]
    exact iff_of_true (lineagePath_ne_empty id above) hid
  · simp [path_eq_empty hid, hid]

/-- The depth of a placed adapter is the number of its ancestors. -/
theorem exists_ancestors (h : BuiltFrom found forest) {depth : Nat} {id : AdapterId}
    (hmem : (depth, id) ∈ forest.preorder) :
    ∃ ancestors : List AdapterId, ancestors.Nodup ∧
      (∀ ancestor, ancestor ∈ ancestors ↔ forest.HasAncestor id ancestor) ∧
      depth = ancestors.length := by
  obtain ⟨above, habove, hfits, hdepth⟩ := (h.mem_preorder_iff depth id).mp hmem
  have hplaced : forest.Placed id := (h.placed_iff id).mpr ⟨above, habove, hfits⟩
  refine ⟨above, (List.nodup_cons.mp (habove.nodup h.distinctNrs)).2, ?_, hdepth⟩
  intro ancestor
  rw [h.hasAncestor_iff hplaced, habove.mem_iff h.distinctNrs]

end BuiltFrom

/-! ## Well-formedness -/

/-- The forest is one over the adapters that were found. -/
structure WellFormed (found : List Adapter) (forest : Forest) : Prop where
  adapters_eq : forest.adapters = found.toArray
  /-- Everybody occurs once, in the pre-order or among those left out. -/
  once : (forest.preorder.map Prod.snd ++ forest.unplaced).Perm (List.range found.length)
  /-- The pre-order is the walk from the roots along the lists of children. -/
  preorder_walked : forest.Walked 0 forest.roots forest.preorder
  subtree_walked : ∀ id, forest.Placed id → forest.Walked 0 [id] (forest.subtree id)
  /-- Those are placed whose declared parents lead to a root and whose path is short enough. -/
  placed_iff : ∀ id, forest.Placed id ↔
    ∃ above, Lineage found.toArray id above ∧
      (lineagePath found.toArray (id :: above)).utf8ByteSize ≤ maxPathLength
  /-- The path that is short enough is the one that a placed adapter has. -/
  path_eq : ∀ id above, forest.Placed id → Lineage found.toArray id above →
    forest.path id = lineagePath found.toArray (id :: above)
  /-- The parent of a placed adapter is the one that it declares. -/
  parent_iff : ∀ id parent, forest.Placed id →
    (forest.parent? id = some parent ↔ HangsOff found.toArray id parent)
  /-- A placed adapter is among the children of the parent that it declares, and of nobody else. -/
  child_iff : ∀ id parent, forest.Placed id →
    (id ∈ forest.children parent ↔ HangsOff found.toArray id parent)
  /-- A placed adapter without a parent is a root and declares none. -/
  root_iff : ∀ id, forest.Placed id →
    ((forest.parent? id = none ↔ declaredParentOf found.toArray id = .root) ∧
      (id ∈ forest.roots ↔ declaredParentOf found.toArray id = .root))
  /-- Parents and children are placed adapters. -/
  links_placed : ∀ id parent, id ∈ forest.children parent →
    forest.Placed id ∧ forest.Placed parent
  roots_placed : ∀ id ∈ forest.roots, forest.Placed id
  roots_ascending :
    forest.roots.Pairwise fun a b => (forest.adapter a).nr < (forest.adapter b).nr
  children_ascending : ∀ parent,
    (forest.children parent).Pairwise fun a b => (forest.adapter a).nr < (forest.adapter b).nr
  /-- The depth in the pre-order is the number of ancestors. -/
  depth_eq : ∀ depth id, (depth, id) ∈ forest.preorder →
    ∃ ancestors : List AdapterId, ancestors.Nodup ∧
      (∀ ancestor, ancestor ∈ ancestors ↔ forest.HasAncestor id ancestor) ∧
      depth = ancestors.length
  lookup_iff : ∀ nr id,
    forest.lookup? nr = some id ↔ forest.Placed id ∧ (forest.adapter id).nr = nr
  /-- The placed adapters are those that have a path. -/
  path_ne_empty_iff : ∀ id, forest.path id ≠ "" ↔ forest.Placed id

/-- **Well-formedness.**  Building yields a well-formed forest over the adapters. -/
theorem build_wellFormed {found : List Adapter} {policy : OrphanPolicy} {forest : Forest}
    (h : build found policy = .ok forest) : WellFormed found forest := by
  have hbuilt : BuiltFrom found forest := ⟨policy, h⟩
  have hnr : DistinctNrs found.toArray := hbuilt.distinctNrs
  have hkernel : ∀ id, (forest.adapter id).nr = nrOf found.toArray id := by
    intro id
    rw [hbuilt.adapter_eq]
    rfl
  have hascending : ∀ ids : List AdapterId,
      (ids.Pairwise fun a b => nrOf found.toArray a < nrOf found.toArray b) →
        ids.Pairwise fun a b => (forest.adapter a).nr < (forest.adapter b).nr := by
    intro ids hids
    simpa only [hkernel] using hids
  refine
    { adapters_eq := hbuilt.adapters_eq
      once := ?once
      preorder_walked := hbuilt.walked_preorder
      subtree_walked := fun _ => hbuilt.walked_subtree
      placed_iff := hbuilt.placed_iff
      path_eq := ?path
      parent_iff := ?parent
      child_iff := ?child
      root_iff := ?root
      links_placed := ?links
      roots_placed := fun id hid => ((hbuilt.mem_roots_iff id).mp hid).1
      roots_ascending := ?rootsAscending
      children_ascending := ?childrenAscending
      depth_eq := fun _ _ => hbuilt.exists_ancestors
      lookup_iff := ?lookup
      path_ne_empty_iff := hbuilt.path_ne_empty_iff }
  case once =>
    rw [preorder_ids, hbuilt.seats_eq, hbuilt.unplaced_eq]
    exact seatsOf_perm
  case path =>
    intro id above hid habove
    exact hbuilt.path_eq habove ((hbuilt.placed_iff_utf8ByteSize_le habove).mp hid)
  case parent =>
    intro id parent hid
    rw [hbuilt.parent?_eq_some_iff, and_iff_right hid]
  case child =>
    intro id parent hid
    rw [hbuilt.mem_children_iff, and_iff_right hid]
  case root =>
    intro id hid
    obtain ⟨above, habove, hfits⟩ := (hbuilt.placed_iff id).mp hid
    rw [hbuilt.mem_roots_iff, and_iff_right hid, hbuilt.parent?_eq habove hfits]
    refine ⟨?_, Iff.rfl⟩
    cases habove with
    | root _ hroot => exact iff_of_true rfl hroot
    | child hangs _ =>
        exact iff_of_false (Option.some_ne_none _) fun hroot => not_hangsOff_of_root hroot hangs
  case links =>
    intro id parent hmem
    obtain ⟨hid, hangs⟩ := (hbuilt.mem_children_iff id parent).mp hmem
    exact ⟨hid, hbuilt.placed_parent hid hangs⟩
  case rootsAscending =>
    apply hascending
    rw [hbuilt.roots_eq]
    exact (pairwise_lt_sortedRoots hnr).filter _
  case childrenAscending =>
    intro parent
    apply hascending
    by_cases hparent : forest.Placed parent
    · obtain ⟨above, habove, hfits⟩ := (hbuilt.placed_iff parent).mp hparent
      rw [hbuilt.children_eq habove hfits]
      exact (pairwise_lt_sortedChildren hnr parent).filter _
    · rw [children_eq_nil hparent]
      exact List.Pairwise.nil
  case lookup =>
    intro nr id
    rw [hbuilt.lookup?_eq_some_iff, hkernel]

theorem wellFormed_sampleForest :
    build sample .warn = .ok sampleForest ∧ WellFormed sample sampleForest :=
  ⟨build_sample, build_wellFormed build_sample⟩

end Forest
end I2cTopology
