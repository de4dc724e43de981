import I2cTopology.Proofs.Forest.Walk

/-!
# Subtrees and paths

In a built forest the paths tell who stands below whom.  A subtree consists of its top and of those in
whose lineage the top stands, and the top stands in a lineage exactly if the path at its end goes on
after the path of the top.

* `BuiltFrom.mem_subtree_iff`: subtrees and lineages.
* `BuiltFrom.path_extends_iff`: lineages and paths.
* `subtree_iff_path`: subtrees and paths, that paths are unique, and that the path of a child goes on
  after the path of its parent.
-/

namespace I2cTopology
namespace Forest

variable {adapters : Array Adapter}

/-- Whoever has an adapter in its lineage is planted below it, if its path fits. -/
theorem Planted.mem_of_mem_lineage (hnr : DistinctNrs adapters) {top : AdapterId}
    {above : List AdapterId} {below : List Seat}
    (h : Planted adapters (top :: above) (sortedChildren adapters top) below)
    (htop : Lineage adapters top above) {id : AdapterId} {lineage : List AdapterId}
    (hid : Lineage adapters id lineage) (hfits : Fits adapters (id :: lineage))
    (hmem : top ∈ lineage) : seatOf adapters id lineage ∈ below := by
  have hchildren : ∀ child ∈ sortedChildren adapters top,
      Lineage adapters child (top :: above) := fun _ => htop.of_mem_sortedChildren
  -- Down the lineage, from the top's child on: the parent's seat is below the top and brings the next.
  induction hid with
  | root _ _ => exact absurd hmem List.not_mem_nil
  | @child id parent rest hangs hparent ih =>
      have hparentFits : Fits adapters (parent :: rest) :=
        fits_of_fits_cons (List.cons_ne_nil _ _) hfits
      rcases List.mem_cons.mp hmem with rfl | hfurther
      · obtain rfl := htop.unique hnr hparent
        exact h.seatOf_mem ((mem_sortedChildren htop.lt_size id).mpr hangs) hfits
      · exact h.child_mem hnr hchildren hparent (ih hparentFits hfurther) hangs hfits

namespace BuiltFrom

variable {found : List Adapter} {forest : Forest} {a b : AdapterId} {aboveA aboveB : List AdapterId}

/-- **Subtrees and lineages.**  The subtree of an adapter holds the adapter and those in whose lineage
it stands. -/
theorem mem_subtree_iff (h : BuiltFrom found forest) (ha : Lineage found.toArray a aboveA)
    (hfitsA : Fits found.toArray (a :: aboveA)) (hb : Lineage found.toArray b aboveB)
    (hfitsB : Fits found.toArray (b :: aboveB)) :
    b ∈ (forest.subtree a).map Prod.snd ↔ a ∈ b :: aboveB := by
  have hnr := h.distinctNrs
  obtain ⟨below, hlimb, hbelow⟩ := h.limb_eq ha hfitsA
  rw [subtree_ids, hlimb, List.map_cons, seatOf_id, List.mem_cons, List.mem_cons]
  constructor
  · rintro (rfl | hdeeper)
    · exact Or.inl rfl
    · obtain ⟨seat, hseat, rfl⟩ := List.mem_map.mp hdeeper
      obtain ⟨front, hfront, -, -⟩ :=
        hbelow.seat_inversion (fun _ => ha.of_mem_sortedChildren) hseat
      obtain rfl := hb.unique hnr hfront
      exact Or.inr (List.mem_append_right front List.mem_cons_self)
  · rintro (rfl | hmem)
    · exact Or.inl rfl
    · have hplanted := hbelow.mem_of_mem_lineage hnr ha hb hfitsB hmem
      exact Or.inr (List.mem_map_of_mem hplanted)

/-- Paths have their ends for themselves. -/
theorem path_injOn (h : BuiltFrom found forest) (ha : Lineage found.toArray a aboveA)
    (hb : Lineage found.toArray b aboveB)
    (hpath : lineagePath found.toArray (a :: aboveA) = lineagePath found.toArray (b :: aboveB)) :
    a = b := by
  have hnr := h.distinctNrs
  have hwritten := congrArg String.toList hpath
  rw [toList_lineagePath hnr, toList_lineagePath hnr] at hwritten
  apply ha.eq_of_steps_eq hnr hb
  exact BusPath.joined_segments_injOn (lineageSteps_ne_nil a aboveA) (lineageSteps_ne_nil b aboveB)
    (walkable_lineageSteps _) (walkable_lineageSteps _) hwritten

/-- **Lineages and paths.**  The path of an adapter is that of another one or goes on after it, with
a colon in between, exactly if the other one is the adapter or stands in its lineage. -/
theorem path_extends_iff (h : BuiltFrom found forest) (ha : Lineage found.toArray a aboveA)
    (hb : Lineage found.toArray b aboveB) :
    a ∈ b :: aboveB ↔
      lineagePath found.toArray (b :: aboveB) = lineagePath found.toArray (a :: aboveA) ∨
        ∃ rest, lineagePath found.toArray (b :: aboveB) =
          lineagePath found.toArray (a :: aboveA) ++ ":" ++ rest := by
  have hnr := h.distinctNrs
  constructor
  · intro hmem
    rcases List.mem_cons.mp hmem with rfl | habove
    · rw [ha.unique hnr hb]
      exact Or.inl rfl
    · obtain ⟨front, back, rfl⟩ := List.append_of_mem habove
      obtain rfl := ha.unique hnr hb.of_append
      obtain ⟨rest, -, hrest⟩ := @lineagePath_append found.toArray (a :: aboveA) (b :: front)
        (List.cons_ne_nil _ _) (List.cons_ne_nil _ _)
      exact Or.inr ⟨rest, hrest⟩
  · rintro (hsame | ⟨rest, hrest⟩)
    · rw [h.path_injOn hb ha hsame]
      exact List.mem_cons_self
    · have hwritten := congrArg String.toList hrest
      have hcolon : (":" : String).toList = [':'] := rfl
      rw [String.toList_append, String.toList_append, hcolon, List.append_assoc,
        List.singleton_append, toList_lineagePath hnr, toList_lineagePath hnr] at hwritten
      apply ha.mem_of_steps_prefix hnr hb
      exact BusPath.prefix_of_joined_segments (lineageSteps_ne_nil a aboveA)
        (lineageSteps_ne_nil b aboveB) (walkable_lineageSteps _) (walkable_lineageSteps _) hwritten

end BuiltFrom

/-- **Subtrees and paths.**  Of two placed adapters, one lies in the subtree of the other exactly if
its path is the other one's or goes on after it with a colon.  No two placed adapters share a path, and
the path of a child goes on after that of its parent. -/
theorem subtree_iff_path {found : List Adapter} {policy : OrphanPolicy} {forest : Forest}
    (h : build found policy = .ok forest) :
    (∀ a b, forest.Placed a → forest.Placed b →
      (b ∈ (forest.subtree a).map Prod.snd ↔
        forest.path b = forest.path a ∨ ∃ rest, forest.path b = forest.path a ++ ":" ++ rest)) ∧
    (∀ a b, forest.Placed a → forest.Placed b → forest.path a = forest.path b → a = b) ∧
    (∀ parent child, forest.parent? child = some parent →
      ∃ rest, rest ≠ "" ∧ forest.path child = forest.path parent ++ ":" ++ rest) := by
  have hbuilt : BuiltFrom found forest := ⟨policy, h⟩
  refine ⟨?_, ?_, ?_⟩
  · intro a b ha hb
    obtain ⟨aboveA, haboveA, hfitsA⟩ := (hbuilt.placed_iff a).mp ha
    obtain ⟨aboveB, haboveB, hfitsB⟩ := (hbuilt.placed_iff b).mp hb
    rw [hbuilt.path_eq haboveA hfitsA, hbuilt.path_eq haboveB hfitsB,
      hbuilt.mem_subtree_iff haboveA hfitsA haboveB hfitsB]
    exact hbuilt.path_extends_iff haboveA haboveB
  · intro a b ha hb hpath
    obtain ⟨aboveA, haboveA, hfitsA⟩ := (hbuilt.placed_iff a).mp ha
    obtain ⟨aboveB, haboveB, hfitsB⟩ := (hbuilt.placed_iff b).mp hb
    rw [hbuilt.path_eq haboveA hfitsA, hbuilt.path_eq haboveB hfitsB] at hpath
    exact hbuilt.path_injOn haboveA haboveB hpath
  · intro parent child hlink
    obtain ⟨hchild, hangs⟩ := (hbuilt.parent?_eq_some_iff child parent).mp hlink
    obtain ⟨above, habove, hfits⟩ := (hbuilt.placed_iff child).mp hchild
    obtain ⟨rest, rfl, hparent⟩ := habove.eq_cons_of_hangsOff hbuilt.distinctNrs hangs
    have hfitsParent := fits_of_fits_cons (List.cons_ne_nil _ _) hfits
    rw [hbuilt.path_eq habove hfits, hbuilt.path_eq hparent hfitsParent]
    exact lineagePath_append (List.cons_ne_nil child []) (List.cons_ne_nil parent rest)

/-- In the sample, the channels lie below the root and not below one another. -/
theorem subtree_iff_path_sample :
    build sample .warn = .ok sampleForest ∧
      0 ∈ (sampleForest.subtree 2).map Prod.snd ∧ ¬ 0 ∈ (sampleForest.subtree 3).map Prod.snd := by
  refine ⟨build_sample, ?_, ?_⟩
  · have hiff := (subtree_iff_path build_sample).1 2 0 (by decide) (by decide)
    exact hiff.mpr (Or.inr ⟨"1.1", rfl⟩)
  · have hiff := (subtree_iff_path build_sample).1 3 0 (by decide) (by decide)
    rw [hiff]
    rintro (hsame | ⟨rest, hrest⟩)
    · exact absurd hsame (by decide)
    · have hchars := congrArg String.toList hrest
      simp [path, seat?, sampleForest] at hchars

end Forest
end I2cTopology
