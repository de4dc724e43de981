import I2cTopology.Proofs.Forest.Lineage

/-!
# Numbering siblings

The growth of the forest attaches the children of an adapter one after the other, in discovery order.
Each goes to its place by kernel id, and only the siblings of its output number are numbered anew.
`numbered` is what such a list of siblings looks like at any time: each has for its ordinal how many
siblings with its output number stand before it.  In the end these are the ordinals that the flat list
determines, whatever the discovery order was.

* `attach_numbered`: attaching one more child keeps the siblings numbered.
* `foldl_attach`: children attached one after the other are the sorted children, numbered.
* `numbered_sortedChildren`: the ordinals of all children are those that the flat list determines.
-/

namespace I2cTopology
namespace Forest

/-! ## Items in order -/

section Inserting

variable {α : Type} (key : α → UInt32)

theorem insertByKey_perm (item : α) (items : List α) :
    (insertByKey key item items).Perm (item :: items) := by
  induction items with
  | nil => exact List.Perm.refl _
  | cons other rest ih =>
      rw [insertByKey]
      split
      · exact List.Perm.refl _
      · exact (ih.cons other).trans (List.Perm.swap item other rest)

/-- An item that is put into its place leaves the items in order. -/
theorem pairwise_le_insertByKey (item : α) {items : List α}
    (h : items.Pairwise fun a b => key a ≤ key b) :
    (insertByKey key item items).Pairwise fun a b => key a ≤ key b := by
  induction items with
  | nil => exact List.pairwise_singleton _ item
  | cons other rest ih =>
      obtain ⟨hother, hrest⟩ := List.pairwise_cons.mp h
      rw [insertByKey]
      by_cases hle : key item ≤ key other
      · rw [if_pos hle]
        refine List.pairwise_cons.mpr ⟨?_, h⟩
        intro next hnext
        rcases List.mem_cons.mp hnext with rfl | hbehind
        · exact hle
        · exact UInt32.le_trans hle (hother next hbehind)
      · rw [if_neg hle]
        refine List.pairwise_cons.mpr ⟨?_, ih hrest⟩
        intro next hnext
        rcases List.mem_cons.mp ((insertByKey_perm key item rest).mem_iff.mp hnext) with
          rfl | hbehind
        · exact UInt32.le_of_lt (UInt32.not_le.mp hle)
        · exact hother next hbehind

end Inserting

variable {adapters : Array Adapter}

/-! ## Siblings by kernel id -/

theorem byNr_eq_foldl (ids : List AdapterId) :
    byNr adapters ids =
      ids.foldl (fun sorted id => insertByKey (nrOf adapters) id sorted) [] := rfl

theorem byNr_perm (ids : List AdapterId) : (byNr adapters ids).Perm ids := by
  have hfold : ∀ sorted : List AdapterId,
      (ids.foldl (fun sorted id => insertByKey (nrOf adapters) id sorted) sorted).Perm
        (ids ++ sorted) := by
    induction ids with
    | nil => exact fun sorted => List.Perm.refl _
    | cons id rest ih =>
        intro sorted
        have hinsert := insertByKey_perm (nrOf adapters) id sorted
        exact (ih _).trans ((hinsert.append_left rest).trans List.perm_middle)
  have hall := hfold []
  rwa [List.append_nil] at hall

@[simp] theorem mem_byNr {ids : List AdapterId} {id : AdapterId} :
    id ∈ byNr adapters ids ↔ id ∈ ids :=
  (byNr_perm ids).mem_iff

theorem pairwise_le_byNr (ids : List AdapterId) :
    (byNr adapters ids).Pairwise fun a b => nrOf adapters a ≤ nrOf adapters b := by
  rw [byNr_eq_foldl]
  apply List.foldlRecOn ids _ List.Pairwise.nil
  intro sorted hsorted id _
  exact pairwise_le_insertByKey (nrOf adapters) id hsorted

/-- Adapters with distinct kernel ids are put in strictly ascending order. -/
theorem pairwise_lt_byNr {ids : List AdapterId} (hnodup : (ids.map (nrOf adapters)).Nodup) :
    (byNr adapters ids).Pairwise fun a b => nrOf adapters a < nrOf adapters b := by
  apply pairwise_lt_of_nodup (nrOf adapters)
  · exact pairwise_le_byNr ids
  · exact ((byNr_perm ids).map (nrOf adapters)).nodup_iff.mpr hnodup

/-- Adapters in strictly ascending order of their kernel ids are determined by who they are. -/
theorem eq_of_pairwise_nrOf_lt {xs ys : List AdapterId}
    (hxs : xs.Pairwise fun a b => nrOf adapters a < nrOf adapters b)
    (hys : ys.Pairwise fun a b => nrOf adapters a < nrOf adapters b)
    (hmem : ∀ id, id ∈ xs ↔ id ∈ ys) : xs = ys := by
  have hnodup : ∀ {ids : List AdapterId},
      (ids.Pairwise fun a b => nrOf adapters a < nrOf adapters b) → ids.Nodup :=
    fun hids => (nodup_of_pairwise_lt (nrOf adapters) hids).of_map
  have hperm : xs.Perm ys := (List.perm_ext_iff_of_nodup (hnodup hxs) (hnodup hys)).mpr hmem
  exact hperm.eq_of_pairwise
    (fun _ _ _ _ hless hgreater => absurd hless (UInt32.lt_asymm hgreater)) hxs hys

/-- Any choice from the adapters of a list with distinct kernel ids has distinct kernel ids. -/
theorem DistinctNrs.nodup_filter (hnr : DistinctNrs adapters) (keep : AdapterId → Bool) :
    (((List.range adapters.size).filter keep).map (nrOf adapters)).Nodup :=
  hnr.sublist (List.filter_sublist.map _)

/-- The children of an adapter by ascending kernel id. -/
def sortedChildren (adapters : Array Adapter) (parent : AdapterId) : List AdapterId :=
  byNr adapters (childrenOf adapters parent)

/-- The adapters that declare no parent by ascending kernel id. -/
def sortedRoots (adapters : Array Adapter) : List AdapterId :=
  byNr adapters (rootsOf adapters)

theorem mem_sortedChildren {parent : AdapterId} (hparent : parent < adapters.size)
    (id : AdapterId) : id ∈ sortedChildren adapters parent ↔ HangsOff adapters id parent := by
  rw [sortedChildren, mem_byNr, mem_childrenOf hparent]

/-- The children of an adapter have it at the head of their lineages. -/
theorem Lineage.of_mem_sortedChildren {parent child : AdapterId} {above : List AdapterId}
    (h : Lineage adapters parent above) (hchild : child ∈ sortedChildren adapters parent) :
    Lineage adapters child (parent :: above) :=
  Lineage.child ((mem_sortedChildren h.lt_size child).mp hchild) h

theorem mem_sortedRoots (id : AdapterId) :
    id ∈ sortedRoots adapters ↔ id < adapters.size ∧ declaredParentOf adapters id = .root := by
  rw [sortedRoots, mem_byNr, mem_rootsOf]

theorem pairwise_lt_sortedChildren (hnr : DistinctNrs adapters) (parent : AdapterId) :
    (sortedChildren adapters parent).Pairwise fun a b => nrOf adapters a < nrOf adapters b :=
  pairwise_lt_byNr (hnr.nodup_filter _)

theorem pairwise_lt_sortedRoots (hnr : DistinctNrs adapters) :
    (sortedRoots adapters).Pairwise fun a b => nrOf adapters a < nrOf adapters b :=
  pairwise_lt_byNr (hnr.nodup_filter _)

/-! ## Children one after the other -/

/-- The siblings, each with the number of siblings of its output number that stand before it, where
`earlier` are the output numbers of those that stand before them all. -/
def numbered (adapters : Array Adapter) (earlier : List (Option UInt32)) :
    List AdapterId → List (AdapterId × Nat)
  | [] => []
  | id :: rest =>
    (id, earlier.count (channelOf adapters id)) ::
      numbered adapters (channelOf adapters id :: earlier) rest

theorem map_fst_numbered (earlier : List (Option UInt32)) (ids : List AdapterId) :
    (numbered adapters earlier ids).map Prod.fst = ids := by
  induction ids generalizing earlier with
  | nil => rfl
  | cons id rest ih => rw [numbered, List.map_cons, ih]

/-- Numbering one group anew makes up for everything that changed before it in this group. -/
theorem renumber_numbered (channel : Option UInt32) (earlier later : List (Option UInt32))
    (hothers : ∀ other, other ≠ channel → later.count other = earlier.count other)
    (ids : List AdapterId) :
    renumber adapters channel (later.count channel) (numbered adapters earlier ids) =
      numbered adapters later ids := by
  induction ids generalizing earlier later with
  | nil => rfl
  | cons id rest ih =>
      have hrest : ∀ other, other ≠ channel →
          (channelOf adapters id :: later).count other =
            (channelOf adapters id :: earlier).count other := by
        intro other hother
        rw [List.count_cons, List.count_cons, hothers other hother]
      have hnext := ih (channelOf adapters id :: earlier) (channelOf adapters id :: later) hrest
      change (if channelOf adapters id = channel then _ else _) = _
      rw [numbered]
      by_cases hgroup : channelOf adapters id = channel
      · subst hgroup
        rw [List.count_cons_self] at hnext
        rw [if_pos rfl, hnext]
      · rw [List.count_cons_of_ne hgroup] at hnext
        rw [if_neg hgroup, hnext, hothers _ hgroup]

/-- The place of a child among numbered siblings is its place among the siblings; numbering its group
anew from the front numbers them all. -/
theorem renumber_insertByKey (id : AdapterId) (earlier : List (Option UInt32))
    (ids : List AdapterId) :
    renumber adapters (channelOf adapters id) (earlier.count (channelOf adapters id))
        (insertByKey (fun sibling => nrOf adapters sibling.1) (id, 0)
          (numbered adapters earlier ids)) =
      numbered adapters earlier (insertByKey (nrOf adapters) id ids) := by
  induction ids generalizing earlier with
  | nil =>
      change (if channelOf adapters id = channelOf adapters id then _ else _) = _
      rw [if_pos rfl]
      rfl
  | cons other rest ih =>
      rw [numbered, insertByKey, insertByKey]
      by_cases hle : nrOf adapters id ≤ nrOf adapters other
      · -- The child goes in front; behind it its group has one more sibling before it.
        have hothers : ∀ channel, channel ≠ channelOf adapters id →
            (channelOf adapters id :: earlier).count channel = earlier.count channel :=
          fun channel hchannel => List.count_cons_of_ne (Ne.symm hchannel)
        have hbehind : renumber adapters (channelOf adapters id)
            (earlier.count (channelOf adapters id) + 1) (numbered adapters earlier (other :: rest)) =
              numbered adapters (channelOf adapters id :: earlier) (other :: rest) := by
          rw [← renumber_numbered (channelOf adapters id) earlier _ hothers, List.count_cons_self]
        rw [if_pos hle, if_pos hle, ← numbered]
        change (if channelOf adapters id = channelOf adapters id then _ else _) = _
        rw [if_pos rfl, hbehind]
        rfl
      · have hbehind := ih (channelOf adapters other :: earlier)
        rw [if_neg hle, if_neg hle]
        change (if channelOf adapters other = channelOf adapters id then _ else _) = _
        rw [numbered]
        by_cases hgroup : channelOf adapters other = channelOf adapters id
        · rw [hgroup, List.count_cons_self] at hbehind
          rw [if_pos hgroup, hgroup, hbehind]
        · rw [List.count_cons_of_ne hgroup] at hbehind
          rw [if_neg hgroup, hbehind]

/-- **One more child.**  Attaching a child to numbered siblings puts it into its place by kernel id and
leaves the siblings numbered. -/
theorem attach_numbered (id : AdapterId) (ids : List AdapterId) :
    attach adapters (numbered adapters [] ids) id =
      numbered adapters [] (insertByKey (nrOf adapters) id ids) :=
  renumber_insertByKey id [] ids

/-- **All children.**  Children that are attached one after the other, in whatever order, come out by
kernel id and numbered. -/
theorem foldl_attach (ids : List AdapterId) :
    ids.foldl (attach adapters) [] = numbered adapters [] (byNr adapters ids) := by
  have hfold : ∀ sorted : List AdapterId,
      ids.foldl (attach adapters) (numbered adapters [] sorted) =
        numbered adapters []
          (ids.foldl (fun sorted id => insertByKey (nrOf adapters) id sorted) sorted) := by
    induction ids with
    | nil => exact fun sorted => rfl
    | cons id rest ih =>
        intro sorted
        rw [List.foldl_cons, attach_numbered, ih, List.foldl_cons]
  exact hfold []

/-- The slots of the children are those of the sorted children, numbered. -/
theorem childSlots_eq (slot : Slot) (taken : List AdapterId) :
    slot.childSlots adapters taken =
      (numbered adapters [] (byNr adapters taken)).map fun (id, ordinal) =>
        slot.child adapters id ordinal := by
  rw [Slot.childSlots, foldl_attach]

/-! ## Ordinals one after the other -/

/-- The siblings of one output number that come before a child in order are those that its ordinal
counts. -/
theorem ordinalOf_eq_countP (hnr : DistinctNrs adapters) {parent id : AdapterId}
    (hparent : parent < adapters.size) {front back : List AdapterId}
    (hsplit : sortedChildren adapters parent = front ++ id :: back) :
    ordinalOf adapters id =
      front.countP fun other => channelOf adapters other = channelOf adapters id := by
  have hhangs : HangsOff adapters id parent := by
    rw [← mem_sortedChildren hparent, hsplit]
    exact List.mem_append_right front List.mem_cons_self
  have hsorted := pairwise_lt_sortedChildren hnr parent
  rw [hsplit, List.pairwise_append, List.pairwise_cons] at hsorted
  obtain ⟨-, ⟨hbehind, -⟩, hbefore⟩ := hsorted
  -- Both sides count the children with a smaller kernel id, first in the flat list and then in order.
  have hflat : ordinalOf adapters id = (sortedChildren adapters parent).countP fun other =>
      channelOf adapters other = channelOf adapters id ∧ nrOf adapters other < nrOf adapters id := by
    rw [sortedChildren, (byNr_perm _).countP_eq, childrenOf, List.countP_filter, ordinalOf]
    apply List.countP_congr
    intro other _
    simp only [decide_eq_true_eq, Bool.and_eq_true, declares_iff, hhangs.2.2]
    exact and_comm
  rw [hflat, hsplit, List.countP_append, List.countP_cons]
  have hself : ¬ nrOf adapters id < nrOf adapters id := UInt32.lt_irrefl _
  have hback : back.countP (fun other =>
      channelOf adapters other = channelOf adapters id ∧
        nrOf adapters other < nrOf adapters id) = 0 := by
    rw [List.countP_eq_zero]
    intro other hother
    simp only [decide_eq_true_eq, not_and]
    exact fun _ => UInt32.lt_asymm (hbehind other hother)
  rw [hback]
  simp only [hself, and_false, decide_false, Bool.false_eq_true, if_false, Nat.add_zero]
  apply List.countP_congr
  intro other hother
  simp only [decide_eq_true_eq, and_iff_left_iff_imp]
  exact fun _ => hbefore other hother id List.mem_cons_self

/-- Numbering the rest of the siblings, when those before them have been numbered. -/
theorem numbered_rest (hnr : DistinctNrs adapters) {parent : AdapterId}
    (hparent : parent < adapters.size) (front back : List AdapterId)
    (hsplit : sortedChildren adapters parent = front ++ back) :
    numbered adapters (front.map (channelOf adapters)).reverse back =
      back.map fun id => (id, ordinalOf adapters id) := by
  -- The siblings in front have been numbered: the accumulator holds their output numbers, last first.
  induction back generalizing front with
  | nil => rfl
  | cons id rest ih =>
      have hcount : (front.map (channelOf adapters)).reverse.count (channelOf adapters id) =
          ordinalOf adapters id := by
        rw [ordinalOf_eq_countP hnr hparent hsplit, List.count_reverse, List.count_eq_countP,
          List.countP_map]
        apply List.countP_congr
        intro other _
        simp
      have hrest := ih (front ++ [id]) (by rw [hsplit, List.append_assoc]; rfl)
      rw [List.map_append, List.reverse_append] at hrest
      rw [numbered, hcount, List.map_cons]
      exact congrArg _ hrest

/-- **Ordinals of siblings.**  Numbering the children of an adapter in order gives each its
ordinal. -/
theorem numbered_sortedChildren (hnr : DistinctNrs adapters) {parent : AdapterId}
    (hparent : parent < adapters.size) :
    numbered adapters [] (sortedChildren adapters parent) =
      (sortedChildren adapters parent).map fun id => (id, ordinalOf adapters id) :=
  numbered_rest hnr hparent [] _ rfl

end Forest
end I2cTopology
