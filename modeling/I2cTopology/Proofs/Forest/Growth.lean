import I2cTopology.Proofs.Forest.Numbering

/-!
# What grows

The growth of the forest threads one list of waiting adapters through all the slots of a stack.  While
kernel ids are distinct the threading does not show: each slot finds all the adapters that declare it
still waiting, because nobody else takes them.  `Grown` states the result without the thread, as the
children of a slot, what grows below them, and what grows from the rest of the stack.

* `grown_grow`: from a stack whose children all wait, the growth yields what `Grown` says.
* `grow_perm`: the growth places or leaves every adapter, once.
* `Grown.mem_iff_rooted`: from the roots, exactly the adapters whose lineage ends at a root grow.
-/

namespace I2cTopology
namespace Forest

variable {adapters : Array Adapter}

/-! ## One step of growth -/

theorem map_id_childSlots (slot : Slot) (taken : List AdapterId) :
    (slot.childSlots adapters taken).map Slot.id = byNr adapters taken := by
  rw [childSlots_eq, List.map_map]
  exact map_fst_numbered [] _

theorem takeChildren_eq (nr : UInt32) (pending : List AdapterId) :
    takeChildren adapters nr pending =
      (pending.filter (declares adapters (.adapter nr)),
        pending.filter fun id => !declares adapters (.adapter nr) id) := by
  rw [takeChildren, List.partition_eq_filter_filter]
  rfl

/-- The first slot of the stack comes out with its children, which go onto the stack. -/
theorem grow_cons (slot : Slot) (stack : List Slot) (pending : List AdapterId) :
    grow adapters (slot :: stack) pending =
      let taken := takeChildren adapters (nrOf adapters slot.id) pending
      let children := slot.childSlots adapters taken.1
      (⟨slot, children⟩ :: (grow adapters (children ++ stack) taken.2).1,
        (grow adapters (children ++ stack) taken.2).2) := by
  rw [grow]
  rfl

/-- A step of growth moves adapters from the waiting list to the stack and takes the slot off it. -/
theorem step_perm (slot : Slot) (stack : List Slot) (pending : List AdapterId) (nr : UInt32) :
    ((slot.childSlots adapters (takeChildren adapters nr pending).1 ++ stack).map Slot.id ++
      (takeChildren adapters nr pending).2).Perm (stack.map Slot.id ++ pending) := by
  let taken := (takeChildren adapters nr pending).1
  let rest := (takeChildren adapters nr pending).2
  have hsplit : (taken ++ rest).Perm pending := by
    simp only [taken, rest, takeChildren_eq]
    exact List.filter_append_perm _ pending
  rw [List.map_append, map_id_childSlots, List.append_assoc]
  calc
    (byNr adapters taken ++ (stack.map Slot.id ++ rest)).Perm
        (taken ++ (stack.map Slot.id ++ rest)) := (byNr_perm taken).append_right _
    List.Perm _ (stack.map Slot.id ++ (taken ++ rest)) := by
      rw [← List.append_assoc, ← List.append_assoc]
      exact List.perm_append_comm.append_right rest
    List.Perm _ (stack.map Slot.id ++ pending) := hsplit.append_left _

/-- Every adapter on the stack or in wait is placed or left waiting, once. -/
theorem grow_perm (stack : List Slot) (pending : List AdapterId) :
    ((grow adapters stack pending).1.map (·.slot.id) ++ (grow adapters stack pending).2).Perm
      (stack.map Slot.id ++ pending) := by
  induction stack, pending using grow.induct adapters with
  | case1 pending => rw [grow]; exact List.Perm.refl _
  | case2 slot stack pending nr children _ _ _ ih =>
      rw [grow_cons]
      simp only [List.map_cons, List.cons_append]
      apply List.Perm.cons
      exact ih.trans (step_perm slot stack pending nr)

/-- Those left waiting keep their order. -/
theorem grow_sublist (stack : List Slot) (pending : List AdapterId) :
    (grow adapters stack pending).2.Sublist pending := by
  induction stack, pending using grow.induct adapters with
  | case1 pending => rw [grow]
  | case2 slot stack pending nr children _ _ _ ih =>
      rw [grow_cons]
      refine ih.trans ?_
      rw [takeChildren_eq]
      exact List.filter_sublist

/-! ## Growth without the waiting list -/

/-- What grows from a stack when no child is missing: for each slot the slot with all its children,
then what grows from these, then what grows from the rest of the stack. -/
inductive Grown (adapters : Array Adapter) : List Slot → List Branch → Prop
  | nil : Grown adapters [] []
  | cons {slot : Slot} {stack : List Slot} {below rest : List Branch}
      (hbelow : Grown adapters (slot.childSlots adapters (childrenOf adapters slot.id)) below)
      (hrest : Grown adapters stack rest) :
      Grown adapters (slot :: stack)
        (⟨slot, slot.childSlots adapters (childrenOf adapters slot.id)⟩ :: (below ++ rest))

/-- What grows from two stacks in turn is what grows from the one and then from the other. -/
theorem Grown.of_append {front back : List Slot} {branches : List Branch}
    (h : Grown adapters (front ++ back) branches) :
    ∃ first second, branches = first ++ second ∧ Grown adapters front first ∧
      Grown adapters back second := by
  induction front generalizing branches with
  | nil => exact ⟨[], branches, rfl, Grown.nil, h⟩
  | cons slot stack ih =>
      cases h with
      | @cons _ _ below rest hbelow hrest =>
          obtain ⟨first, second, rfl, hfirst, hsecond⟩ := ih hrest
          refine ⟨_ :: (below ++ first), second, ?_, Grown.cons hbelow hfirst, hsecond⟩
          rw [List.cons_append, List.append_assoc]

/-- Nobody is on the stack or in wait twice, and the children of all of them still wait. -/
structure Waiting (adapters : Array Adapter) (stack : List Slot) (pending : List AdapterId) :
    Prop where
  distinct : ((stack.map Slot.id ++ pending).map (nrOf adapters)).Nodup
  complete : ∀ id ∈ stack.map Slot.id ++ pending,
    pending.filter (declares adapters (.adapter (nrOf adapters id))) = childrenOf adapters id

/-- The first slot of the stack finds all its children. -/
theorem Waiting.taken_eq {slot : Slot} {stack : List Slot} {pending : List AdapterId}
    (h : Waiting adapters (slot :: stack) pending) :
    (takeChildren adapters (nrOf adapters slot.id) pending).1 = childrenOf adapters slot.id := by
  rw [takeChildren_eq]
  exact h.complete slot.id (List.mem_append_left _ List.mem_cons_self)

/-- One step of growth leaves everybody's children waiting, those of the new slots too. -/
theorem Waiting.step {slot : Slot} {stack : List Slot} {pending : List AdapterId}
    (h : Waiting adapters (slot :: stack) pending) :
    Waiting adapters
      (slot.childSlots adapters (takeChildren adapters (nrOf adapters slot.id) pending).1 ++ stack)
      (takeChildren adapters (nrOf adapters slot.id) pending).2 := by
  have hdistinct := h.distinct
  rw [List.map_cons, List.cons_append, List.map_cons, List.nodup_cons] at hdistinct
  obtain ⟨hfresh, hdistinct⟩ := hdistinct
  have hperm := @step_perm adapters slot stack pending (nrOf adapters slot.id)
  refine ⟨(hperm.map (nrOf adapters)).nodup_iff.mpr hdistinct, ?_⟩
  intro id hid
  have hbefore : id ∈ stack.map Slot.id ++ pending := hperm.mem_iff.mp hid
  have hother : nrOf adapters slot.id ≠ nrOf adapters id := by
    intro heq
    rw [heq] at hfresh
    exact hfresh (List.mem_map_of_mem hbefore)
  -- Whoever declares `id` does not declare the slot, so it was not taken.
  have hcomplete := h.complete id (List.mem_cons_of_mem _ hbefore)
  rw [← hcomplete, takeChildren_eq, List.filter_filter]
  apply List.filter_congr
  intro child _
  by_cases hdeclares : declares adapters (.adapter (nrOf adapters id)) child = true
  · have hnot : declares adapters (.adapter (nrOf adapters slot.id)) child = false := by
      rw [Bool.eq_false_iff, ne_eq, declares_iff, (declares_iff _ _).mp hdeclares]
      intro hsame
      exact hother (DeclaredParent.adapter.inj hsame).symm
    simp [hdeclares, hnot]
  · simp [Bool.eq_false_iff.mpr hdeclares]

/-- **Growth.**  If the children of everybody on the stack and in wait still wait, the growth yields
every slot with all its children. -/
theorem grown_grow {stack : List Slot} {pending : List AdapterId}
    (h : Waiting adapters stack pending) : Grown adapters stack (grow adapters stack pending).1 := by
  induction stack, pending using grow.induct adapters with
  | case1 pending => rw [grow]; exact Grown.nil
  | case2 slot stack pending nr children _ _ _ ih =>
      -- The children were put on top of the stack, so what grows from them comes first.
      obtain ⟨below, rest, hbranches, hbelow, hrest⟩ := (ih h.step).of_append
      have hchildren : children = slot.childSlots adapters (childrenOf adapters slot.id) :=
        congrArg (slot.childSlots adapters) h.taken_eq
      rw [hchildren] at hbelow
      have hgrown := Grown.cons hbelow hrest
      rw [← hchildren, ← hbranches] at hgrown
      rw [grow_cons]
      exact hgrown

/-! ## Who grows -/

/-- The adapters on the stack grow. -/
theorem Grown.stack_subset {stack : List Slot} {branches : List Branch}
    (h : Grown adapters stack branches) : stack.map Slot.id ⊆ branches.map (·.slot.id) := by
  induction h with
  | nil => exact List.Subset.refl _
  | cons _ _ _ ihrest =>
      intro id hid
      rw [List.map_cons, List.map_append]
      rcases List.mem_cons.mp hid with rfl | hstack
      · exact List.mem_cons_self
      · exact List.mem_cons_of_mem _ (List.mem_append_right _ (ihrest hstack))

/-- With an adapter its children grow. -/
theorem Grown.children_subset {stack : List Slot} {branches : List Branch}
    (h : Grown adapters stack branches) {parent : AdapterId}
    (hparent : parent ∈ branches.map (·.slot.id)) :
    childrenOf adapters parent ⊆ branches.map (·.slot.id) := by
  induction h with
  | nil => exact absurd hparent List.not_mem_nil
  | @cons slot stack below rest hbelow _ ihbelow ihrest =>
      rw [List.map_cons, List.map_append] at hparent ⊢
      intro id hid
      apply List.mem_cons_of_mem
      rcases List.mem_cons.mp hparent with rfl | hdeeper
      · apply List.mem_append_left
        apply hbelow.stack_subset
        rw [map_id_childSlots]
        exact mem_byNr.mpr hid
      · rcases List.mem_append.mp hdeeper with hin | hin
        · exact List.mem_append_left _ (ihbelow hin hid)
        · exact List.mem_append_right _ (ihrest hin hid)

/-- From adapters whose lineage ends at a root only such adapters grow. -/
theorem Grown.rooted {stack : List Slot} {branches : List Branch}
    (h : Grown adapters stack branches) (hstack : ∀ id ∈ stack.map Slot.id, Rooted adapters id)
    {id : AdapterId} (hid : id ∈ branches.map (·.slot.id)) : Rooted adapters id := by
  induction h with
  | nil => exact absurd hid List.not_mem_nil
  | @cons slot stack below rest _ _ ihbelow ihrest =>
      have hslot : Rooted adapters slot.id := hstack slot.id List.mem_cons_self
      rw [List.map_cons, List.map_append] at hid
      rcases List.mem_cons.mp hid with rfl | hdeeper
      · exact hslot
      · rcases List.mem_append.mp hdeeper with hin | hin
        · apply ihbelow _ hin
          intro child hchild
          rw [map_id_childSlots, mem_byNr] at hchild
          obtain ⟨above, habove⟩ := hslot
          exact ⟨_, Lineage.child ((mem_childrenOf habove.lt_size child).mp hchild) habove⟩
        · exact ihrest (fun other hother => hstack other (List.mem_cons_of_mem _ hother)) hin

/-- From the roots exactly the adapters grow whose lineage ends at a root. -/
theorem Grown.mem_iff_rooted {stack : List Slot} {branches : List Branch}
    (h : Grown adapters stack branches) (hstack : (stack.map Slot.id).Perm (rootsOf adapters))
    (id : AdapterId) : id ∈ branches.map (·.slot.id) ↔ Rooted adapters id := by
  constructor
  · intro hid
    apply h.rooted _ hid
    intro root hroot
    obtain ⟨hlt, hdeclared⟩ := (mem_rootsOf root).mp (hstack.mem_iff.mp hroot)
    exact ⟨[], Lineage.root hlt hdeclared⟩
  · rintro ⟨above, habove⟩
    induction habove with
    | root hid hroot =>
        exact h.stack_subset (hstack.mem_iff.mpr ((mem_rootsOf _).mpr ⟨hid, hroot⟩))
    | child hangs hparent ih =>
        exact h.children_subset ih ((mem_childrenOf hparent.lt_size _).mpr hangs)

end Forest
end I2cTopology
