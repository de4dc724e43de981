import I2cTopology.Forest.Resolve
import I2cTopology.Proofs.Forest.Ordinals

/-!
# Resolving the paths of a forest

A placed adapter's own path, read and walked, leads back to it, because each step selects one child
only.  The limits do not agree, though: a path is given to an adapter as long as it is short enough in
bytes, and it is read as long as its steps are few enough.  Adapters that stand too deep have paths
which nobody can resolve.

* `BuiltFrom.find?_selects_eq_some_iff`: a token selects the child that it names.
* `BuiltFrom.follow?_lineageSteps`: the steps to an adapter are walked from its root to it.
* `resolve_path`: what becomes of the path of a placed adapter.
-/

namespace I2cTopology
namespace Forest

/-- The token names the adapter among its siblings: by its kernel id, or by its ordinal and its output
number. -/
def Names (forest : Forest) (token : PathToken) (id : AdapterId) : Prop :=
  token = .bus (forest.adapter id).nr ∨
    ∃ ordinal output, token = .mux ordinal output ∧
      forest.ordinal? id = some ordinal.toNat ∧ (forest.adapter id).channel = some output

theorem selects_iff (forest : Forest) (token : PathToken) (id : AdapterId) :
    forest.selects token id = true ↔ forest.Names token id := by
  cases token with
  | bus nr =>
      simp only [selects, Names, beq_iff_eq, PathToken.bus.injEq, reduceCtorEq, false_and,
        exists_false, or_false]
      exact eq_comm
  | mux ordinal output => simp [selects, Names, ordinal?]
  | channel number => simp [selects, Names]
  | address number => simp [selects, Names]
  | stop => simp [selects, Names]

namespace BuiltFrom

variable {found : List Adapter} {forest : Forest} {id parent : AdapterId} {above : List AdapterId}

/-- **Names among siblings.**  A token names one child of an adapter at most. -/
theorem eq_of_names (h : BuiltFrom found forest) {token : PathToken} {a b : AdapterId}
    (ha : a ∈ forest.children parent) (hb : b ∈ forest.children parent)
    (hnamesA : forest.Names token a) (hnamesB : forest.Names token b) : a = b := by
  have hnr := h.distinctNrs
  obtain ⟨haPlaced, haHangs⟩ := (h.mem_children_iff a parent).mp ha
  obtain ⟨hbPlaced, hbHangs⟩ := (h.mem_children_iff b parent).mp hb
  rcases hnamesA with rfl | ⟨ordinal, output, rfl, haOrdinal, haChannel⟩
  · rcases hnamesB with hsame | ⟨ordinal, output, hmux, -, -⟩
    · simp only [PathToken.bus.injEq, h.adapter_eq] at hsame
      exact hnr.inj haHangs.1 hbHangs.1 hsame
    · cases hmux
  · rcases hnamesB with hbus | ⟨ordinal', output', hsame, hbOrdinal, hbChannel⟩
    · cases hbus
    · obtain ⟨rfl, rfl⟩ := PathToken.mux.inj hsame
      have hordinals : ordinalOf found.toArray a = ordinalOf found.toArray b :=
        Option.some.inj ((h.ordinal?_eq_some haPlaced haHangs).symm.trans
          (haOrdinal.trans (hbOrdinal.symm.trans (h.ordinal?_eq_some hbPlaced hbHangs))))
      have hchannels := haChannel.trans hbChannel.symm
      rw [h.adapter_eq, h.adapter_eq] at hchannels
      exact ordinalOf_injOn hnr haHangs.1 hbHangs.1 (haHangs.2.2.trans hbHangs.2.2.symm) hchannels
        hordinals

/-- The child that a token selects is the one that it names. -/
theorem find?_selects_eq_some_iff (h : BuiltFrom found forest) (token : PathToken)
    (parent child : AdapterId) :
    (forest.children parent).find? (forest.selects token) = some child ↔
      child ∈ forest.children parent ∧ forest.Names token child := by
  constructor
  · intro hfind
    exact ⟨List.mem_of_find?_eq_some hfind, (selects_iff _ _ _).mp (List.find?_some hfind)⟩
  · rintro ⟨hchild, hnames⟩
    cases hfind : (forest.children parent).find? (forest.selects token) with
    | none =>
        have hnot := List.find?_eq_none.mp hfind child hchild
        exact absurd ((selects_iff _ _ _).mpr hnames) hnot
    | some other =>
        have hother := (selects_iff _ _ _).mp (List.find?_some hfind)
        rw [h.eq_of_names (List.mem_of_find?_eq_some hfind) hchild hother hnames]

/-- The step to an adapter names it. -/
theorem names_stepOf (h : BuiltFrom found forest) (hplaced : forest.Placed id)
    (hid : HangsOff found.toArray id parent) : forest.Names (stepOf found.toArray id) id := by
  unfold stepOf
  cases hchannel : channelOf found.toArray id with
  | none => exact Or.inl (by rw [h.adapter_eq]; rfl)
  | some output =>
      refine Or.inr ⟨_, output, rfl, ?_, ?_⟩
      · rw [h.ordinal?_eq_some hplaced hid, toNat_ofNat_ordinalOf h.distinctNrs]
      · rw [h.adapter_eq]
        exact hchannel

/-- **Steps between siblings.**  The step to a placed adapter finds it among its parent's children. -/
theorem find?_selects_stepOf (h : BuiltFrom found forest)
    (hparent : Lineage found.toArray parent above) (hid : HangsOff found.toArray id parent)
    (hfits : Fits found.toArray (id :: parent :: above)) :
    (forest.children parent).find? (forest.selects (stepOf found.toArray id)) = some id := by
  have hplaced : forest.Placed id := (h.placed_iff id).mpr ⟨_, Lineage.child hid hparent, hfits⟩
  exact (h.find?_selects_eq_some_iff _ parent id).mpr
    ⟨(h.mem_children_iff id parent).mpr ⟨hplaced, hid⟩, h.names_stepOf hplaced hid⟩

/-- **Steps from a root.**  The steps to a placed adapter start with the kernel id of a placed root,
and the others are walked from there to the adapter. -/
theorem follow?_lineageSteps (h : BuiltFrom found forest) (hid : Lineage found.toArray id above)
    (hfits : Fits found.toArray (id :: above)) :
    ∃ root steps, lineageSteps found.toArray (id :: above) = .bus (nrOf found.toArray root) :: steps ∧
      forest.Placed root ∧
      ∀ rest, forest.follow? root (steps ++ rest) = forest.follow? id rest := by
  -- The steps are walked from the front and the lineage ends at the back, so the statement is about
  -- any tokens that follow.
  induction hid with
  | @root id hlt hroot =>
      refine ⟨id, [], rfl, ?_, fun _ => rfl⟩
      exact (h.placed_iff id).mpr ⟨[], Lineage.root hlt hroot, hfits⟩
  | @child id parent above hangs hparent ih =>
      have hparentFits := fits_of_fits_cons (List.cons_ne_nil _ _) hfits
      obtain ⟨root, steps, hsteps, hplaced, hfollow⟩ := ih hparentFits
      refine ⟨root, steps ++ [stepOf found.toArray id], ?_, hplaced, ?_⟩
      · rw [lineageSteps, hsteps, List.cons_append]
      · intro rest
        rw [List.append_assoc, hfollow, List.singleton_append, follow?, isTerminal_stepOf,
          if_neg Bool.false_ne_true, h.find?_selects_stepOf hparent hangs hfits, Option.bind_some]

/-- The steps to a placed adapter and the stop token lead to it. -/
theorem resolveTokens?_lineageSteps (h : BuiltFrom found forest)
    (hid : Lineage found.toArray id above) (hfits : Fits found.toArray (id :: above)) :
    forest.resolveTokens? ⟨lineageSteps found.toArray (id :: above) ++ [.stop]⟩ = some id := by
  obtain ⟨root, steps, hsteps, hplaced, hfollow⟩ := h.follow?_lineageSteps hid hfits
  have hlookup : forest.lookup? (nrOf found.toArray root) = some root :=
    (h.lookup?_eq_some_iff _ _).mpr ⟨hplaced, rfl⟩
  rw [hsteps, resolveTokens?]
  calc
    (do let start ← forest.lookup? (← startNr? (.bus (nrOf found.toArray root)))
        forest.follow? start (steps ++ [.stop])) = forest.follow? root (steps ++ [.stop]) := by
      simp only [startNr?, Option.bind_eq_bind, Option.bind_some, hlookup]
    _ = forest.follow? id [.stop] := hfollow _
    _ = some id := rfl

end BuiltFrom

/-- **Resolving the path of a placed adapter** leads back to the adapter, if the path is one that can be
read; the path of an adapter that stands too deep is refused. -/
theorem resolve_path {found : List Adapter} {policy : OrphanPolicy} {forest : Forest}
    (h : build found policy = .ok forest) {depth : Nat} {id : AdapterId}
    (hmem : (depth, id) ∈ forest.preorder) :
    forest.resolve (forest.path id) =
      if depth + 1 < BusPath.maxTokens then .ok (some id)
      else .error ⟨forest.path id, .tooDeep⟩ := by
  have hbuilt : BuiltFrom found forest := ⟨policy, h⟩
  have hnr := hbuilt.distinctNrs
  obtain ⟨above, habove, hfits, rfl⟩ := (hbuilt.mem_preorder_iff depth id).mp hmem
  have hlength : (lineageSteps found.toArray (id :: above)).length = above.length + 1 :=
    length_lineageSteps _
  have hread : BusPath.parseChars (forest.path id).toList =
      if above.length + 1 < BusPath.maxTokens then
        .ok ⟨lineageSteps found.toArray (id :: above) ++ [.stop]⟩
      else .error .tooDeep := by
    rw [hbuilt.path_eq habove hfits, toList_lineagePath hnr, ← hlength]
    exact BusPath.parseChars_joined (lineageSteps_ne_nil _ _) (walkable_lineageSteps _)
  rw [resolve, BusPath.parse, hread]
  by_cases hshallow : above.length + 1 < BusPath.maxTokens
  · rw [if_pos hshallow, if_pos hshallow]
    exact congrArg Except.ok (hbuilt.resolveTokens?_lineageSteps habove hfits)
  · rw [if_neg hshallow, if_neg hshallow]
    rfl

/-- Adapters each of which hangs off the one before it. -/
def ladder (length : Nat) : List Adapter :=
  (List.range length).map fun position =>
    { nr := UInt32.ofNat position
      declaredParent := if position = 0 then .root else .adapter (UInt32.ofNat (position - 1)) }

/-- Of twenty adapters in a row, the last one has a path that nobody can resolve. -/
theorem resolve_path_ladder :
    ∃ forest, build (ladder 20) .warn = .ok forest ∧
      forest.resolve (forest.path 18) = .ok (some 18) ∧
      forest.resolve (forest.path 19) = .error ⟨forest.path 19, .tooDeep⟩ := by
  have hpreorder : (build (ladder 20) .warn).map preorder =
      .ok ((List.range 20).map fun position => (position, position)) := by cbv
  cases hbuild : build (ladder 20) .warn with
  | error fault => rw [hbuild] at hpreorder; contradiction
  | ok forest =>
      rw [hbuild] at hpreorder
      have hplaces : forest.preorder = (List.range 20).map fun position => (position, position) :=
        Except.ok.inj hpreorder
      have hreadable : (18, 18) ∈ forest.preorder := by rw [hplaces]; decide
      have htooDeep : (19, 19) ∈ forest.preorder := by rw [hplaces]; decide
      refine ⟨forest, rfl, ?_, ?_⟩
      · rw [resolve_path hbuild hreadable]
        rfl
      · rw [resolve_path hbuild htooDeep]
        rfl

end Forest
end I2cTopology
