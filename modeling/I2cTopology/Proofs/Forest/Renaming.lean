import I2cTopology.Proofs.Forest.Embedding

/-!
# Kernel ids that change

The kernel may hand out other ids when it starts again.  Paths are made so that they last: where the
id of an adapter is part of a path it has to stay, but a channel of a multiplexer may get any id that
keeps its place among the siblings with its output number.  The order of siblings, of the pre-order and
of the index may all be different afterwards.

* `Renames.ordinalOf_eq`: ordinals stay, those of adapters that are left out included.
* `build_rename`: how building ends, who is placed, and paths and ordinals stay.
-/

namespace I2cTopology

/-- The declared parent under another kernel id. -/
def DeclaredParent.rename (f : UInt32 → UInt32) : DeclaredParent → DeclaredParent
  | root => root
  | adapter nr => adapter (f nr)

/-- The adapter under another kernel id, and its parent too. -/
def Adapter.rename (f : UInt32 → UInt32) (adapter : Adapter) : Adapter :=
  { adapter with
    nr := f adapter.nr
    declaredParent := adapter.declaredParent.rename f }

theorem DeclaredParent.rename_injective {f : UInt32 → UInt32} (hf : Function.Injective f) :
    Function.Injective (DeclaredParent.rename f) := by
  intro p q h
  cases p with
  | root => cases q with
    | root => rfl
    | adapter nr => exact absurd h DeclaredParent.noConfusion
  | adapter nr => cases q with
    | root => exact absurd h DeclaredParent.noConfusion
    | adapter nr' => rw [hf (DeclaredParent.adapter.inj h)]

theorem DeclaredParent.rename_eq_root_iff (f : UInt32 → UInt32) (parent : DeclaredParent) :
    parent.rename f = .root ↔ parent = .root := by
  cases parent with
  | root => exact Iff.rfl
  | adapter nr => exact iff_of_false DeclaredParent.noConfusion DeclaredParent.noConfusion

namespace Forest

/-- No two adapters get one kernel id; roots and adapters without an output number keep theirs, and the
channels of one group of siblings keep their order. -/
structure Renames (f : UInt32 → UInt32) (found : List Adapter) : Prop where
  injective : Function.Injective f
  root : ∀ adapter ∈ found, adapter.declaredParent = .root → f adapter.nr = adapter.nr
  plain : ∀ adapter ∈ found, adapter.channel = none → f adapter.nr = adapter.nr
  ascending : ∀ one ∈ found, ∀ other ∈ found, one.channel ≠ none →
    one.declaredParent = other.declaredParent → one.channel = other.channel →
      one.nr < other.nr → f one.nr < f other.nr

variable {f : UInt32 → UInt32} {found : List Adapter}

/-! ## Adapters under other kernel ids -/

theorem size_rename :
    (found.map (Adapter.rename f)).toArray.size = found.toArray.size := by
  simp

theorem adapterOf_rename {id : AdapterId} (hid : id < found.length) :
    adapterOf (found.map (Adapter.rename f)).toArray id =
      (adapterOf found.toArray id).rename f := by
  apply adapterOf_of_getElem?
  rw [List.getElem?_map, getElem?_of_lt hid, Option.map_some]

theorem nrOf_rename {id : AdapterId} (hid : id < found.length) :
    nrOf (found.map (Adapter.rename f)).toArray id = f (nrOf found.toArray id) :=
  congrArg Adapter.nr (adapterOf_rename hid)

theorem declaredParentOf_rename {id : AdapterId} (hid : id < found.length) :
    declaredParentOf (found.map (Adapter.rename f)).toArray id =
      (declaredParentOf found.toArray id).rename f :=
  congrArg Adapter.declaredParent (adapterOf_rename hid)

theorem distinctNrs_rename (hf : Function.Injective f) :
    DistinctNrs (found.map (Adapter.rename f)).toArray ↔ DistinctNrs found.toArray := by
  have hnrs : (found.map (Adapter.rename f)).map Adapter.nr = (found.map Adapter.nr).map f := by
    rw [List.map_map, List.map_map]
    rfl
  rw [DistinctNrs, DistinctNrs, map_nrOf_range, map_nrOf_range, hnrs, List.nodup_map_iff hf]

/-- Adapters hang off the same ones as before. -/
theorem hangsOff_rename_iff (hf : Function.Injective f) (child parent : AdapterId) :
    HangsOff (found.map (Adapter.rename f)).toArray child parent ↔
      HangsOff found.toArray child parent := by
  simp only [HangsOff, size_rename]
  apply and_congr_right
  intro hchild
  apply and_congr_right
  intro hparent
  rw [declaredParentOf_rename hchild, nrOf_rename hparent]
  exact (DeclaredParent.rename_injective hf).eq_iff (b := .adapter (nrOf found.toArray parent))

theorem embeds_rename (hf : Function.Injective f) :
    Embeds id found.toArray (found.map (Adapter.rename f)).toArray where
  lt_size hid := by rwa [size_rename]
  root_iff hid := by
    rw [id, declaredParentOf_rename hid, DeclaredParent.rename_eq_root_iff]
  hangsOff := (hangsOff_rename_iff hf _ _).mpr
  exists_parent _ hangs := ⟨_, rfl, (hangsOff_rename_iff hf _ _).mp hangs⟩

theorem embeds_of_rename (hf : Function.Injective f) :
    Embeds id (found.map (Adapter.rename f)).toArray found.toArray where
  lt_size hid := by rwa [size_rename] at hid
  root_iff hid := by
    rw [size_rename] at hid
    rw [id, declaredParentOf_rename hid, DeclaredParent.rename_eq_root_iff]
  hangsOff := (hangsOff_rename_iff hf _ _).mp
  exists_parent _ hangs := ⟨_, rfl, (hangsOff_rename_iff hf _ _).mpr hangs⟩

/-! ## What stays -/

namespace Renames

/-- Siblings of one group, channels or not, keep their order. -/
theorem lt_of_lt (h : Renames f found) {one other : Adapter} (hone : one ∈ found)
    (hother : other ∈ found) (hparent : one.declaredParent = other.declaredParent)
    (hchannel : one.channel = other.channel) (hless : one.nr < other.nr) :
    f one.nr < f other.nr := by
  by_cases hplain : one.channel = none
  · rwa [h.plain one hone hplain, h.plain other hother (hchannel ▸ hplain)]
  · exact h.ascending one hone other hother hplain hparent hchannel hless

theorem lt_iff (h : Renames f found) {one other : Adapter} (hone : one ∈ found)
    (hother : other ∈ found) (hparent : one.declaredParent = other.declaredParent)
    (hchannel : one.channel = other.channel) : f one.nr < f other.nr ↔ one.nr < other.nr := by
  refine ⟨?_, h.lt_of_lt hone hother hparent hchannel⟩
  -- If they were the other way round before, they would be so now.
  intro hless
  by_contra hnot
  rcases UInt32.lt_or_eq_of_le (UInt32.not_lt.mp hnot) with hgreater | heq
  · exact UInt32.lt_asymm hless
      (h.lt_of_lt hother hone hparent.symm hchannel.symm hgreater)
  · rw [heq] at hless
    exact UInt32.lt_irrefl _ hless

/-- **Ordinals stay**, because the same siblings come before an adapter. -/
theorem ordinalOf_eq (h : Renames f found) {id : AdapterId} (hid : id < found.length) :
    ordinalOf (found.map (Adapter.rename f)).toArray id = ordinalOf found.toArray id := by
  have hmem : adapterOf found.toArray id ∈ found := List.mem_of_getElem? (getElem?_of_lt hid)
  rw [ordinalOf_eq_earlierSiblings, ordinalOf_eq_earlierSiblings, adapterOf_rename hid,
    earlierSiblings, earlierSiblings, List.countP_map]
  apply List.countP_congr
  intro other hother
  simp only [Function.comp_apply, Adapter.rename, decide_eq_true_eq,
    (DeclaredParent.rename_injective h.injective).eq_iff]
  apply and_congr_right
  intro hparent
  apply and_congr_right
  exact h.lt_iff hother hmem hparent

/-- **Steps stay**: a path holds the kernel ids of such adapters only as keep theirs. -/
theorem sameStep (h : Renames f found) {id : AdapterId} (hid : id < found.length) :
    SameStep (fun id => id) found.toArray (found.map (Adapter.rename f)).toArray id := by
  have hmem : adapterOf found.toArray id ∈ found := List.mem_of_getElem? (getElem?_of_lt hid)
  constructor
  · intro hroot
    rw [nrOf_rename hid]
    exact h.root _ hmem hroot
  · intro _
    rw [segmentOf, segmentOf, h.ordinalOf_eq hid, adapterOf_rename hid]
    cases hchannel : (adapterOf found.toArray id).channel with
    | none =>
        simp only [segment, Adapter.rename, hchannel, h.plain _ hmem hchannel]
    | some output => simp only [segment, Adapter.rename, hchannel]

end Renames

/-- **Kernel ids that change.**  Under other kernel ids that keep what paths rely on, building ends in
the same way; the same adapters are placed, and each has the same path and ordinal.  An adapter that is left
out has no seat to keep an ordinal in, be it only that its path is too long; the number that the growth gave
it, how many of its group come before it, stays as well. -/
theorem build_rename (h : Renames f found) (policy : OrphanPolicy) :
    ending (build (found.map (Adapter.rename f)) policy) = ending (build found policy) ∧
    ∀ forest forest', build found policy = .ok forest →
      build (found.map (Adapter.rename f)) policy = .ok forest' →
        ∀ id < found.length, (forest'.Placed id ↔ forest.Placed id) ∧
          forest'.path id = forest.path id ∧ forest'.ordinal? id = forest.ordinal? id ∧
          ordinalOf (found.map (Adapter.rename f)).toArray id = ordinalOf found.toArray id := by
  have hembeds : Embeds (fun id => id) found.toArray (found.map (Adapter.rename f)).toArray :=
    embeds_rename h.injective
  constructor
  · exact ending_build_congr policy (distinctNrs_rename h.injective)
      (fun _ => ⟨_, embeds_of_rename h.injective⟩) (fun _ => ⟨_, hembeds⟩)
  · intro forest forest' hbuild hbuild' id hid
    have hbuilt : BuiltFrom found forest := ⟨policy, hbuild⟩
    have hbuilt' : BuiltFrom (found.map (Adapter.rename f)) forest' := ⟨policy, hbuild'⟩
    have hsteps : SameSteps (fun id => id) found.toArray
        (found.map (Adapter.rename f)).toArray id :=
      fun above habove member hmember => h.sameStep (habove.mem_lt_size hmember)
    exact ⟨hembeds.placed_iff hbuilt hbuilt' hid hsteps, hembeds.path_eq hbuilt hbuilt' hid hsteps,
      hembeds.ordinal?_eq hbuilt hbuilt' hid hsteps (h.ordinalOf_eq hid), h.ordinalOf_eq hid⟩

/-- In the sample the channels get the kernel ids 5 and 100. -/
theorem build_rename_sample :
    Renames (Equiv.swap 7 100) sample ∧
      ∃ forest, build (sample.map (Adapter.rename (Equiv.swap 7 100))) .warn = .ok forest ∧
        forest.path 0 = "3:1.1" := by
  have hrenames : Renames (Equiv.swap 7 100) sample :=
    ⟨(Equiv.swap 7 100).injective, by decide, by decide, by decide⟩
  obtain ⟨hending, hforests⟩ := build_rename hrenames .warn
  refine ⟨hrenames, ?_⟩
  rw [build_sample] at hending
  cases hbuild : build (sample.map (Adapter.rename (Equiv.swap 7 100))) .warn with
  | error fault => cases fault <;> rw [hbuild] at hending <;> contradiction
  | ok forest =>
      refine ⟨forest, rfl, ?_⟩
      rw [(hforests sampleForest forest build_sample hbuild 0 (by decide)).2.1]
      rfl

end Forest
end I2cTopology
