import I2cTopology.Proofs.Forest.Faults
import Mathlib.Data.List.Permutation

/-!
# Adapters that hang off nothing

Below an adapter whose parent was not found there may hang others, and the strict policy reports whichever
of them was found first.  The parent that is reported with it is missing only if nobody was found in the
wrong order.  A missing parent there is in any case: without circles the declared parents lead to it.

* `exists_end`: where there are no circles, following declared parents comes to an end.
* `exists_undiscovered`: the end above an adapter without a root declares a parent that was not found.
* `build_orphaned`: what is known about a reported adapter.
-/

namespace I2cTopology
namespace Forest

open Relation (TransGen ReflTransGen)

/-- No adapter with the kernel id was found. -/
def Undiscovered (found : List Adapter) (nr : UInt32) : Prop :=
  ∀ adapter ∈ found, adapter.nr ≠ nr

variable {found : List Adapter} {id other : AdapterId} {nr parent : UInt32}

theorem undiscovered_iff :
    Undiscovered found nr ↔ ∀ id < found.toArray.size, nrOf found.toArray id ≠ nr := by
  have hmem : nr ∈ found.map Adapter.nr ↔ ∃ id < found.toArray.size, nrOf found.toArray id = nr := by
    simp only [← map_nrOf_range, List.mem_map, List.mem_range]
  constructor
  · intro h id hid heq
    obtain ⟨adapter, hadapter, hnr⟩ := List.mem_map.mp (hmem.mpr ⟨id, hid, heq⟩)
    exact h adapter hadapter hnr
  · intro h adapter hadapter heq
    obtain ⟨id, hid, hnr⟩ := hmem.mp (List.mem_map.mpr ⟨adapter, hadapter, heq⟩)
    exact h id hid hnr

/-- The parent that an adapter declares was not found exactly if the adapter hangs off nobody. -/
theorem undiscovered_iff_not_hangsOff (hid : id < found.toArray.size)
    (hparent : declaredParentOf found.toArray id = .adapter parent) :
    Undiscovered found parent ↔ ∀ other, ¬ HangsOff found.toArray id other := by
  rw [undiscovered_iff]
  constructor
  · rintro h other ⟨-, hother, hdeclared⟩
    exact h other hother (DeclaredParent.adapter.inj (hdeclared.symm.trans hparent))
  · intro h other hother heq
    exact h other ⟨hid, hother, heq ▸ hparent⟩

/-! ## The end above an adapter -/

/-- With an adapter, everybody below it has a root. -/
theorem Rooted.of_reflTransGen {adapters : Array Adapter} (hway : ReflTransGen (HangsOff adapters) id other)
    (h : Rooted adapters other) : Rooted adapters id := by
  induction hway using ReflTransGen.head_induction_on with
  | refl => exact h
  | head hangs _ ih =>
    obtain ⟨above, habove⟩ := ih
    exact ⟨_, .child hangs habove⟩

/-- Where there are no circles, following declared parents comes to an end. -/
theorem exists_end {adapters : Array Adapter} (hnr : DistinctNrs adapters)
    (hstraight : ∀ member, ¬ OnCircle adapters member) (hid : id < adapters.size) :
    ∃ last, ReflTransGen (HangsOff adapters) id last ∧ ∀ parent, ¬ HangsOff adapters last parent := by
  obtain ⟨everyone, heveryone⟩ := distinctNrs_iff_exists_index.mp hnr
  have hnone : ∀ earlier ∈ ([] : List AdapterId), earlier < adapters.size :=
    fun _ h => absurd h List.not_mem_nil
  cases hwalk : firstRevisited? (declaredParent? adapters everyone) (adapters.size + 1) [] id with
  | none => exact exists_end_of_firstRevisited?_eq_none heveryone hid List.nodup_nil hnone (by simp) hwalk
  | some member =>
    have hcircle := onCircle_of_firstRevisited? heveryone hid (fun _ h => absurd h List.not_mem_nil) hwalk
    exact absurd hcircle (hstraight member)

/-- The end above an adapter without a root declares a parent that was not found. -/
theorem exists_undiscovered (hnr : DistinctNrs found.toArray)
    (hstraight : ∀ member, ¬ OnCircle found.toArray member) (hid : id < found.toArray.size)
    (hunrooted : ¬ Rooted found.toArray id) :
    ∃ last missing, ReflTransGen (HangsOff found.toArray) id last ∧
      declaredParentOf found.toArray last = .adapter missing ∧ Undiscovered found missing := by
  obtain ⟨last, hway, hlast⟩ := exists_end hnr hstraight hid
  have hlt : last < found.toArray.size := by
    obtain rfl | ⟨before, -, hangs⟩ := ReflTransGen.cases_tail_iff _ _ _ |>.mp hway
    · exact hid
    · exact hangs.2.1
  have hnot : ¬ Rooted found.toArray last := fun h => hunrooted (h.of_reflTransGen hway)
  obtain ⟨missing, hmissing⟩ := exists_declared_of_not_rooted hlt hnot
  exact ⟨last, missing, hway, hmissing, (undiscovered_iff_not_hangsOff hlt hmissing).mpr hlast⟩

/-! ## The adapter that is reported -/

/-- The adapters stand in an order in which nobody comes before the adapter that it hangs off. -/
def ParentsFirst (adapters : Array Adapter) : Prop :=
  ∀ child parent, HangsOff adapters child parent → parent < child

/-- Whom the first adapter without a root hangs off has no root either and was found later. -/
theorem FirstUnrooted.of_hangsOff {adapters : Array Adapter} (h : FirstUnrooted adapters id)
    (hstraight : ∀ member, ¬ OnCircle adapters member) (hangs : HangsOff adapters id other) :
    id < other ∧ ¬ Rooted adapters other := by
  have hnot : ¬ Rooted adapters other := fun hrooted => h.2.1 (hrooted.of_reflTransGen (.single hangs))
  have hle : id ≤ other := Nat.le_of_not_lt fun hlt => hnot (h.2.2 other hlt)
  obtain rfl | hlt := Nat.eq_or_lt_of_le hle
  · exact absurd (TransGen.single hangs) (hstraight id)
  · exact ⟨hlt, hnot⟩

/-- **An adapter that is reported as an orphan** is the first in discovery order that no root leads to, and
the parent reported with it is the one that it declares.  The parent was not found, or it was found later
and has no root either; where everybody comes after the adapter that it hangs off, it was not found.  In
any case the declared parents lead on to an adapter whose parent was not found. -/
theorem build_orphaned (h : build found .strict = .error (.orphaned nr parent)) :
    ∃ id, FirstUnrooted found.toArray id ∧ nrOf found.toArray id = nr ∧
      declaredParentOf found.toArray id = .adapter parent ∧
      (Undiscovered found parent ∨
        ∃ other, HangsOff found.toArray id other ∧ id < other ∧ ¬ Rooted found.toArray other) ∧
      (ParentsFirst found.toArray → Undiscovered found parent) ∧
      ∃ last missing, ReflTransGen (HangsOff found.toArray) id last ∧
        declaredParentOf found.toArray last = .adapter missing ∧ Undiscovered found missing := by
  obtain ⟨_, hbuild, -⟩ | ⟨-, _, -, hbuild⟩ | ⟨hnr, hstraight, -, id, declared, hfirst, hparent, hbuild⟩ |
    ⟨-, -, -, forest, hbuild⟩ := build_cases found .strict
  all_goals rw [h] at hbuild; cases hbuild
  have hmissing := undiscovered_iff_not_hangsOff hfirst.1 hparent
  refine ⟨id, hfirst, rfl, hparent, ?_, fun hordered => hmissing.mpr fun other hangs => ?_,
    exists_undiscovered hnr hstraight hfirst.1 hfirst.2.1⟩
  · by_cases hangs : ∃ other, HangsOff found.toArray id other
    · obtain ⟨other, hangs⟩ := hangs
      exact .inr ⟨other, hangs, hfirst.of_hangsOff hstraight hangs⟩
    · exact .inl (hmissing.mpr (not_exists.mp hangs))
  · exact Nat.lt_asymm (hfirst.of_hangsOff hstraight hangs).1 (hordered id other hangs)

/-- An adapter that was found before the one that it hangs off, whose own parent was not found. -/
def strays : List Adapter :=
  [{ nr := 1, declaredParent := .adapter 2 }, { nr := 2, declaredParent := .adapter 9 }]

/-- The parent that is reported was found; the missing one is another. -/
theorem build_orphaned_strays :
    build strays .strict = .error (.orphaned 1 2) ∧ ¬ Undiscovered strays 2 ∧
      ∃ last missing, ReflTransGen (HangsOff strays.toArray) 0 last ∧
        declaredParentOf strays.toArray last = .adapter missing ∧ Undiscovered strays missing := by
  have hbuild : build strays .strict = .error (.orphaned 1 2) := by cbv
  obtain ⟨id, hfirst, hid, -, -, -, last, missing, hway, hlast, hmissing⟩ := build_orphaned hbuild
  have hzero : id = 0 := by
    have htwo : ∀ position < 2, position = 0 ∨ position = 1 := by decide
    obtain rfl | rfl := htwo id hfirst.1
    · rfl
    · exact absurd hid (by decide)
  refine ⟨hbuild, fun h => h _ (List.mem_cons_of_mem _ List.mem_cons_self) rfl, last, missing, ?_, hlast,
    hmissing⟩
  rw [← hzero]
  exact hway

end Forest
end I2cTopology
