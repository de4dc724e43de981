import I2cTopology.Proofs.Forest.Built

/-!
# When there is no forest

Building a forest fails for one of three reasons, looked for in this order, and each of them is a
property of the flat list.

* A kernel id occurs twice; the smallest one that does is reported.
* Following declared parents from some adapter leads into a circle; an adapter on a circle is
  reported.
* Under the strict policy, the declared parents of some adapter lead to no root; the first such
  adapter in discovery order is reported, with the parent that it declares.

`build_outcome` says that nothing else happens.
-/

namespace I2cTopology
namespace Forest

open Relation (TransGen ReflTransGen)

/-! ## Circles of declared parents -/

section Circles

variable {adapters : Array Adapter}

/-- Following declared parents from the adapter leads back to it. -/
def OnCircle (adapters : Array Adapter) (id : AdapterId) : Prop :=
  TransGen (HangsOff adapters) id id

/-- Following declared parents from the adapter leads into a circle. -/
def LeadsIntoCircle (adapters : Array Adapter) (id : AdapterId) : Prop :=
  ∃ member, ReflTransGen (HangsOff adapters) id member ∧ OnCircle adapters member

/-- The declared parents above an adapter that hangs off nobody form no circle, and neither do those
on the way there. -/
theorem not_onCircle_of_end (hnr : DistinctNrs adapters) {id last : AdapterId}
    (hway : ReflTransGen (HangsOff adapters) id last)
    (hlast : ∀ parent, ¬ HangsOff adapters last parent) : ¬ OnCircle adapters id := by
  induction hway using ReflTransGen.head_induction_on with
  | refl =>
      intro hcircle
      obtain ⟨parent, hstep, -⟩ := TransGen.head'_iff.mp hcircle
      exact hlast parent hstep
  | @head id next hstep hway ih =>
      intro hcircle
      obtain ⟨next', hstep', hback⟩ := TransGen.head'_iff.mp hcircle
      obtain rfl := hstep.unique hnr hstep'
      exact ih (TransGen.tail' hback hstep)

/-- A circle leads on for ever, so no lineage passes through it. -/
theorem Rooted.not_onCircle (hnr : DistinctNrs adapters) {id : AdapterId}
    (h : Rooted adapters id) : ¬ OnCircle adapters id := by
  obtain ⟨above, habove⟩ := h
  induction habove with
  | root hid hroot =>
      intro hcircle
      obtain ⟨parent, hstep, -⟩ := TransGen.head'_iff.mp hcircle
      exact not_hangsOff_of_root hroot hstep
  | child hangs _ ih =>
      -- A circle through the adapter goes through its parent too.
      intro hcircle
      obtain ⟨next, hstep, hback⟩ := TransGen.head'_iff.mp hcircle
      obtain rfl := hangs.unique hnr hstep
      exact ih (TransGen.tail' hback hangs)

variable {everyone : KernelIndex}

/-- Looking up declared kernel ids finds the parents. -/
theorem declaredParent?_eq_some_iff
    (heveryone : KernelIndex.build (nrOf adapters) (List.range adapters.size) = .ok everyone)
    {id : AdapterId} (hid : id < adapters.size) (parent : AdapterId) :
    declaredParent? adapters everyone id = some parent ↔ HangsOff adapters id parent := by
  cases hdeclared : declaredParentOf adapters id with
  | root =>
      have hnone : declaredParent? adapters everyone id = none := by
        unfold declaredParent?
        rw [show (adapters[id]?.getD default).declaredParent = .root from hdeclared]
      simp [hnone, not_hangsOff_of_root hdeclared]
  | adapter nr =>
      have hlookup : declaredParent? adapters everyone id = everyone.lookup? nr := by
        unfold declaredParent?
        rw [show (adapters[id]?.getD default).declaredParent = .adapter nr from hdeclared]
      simp only [hlookup, KernelIndex.lookup?_eq_some_iff heveryone, List.mem_range, HangsOff, hid,
        hdeclared, true_and, DeclaredParent.adapter.injEq, eq_comm]

/-- Whom a walk meets twice stands on a circle. -/
theorem onCircle_of_firstRevisited?
    (heveryone : KernelIndex.build (nrOf adapters) (List.range adapters.size) = .ok everyone)
    {steps : Nat} {met : List AdapterId} {id found : AdapterId} (hid : id < adapters.size)
    (hmet : ∀ earlier ∈ met, TransGen (HangsOff adapters) earlier id)
    (h : firstRevisited? (declaredParent? adapters everyone) steps met id = some found) :
    OnCircle adapters found := by
  -- Everybody met leads to where the walk stands, so meeting one of them again closes a circle.
  induction steps generalizing met id with
  | zero => simp [firstRevisited?] at h
  | succ steps ih =>
      rw [firstRevisited?] at h
      by_cases hseen : met.contains id = true
      · rw [if_pos hseen] at h
        obtain rfl := Option.some.inj h
        exact hmet id (List.contains_iff_mem.mp hseen)
      · rw [if_neg hseen] at h
        obtain ⟨parent, hparent, hrest⟩ := Option.bind_eq_some_iff.mp h
        have hstep := (declaredParent?_eq_some_iff heveryone hid parent).mp hparent
        apply ih hstep.2.1 _ hrest
        intro earlier hearlier
        rcases List.mem_cons.mp hearlier with rfl | hbefore
        · exact TransGen.single hstep
        · exact (hmet earlier hbefore).tail hstep

/-- A walk that meets nobody twice, and may go on for longer than there are adapters, ends. -/
theorem exists_end_of_firstRevisited?_eq_none
    (heveryone : KernelIndex.build (nrOf adapters) (List.range adapters.size) = .ok everyone)
    {steps : Nat} {met : List AdapterId} {id : AdapterId} (hid : id < adapters.size)
    (hnodup : met.Nodup) (hmet : ∀ earlier ∈ met, earlier < adapters.size)
    (hsteps : adapters.size < steps + met.length)
    (h : firstRevisited? (declaredParent? adapters everyone) steps met id = none) :
    ∃ last, ReflTransGen (HangsOff adapters) id last ∧
      ∀ parent, ¬ HangsOff adapters last parent := by
  induction steps generalizing met id with
  | zero =>
      -- More adapters have been met than there are.
      have hsubset : met ⊆ List.range adapters.size := fun earlier hearlier =>
        List.mem_range.mpr (hmet earlier hearlier)
      have hlength := (hnodup.subperm hsubset).length_le
      rw [List.length_range] at hlength
      omega
  | succ steps ih =>
      rw [firstRevisited?] at h
      by_cases hseen : met.contains id = true
      · rw [if_pos hseen] at h
        contradiction
      · rw [if_neg hseen] at h
        have hfresh : id ∉ met := fun hmem => hseen (List.contains_iff_mem.mpr hmem)
        cases hparent : declaredParent? adapters everyone id with
        | none =>
            refine ⟨id, ReflTransGen.refl, ?_⟩
            intro parent hangs
            rw [(declaredParent?_eq_some_iff heveryone hid parent).mpr hangs] at hparent
            contradiction
        | some parent =>
            have hstep := (declaredParent?_eq_some_iff heveryone hid parent).mp hparent
            rw [hparent, Option.bind_some] at h
            obtain ⟨last, hway, hlast⟩ := ih hstep.2.1 (List.nodup_cons.mpr ⟨hfresh, hnodup⟩)
              (List.forall_mem_cons.mpr ⟨hid, hmet⟩) (by rw [List.length_cons]; omega) h
            exact ⟨last, ReflTransGen.head hstep hway, hlast⟩

/-- An adapter that is found to stand on a circle does. -/
theorem onCircle_of_cycle? (hnr : DistinctNrs adapters)
    (heveryone : KernelIndex.build (nrOf adapters) (List.range adapters.size) = .ok everyone)
    {id : AdapterId} (h : cycle? adapters everyone (orphansOf adapters) = some id) :
    OnCircle adapters id := by
  obtain ⟨start, hstart, hwalk⟩ := List.exists_of_findSome?_eq_some h
  have hlt := ((mem_orphansOf hnr start).mp hstart).1
  exact onCircle_of_firstRevisited? heveryone hlt (fun _ hnone => absurd hnone List.not_mem_nil)
    hwalk

/-- If none is found, there is no circle at all: whoever stands on one has no lineage, so the walk
from there was tried. -/
theorem not_onCircle_of_cycle?_eq_none (hnr : DistinctNrs adapters)
    (heveryone : KernelIndex.build (nrOf adapters) (List.range adapters.size) = .ok everyone)
    (h : cycle? adapters everyone (orphansOf adapters) = none) (id : AdapterId) :
    ¬ OnCircle adapters id := by
  intro hcircle
  have hlt : id < adapters.size := by
    obtain ⟨parent, hstep, -⟩ := TransGen.head'_iff.mp hcircle
    exact hstep.1
  have horphan : id ∈ orphansOf adapters :=
    (mem_orphansOf hnr id).mpr ⟨hlt, fun hrooted => hrooted.not_onCircle hnr hcircle⟩
  have hwalk := List.findSome?_eq_none_iff.mp h id horphan
  obtain ⟨last, hway, hlast⟩ := exists_end_of_firstRevisited?_eq_none heveryone hlt List.nodup_nil
    (fun _ hnone => absurd hnone List.not_mem_nil) (by simp) hwalk
  exact not_onCircle_of_end hnr hway hlast hcircle

end Circles

/-! ## Adapters without a root -/

section Orphans

variable {adapters : Array Adapter}

/-- The first adapter in discovery order whose declared parents lead to no root. -/
def FirstUnrooted (adapters : Array Adapter) (id : AdapterId) : Prop :=
  id < adapters.size ∧ ¬ Rooted adapters id ∧ ∀ earlier < id, Rooted adapters earlier

/-- An adapter without a lineage declares a parent. -/
theorem exists_declared_of_not_rooted {id : AdapterId} (hid : id < adapters.size)
    (h : ¬ Rooted adapters id) : ∃ parent, declaredParentOf adapters id = .adapter parent := by
  cases hdeclared : declaredParentOf adapters id with
  | root => exact absurd ⟨[], Lineage.root hid hdeclared⟩ h
  | adapter parent => exact ⟨parent, rfl⟩

/-- The first adapter left waiting is the first one in discovery order that no root leads to. -/
theorem firstUnrooted_of_orphansOf_eq_cons (hnr : DistinctNrs adapters) {id : AdapterId}
    {rest : List AdapterId} (h : orphansOf adapters = id :: rest) : FirstUnrooted adapters id := by
  have hsorted : (orphansOf adapters).Pairwise (· < ·) :=
    List.pairwise_lt_range.sublist orphansOf_sublist
  rw [h] at hsorted
  obtain ⟨hid, hnot⟩ := (mem_orphansOf hnr id).mp (by rw [h]; exact List.mem_cons_self)
  refine ⟨hid, hnot, ?_⟩
  intro earlier hearlier
  by_contra hunrooted
  have hmem : earlier ∈ id :: rest := by
    rw [← h]
    exact (mem_orphansOf hnr earlier).mpr ⟨Nat.lt_trans hearlier hid, hunrooted⟩
  rcases List.mem_cons.mp hmem with rfl | hrest
  · exact Nat.lt_irrefl _ hearlier
  · exact Nat.lt_asymm hearlier ((List.pairwise_cons.mp hsorted).1 earlier hrest)

/-- There is one first adapter at most that no root leads to. -/
theorem FirstUnrooted.unique {a b : AdapterId} (ha : FirstUnrooted adapters a)
    (hb : FirstUnrooted adapters b) : a = b := by
  rcases Nat.lt_trichotomy a b with hlt | heq | hgt
  · exact absurd (hb.2.2 a hlt) ha.2.1
  · exact heq
  · exact absurd (ha.2.2 b hgt) hb.2.1

/-- The strict policy complains about the first adapter that no root leads to. -/
theorem complaint?_strict (hnr : DistinctNrs adapters) :
    (complaint? adapters .strict = none ∧ ∀ id < adapters.size, Rooted adapters id) ∨
      ∃ id parent, FirstUnrooted adapters id ∧
        declaredParentOf adapters id = .adapter parent ∧
        complaint? adapters .strict = some (nrOf adapters id, parent) := by
  cases horphans : orphansOf adapters with
  | nil =>
      refine Or.inl ⟨by rw [complaint?, horphans]; rfl, ?_⟩
      intro id hid
      by_contra hunrooted
      have hmem := (mem_orphansOf hnr id).mpr ⟨hid, hunrooted⟩
      rw [horphans] at hmem
      exact absurd hmem List.not_mem_nil
  | cons id rest =>
      have hfirst := firstUnrooted_of_orphansOf_eq_cons hnr horphans
      obtain ⟨parent, hparent⟩ := exists_declared_of_not_rooted hfirst.1 hfirst.2.1
      refine Or.inr ⟨id, parent, hfirst, hparent, ?_⟩
      have hdeclared : (adapters[id]?.getD default).declaredParent = .adapter parent := hparent
      rw [complaint?, horphans, orphan?, List.findSome?_cons]
      simp only [hdeclared]
      rfl

end Orphans

/-! ## The outcome -/

/-- The kernel id occurs twice among the adapters. -/
def Repeats (found : List Adapter) (nr : UInt32) : Prop :=
  2 ≤ (found.map Adapter.nr).count nr

theorem distinctNrs_iff_not_repeats (found : List Adapter) :
    DistinctNrs found.toArray ↔ ¬ ∃ nr, Repeats found nr := by
  rw [DistinctNrs, map_nrOf_range]
  simp only [Repeats, ← List.duplicate_iff_two_le_count, List.exists_duplicate_iff_not_nodup, not_not]

/-- The four ways in which building ends, each with what it takes. -/
theorem build_cases (found : List Adapter) (policy : OrphanPolicy) :
    (∃ nr, build found policy = .error (.duplicateNr nr) ∧ Repeats found nr ∧
      ∀ other, Repeats found other → nr ≤ other) ∨
    (DistinctNrs found.toArray ∧ ∃ id, OnCircle found.toArray id ∧
      build found policy = .error (.parentCycle (nrOf found.toArray id))) ∨
    (DistinctNrs found.toArray ∧ (∀ id, ¬ OnCircle found.toArray id) ∧ policy = .strict ∧
      ∃ id parent, FirstUnrooted found.toArray id ∧
        declaredParentOf found.toArray id = .adapter parent ∧
        build found policy = .error (.orphaned (nrOf found.toArray id) parent)) ∨
    (DistinctNrs found.toArray ∧ (∀ id, ¬ OnCircle found.toArray id) ∧
      (policy = .strict → ∀ id < found.toArray.size, Rooted found.toArray id) ∧
      ∃ forest, build found policy = .ok forest) := by
  cases heveryone : KernelIndex.build (nrOf found.toArray) (List.range found.toArray.size) with
  | error nr =>
      obtain ⟨htwice, hleast⟩ := (KernelIndex.build_eq_error_iff _ _ nr).mp heveryone
      rw [map_nrOf_range] at htwice hleast
      exact Or.inl ⟨nr, by rw [build, construct_eq, heveryone]; rfl, htwice, hleast⟩
  | ok everyone =>
      obtain ⟨hnr, index, -, hbuild⟩ := build_of_index heveryone policy
      cases hcycle : cycle? found.toArray everyone (orphansOf found.toArray) with
      | some id =>
          have hcircle := onCircle_of_cycle? hnr heveryone hcycle
          exact Or.inr (Or.inl ⟨hnr, id, hcircle, by rw [hbuild, hcycle]⟩)
      | none =>
          have hstraight := not_onCircle_of_cycle?_eq_none hnr heveryone hcycle
          simp only [hcycle] at hbuild
          cases policy with
          | warn =>
              exact Or.inr (Or.inr (Or.inr ⟨hnr, hstraight, fun h => by contradiction, _, hbuild⟩))
          | strict =>
              rcases complaint?_strict hnr with ⟨hnone, hrooted⟩ | ⟨id, parent, hfirst, hparent, hsome⟩
              · simp only [hnone] at hbuild
                exact Or.inr (Or.inr (Or.inr ⟨hnr, hstraight, fun _ => hrooted, _, hbuild⟩))
              · simp only [hsome] at hbuild
                exact Or.inr (Or.inr (Or.inl
                  ⟨hnr, hstraight, rfl, id, parent, hfirst, hparent, hbuild⟩))

/-- If everybody has a root, building succeeds under either policy. -/
theorem exists_build_of_rooted {found : List Adapter} (hnr : DistinctNrs found.toArray)
    (hrooted : ∀ id < found.toArray.size, Rooted found.toArray id) (policy : OrphanPolicy) :
    ∃ forest, build found policy = .ok forest := by
  rcases build_cases found policy with ⟨nr, -, hrepeats, -⟩ | ⟨-, id, hcircle, -⟩ |
    ⟨-, -, -, id, -, hfirst, -, -⟩ | ⟨-, -, -, hok⟩
  · exact absurd ⟨nr, hrepeats⟩ ((distinctNrs_iff_not_repeats found).mp hnr)
  · obtain ⟨next, hangs, -⟩ := Relation.TransGen.head'_iff.mp hcircle
    exact absurd hcircle ((hrooted id hangs.1).not_onCircle hnr)
  · exact absurd (hrooted id hfirst.1) hfirst.2.1
  · exact hok

/-- Building reports a kernel id as repeated exactly if it is the smallest that is. -/
theorem build_eq_duplicateNr_iff (found : List Adapter) (policy : OrphanPolicy) (nr : UInt32) :
    build found policy = .error (.duplicateNr nr) ↔
      Repeats found nr ∧ ∀ other, Repeats found other → nr ≤ other := by
  have hdistinct : DistinctNrs found.toArray → ¬ Repeats found nr :=
    fun hnr hrepeats => (distinctNrs_iff_not_repeats found).mp hnr ⟨nr, hrepeats⟩
  rcases build_cases found policy with ⟨least, hbuild, hrepeats, hleast⟩ | ⟨hnr, id, -, hbuild⟩ |
    ⟨hnr, -, -, id, parent, -, -, hbuild⟩ | ⟨hnr, -, -, forest, hbuild⟩
  · simp only [hbuild, Except.error.injEq, TopologyFault.duplicateNr.injEq]
    constructor
    · rintro rfl
      exact ⟨hrepeats, hleast⟩
    · rintro ⟨hnrRepeats, hnrLeast⟩
      exact UInt32.le_antisymm (hleast nr hnrRepeats) (hnrLeast least hrepeats)
  all_goals simp [hbuild, hdistinct hnr]

theorem exists_leadsIntoCircle_iff (adapters : Array Adapter) :
    (∃ id, LeadsIntoCircle adapters id) ↔ ∃ id, OnCircle adapters id := by
  constructor
  · rintro ⟨_, member, _, hcircle⟩
    exact ⟨member, hcircle⟩
  · rintro ⟨id, hcircle⟩
    exact ⟨id, id, ReflTransGen.refl, hcircle⟩

/-- **The outcome of building.**  Building reports a repeated kernel id exactly if there is one, and
then the smallest; otherwise a circle exactly if declared parents lead into one, and then an adapter
on a circle; otherwise, under the strict policy, an adapter without a root exactly if there is one,
and then the first; otherwise it succeeds. -/
theorem build_outcome (found : List Adapter) (policy : OrphanPolicy) :
    ((∃ nr, build found policy = .error (.duplicateNr nr)) ↔ ∃ nr, Repeats found nr) ∧
    (∀ nr, build found policy = .error (.duplicateNr nr) →
      Repeats found nr ∧ ∀ other, Repeats found other → nr ≤ other) ∧
    ((∃ nr, build found policy = .error (.parentCycle nr)) ↔
      (¬ ∃ nr, Repeats found nr) ∧ ∃ id, LeadsIntoCircle found.toArray id) ∧
    (∀ nr, build found policy = .error (.parentCycle nr) →
      ∃ id, nrOf found.toArray id = nr ∧ OnCircle found.toArray id) ∧
    (∀ nr parent, build found policy = .error (.orphaned nr parent) ↔
      (¬ ∃ nr, Repeats found nr) ∧ (¬ ∃ id, LeadsIntoCircle found.toArray id) ∧
        policy = .strict ∧ ∃ id, FirstUnrooted found.toArray id ∧ nrOf found.toArray id = nr ∧
          declaredParentOf found.toArray id = .adapter parent) ∧
    ((∃ forest, build found policy = .ok forest) ↔
      (¬ ∃ nr, Repeats found nr) ∧ (¬ ∃ id, LeadsIntoCircle found.toArray id) ∧
        (policy = .strict → ∀ id < found.toArray.size, Rooted found.toArray id)) := by
  rw [exists_leadsIntoCircle_iff, ← distinctNrs_iff_not_repeats]
  rcases build_cases found policy with ⟨nr, hbuild, hrepeats, hleast⟩ |
    ⟨hnr, id, hcircle, hbuild⟩ |
    ⟨hnr, hstraight, rfl, id, parent, hfirst, hparent, hbuild⟩ |
    ⟨hnr, hstraight, hrooted, forest, hbuild⟩
  · -- A kernel id repeats.
    have hnot : ¬ DistinctNrs found.toArray := by
      rw [distinctNrs_iff_not_repeats, not_not]
      exact ⟨nr, hrepeats⟩
    simp only [hbuild, Except.error.injEq, TopologyFault.duplicateNr.injEq, reduceCtorEq,
      exists_eq', exists_false, hnot, false_and, true_iff, iff_self, forall_eq', false_implies,
      implies_true, and_true]
    exact ⟨⟨nr, hrepeats⟩, hrepeats, hleast⟩
  · -- A circle.
    have hexists : ∃ id, OnCircle found.toArray id := ⟨id, hcircle⟩
    simp only [hbuild, Except.error.injEq, TopologyFault.parentCycle.injEq, reduceCtorEq,
      exists_eq', exists_false, hnr, hexists, not_true_eq_false, true_and, false_and, iff_self,
      forall_eq', false_implies, implies_true, and_true, false_iff]
    exact ⟨(distinctNrs_iff_not_repeats found).mp hnr, id, rfl, hcircle⟩
  · -- An adapter without a root.
    have hnone : ¬ ∃ id, OnCircle found.toArray id := not_exists.mpr hstraight
    simp only [hbuild, Except.error.injEq, TopologyFault.orphaned.injEq, reduceCtorEq,
      exists_false, hnr, hnone, not_false_eq_true, true_and, and_false, iff_self,
      false_implies, implies_true, false_iff, true_implies]
    refine ⟨(distinctNrs_iff_not_repeats found).mp hnr, ?_, ?_⟩
    · intro nr parent'
      constructor
      · rintro ⟨rfl, rfl⟩
        exact ⟨id, hfirst, rfl, hparent⟩
      · rintro ⟨other, hother, rfl, hparent'⟩
        obtain rfl := hother.unique hfirst
        exact ⟨rfl, DeclaredParent.adapter.inj (hparent.symm.trans hparent')⟩
    · intro hall
      exact hfirst.2.1 (hall id hfirst.1)
  · -- A forest.
    have hnone : ¬ ∃ id, OnCircle found.toArray id := not_exists.mpr hstraight
    simp only [hbuild, Except.ok.injEq, reduceCtorEq,
      exists_eq', exists_false, hnr, hnone, not_false_eq_true, true_and, and_false, iff_self,
      false_implies, implies_true, false_iff]
    refine ⟨(distinctNrs_iff_not_repeats found).mp hnr, ?_, ?_⟩
    · rintro nr parent ⟨hstrict, id, hfirst, -⟩
      exact hfirst.2.1 (hrooted hstrict id hfirst.1)
    · exact ⟨fun _ => hrooted, fun _ => trivial⟩

end Forest
end I2cTopology
