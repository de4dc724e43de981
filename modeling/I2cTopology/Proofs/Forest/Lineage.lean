import I2cTopology.Forest.Build
import I2cTopology.Proofs.KernelIndex
import I2cTopology.Proofs.PathText
import Mathlib.Data.List.Infix
import Mathlib.Data.List.Perm.Subperm
import Mathlib.Logic.Relation

/-!
# Lineages

What a list of adapters says about its forest before any forest is grown.  An adapter hangs off the
adapter whose kernel id it declares, its lineage leads from there up to an adapter that declares no
parent, and its ordinal counts the adapters before it that share its declared parent and its output
number.  Lineage and ordinals fix the path.

Everything here is said of the flat list alone, so that it can be compared with what the growth of
the forest computes.  Kernel ids are taken to be distinct where that matters.

* `Lineage.unique`: an adapter has at most one lineage.
* `ordinalOf_lt_size`: an ordinal is a 32-bit number.
* `toList_lineagePath`: the path of a lineage is its steps, joined by colons.
-/

namespace I2cTopology
namespace Forest

variable {adapters : Array Adapter}

/-! ## The list behind the positions -/

/-- The adapter with the given position. -/
def adapterOf (adapters : Array Adapter) (id : AdapterId) : Adapter :=
  adapters[id]?.getD default

theorem adapterOf_of_getElem? {found : List Adapter} {id : AdapterId} {adapter : Adapter}
    (h : found[id]? = some adapter) : adapterOf found.toArray id = adapter := by
  rw [adapterOf, List.getElem?_toArray, h, Option.getD_some]

theorem getElem?_of_lt {found : List Adapter} {id : AdapterId} (hid : id < found.length) :
    found[id]? = some (adapterOf found.toArray id) := by
  rw [adapterOf, List.getElem?_toArray, List.getElem?_eq_getElem hid, Option.getD_some]

theorem map_adapterOf_range (found : List Adapter) :
    (List.range found.length).map (adapterOf found.toArray) = found := by
  apply List.ext_getElem?
  intro id
  by_cases hid : id < found.length
  · rw [getElem?_of_lt hid, List.getElem?_map, List.getElem?_range hid, Option.map_some]
  · rw [List.getElem?_eq_none (by simpa using hid), List.getElem?_eq_none (by simpa using hid)]

theorem map_nrOf_range (found : List Adapter) :
    (List.range found.toArray.size).map (nrOf found.toArray) = found.map Adapter.nr := by
  calc
    (List.range found.length).map (nrOf found.toArray)
        = ((List.range found.length).map (adapterOf found.toArray)).map Adapter.nr :=
      List.map_map.symm
    _ = found.map Adapter.nr := by rw [map_adapterOf_range]

/-! ## Declared parents -/

/-- The parent that the adapter with the given position reports. -/
def declaredParentOf (adapters : Array Adapter) (id : AdapterId) : DeclaredParent :=
  (adapters[id]?.getD default).declaredParent

/-- The output number of the adapter with the given position, if it is a channel. -/
def channelOf (adapters : Array Adapter) (id : AdapterId) : Option UInt32 :=
  (adapters[id]?.getD default).channel

/-- No two adapters share a kernel id. -/
def DistinctNrs (adapters : Array Adapter) : Prop :=
  ((List.range adapters.size).map (nrOf adapters)).Nodup

/-- One adapter declares the other one as its parent. -/
def HangsOff (adapters : Array Adapter) (child parent : AdapterId) : Prop :=
  child < adapters.size ∧ parent < adapters.size ∧
    declaredParentOf adapters child = .adapter (nrOf adapters parent)

/-- The adapters that declare the given one as their parent, in discovery order. -/
def childrenOf (adapters : Array Adapter) (parent : AdapterId) : List AdapterId :=
  (List.range adapters.size).filter (declares adapters (.adapter (nrOf adapters parent)))

/-- The adapters that declare no parent, in discovery order. -/
def rootsOf (adapters : Array Adapter) : List AdapterId :=
  (List.range adapters.size).filter (declares adapters .root)

/-- The number of adapters with the same declared parent, the same output number and a smaller
kernel id. -/
def ordinalOf (adapters : Array Adapter) (id : AdapterId) : Nat :=
  (List.range adapters.size).countP fun other =>
    declaredParentOf adapters other = declaredParentOf adapters id ∧
      channelOf adapters other = channelOf adapters id ∧ nrOf adapters other < nrOf adapters id

/-- The chain of declared parents above an adapter, nearest first, up to one that declares none. -/
inductive Lineage (adapters : Array Adapter) : AdapterId → List AdapterId → Prop
  | root {id : AdapterId} (hid : id < adapters.size)
      (hroot : declaredParentOf adapters id = .root) : Lineage adapters id []
  | child {id parent : AdapterId} {above : List AdapterId} (hangs : HangsOff adapters id parent)
      (hparent : Lineage adapters parent above) : Lineage adapters id (parent :: above)

/-- The chain of declared parents of the adapter ends at one that declares none. -/
def Rooted (adapters : Array Adapter) (id : AdapterId) : Prop :=
  ∃ above, Lineage adapters id above

theorem declares_iff (parent : DeclaredParent) (id : AdapterId) :
    declares adapters parent id = true ↔ declaredParentOf adapters id = parent := by
  simp [declares, declaredParentOf]

theorem mem_childrenOf {parent : AdapterId} (hparent : parent < adapters.size) (id : AdapterId) :
    id ∈ childrenOf adapters parent ↔ HangsOff adapters id parent := by
  simp only [childrenOf, List.mem_filter, List.mem_range, declares_iff, HangsOff, hparent, true_and]

theorem mem_rootsOf (id : AdapterId) :
    id ∈ rootsOf adapters ↔ id < adapters.size ∧ declaredParentOf adapters id = .root := by
  simp only [rootsOf, List.mem_filter, List.mem_range, declares_iff]

theorem DistinctNrs.inj (hnr : DistinctNrs adapters) {a b : AdapterId} (ha : a < adapters.size)
    (hb : b < adapters.size) (h : nrOf adapters a = nrOf adapters b) : a = b :=
  List.inj_on_of_nodup_map hnr (List.mem_range.mpr ha) (List.mem_range.mpr hb) h

/-- An adapter hangs off one adapter at most. -/
theorem HangsOff.unique (hnr : DistinctNrs adapters) {id a b : AdapterId}
    (ha : HangsOff adapters id a) (hb : HangsOff adapters id b) : a = b := by
  apply hnr.inj ha.2.1 hb.2.1
  have hsame := ha.2.2.symm.trans hb.2.2
  exact DeclaredParent.adapter.inj hsame

theorem not_hangsOff_of_root {id parent : AdapterId}
    (hroot : declaredParentOf adapters id = .root) : ¬ HangsOff adapters id parent := by
  rintro ⟨-, -, hparent⟩
  rw [hroot] at hparent
  contradiction

/-! ## Lineages -/

theorem Lineage.lt_size {id : AdapterId} {above : List AdapterId}
    (h : Lineage adapters id above) : id < adapters.size := by
  cases h with
  | root hid _ => exact hid
  | child hangs _ => exact hangs.1

theorem Lineage.mem_lt_size {id : AdapterId} {above : List AdapterId}
    (h : Lineage adapters id above) {member : AdapterId} (hmember : member ∈ id :: above) :
    member < adapters.size := by
  induction h with
  | root hid _ =>
      obtain rfl := List.mem_singleton.mp hmember
      exact hid
  | child hangs _ ih =>
      rcases List.mem_cons.mp hmember with rfl | habove
      · exact hangs.1
      · exact ih habove

theorem Lineage.unique (hnr : DistinctNrs adapters) {id : AdapterId} {a b : List AdapterId}
    (ha : Lineage adapters id a) (hb : Lineage adapters id b) : a = b := by
  induction ha generalizing b with
  | root hid hroot =>
      cases hb with
      | root _ _ => rfl
      | child hangs _ => exact absurd hangs (not_hangsOff_of_root hroot)
  | child hangs hparent ih =>
      cases hb with
      | root _ hroot => exact absurd hangs (not_hangsOff_of_root hroot)
      | child hangs' hparent' =>
          obtain rfl := hangs.unique hnr hangs'
          rw [ih hparent']

/-- Whoever stands in a lineage has the rest of it as its own lineage. -/
theorem Lineage.of_append {id member : AdapterId} {front back : List AdapterId}
    (h : Lineage adapters id (front ++ member :: back)) : Lineage adapters member back := by
  induction front generalizing id with
  | nil =>
      cases h with
      | child _ hparent => exact hparent
  | cons parent rest ih =>
      cases h with
      | child _ hparent => exact ih hparent

/-- An adapter that declares no parent has nobody above it. -/
theorem Lineage.eq_nil_of_root {id : AdapterId} {above : List AdapterId}
    (h : Lineage adapters id above) (hroot : declaredParentOf adapters id = .root) :
    above = [] := by
  cases h with
  | root _ _ => rfl
  | child hangs _ => exact absurd hangs (not_hangsOff_of_root hroot)

/-- The lineage of a child is its parent and the lineage of its parent. -/
theorem Lineage.eq_cons_of_hangsOff (hnr : DistinctNrs adapters) {id parent : AdapterId}
    {above : List AdapterId} (h : Lineage adapters id above) (hangs : HangsOff adapters id parent) :
    ∃ rest, above = parent :: rest ∧ Lineage adapters parent rest := by
  cases h with
  | root _ hroot => exact absurd hangs (not_hangsOff_of_root hroot)
  | child hangs' hparent =>
      obtain rfl := hangs.unique hnr hangs'
      exact ⟨_, rfl, hparent⟩

/-! ## Ordinals -/

/-- The adapters that the ordinal of an adapter counts. -/
def groupBefore (adapters : Array Adapter) (id : AdapterId) : List AdapterId :=
  (List.range adapters.size).filter fun other =>
    declaredParentOf adapters other = declaredParentOf adapters id ∧
      channelOf adapters other = channelOf adapters id ∧ nrOf adapters other < nrOf adapters id

theorem ordinalOf_eq_length (id : AdapterId) :
    ordinalOf adapters id = (groupBefore adapters id).length :=
  List.countP_eq_length_filter

theorem mem_groupBefore (id other : AdapterId) :
    other ∈ groupBefore adapters id ↔ other < adapters.size ∧
      declaredParentOf adapters other = declaredParentOf adapters id ∧
        channelOf adapters other = channelOf adapters id ∧
          nrOf adapters other < nrOf adapters id := by
  simp only [groupBefore, List.mem_filter, List.mem_range, decide_eq_true_eq]

theorem nodup_groupBefore (id : AdapterId) : (groupBefore adapters id).Nodup :=
  List.nodup_range.filter _

/-- Siblings of one output number with smaller kernel ids are no more than the kernel id says. -/
theorem ordinalOf_le_nrOf (hnr : DistinctNrs adapters) (id : AdapterId) :
    ordinalOf adapters id ≤ (nrOf adapters id).toNat := by
  -- The kernel ids of those counted are distinct numbers below the adapter's own.
  let numbers := (groupBefore adapters id).map fun other => (nrOf adapters other).toNat
  have hnodup : numbers.Nodup := by
    have hnrs : ((groupBefore adapters id).map (nrOf adapters)).Nodup :=
      hnr.sublist (List.filter_sublist.map _)
    have hnats := hnrs.map (f := UInt32.toNat) fun _ _ => UInt32.toNat_inj.mp
    rwa [List.map_map] at hnats
  have hsubset : numbers ⊆ List.range (nrOf adapters id).toNat := by
    intro number hnumber
    obtain ⟨other, hother, rfl⟩ := List.mem_map.mp hnumber
    obtain ⟨-, -, -, hless⟩ := (mem_groupBefore id other).mp hother
    exact List.mem_range.mpr (UInt32.lt_iff_toNat_lt.mp hless)
  calc
    ordinalOf adapters id = numbers.length := by rw [ordinalOf_eq_length, List.length_map]
    _ ≤ (List.range (nrOf adapters id).toNat).length := (hnodup.subperm hsubset).length_le
    _ = (nrOf adapters id).toNat := List.length_range

theorem ordinalOf_lt_size (hnr : DistinctNrs adapters) (id : AdapterId) :
    ordinalOf adapters id < UInt32.size :=
  Nat.lt_of_le_of_lt (ordinalOf_le_nrOf hnr id) (nrOf adapters id).toNat_lt

/-- An ordinal survives being kept as a 32-bit number. -/
theorem toNat_ofNat_ordinalOf (hnr : DistinctNrs adapters) (id : AdapterId) :
    (UInt32.ofNat (ordinalOf adapters id)).toNat = ordinalOf adapters id :=
  UInt32.toNat_ofNat_of_lt' (ordinalOf_lt_size hnr id)

/-- Within a group of siblings that share an output number, ordinals ascend with kernel ids. -/
theorem ordinalOf_lt_of_nrOf_lt {a b : AdapterId} (ha : a < adapters.size)
    (hparent : declaredParentOf adapters a = declaredParentOf adapters b)
    (hchannel : channelOf adapters a = channelOf adapters b)
    (hless : nrOf adapters a < nrOf adapters b) : ordinalOf adapters a < ordinalOf adapters b := by
  -- Whoever `a` counts is counted by `b` as well, and so is `a`, which does not count itself.
  have hself : a ∉ groupBefore adapters a := fun hmem =>
    UInt32.lt_irrefl _ ((mem_groupBefore a a).mp hmem).2.2.2
  have hnodup : (a :: groupBefore adapters a).Nodup :=
    List.nodup_cons.mpr ⟨hself, nodup_groupBefore a⟩
  have hsubset : a :: groupBefore adapters a ⊆ groupBefore adapters b := by
    intro other hother
    rcases List.mem_cons.mp hother with rfl | hbefore
    · exact (mem_groupBefore b other).mpr ⟨ha, hparent, hchannel, hless⟩
    · obtain ⟨hother, hp, hc, hn⟩ := (mem_groupBefore a other).mp hbefore
      exact (mem_groupBefore b other).mpr
        ⟨hother, hp.trans hparent, hc.trans hchannel, UInt32.lt_trans hn hless⟩
  have hlength := (hnodup.subperm hsubset).length_le
  rw [ordinalOf_eq_length, ordinalOf_eq_length]
  exact hlength

/-- Siblings with one output number and one ordinal are one adapter. -/
theorem ordinalOf_injOn (hnr : DistinctNrs adapters) {a b : AdapterId} (ha : a < adapters.size)
    (hb : b < adapters.size) (hparent : declaredParentOf adapters a = declaredParentOf adapters b)
    (hchannel : channelOf adapters a = channelOf adapters b)
    (h : ordinalOf adapters a = ordinalOf adapters b) : a = b := by
  apply hnr.inj ha hb
  apply UInt32.le_antisymm
  · apply UInt32.not_lt.mp
    intro hless
    have hlt := ordinalOf_lt_of_nrOf_lt hb hparent.symm hchannel.symm hless
    omega
  · apply UInt32.not_lt.mp
    intro hless
    have hlt := ordinalOf_lt_of_nrOf_lt ha hparent hchannel hless
    omega

/-! ## Paths -/

/-- The path of an adapter, which stands first, below its lineage. -/
def lineagePath (adapters : Array Adapter) : List AdapterId → String
  | [] => ""
  | [id] => toString (nrOf adapters id)
  | id :: parent :: above =>
    lineagePath adapters (parent :: above) ++ ":" ++
      segment (adapters[id]?.getD default) (ordinalOf adapters id)

/-- The step that leads from its parent to an adapter. -/
def stepOf (adapters : Array Adapter) (id : AdapterId) : PathToken :=
  match channelOf adapters id with
  | some output => .mux (UInt32.ofNat (ordinalOf adapters id)) output
  | none => .bus (nrOf adapters id)

/-- The steps that lead to an adapter, which stands first, down its lineage. -/
def lineageSteps (adapters : Array Adapter) : List AdapterId → List PathToken
  | [] => []
  | [id] => [.bus (nrOf adapters id)]
  | id :: parent :: above => lineageSteps adapters (parent :: above) ++ [stepOf adapters id]

theorem length_lineageSteps (chain : List AdapterId) :
    (lineageSteps adapters chain).length = chain.length := by
  fun_induction lineageSteps adapters chain with
  | case1 => rfl
  | case2 id => rfl
  | case3 id parent above ih => simp [ih]

theorem lineageSteps_ne_nil (id : AdapterId) (above : List AdapterId) :
    lineageSteps adapters (id :: above) ≠ [] := by
  intro hnil
  have hlength := congrArg List.length hnil
  rw [length_lineageSteps, List.length_cons, List.length_nil] at hlength
  omega

theorem isTerminal_stepOf (id : AdapterId) : (stepOf adapters id).isTerminal = false := by
  unfold stepOf
  split <;> rfl

theorem walkable_lineageSteps (chain : List AdapterId) :
    BusPath.Walkable (lineageSteps adapters chain) := by
  fun_induction lineageSteps adapters chain with
  | case1 =>
      intro token hmem
      exact absurd hmem List.not_mem_nil
  | case2 id =>
      intro token hmem
      rw [List.mem_singleton.mp hmem]
      rfl
  | case3 id parent above ih =>
      intro token hmem
      rcases List.mem_append.mp hmem with hfront | hlast
      · exact ih token hfront
      · rw [List.mem_singleton.mp hlast]
        exact isTerminal_stepOf id

/-- A segment is the written form of the step. -/
theorem toList_segment (hnr : DistinctNrs adapters) (id : AdapterId) :
    (segment (adapters[id]?.getD default) (ordinalOf adapters id)).toList =
      (stepOf adapters id).segment := by
  unfold segment stepOf channelOf
  cases (adapters[id]?.getD default).channel with
  | none => exact Numeral.toList_toString _
  | some output =>
      have hdot : (toString "." : String).toList = ['.'] := rfl
      simp only [PathToken.segment, toNat_ofNat_ordinalOf hnr]
      simp [Numeral.toList_toString, Nat.toString_eq_repr, Nat.toList_repr, hdot]

/-- **The text of a path.**  The path of an adapter is the written forms of its steps, joined by
colons. -/
theorem toList_lineagePath (hnr : DistinctNrs adapters) (chain : List AdapterId) :
    (lineagePath adapters chain).toList =
      BusPath.joined ((lineageSteps adapters chain).map PathToken.segment) := by
  fun_induction lineagePath adapters chain with
  | case1 => rfl
  | case2 id => exact Numeral.toList_toString _
  | case3 id parent above ih =>
      have hne : (lineageSteps adapters (parent :: above)).map PathToken.segment ≠ [] := by
        simpa using lineageSteps_ne_nil parent above
      have hlast : [stepOf adapters id].map PathToken.segment ≠ [] := List.cons_ne_nil _ _
      rw [lineageSteps, List.map_append, BusPath.joined_append hne hlast]
      simp [ih, toList_segment hnr, BusPath.joined]

theorem lineagePath_cons {above : List AdapterId} (id : AdapterId) (h : above ≠ []) :
    lineagePath adapters (id :: above) = lineagePath adapters above ++ ":" ++
      segment (adapters[id]?.getD default) (ordinalOf adapters id) := by
  cases above with
  | nil => exact absurd rfl h
  | cons parent rest => rfl

theorem segment_ne_empty (adapter : Adapter) (ordinal : Nat) : segment adapter ordinal ≠ "" := by
  intro hempty
  have hchars := congrArg String.toList hempty
  unfold segment at hchars
  cases hchannel : adapter.channel with
  | none =>
      rw [hchannel] at hchars
      exact Nat.toDigits_ne_nil ((Numeral.toList_toString adapter.nr).symm.trans hchars)
  | some output =>
      rw [hchannel] at hchars
      simp at hchars

/-- The path of a member of a lineage, and of the adapter itself, opens every path below it. -/
theorem lineagePath_append {chain front : List AdapterId} (hfront : front ≠ []) (hchain : chain ≠ []) :
    ∃ rest, rest ≠ "" ∧
      lineagePath adapters (front ++ chain) = lineagePath adapters chain ++ ":" ++ rest := by
  induction front with
  | nil => exact absurd rfl hfront
  | cons id others ih =>
      rw [List.cons_append, lineagePath_cons id (by simp [hchain])]
      by_cases hothers : others = []
      · rw [hothers, List.nil_append]
        exact ⟨_, segment_ne_empty _ _, rfl⟩
      · obtain ⟨rest, -, hrest⟩ := ih hothers
        refine ⟨rest ++ ":" ++ segment (adapters[id]?.getD default) (ordinalOf adapters id), ?_, ?_⟩
        · intro hempty
          have hchars := congrArg String.toList hempty
          simp at hchars
        · rw [hrest]
          simp only [String.append_assoc]

/-- The path of a child is longer than the path of its parent. -/
theorem utf8ByteSize_lineagePath_lt {above : List AdapterId} (id : AdapterId) (h : above ≠ []) :
    (lineagePath adapters above).utf8ByteSize < (lineagePath adapters (id :: above)).utf8ByteSize := by
  rw [lineagePath_cons id h, String.utf8ByteSize_append, String.utf8ByteSize_append]
  have hcolon : (":" : String).utf8ByteSize = 1 := rfl
  omega

theorem lineagePath_ne_empty (id : AdapterId) (above : List AdapterId) :
    lineagePath adapters (id :: above) ≠ "" := by
  intro hempty
  by_cases h : above = []
  · have hchars := congrArg String.toList hempty
    rw [h, lineagePath, Numeral.toList_toString] at hchars
    exact Nat.toDigits_ne_nil hchars
  · have hlonger := @utf8ByteSize_lineagePath_lt adapters above id h
    rw [hempty] at hlonger
    simp at hlonger

/-! ## Lineages and steps -/

/-- Siblings that the same step leads to are one adapter. -/
theorem stepOf_injOn (hnr : DistinctNrs adapters) {a b parent : AdapterId}
    (ha : HangsOff adapters a parent) (hb : HangsOff adapters b parent)
    (h : stepOf adapters a = stepOf adapters b) : a = b := by
  have hparent := ha.2.2.trans hb.2.2.symm
  unfold stepOf at h
  cases hca : channelOf adapters a with
  | none =>
      cases hcb : channelOf adapters b with
      | none =>
          simp only [hca, hcb, PathToken.bus.injEq] at h
          exact hnr.inj ha.1 hb.1 h
      | some output => simp [hca, hcb] at h
  | some output =>
      cases hcb : channelOf adapters b with
      | none => simp [hca, hcb] at h
      | some output' =>
          simp only [hca, hcb, PathToken.mux.injEq] at h
          have hordinals := congrArg UInt32.toNat h.1
          rw [toNat_ofNat_ordinalOf hnr, toNat_ofNat_ordinalOf hnr] at hordinals
          exact ordinalOf_injOn hnr ha.1 hb.1 hparent (by rw [hca, hcb, h.2]) hordinals

/-- Steps lead to one adapter at most. -/
theorem Lineage.eq_of_steps_eq (hnr : DistinctNrs adapters) {a b : AdapterId}
    {aboveA aboveB : List AdapterId} (ha : Lineage adapters a aboveA)
    (hb : Lineage adapters b aboveB)
    (h : lineageSteps adapters (a :: aboveA) = lineageSteps adapters (b :: aboveB)) : a = b := by
  induction ha generalizing b aboveB with
  | @root a hid hroot =>
      have hlength := congrArg List.length h
      rw [length_lineageSteps, length_lineageSteps] at hlength
      cases hb with
      | root hid' hroot' =>
          simp only [lineageSteps, List.cons.injEq, PathToken.bus.injEq, and_true] at h
          exact hnr.inj hid hid' h
      | child _ _ => simp at hlength
  | @child a parent above hangs hparent ih =>
      have hlength := congrArg List.length h
      rw [length_lineageSteps, length_lineageSteps] at hlength
      cases hb with
      | root _ _ => simp at hlength
      | child hangs' hparent' =>
          obtain ⟨hinit, hlast⟩ := List.append_inj' h rfl
          obtain rfl := ih hparent' hinit
          exact stepOf_injOn hnr hangs hangs' (List.cons.inj hlast).1

/-- An adapter whose steps open the steps to another one is that one or stands in its lineage. -/
theorem Lineage.mem_of_steps_prefix (hnr : DistinctNrs adapters) {a b : AdapterId}
    {aboveA aboveB : List AdapterId} (ha : Lineage adapters a aboveA)
    (hb : Lineage adapters b aboveB)
    (h : lineageSteps adapters (a :: aboveA) <+: lineageSteps adapters (b :: aboveB)) :
    a ∈ b :: aboveB := by
  -- The last step to `b` is its own: a shorter prefix opens the steps to its parent.
  induction hb with
  | @root b hid hroot =>
      change _ <+: [] ++ [PathToken.bus (nrOf adapters b)] at h
      rcases List.prefix_concat_iff.mp h with heq | hshort
      · rw [ha.eq_of_steps_eq hnr (Lineage.root hid hroot) heq]
        exact List.mem_cons_self
      · exact absurd (List.prefix_nil.mp hshort) (lineageSteps_ne_nil a aboveA)
  | @child b parent above hangs hparent ih =>
      rw [lineageSteps] at h
      rcases List.prefix_concat_iff.mp h with heq | hshort
      · have hchild := Lineage.child hangs hparent
        rw [ha.eq_of_steps_eq hnr hchild heq]
        exact List.mem_cons_self
      · exact List.mem_cons_of_mem b (ih hshort)

end Forest
end I2cTopology
