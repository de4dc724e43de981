import I2cTopology.Forest.Build
import Mathlib.Data.List.Basic
import Mathlib.Data.List.Nodup
import Mathlib.Data.List.NodupEquivFin
import Mathlib.Order.Bounds.Defs
import Mathlib.Tactic.Common

/-!
# Kernel ids in order

Sorting by kernel id, finding a kernel id that occurs twice and looking one up by binary search, taken
together:

* `build_eq_error_iff`: indexing fails exactly with the smallest kernel id that occurs twice.
* `build_eq_ok_iff`: it succeeds exactly if no kernel id does, and the entries are the sorted ones.
* `lookup?_eq_some_iff`: looking up finds exactly the indexed adapters.
* `build_selection`: all of this for a selection of the adapters that were found.
-/

namespace I2cTopology

/-- Among items with distinct keys, an item is found by its key. -/
theorem find?_key_eq_some {α κ : Type} [BEq κ] [LawfulBEq κ] {key : α → κ} {items : List α} {item : α}
    (hnodup : (items.map key).Nodup) (hitem : item ∈ items) :
    items.find? (fun other => key other == key item) = some item := by
  cases hfind : items.find? fun other => key other == key item with
  | none => exact absurd (beq_self_eq_true (key item)) (List.find?_eq_none.mp hfind item hitem)
  | some other =>
    have hkey : key other = key item := by simpa using List.find?_some hfind
    rw [List.inj_on_of_nodup_map hnodup (List.mem_of_find?_eq_some hfind) hitem hkey]

/-! ## Lists sorted by kernel id -/

section Sorting

variable {α : Type} (key : α → UInt32)

theorem pairwise_le_mergeSort_key {κ : Type} [LE κ] [DecidableLE κ] [Std.IsLinearPreorder κ]
    (key : α → κ) (items : List α) :
    (items.mergeSort fun a b => key a ≤ key b).Pairwise fun a b => key a ≤ key b := by
  have hsorted := @List.pairwise_mergeSort α (fun a b => decide (key a ≤ key b))
    (fun a b c hab hbc => by
      simp only [decide_eq_true_eq] at hab hbc ⊢
      exact Std.le_trans hab hbc)
    (fun a b => by
      simpa only [Bool.or_eq_true, decide_eq_true_eq] using Std.le_total)
    items
  exact hsorted.imp of_decide_eq_true

/-- Sorted items with distinct kernel ids are in strictly ascending order. -/
theorem pairwise_lt_of_nodup {items : List α} (hsorted : items.Pairwise fun a b => key a ≤ key b)
    (hnodup : (items.map key).Nodup) : items.Pairwise fun a b => key a < key b :=
  hsorted.imp₂ (fun _ _ hle hne => UInt32.lt_of_le_of_ne hle hne) (List.pairwise_map.mp hnodup)

theorem nodup_of_pairwise_lt {items : List α}
    (hsorted : items.Pairwise fun a b => key a < key b) : (items.map key).Nodup :=
  List.pairwise_map.mpr (hsorted.imp UInt32.ne_of_lt)

end Sorting

namespace KernelIndex

/-! ## The smallest repeated kernel id -/

/-- The entries are in ascending order of their kernel ids. -/
def Sorted (entries : List (UInt32 × AdapterId)) : Prop :=
  entries.Pairwise fun a b => a.1 ≤ b.1

/-- The kernel id that a sorted list is found to repeat occurs twice in it, and no smaller one
does. -/
theorem repeated?_eq_some {entries : List (UInt32 × AdapterId)} (hsorted : Sorted entries)
    {nr : UInt32} (h : repeated? entries = some nr) :
    2 ≤ (entries.map Prod.fst).count nr ∧
      ∀ other, 2 ≤ (entries.map Prod.fst).count other → nr ≤ other := by
  fun_induction repeated? entries with
  | case1 id₁ a id₂ rest =>
      obtain rfl : a = nr := Option.some.inj h
      refine ⟨by simp, ?_⟩
      intro other hother
      have hmem : other ∈ ((a, id₁) :: (a, id₂) :: rest).map Prod.fst :=
        List.count_pos_iff.mp (by omega)
      rcases List.mem_cons.mp hmem with rfl | htail
      · exact UInt32.le_refl other
      · obtain ⟨entry, hentry, rfl⟩ := List.mem_map.mp htail
        exact (List.pairwise_cons.mp hsorted).1 entry hentry
  | case2 a id₁ b id₂ rest hne ih =>
      obtain ⟨hhead, htail⟩ := List.pairwise_cons.mp hsorted
      obtain ⟨htwice, hleast⟩ := ih htail h
      rw [List.map_cons]
      refine ⟨Nat.le_trans htwice List.count_le_count_cons, ?_⟩
      intro other hother
      by_cases hoa : other = a
      · -- The head differs from its neighbour, so it is below everything after it.
        have hmem : other ∈ ((b, id₂) :: rest).map Prod.fst := by
          rw [hoa, List.count_cons_self] at hother
          exact List.count_pos_iff.mp (hoa ▸ by omega)
        obtain ⟨entry, hentry, hkey⟩ := List.mem_map.mp hmem
        have hb : b ≤ entry.1 := by
          rcases List.mem_cons.mp hentry with rfl | hrest
          · exact UInt32.le_refl b
          · exact (List.pairwise_cons.mp htail).1 entry hrest
        have hab : a ≤ b := hhead (b, id₂) List.mem_cons_self
        rw [hkey, hoa] at hb
        exact absurd (UInt32.le_antisymm hab hb) hne
      · rw [List.count_cons_of_ne (Ne.symm hoa)] at hother
        exact hleast other hother
  | case3 entries hshort => exact absurd h (by simp)

/-- A sorted list that is found to repeat nothing is in strictly ascending order. -/
theorem pairwise_lt_of_repeated?_eq_none {entries : List (UInt32 × AdapterId)}
    (hsorted : Sorted entries) (h : repeated? entries = none) :
    entries.Pairwise fun a b => a.1 < b.1 := by
  fun_induction repeated? entries with
  | case1 id₁ a id₂ rest => exact absurd h (by simp)
  | case2 a id₁ b id₂ rest hne ih =>
      obtain ⟨hhead, htail⟩ := List.pairwise_cons.mp hsorted
      have hstrict := ih htail h
      have hab : a < b := UInt32.lt_of_le_of_ne (hhead (b, id₂) List.mem_cons_self) hne
      refine List.pairwise_cons.mpr ⟨?_, hstrict⟩
      intro entry hentry
      rcases List.mem_cons.mp hentry with rfl | hrest
      · exact hab
      · exact UInt32.lt_trans hab ((List.pairwise_cons.mp hstrict).1 entry hrest)
  | case3 entries hshort =>
      match entries, hshort with
      | [], _ => exact List.Pairwise.nil
      | [entry], _ => exact List.pairwise_singleton _ entry
      | (a, _) :: (b, id) :: rest, hshort => exact absurd rfl (hshort a _ b id rest)

/-! ## Building -/

section Building

variable (nrOf : AdapterId → UInt32) (ids : List AdapterId)

/-- The entries of an index before it is looked whether a kernel id repeats. -/
def sortedEntries : List (UInt32 × AdapterId) :=
  (ids.map fun id => (nrOf id, id)).mergeSort fun a b => a.1 ≤ b.1

/-- An index holds the sorted entries, unless they repeat a kernel id. -/
theorem build_eq : build nrOf ids = match repeated? (sortedEntries nrOf ids) with
    | some nr => .error nr
    | none => .ok ⟨(sortedEntries nrOf ids).toArray⟩ := rfl

theorem sortedEntries_perm : (sortedEntries nrOf ids).Perm (ids.map fun id => (nrOf id, id)) :=
  List.mergeSort_perm _ _

theorem sorted_sortedEntries : Sorted (sortedEntries nrOf ids) :=
  pairwise_le_mergeSort_key Prod.fst _

theorem map_fst_sortedEntries_perm :
    ((sortedEntries nrOf ids).map Prod.fst).Perm (ids.map nrOf) := by
  have hkeys := (sortedEntries_perm nrOf ids).map Prod.fst
  rwa [List.map_map] at hkeys

theorem map_snd_sortedEntries_perm : ((sortedEntries nrOf ids).map Prod.snd).Perm ids := by
  have hids := (sortedEntries_perm nrOf ids).map Prod.snd
  rw [List.map_map] at hids
  exact hids.trans (.of_eq (List.map_id ids))

/-- Every entry has the kernel id of its adapter. -/
theorem fst_of_mem_sortedEntries {entry : UInt32 × AdapterId}
    (h : entry ∈ sortedEntries nrOf ids) : entry.1 = nrOf entry.2 := by
  obtain ⟨id, -, rfl⟩ := List.mem_map.mp ((sortedEntries_perm nrOf ids).mem_iff.mp h)
  rfl

variable {nrOf ids} in
/-- If no kernel id occurs twice, the entries are in strictly ascending order. -/
theorem pairwise_lt_sortedEntries (hnodup : (ids.map nrOf).Nodup) :
    (sortedEntries nrOf ids).Pairwise fun a b => a.1 < b.1 :=
  pairwise_lt_of_nodup Prod.fst (sorted_sortedEntries nrOf ids)
    ((map_fst_sortedEntries_perm nrOf ids).nodup_iff.mpr hnodup)

theorem repeated?_sortedEntries_eq_none_iff :
    repeated? (sortedEntries nrOf ids) = none ↔ (ids.map nrOf).Nodup := by
  constructor
  · intro hnone
    have hstrict := pairwise_lt_of_repeated?_eq_none (sorted_sortedEntries nrOf ids) hnone
    exact (map_fst_sortedEntries_perm nrOf ids).nodup_iff.mp (nodup_of_pairwise_lt _ hstrict)
  · intro hnodup
    cases hrepeated : repeated? (sortedEntries nrOf ids) with
    | none => rfl
    | some nr =>
        have htwice := (repeated?_eq_some (sorted_sortedEntries nrOf ids) hrepeated).1
        rw [(map_fst_sortedEntries_perm nrOf ids).count_eq] at htwice
        have honce := List.nodup_iff_count_le_one.mp hnodup nr
        omega

/-- **When an index is built.**  It is built exactly if no kernel id occurs twice, and then holds the
sorted entries. -/
theorem build_eq_ok_iff (index : KernelIndex) :
    build nrOf ids = .ok index ↔
      (ids.map nrOf).Nodup ∧ index = ⟨(sortedEntries nrOf ids).toArray⟩ := by
  rw [← repeated?_sortedEntries_eq_none_iff, build_eq]
  cases repeated? (sortedEntries nrOf ids) with
  | none => simp [eq_comm]
  | some nr => simp

/-- **When an index is refused.**  The error is the smallest kernel id that occurs twice. -/
theorem build_eq_error_iff (nr : UInt32) :
    build nrOf ids = .error nr ↔
      2 ≤ (ids.map nrOf).count nr ∧ ∀ other, 2 ≤ (ids.map nrOf).count other → nr ≤ other := by
  have hcount := (map_fst_sortedEntries_perm nrOf ids).count_eq
  rw [build_eq]
  cases hrepeated : repeated? (sortedEntries nrOf ids) with
  | none =>
      have hnodup := (repeated?_sortedEntries_eq_none_iff nrOf ids).mp hrepeated
      have honce := List.nodup_iff_count_le_one.mp hnodup nr
      refine ⟨fun h => by simp at h, fun h => ?_⟩
      omega
  | some found =>
      obtain ⟨htwice, hleast⟩ := repeated?_eq_some (sorted_sortedEntries nrOf ids) hrepeated
      simp only [hcount] at htwice hleast
      simp only [Except.error.injEq]
      constructor
      · rintro rfl
        exact ⟨htwice, hleast⟩
      · rintro ⟨hnr, hnrLeast⟩
        exact UInt32.le_antisymm (hleast nr hnr) (hnrLeast found htwice)

end Building

/-! ## Looking up -/

section Searching

variable {entries : Array (UInt32 × AdapterId)}

/-- Among entries in strictly ascending order, positions compare as kernel ids do. -/
theorem lt_iff_of_getElem? (hstrict : entries.toList.Pairwise fun a b => a.1 < b.1)
    {i j : Nat} {a b : UInt32 × AdapterId} (ha : entries[i]? = some a)
    (hb : entries[j]? = some b) : i < j ↔ a.1 < b.1 := by
  obtain ⟨hi, rfl⟩ := Array.getElem?_eq_some_iff.mp ha
  obtain ⟨hj, rfl⟩ := Array.getElem?_eq_some_iff.mp hb
  have hascending := List.pairwise_iff_getElem.mp hstrict
  constructor
  · exact hascending i j hi hj
  · intro hless
    rcases Nat.lt_trichotomy i j with hlt | rfl | hgt
    · exact hlt
    · exact absurd hless (UInt32.lt_irrefl _)
    · exact absurd hless (UInt32.lt_asymm (hascending j i hj hi hgt))

/-- Among entries in strictly ascending order, the binary search finds exactly the entry between its
bounds that has the kernel id. -/
theorem search_eq_some_iff (hstrict : entries.toList.Pairwise fun a b => a.1 < b.1)
    (nr : UInt32) (low high : Nat) (hhigh : high ≤ entries.size) (id : AdapterId) :
    search entries nr low high = some id ↔
      ∃ position, low ≤ position ∧ position < high ∧ entries[position]? = some (nr, id) := by
  fun_induction search entries nr low high with
  | case1 low high hlt middle hnone =>
      have hmiddle : middle < entries.size := by
        simp only [middle]
        omega
      simp [hmiddle] at hnone
  | case2 low high hlt middle key found hentry hless ih =>
      rw [ih hhigh]
      constructor
      · rintro ⟨position, hlow, hposition⟩
        exact ⟨position, by simp only [middle] at hlow; omega, hposition⟩
      · rintro ⟨position, -, hbelow, hposition⟩
        -- The entry at the middle has a smaller kernel id, so what is sought stands behind it.
        have hbeyond : middle < position := (lt_iff_of_getElem? hstrict hentry hposition).mpr hless
        exact ⟨position, hbeyond, hbelow, hposition⟩
  | case3 low high hlt middle key found hentry hnless hgreater ih =>
      rw [ih (by simp only [middle]; omega)]
      constructor
      · rintro ⟨position, hlow, hbelow, hposition⟩
        exact ⟨position, hlow, by simp only [middle] at hbelow; omega, hposition⟩
      · rintro ⟨position, hlow, -, hposition⟩
        have hbefore : position < middle :=
          (lt_iff_of_getElem? hstrict hposition hentry).mpr hgreater
        exact ⟨position, hlow, hbefore, hposition⟩
  | case4 low high hlt middle key found hentry hnless hngreater =>
      have hkey : key = nr :=
        UInt32.le_antisymm (UInt32.not_lt.mp hngreater) (UInt32.not_lt.mp hnless)
      constructor
      · intro h
        refine ⟨middle, by simp only [middle]; omega, by simp only [middle]; omega, ?_⟩
        rw [hentry, hkey, Option.some.inj h]
      · rintro ⟨position, -, -, hposition⟩
        have hnotBefore := mt (lt_iff_of_getElem? hstrict hposition hentry).mp hngreater
        have hnotBehind := mt (lt_iff_of_getElem? hstrict hentry hposition).mp hnless
        have hposition_eq : position = middle := by omega
        rw [hposition_eq, hentry] at hposition
        simp only [Option.some.injEq, Prod.mk.injEq] at hposition ⊢
        exact hposition.2
  | case5 low high hge =>
      simp only [reduceCtorEq, false_iff, not_exists]
      rintro position ⟨hlow, hbelow, -⟩
      omega

end Searching

section Contents

variable {nrOf : AdapterId → UInt32} {ids : List AdapterId} {index : KernelIndex}

/-- **What an index finds.**  Looking up a kernel id gives an adapter exactly if the adapter was
indexed and has that kernel id. -/
theorem lookup?_eq_some_iff (hbuild : build nrOf ids = .ok index) (nr : UInt32) (id : AdapterId) :
    index.lookup? nr = some id ↔ id ∈ ids ∧ nrOf id = nr := by
  obtain ⟨hnodup, rfl⟩ := (build_eq_ok_iff nrOf ids index).mp hbuild
  have hstrict : (sortedEntries nrOf ids).toArray.toList.Pairwise fun a b => a.1 < b.1 :=
    pairwise_lt_sortedEntries hnodup
  rw [lookup?, search_eq_some_iff hstrict nr 0 _ (Nat.le_refl _)]
  have hmem : (nr, id) ∈ sortedEntries nrOf ids ↔ id ∈ ids ∧ nrOf id = nr := by
    rw [(sortedEntries_perm nrOf ids).mem_iff, List.mem_map]
    simp [and_comm]
  rw [← hmem, List.mem_iff_getElem?]
  constructor
  · rintro ⟨position, -, -, hposition⟩
    exact ⟨position, by simpa using hposition⟩
  · rintro ⟨position, hposition⟩
    obtain ⟨hlt, -⟩ := List.getElem?_eq_some_iff.mp hposition
    exact ⟨position, Nat.zero_le _, by simpa using hlt, by simpa using hposition⟩

/-- An index lists the adapters that were indexed, each as often as it was given. -/
theorem toList_perm (hbuild : build nrOf ids = .ok index) : index.toList.Perm ids := by
  obtain ⟨-, rfl⟩ := (build_eq_ok_iff nrOf ids index).mp hbuild
  exact map_snd_sortedEntries_perm nrOf ids

/-- An index lists its adapters by ascending kernel id. -/
theorem pairwise_lt_toList (hbuild : build nrOf ids = .ok index) :
    index.toList.Pairwise fun a b => nrOf a < nrOf b := by
  obtain ⟨hnodup, rfl⟩ := (build_eq_ok_iff nrOf ids index).mp hbuild
  refine List.pairwise_map.mpr ((pairwise_lt_sortedEntries hnodup).imp_of_mem ?_)
  intro a b ha hb hlt
  rwa [fst_of_mem_sortedEntries nrOf ids ha, fst_of_mem_sortedEntries nrOf ids hb] at hlt

end Contents

/-! ## Selections of the adapters that were found -/

section Selections

open Forest (nrOf)

variable {found : List Adapter} {ids : List AdapterId} {nr : UInt32}

/-- The adapter at this position of the list has this kernel id. -/
def HasNr (found : List Adapter) (id : AdapterId) (nr : UInt32) : Prop :=
  ∃ adapter, found[id]? = some adapter ∧ adapter.nr = nr

/-- Two positions of a selection show this kernel id.  They may show the same adapter. -/
def Shared (found : List Adapter) (ids : List AdapterId) (nr : UInt32) : Prop :=
  ∃ i j : Nat, i < j ∧ ∃ first second, ids[i]? = some first ∧ ids[j]? = some second ∧
    HasNr found first nr ∧ HasNr found second nr

/-- The index holds the selected adapters and nothing else, and finds each by its kernel id. -/
structure Indexes (found : List Adapter) (ids : List AdapterId) (index : KernelIndex) : Prop where
  perm : index.toList.Perm ids
  ascending : (index.toList.map (nrOf found.toArray)).Pairwise (· < ·)
  finds : ∀ nr id, index.lookup? nr = some id ↔ id ∈ ids ∧ HasNr found id nr

theorem hasNr_iff {id : AdapterId} (hid : id < found.length) :
    HasNr found id nr ↔ nrOf found.toArray id = nr := by
  have hfound : found[id]? = some found[id] := List.getElem?_eq_getElem hid
  simp only [HasNr, nrOf, List.getElem?_toArray, hfound, Option.some.injEq, exists_eq_left',
    Option.getD_some]

/-- Two positions show a kernel id exactly if it is there twice. -/
theorem shared_iff (hids : ∀ id ∈ ids, id < found.length) :
    Shared found ids nr ↔ List.Duplicate nr (ids.map (nrOf found.toArray)) := by
  have hshows (i : Nat) : (∃ id, ids[i]? = some id ∧ HasNr found id nr) ↔
      (ids.map (nrOf found.toArray))[i]? = some nr := by
    rw [List.getElem?_map, Option.map_eq_some_iff]
    refine exists_congr fun id => and_congr_right fun hid => ?_
    exact hasNr_iff (hids id (List.mem_of_getElem? hid))
  rw [List.duplicate_iff_exists_distinct_get]
  constructor
  · rintro ⟨i, j, hij, first, second, hfirst, hsecond, hfirstNr, hsecondNr⟩
    obtain ⟨hi, hinr⟩ := List.getElem?_eq_some_iff.mp ((hshows i).mp ⟨first, hfirst, hfirstNr⟩)
    obtain ⟨hj, hjnr⟩ := List.getElem?_eq_some_iff.mp ((hshows j).mp ⟨second, hsecond, hsecondNr⟩)
    exact ⟨⟨i, hi⟩, ⟨j, hj⟩, hij, hinr.symm, hjnr.symm⟩
  · rintro ⟨i, j, hij, hinr, hjnr⟩
    obtain ⟨first, hfirst, hfirstNr⟩ :=
      (hshows i).mpr (List.getElem?_eq_some_iff.mpr ⟨i.isLt, hinr.symm⟩)
    obtain ⟨second, hsecond, hsecondNr⟩ :=
      (hshows j).mpr (List.getElem?_eq_some_iff.mpr ⟨j.isLt, hjnr.symm⟩)
    exact ⟨i, j, hij, first, second, hfirst, hsecond, hfirstNr, hsecondNr⟩

theorem exists_shared_iff (hids : ∀ id ∈ ids, id < found.length) :
    (∃ nr, Shared found ids nr) ↔ ¬ (ids.map (nrOf found.toArray)).Nodup := by
  simp only [shared_iff hids, List.exists_duplicate_iff_not_nodup]

/-- **Indexing a selection.**  Of the adapters that were found, some are selected by their positions, in any
order.  Indexing them fails exactly if two positions show the same kernel id, and then with the smallest
such kernel id.  Otherwise the index lists the selected adapters in strictly ascending order of their kernel
ids, and looking up a kernel id finds the selected adapter that has it, if there is one. -/
theorem build_selection (found : List Adapter) (ids : List AdapterId)
    (hids : ∀ id ∈ ids, id < found.length) :
    ((∃ nr, build (nrOf found.toArray) ids = .error nr) ↔ ∃ nr, Shared found ids nr) ∧
    (∀ nr, build (nrOf found.toArray) ids = .error nr ↔ IsLeast {nr | Shared found ids nr} nr) ∧
    ((¬ ∃ nr, Shared found ids nr) →
      ∃ index, build (nrOf found.toArray) ids = .ok index ∧ Indexes found ids index) := by
  have herror (nr : UInt32) :
      build (nrOf found.toArray) ids = .error nr ↔ IsLeast {nr | Shared found ids nr} nr := by
    rw [build_eq_error_iff]
    simp only [← List.duplicate_iff_two_le_count, ← shared_iff hids]
    rfl
  refine ⟨⟨?_, ?_⟩, herror, ?_⟩
  · rintro ⟨nr, hbuild⟩
    exact ⟨nr, ((herror nr).mp hbuild).1⟩
  · intro hshared
    cases hbuild : build (nrOf found.toArray) ids with
    | error nr => exact ⟨nr, rfl⟩
    | ok index =>
      have hnodup := ((build_eq_ok_iff _ _ _).mp hbuild).1
      exact absurd hnodup ((exists_shared_iff hids).mp hshared)
  · intro hdistinct
    have hnodup := not_not.mp (mt (exists_shared_iff hids).mpr hdistinct)
    obtain ⟨index, hbuild⟩ : ∃ index, build (nrOf found.toArray) ids = .ok index :=
      ⟨_, (build_eq_ok_iff _ _ _).mpr ⟨hnodup, rfl⟩⟩
    refine ⟨index, hbuild, toList_perm hbuild, List.pairwise_map.mpr (pairwise_lt_toList hbuild), ?_⟩
    intro nr id
    rw [lookup?_eq_some_iff hbuild]
    exact and_congr_right fun hid => (hasNr_iff (hids id hid)).symm

/-- Four adapters, two of which have the same kernel id. -/
def twins : List Adapter :=
  [9, 2, 14, 2].map fun nr => { nr := nr, declaredParent := .root }

/-- A selection with both twins is refused for their kernel id.  With one of them left out, the other one is
found by it. -/
theorem build_selection_twins :
    (∀ id ∈ [1, 0, 3], id < twins.length) ∧
    build (nrOf twins.toArray) [1, 0, 3] = .error 2 ∧
    (∀ id ∈ [2, 0, 3], id < twins.length) ∧
    ∃ index, build (nrOf twins.toArray) [2, 0, 3] = .ok index ∧ Indexes twins [2, 0, 3] index ∧
      index.lookup? 2 = some 3 ∧ index.lookup? 4 = none := by
  have hboth : ∀ id ∈ [1, 0, 3], id < twins.length := by decide
  have hone : ∀ id ∈ [2, 0, 3], id < twins.length := by decide
  have hshared : Shared twins [1, 0, 3] 2 :=
    ⟨0, 2, by decide, 1, 3, rfl, rfl, ⟨_, rfl, rfl⟩, ⟨_, rfl, rfl⟩⟩
  have hleast : IsLeast {nr | Shared twins [1, 0, 3] nr} 2 := by
    refine ⟨hshared, fun nr hnr => ?_⟩
    have hmem : nr ∈ ([2, 9, 2] : List UInt32) := ((shared_iff hboth).mp hnr).mem
    simp only [List.mem_cons, List.not_mem_nil, or_false] at hmem
    rcases hmem with rfl | rfl | rfl <;> decide
  have hdistinct : ¬ ∃ nr, Shared twins [2, 0, 3] nr := by
    rw [exists_shared_iff hone]
    decide
  obtain ⟨-, hrefused, -⟩ := build_selection twins [1, 0, 3] hboth
  obtain ⟨index, hbuild, hindex⟩ := (build_selection twins [2, 0, 3] hone).2.2 hdistinct
  refine ⟨hboth, (hrefused 2).mpr hleast, hone, index, hbuild, hindex, ?_, ?_⟩
  · exact (hindex.finds 2 3).mpr ⟨by decide, _, rfl, rfl⟩
  · refine Option.eq_none_iff_forall_ne_some.mpr fun id hfound => ?_
    obtain ⟨hid, hnr⟩ := (hindex.finds 4 id).mp hfound
    have hother : ∀ id ∈ [2, 0, 3], nrOf twins.toArray id ≠ 4 := by decide
    exact hother id hid ((hasNr_iff (hone id hid)).mp hnr)

end Selections

end KernelIndex
end I2cTopology
