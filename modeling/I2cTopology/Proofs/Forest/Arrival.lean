import I2cTopology.Proofs.Forest.Embedding
import I2cTopology.Proofs.Forest.WellFormed

/-!
# One more adapter

An adapter that is found in addition, and that nobody waits for, changes little.  It comes before those
of its siblings that share its output number and have larger kernel ids; their ordinals grow by one, and
with them one segment of every path at or below them.  A path that has become too long for that is given
up.  All other adapters keep their places and their paths.

* `Lineage.declaredParentOf_ne`: nobody has a sibling above it, so one segment of a path changes at most.
* `ordinalOf_insert`: whose ordinals grow.
* `path_insert`: the paths at or below a sibling that moves on.
* `build_insert`: what remains of a forest, and what changes.
-/

namespace I2cTopology
namespace Forest

open Relation (TransGen ReflTransGen)

variable {adapters : Array Adapter}

/-! ## The way up -/

/-- Those on the way up from an adapter are those to whom declared parents lead, and it itself. -/
theorem Lineage.mem_cons_iff (hnr : DistinctNrs adapters) {id : AdapterId} {above : List AdapterId}
    (h : Lineage adapters id above) (member : AdapterId) :
    member ∈ id :: above ↔ ReflTransGen (HangsOff adapters) id member := by
  rw [List.mem_cons, h.mem_iff hnr, Relation.reflTransGen_iff_eq_or_transGen]

/-- Nobody on the way up from an adapter hangs off it. -/
theorem Lineage.not_hangsOff_of_mem (hnr : DistinctNrs adapters) {id : AdapterId}
    {above : List AdapterId} (h : Lineage adapters id above) {member : AdapterId}
    (hmember : member ∈ id :: above) : ¬ HangsOff adapters member id := by
  intro hangs
  have hway := (h.mem_cons_iff hnr member).mp hmember
  exact Rooted.not_onCircle hnr ⟨above, h⟩ (TransGen.tail' hway hangs)

/-- Nobody has a sibling above it: the sibling would hang off the parent, which stands below it. -/
theorem Lineage.declaredParentOf_ne (hnr : DistinctNrs adapters) {id parent : AdapterId}
    {above : List AdapterId} (hangs : HangsOff adapters id parent)
    (hparent : Lineage adapters parent above) {member : AdapterId}
    (hmember : member ∈ parent :: above) :
    declaredParentOf adapters member ≠ declaredParentOf adapters id := by
  intro hsame
  apply hparent.not_hangsOff_of_mem hnr hmember
  exact ⟨hparent.mem_lt_size hmember, hangs.2.1, hsame.trans hangs.2.2⟩

/-! ## Positions after an arrival -/

/-- The position of an adapter after another one was found at the given position. -/
def shift (position id : Nat) : Nat :=
  if id < position then id else id + 1

/-- The two are channels of one parent and of one output number, and the first one has the smaller
kernel id. -/
structure Precedes (one other : Adapter) : Prop where
  parent : ∃ nr, one.declaredParent = .adapter nr ∧ other.declaredParent = .adapter nr
  channel : ∃ output, one.channel = some output ∧ other.channel = some output
  nr_lt : one.nr < other.nr

section Arrival

variable {found : List Adapter} {arrival : Adapter} {position : Nat}

theorem getElem?_insertIdx_shift (id : Nat) :
    (found.insertIdx position arrival)[shift position id]? = found[id]? := by
  rw [List.getElem?_insertIdx, shift]
  by_cases hbefore : id < position
  · rw [if_pos hbefore, if_pos hbefore]
  · have hbehind : ¬ id + 1 < position := by omega
    have hother : id + 1 ≠ position := by omega
    rw [if_neg hbefore, if_neg hbehind, if_neg hother, Nat.add_sub_cancel]

theorem adapterOf_shift (id : AdapterId) :
    adapterOf (found.insertIdx position arrival).toArray (shift position id) =
      adapterOf found.toArray id := by
  rw [adapterOf, adapterOf, List.getElem?_toArray, List.getElem?_toArray, getElem?_insertIdx_shift]

theorem adapterOf_insertIdx_self (hposition : position ≤ found.length) :
    adapterOf (found.insertIdx position arrival).toArray position = arrival := by
  apply adapterOf_of_getElem?
  rw [List.getElem?_insertIdx, if_neg (Nat.lt_irrefl _), if_pos rfl, if_pos hposition]

/-- Nobody's parent changes, because nobody declares the arrival as the parent. -/
theorem embeds_insert (hposition : position ≤ found.length)
    (hundeclared : ∀ adapter ∈ found, adapter.declaredParent ≠ .adapter arrival.nr) :
    Embeds (shift position) found.toArray (found.insertIdx position arrival).toArray := by
  have hsize : (found.insertIdx position arrival).toArray.size = found.length + 1 := by
    rw [List.size_toArray, List.length_insertIdx, if_pos hposition]
  have hrange : ∀ id : Nat, id < found.length → shift position id < found.length + 1 := by
    intro id hid
    rw [shift]
    split <;> omega
  have honto : ∀ above : Nat, above < found.length + 1 → above ≠ position →
      ∃ id < found.length, shift position id = above := by
    intro above habove hother
    by_cases hbefore : above < position
    · exact ⟨above, by omega, by rw [shift, if_pos hbefore]⟩
    · refine ⟨above - 1, by omega, ?_⟩
      rw [shift, if_neg (by omega)]
      omega
  apply embeds_of_same_adapters
  · intro id hid
    rw [hsize]
    exact hrange id hid
  · exact fun id _ => adapterOf_shift id
  · intro child hchild above habove hdeclared
    rw [hsize] at habove
    apply honto above habove
    rintro rfl
    have hmem : adapterOf found.toArray child ∈ found :=
      List.mem_of_getElem? (getElem?_of_lt hchild)
    have hnr : nrOf (found.insertIdx above arrival).toArray above = arrival.nr :=
      congrArg Adapter.nr (adapterOf_insertIdx_self hposition)
    exact hundeclared _ hmem (hdeclared.trans (congrArg _ hnr))

/-- **Ordinals after an arrival.**  The arrival counts for those of its group that it comes before. -/
theorem ordinalOf_insert (hposition : position ≤ found.length) (id : AdapterId) :
    ordinalOf (found.insertIdx position arrival).toArray (shift position id) =
      ordinalOf found.toArray id +
        if arrival.declaredParent = declaredParentOf found.toArray id ∧
          arrival.channel = channelOf found.toArray id ∧ arrival.nr < nrOf found.toArray id
        then 1 else 0 := by
  rw [ordinalOf_eq_earlierSiblings, ordinalOf_eq_earlierSiblings, adapterOf_shift, earlierSiblings,
    (List.perm_insertIdx arrival found hposition).countP_eq, List.countP_cons]
  simp only [decide_eq_true_eq]
  rfl

/-! ## Paths after an arrival -/

/-- Whoever the arrival does not come before adds the same as ever to a path. -/
theorem sameStep_insert (hposition : position ≤ found.length) {id : AdapterId}
    (hnot : ¬ Precedes arrival (adapterOf found.toArray id)) :
    SameStep (shift position) found.toArray (found.insertIdx position arrival).toArray id := by
  refine ⟨fun _ => congrArg Adapter.nr (adapterOf_shift id), ?_⟩
  intro hchild
  rw [segmentOf, segmentOf, adapterOf_shift]
  cases hchannel : (adapterOf found.toArray id).channel with
  | none => simp only [segment, hchannel]
  | some output =>
      have hstays : ¬ (arrival.declaredParent = declaredParentOf found.toArray id ∧
          arrival.channel = channelOf found.toArray id ∧ arrival.nr < nrOf found.toArray id) := by
        rintro ⟨hparent, hgroup, hless⟩
        obtain ⟨nr, hnr⟩ : ∃ nr, declaredParentOf found.toArray id = .adapter nr := by
          cases hdeclared : declaredParentOf found.toArray id with
          | root => exact absurd hdeclared hchild
          | adapter nr => exact ⟨nr, rfl⟩
        exact hnot ⟨⟨nr, hparent.trans hnr, hnr⟩, ⟨output, hgroup.trans hchannel, hchannel⟩, hless⟩
      rw [ordinalOf_insert hposition, if_neg hstays, Nat.add_zero]

/-- Whoever the arrival comes before adds an ordinal that is one larger. -/
theorem segmentOf_insert (hposition : position ≤ found.length) {id : AdapterId}
    (h : Precedes arrival (adapterOf found.toArray id)) :
    ∃ output, channelOf found.toArray id = some output ∧
      segmentOf found.toArray id = s!"{ordinalOf found.toArray id}.{output}" ∧
      segmentOf (found.insertIdx position arrival).toArray (shift position id) =
        s!"{ordinalOf found.toArray id + 1}.{output}" := by
  obtain ⟨⟨nr, hparent, hparent'⟩, ⟨output, hchannel, hchannel'⟩, hless⟩ := h
  have hcounts : arrival.declaredParent = declaredParentOf found.toArray id ∧
      arrival.channel = channelOf found.toArray id ∧ arrival.nr < nrOf found.toArray id :=
    ⟨hparent.trans hparent'.symm, hchannel.trans hchannel'.symm, hless⟩
  refine ⟨output, hchannel', ?_, ?_⟩
  · simp only [segmentOf, segment, hchannel']
  · rw [segmentOf, adapterOf_shift, ordinalOf_insert hposition, if_pos hcounts]
    simp only [segment, hchannel']

/-- **Paths at or below a sibling that moves on.**  The path goes on after that of the sibling's parent
with the ordinal and the output number of the sibling; the ordinal is what changes. -/
theorem path_insert (hnr : DistinctNrs found.toArray) (hposition : position ≤ found.length)
    {id sibling : AdapterId} {above : List AdapterId} (hid : Lineage found.toArray id above)
    (hsibling : sibling ∈ id :: above)
    (hprecedes : Precedes arrival (adapterOf found.toArray sibling)) :
    ∃ parent rest output text,
      Lineage found.toArray sibling (parent :: rest) ∧
      channelOf found.toArray sibling = some output ∧
      lineagePath found.toArray (sibling :: parent :: rest) =
        lineagePath found.toArray (parent :: rest) ++ ":" ++
          s!"{ordinalOf found.toArray sibling}.{output}" ∧
      lineagePath found.toArray (id :: above) =
        lineagePath found.toArray (sibling :: parent :: rest) ++ text ∧
      lineagePath (found.insertIdx position arrival).toArray ((id :: above).map (shift position)) =
        lineagePath found.toArray (parent :: rest) ++ ":" ++
          s!"{ordinalOf found.toArray sibling + 1}.{output}" ++ text := by
  obtain ⟨output, houtput, hsegment, hsegment'⟩ := segmentOf_insert hposition hprecedes
  obtain ⟨nr, hdeclares, hsiblingDeclares⟩ := hprecedes.parent
  have hsame : ∀ member, declaredParentOf found.toArray member ≠ .adapter nr →
      SameStep (shift position) found.toArray (found.insertIdx position arrival).toArray member := by
    intro member hother
    apply sameStep_insert hposition
    rintro ⟨⟨nr', hdeclares', hmemberDeclares⟩, -, -⟩
    rw [hdeclares, DeclaredParent.adapter.injEq] at hdeclares'
    exact hother (hdeclares' ▸ hmemberDeclares)
  -- Up to the sibling the steps are the same because they have another parent; there the ordinal
  -- changes; and further down the steps have another parent again.
  induction hid with
  | @root id _ hroot =>
      obtain rfl := List.mem_singleton.mp hsibling
      exact absurd (hroot.symm.trans hsiblingDeclares) DeclaredParent.noConfusion
  | @child id parent above hangs hparent ih =>
      rcases List.mem_cons.mp hsibling with rfl | hfurther
      · have hupper := hparent.path_map_eq fun member hmember =>
          hsame member (hsiblingDeclares ▸ hparent.declaredParentOf_ne hnr hangs hmember)
        refine ⟨parent, above, output, "", Lineage.child hangs hparent, houtput, ?_, ?_, ?_⟩
        · rw [lineagePath_cons_segmentOf sibling (List.cons_ne_nil parent above), hsegment]
        · rw [String.append_empty]
        · rw [List.map_cons, lineagePath_cons_segmentOf _ (by simp), hupper, hsegment',
            String.append_empty]
      · obtain ⟨upper, rest, output', text, hlineage, houtput', hpath, hlower, hlower'⟩ := ih hfurther
        obtain rfl := Option.some.inj (houtput.symm.trans houtput')
        have hother : declaredParentOf found.toArray id ≠ .adapter nr :=
          hsiblingDeclares ▸ (hparent.declaredParentOf_ne hnr hangs hfurther).symm
        have hchild : declaredParentOf found.toArray id ≠ .root := by
          rw [hangs.2.2]
          exact DeclaredParent.noConfusion
        have hstep := (hsame id hother).segment_eq hchild
        refine ⟨upper, rest, output, text ++ ":" ++ segmentOf found.toArray id, hlineage, houtput,
          hpath, ?_, ?_⟩
        · rw [lineagePath_cons_segmentOf id (List.cons_ne_nil parent above), hlower]
          simp only [String.append_assoc]
        · rw [List.map_cons, lineagePath_cons_segmentOf _ (by simp), hlower', hstep]
          simp only [String.append_assoc]

/-! ## Forests after an arrival -/

/-- Following declared parents from the adapter leads to the other one, or it is the other one. -/
def AtOrBelow (found : List Adapter) (id other : AdapterId) : Prop :=
  ReflTransGen (HangsOff found.toArray) id other

theorem AtOrBelow.lt_length_iff {id other : AdapterId} (h : AtOrBelow found id other) :
    id < found.length ↔ other < found.length := by
  induction h with
  | refl => rfl
  | tail _ hangs ih => exact ih.trans (iff_of_true hangs.1 hangs.2.1)

/-- The adapter has its place in both forests or in neither, and the same path. -/
def Stays (position : Nat) (forest forest' : Forest) (id : AdapterId) : Prop :=
  (forest'.Placed (shift position id) ↔ forest.Placed id) ∧
    forest'.path (shift position id) = forest.path id

/-- The adapter's path is that of the sibling and some text; the sibling's ordinal in it is one larger
after the arrival.  The adapter loses its place if that makes the path too long. -/
def MovesOn (position : Nat) (forest forest' : Forest) (sibling : AdapterId) (id : AdapterId) : Prop :=
  ∃ parent ordinal output text,
    forest.parent? sibling = some parent ∧ forest.ordinal? sibling = some ordinal ∧
    (forest.adapter sibling).channel = some output ∧
    forest.path sibling = forest.path parent ++ ":" ++ s!"{ordinal}.{output}" ∧
    forest.path id = forest.path sibling ++ text ∧
    (forest'.Placed (shift position id) ↔
      (forest.path parent ++ ":" ++ s!"{ordinal + 1}.{output}" ++ text).utf8ByteSize ≤
        maxPathLength) ∧
    (forest'.Placed (shift position id) →
      forest'.path (shift position id) =
        forest.path parent ++ ":" ++ s!"{ordinal + 1}.{output}" ++ text)

variable {forest forest' : Forest}

/-- Whoever has nobody at or above it that the arrival comes before, stays. -/
theorem stays_of_not_precedes (hposition : position ≤ found.length)
    (hundeclared : ∀ adapter ∈ found, adapter.declaredParent ≠ .adapter arrival.nr)
    (h : BuiltFrom found forest) (h' : BuiltFrom (found.insertIdx position arrival) forest')
    {id : AdapterId} (hid : id < found.length)
    (hnone : ∀ member, AtOrBelow found id member →
      ¬ Precedes arrival (adapterOf found.toArray member)) :
    Stays position forest forest' id := by
  -- Whoever is at or above the adapter is a member of its only lineage, and adds what it added.
  have hembeds := embeds_insert hposition hundeclared
  have hsteps : SameSteps (shift position) found.toArray
      (found.insertIdx position arrival).toArray id := by
    intro above habove member hmember
    have hway : AtOrBelow found id member := (habove.mem_cons_iff h.distinctNrs member).mp hmember
    exact sameStep_insert hposition (hnone member hway)
  exact ⟨hembeds.placed_iff h h' hid hsteps, hembeds.path_eq h h' hid hsteps⟩

/-- Who is placed after the arrival, and where, said of the lineage before it. -/
theorem placed_insert_iff (hposition : position ≤ found.length)
    (hundeclared : ∀ adapter ∈ found, adapter.declaredParent ≠ .adapter arrival.nr)
    (h' : BuiltFrom (found.insertIdx position arrival) forest') {id : AdapterId}
    {above : List AdapterId} (hid : Lineage found.toArray id above) {path : String}
    (hpath : lineagePath (found.insertIdx position arrival).toArray
      ((id :: above).map (shift position)) = path) :
    (forest'.Placed (shift position id) ↔ path.utf8ByteSize ≤ maxPathLength) ∧
      (forest'.Placed (shift position id) → forest'.path (shift position id) = path) := by
  have hembeds := embeds_insert hposition hundeclared
  have hplaced : forest'.Placed (shift position id) ↔ path.utf8ByteSize ≤ maxPathLength := by
    rw [← hpath]
    exact h'.placed_iff_utf8ByteSize_le (hembeds.lineage hid)
  refine ⟨hplaced, ?_⟩
  intro hin
  rw [← hpath] at hplaced ⊢
  exact h'.path_eq (hembeds.lineage hid) (hplaced.mp hin)

/-- A placed adapter at or below a sibling that the arrival comes before moves on. -/
theorem movesOn_of_precedes (hposition : position ≤ found.length)
    (hundeclared : ∀ adapter ∈ found, adapter.declaredParent ≠ .adapter arrival.nr)
    (h : BuiltFrom found forest) (h' : BuiltFrom (found.insertIdx position arrival) forest')
    {id sibling : AdapterId} (hid : forest.Placed id) (hbelow : AtOrBelow found id sibling)
    (hprecedes : Precedes arrival (adapterOf found.toArray sibling)) :
    MovesOn position forest forest' sibling id := by
  obtain ⟨above, habove, hfits⟩ := (h.placed_iff id).mp hid
  have hmember := (habove.mem_cons_iff h.distinctNrs sibling).mpr hbelow
  obtain ⟨parent, rest, output, text, hlineage, houtput, hpath, hlower, hlower'⟩ :=
    path_insert h.distinctNrs hposition habove hmember hprecedes
  obtain ⟨hplaced, hpath'⟩ := placed_insert_iff hposition hundeclared h' habove hlower'
  have hsiblingFits : Fits found.toArray (sibling :: parent :: rest) := by
    rw [Fits, hlower, String.utf8ByteSize_append] at hfits
    exact Nat.le_trans (Nat.le_add_right _ _) hfits
  have hparentFits := fits_of_fits_cons (List.cons_ne_nil parent rest) hsiblingFits
  have hparentLineage : Lineage found.toArray parent rest := by
    cases hlineage with
    | child _ hparent => exact hparent
  have hparentPath := h.path_eq hparentLineage hparentFits
  have hsiblingPath := h.path_eq hlineage hsiblingFits
  refine ⟨parent, ordinalOf found.toArray sibling, output, text, h.parent?_eq hlineage hsiblingFits,
    h.ordinal_eq hlineage hsiblingFits, ?_, ?_, ?_, ?_, ?_⟩
  · rw [h.adapter_eq]
    exact houtput
  · rw [hsiblingPath, hparentPath, hpath]
  · rw [h.path_eq habove hfits, hsiblingPath, hlower]
  · rw [hparentPath]
    exact hplaced
  · rw [hparentPath]
    exact hpath'

/-- An adapter at or below a sibling that the arrival comes before gets no place by the arrival: its
path, if it has a lineage at all, does not become shorter. -/
theorem placed_of_placed_insert (hposition : position ≤ found.length)
    (hundeclared : ∀ adapter ∈ found, adapter.declaredParent ≠ .adapter arrival.nr)
    (h : BuiltFrom found forest) (h' : BuiltFrom (found.insertIdx position arrival) forest')
    {id sibling : AdapterId} (hlt : id < found.length) (hbelow : AtOrBelow found id sibling)
    (hprecedes : Precedes arrival (adapterOf found.toArray sibling))
    (hin : forest'.Placed (shift position id)) : forest.Placed id := by
  have hembeds := embeds_insert hposition hundeclared
  obtain ⟨above, habove, hfits'⟩ := (hembeds.placed_iff_fits h' hlt).mp hin
  have hmember := (habove.mem_cons_iff h.distinctNrs sibling).mpr hbelow
  obtain ⟨parent, rest, output, text, -, -, hpath, hlower, hlower'⟩ :=
    path_insert h.distinctNrs hposition habove hmember hprecedes
  refine (h.placed_iff id).mpr ⟨above, habove, ?_⟩
  have hordinal :=
    Numeral.utf8ByteSize_toString_mono (Nat.le_add_right (ordinalOf found.toArray sibling) 1)
  rw [Fits, hlower'] at hfits'
  rw [Fits, hlower, hpath]
  simp only [String.utf8ByteSize_append] at hfits' ⊢
  omega

/-- **One more adapter.**  Let an adapter be found in addition, anywhere in the list, that nobody
declares as the parent.  Whoever is not at or below a channel that it comes before stays.  A placed
adapter at or below such a channel moves on, and one without a place gets none.  If the new adapter has
no output number, everybody stays.

That the new kernel id is new, and that the adapter does not declare itself, follows from there being a
forest with it. -/
theorem build_insert {policy : OrphanPolicy} (hposition : position ≤ found.length)
    (hundeclared : ∀ adapter ∈ found, adapter.declaredParent ≠ .adapter arrival.nr)
    (h : build found policy = .ok forest)
    (h' : build (found.insertIdx position arrival) policy = .ok forest') :
    (∀ id < found.length,
      (∀ sibling other, found[sibling]? = some other → Precedes arrival other →
        ¬ AtOrBelow found id sibling) → Stays position forest forest' id) ∧
    (∀ id sibling other, found[sibling]? = some other → Precedes arrival other →
      AtOrBelow found id sibling →
        (forest.Placed id → MovesOn position forest forest' sibling id) ∧
        (¬ forest.Placed id → ¬ forest'.Placed (shift position id))) ∧
    (arrival.channel = none → ∀ id < found.length, Stays position forest forest' id) := by
  have hbuilt : BuiltFrom found forest := ⟨policy, h⟩
  have hbuilt' : BuiltFrom (found.insertIdx position arrival) forest' := ⟨policy, h'⟩
  refine ⟨?_, ?_, ?_⟩
  · intro id hid hnone
    apply stays_of_not_precedes hposition hundeclared hbuilt hbuilt' hid
    intro member hway hprecedes
    exact hnone member _ (getElem?_of_lt (hway.lt_length_iff.mp hid)) hprecedes hway
  · intro id sibling other hother hprecedes hbelow
    have hid : id < found.length :=
      hbelow.lt_length_iff.mpr (List.getElem?_eq_some_iff.mp hother).1
    rw [← adapterOf_of_getElem? hother] at hprecedes
    constructor
    · exact fun hin => movesOn_of_precedes hposition hundeclared hbuilt hbuilt' hin hbelow hprecedes
    · intro hout hin
      exact hout (placed_of_placed_insert hposition hundeclared hbuilt hbuilt' hid hbelow hprecedes hin)
  · intro hplain id hid
    apply stays_of_not_precedes hposition hundeclared hbuilt hbuilt' hid
    rintro member - ⟨-, ⟨output, hchannel, -⟩, -⟩
    rw [hplain] at hchannel
    contradiction

/-- One more channel of the sample's multiplexer, which comes before the others. -/
def sampleArrival : Adapter :=
  { nr := 4, declaredParent := .adapter 3, channel := some 1 }

/-- In the sample the last channel moves on and the root stays. -/
theorem build_insert_sample :
    1 ≤ sample.length ∧
      (∀ adapter ∈ sample, adapter.declaredParent ≠ .adapter sampleArrival.nr) ∧
      ∃ forest, build (sample.insertIdx 1 sampleArrival) .warn = .ok forest ∧
        forest.path 3 = "3" ∧ forest.path 0 = "3:2.1" := by
  have hposition : 1 ≤ sample.length := by decide
  have hundeclared : ∀ adapter ∈ sample, adapter.declaredParent ≠ .adapter sampleArrival.nr := by
    decide
  refine ⟨hposition, hundeclared, ?_⟩
  cases hbuild : build (sample.insertIdx 1 sampleArrival) .warn with
  | error fault =>
      have hok : (build (sample.insertIdx 1 sampleArrival) .warn).isOk = true := by cbv
      rw [hbuild] at hok
      contradiction
  | ok forest =>
      obtain ⟨hstays, hmoves, -⟩ := build_insert hposition hundeclared build_sample hbuild
      refine ⟨forest, rfl, ?_, ?_⟩
      · refine (hstays 2 (by decide) ?_).2
        intro sibling other hother hprecedes hway
        rcases hway.cases_head with rfl | ⟨above, hangs, -⟩
        · obtain rfl := Option.some.inj hother
          obtain ⟨nr, -, hdeclared⟩ := hprecedes.parent
          exact DeclaredParent.noConfusion hdeclared
        · exact DeclaredParent.noConfusion hangs.2.2
      · have hprecedes : Precedes sampleArrival (adapterOf sample.toArray 0) :=
          ⟨⟨3, rfl, rfl⟩, ⟨1, rfl, rfl⟩, by decide⟩
        obtain ⟨parent, ordinal, output, text, hparent, hordinal, houtput, -, hlower, hplaced, hpath⟩ :=
          (hmoves 0 0 _ rfl hprecedes .refl).1 (by decide)
        obtain rfl : 2 = parent := Option.some.inj hparent
        obtain rfl : 1 = ordinal := Option.some.inj hordinal
        obtain rfl : 1 = output := Option.some.inj houtput
        obtain rfl : text = "" := String.append_eq_left_iff.mp hlower.symm
        exact hpath (hplaced.mpr (by decide))

end Arrival

end Forest
end I2cTopology
