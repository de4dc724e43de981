import I2cTopology.Context.Lifecycle
import I2cTopology.Proofs.ConfigText
import I2cTopology.Proofs.Forest.Upkeep
import I2cTopology.Proofs.Results

/-!
# What a survey finds

Whatever sysfs shows, a scan that succeeds comes to a forest that was built and whose chips know where
they sit, and nobody has opened any of its adapters yet.  The entries of a configuration name their buses
by paths that can be read.

* `Scan.ensures_scan`: what a scan comes to.
* `ConfigSource.ensures_load`: what is loaded.
-/

namespace I2cTopology

open Act (ensures_of_forall ensures_filterMap)
open Op (ensures_andThen ensures_pure ensures_throw ensures_ofAct)

/-- Nothing sits on the adapter, and nobody has opened it. -/
def Adapter.Bare (adapter : Adapter) : Prop :=
  adapter.chips = [] ∧ adapter.handle = none

/-- Nobody has opened an adapter of the forest. -/
def Forest.Closed (forest : Forest) : Prop :=
  ∀ id, (forest.adapter id).handle = none

namespace Forest

variable {found : List Adapter} {forest : Forest}

theorem BuiltFrom.closed (h : BuiltFrom found forest) (hbare : ∀ adapter ∈ found, adapter.Bare) :
    forest.Closed := by
  intro id
  rw [h.adapter_eq, List.getElem?_toArray]
  cases hget : found[id]? with
  | none => rfl
  | some adapter => exact (hbare adapter (List.mem_of_getElem? hget)).2

theorem builtFrom_of_construct {policy : OrphanPolicy} {built : Built}
    (hconstruct : construct found policy = .ok built) : BuiltFrom found built.forest := by
  refine ⟨policy, ?_⟩
  rw [build, hconstruct]
  rfl

theorem Closed.setChips (h : forest.Closed) (id : AdapterId) (chips : List Chip) :
    (forest.setChips id chips).Closed := by
  intro other
  obtain hold | ⟨-, hnew⟩ := forest.adapter_modify_cases id other _
  · exact (congrArg Adapter.handle hold).trans (h other)
  · exact (congrArg Adapter.handle hnew).trans (h id)

theorem Surveyed.setChips (h : Surveyed forest) {id : AdapterId} {chips : List Chip}
    (hchips : ∀ chip ∈ chips, forest.SitsOn id chip) : Surveyed (forest.setChips id chips) :=
  h.modify (fun _ => rfl) fun chip hchip => hchips chip (List.mem_mergeSort.mp hchip)

end Forest

namespace Scan

variable {σ : Type}

theorem ensures_readAdapter (settings : Settings) (link : FilePath) (entry : String) :
    (readAdapter settings link entry : Act σ (Except SkipReason Adapter)).Ensures
      fun read => ∀ adapter, read = .ok adapter → adapter.Bare := by
  unfold readAdapter
  split
  · exact fun _ h => nomatch h
  refine .bind_of_forall fun target => ?_
  cases target with
  | error failure => exact fun _ h => nomatch h
  | ok location =>
    refine .bind_of_forall fun name => ?_
    cases name with
    | none => exact fun _ h => nomatch h
    | some name =>
      refine .bind_of_forall fun chip => .bind_of_forall fun channel => ?_
      refine .bind_of_forall fun subsystem => .bind_of_forall fun identity => ?_
      refine .bind_of_forall fun _ adapter h => ?_
      obtain rfl := Except.ok.inj h
      exact ⟨rfl, rfl⟩

theorem ensures_surveyAdapter (settings : Settings) (dir : FilePath) (entry : String) :
    (surveyAdapter settings dir entry : Act σ (Option Adapter)).Ensures
      fun found => ∀ adapter, found = some adapter → adapter.Bare := by
  refine (ensures_readAdapter settings _ entry).bind fun read hread => ?_
  cases read with
  | ok adapter =>
    intro other h
    obtain rfl := Option.some.inj h
    exact hread adapter rfl
  | error reason => exact .bind_of_forall fun _ _ h => nomatch h

theorem ensures_readChip (path : FilePath) (address : UInt16) (bus : BusDescriptor) (id : AdapterId) :
    (readChip path address bus id : Act σ (Except SkipReason Chip)).Ensures
      fun read => ∀ chip, read = .ok chip → chip.adapter = id ∧ chip.bus = bus := by
  unfold readChip
  refine .bind_of_forall fun target => ?_
  cases target with
  | error failure => exact fun _ h => nomatch h
  | ok location =>
    refine .bind_of_forall fun name => ?_
    cases name with
    | none => exact fun _ h => nomatch h
    | some name =>
      -- A chip that only reserves its address is not asked for a driver.
      dsimp only
      split
      · refine .bind_of_forall fun links => .bind_of_forall fun subsystem chip h => ?_
        obtain rfl := Except.ok.inj h
        exact ⟨rfl, rfl⟩
      · refine .bind_of_forall fun driver => .bind_of_forall fun module => ?_
        refine .bind_of_forall fun links => .bind_of_forall fun subsystem chip h => ?_
        obtain rfl := Except.ok.inj h
        exact ⟨rfl, rfl⟩

theorem ensures_surveyChip (dir : FilePath) (bus : BusDescriptor) (id : AdapterId) (entry : String) :
    (surveyChip dir bus id entry : Act σ (Option Chip)).Ensures
      fun found => ∀ chip, found = some chip → chip.adapter = id ∧ chip.bus = bus := by
  unfold surveyChip
  split
  · exact fun _ h => nomatch h
  refine (ensures_readChip _ _ bus id).bind fun read hread => ?_
  cases read with
  | ok chip =>
    intro other h
    obtain rfl := Option.some.inj h
    exact hread chip rfl
  | error reason => exact .bind_of_forall fun _ _ h => nomatch h

theorem ensures_surveyChips {forest : Forest} {id : AdapterId} (hid : forest.Placed id) :
    (surveyChips forest id : Act σ (List Chip)).Ensures
      fun chips => ∀ chip ∈ chips, forest.SitsOn id chip := by
  refine .bind_of_forall fun listed => ?_
  cases listed with
  | error failure => exact .bind_of_forall fun _ _ h => absurd h List.not_mem_nil
  | ok names =>
    refine ensures_filterMap fun name _ => ?_
    refine (ensures_surveyChip _ _ id name).mono fun found hfound chip h => ?_
    exact ⟨hid, (hfound chip h).1, (hfound chip h).2⟩

/-- One adapter after the other is given chips that sit on it. -/
theorem ensures_attachChips {ids : List AdapterId} {forest : Forest} (hids : ∀ id ∈ ids, forest.Placed id)
    (hsurveyed : Forest.Surveyed forest) (hclosed : forest.Closed) :
    (attachChips ids forest : Act σ Forest).Ensures
      fun final => Forest.Surveyed final ∧ final.Closed := by
  induction ids generalizing forest with
  | nil => exact ⟨hsurveyed, hclosed⟩
  | cons id rest ih =>
    refine (ensures_surveyChips (hids id List.mem_cons_self)).bind fun chips hchips => ?_
    -- Chips move nobody, so the adapters that are left still have their places.
    have hrest : ∀ other ∈ rest, (forest.setChips id chips).Placed other :=
      fun other hother => hids other (List.mem_cons_of_mem id hother)
    exact ih hrest (hsurveyed.setChips hchips) (hclosed.setChips id chips)

/-- **The forest of a scan** was built, its chips know where they sit, and nobody has opened its
adapters. -/
theorem ensures_scan (settings : Settings) :
    (scan settings : Op σ Forest).Ensures
      fun forest => Forest.Surveyed forest ∧ forest.Closed := by
  unfold scan
  refine ensures_andThen fun _ => ensures_andThen fun listed => ensures_andThen fun names => ?_
  refine (ensures_ofAct (ensures_filterMap fun name _ =>
    ensures_surveyAdapter settings _ name)).andThen fun adapters hbare => ?_
  cases hconstruct : Forest.construct adapters settings.orphans with
  | error fault => exact ensures_throw _
  | ok built =>
    have hbuilt := Forest.builtFrom_of_construct hconstruct
    have hplaced : ∀ id ∈ built.forest.seats.map Seat.id, built.forest.Placed id := by
      intro id hid
      rwa [Forest.Placed, Forest.preorder_ids]
    have hsurveyed := Forest.surveyed_of_builtFrom hbuilt fun adapter hmem => (hbare adapter hmem).1
    refine ensures_andThen fun _ => ?_
    refine (ensures_ofAct (ensures_attachChips hplaced hsurveyed (hbuilt.closed hbare))).andThen
      fun forest hforest => ?_
    exact ensures_andThen fun _ => ensures_pure hforest

end Scan

namespace ExpectedChip

theorem readable_nrSelector {text : List Char} {selector : BusSelector}
    (h : nrSelector text = .ok selector) : selector.Readable := by
  unfold nrSelector at h
  split at h
  next nr _ =>
    obtain rfl := Except.ok.inj h
    have hwalk : BusPath.Walkable [.bus nr] := by simp [BusPath.Walkable, PathToken.isTerminal]
    have hread := BusPath.parseChars_joined (List.cons_ne_nil _ _) hwalk
    refine ⟨⟨[.bus nr, .stop]⟩, ?_⟩
    rw [BusPath.parse, Numeral.toList_toString]
    exact congrArg (Except.mapError _) hread
  next => cases h

theorem readable_busSelector {bus : Option (List Char)} {selector : BusSelector}
    (h : busSelector bus = .ok selector) : selector.Readable := by
  unfold busSelector at h
  split at h
  · obtain rfl := Except.ok.inj h
    rfl
  split at h
  · obtain rfl := Except.ok.inj h
    rfl
  split at h
  · split at h
    · cases h
    next path hparse =>
      obtain rfl := Except.ok.inj h
      exact ⟨path, hparse⟩
  · exact readable_nrSelector h

theorem readable_of_parseLine {line : List Char} {origin : Origin} {entry : ExpectedChip}
    (h : parseLine line origin = .ok (some entry)) : entry.bus.Readable := by
  rw [parseLine_eq_ok_some_iff, parseWord_eq_ok_iff] at h
  obtain ⟨_, _, _, _, _, -, hbus, -, rfl⟩ := h
  exact readable_busSelector hbus

end ExpectedChip

namespace ConfigSource

variable {σ : Type}

/-- Every entry names its bus in a way that can be read. -/
def Legible (entries : List ExpectedChip) : Prop :=
  ∀ entry ∈ entries, entry.bus.Readable

/-- Every entry is declared by a line. -/
def Declared (entries : List ExpectedChip) : Prop :=
  ∀ entry ∈ entries, ∃ line origin, ExpectedChip.parseLine line origin = .ok (some entry)

theorem Declared.legible {entries : List ExpectedChip} (h : Declared entries) : Legible entries := by
  intro entry hentry
  obtain ⟨line, origin, hline⟩ := h entry hentry
  exact ExpectedChip.readable_of_parseLine hline

theorem Declared.append {entries others : List ExpectedChip} (h : Declared entries)
    (hothers : Declared others) : Declared (entries ++ others) :=
  List.forall_mem_append.mpr ⟨h, hothers⟩

theorem ensures_readText (text source : String) :
    (readText text source : Act σ (List ExpectedChip)).Ensures Declared :=
  .bind_of_forall fun _ _ hentry =>
    have ⟨position, line, _, hline⟩ := ExpectedChip.mem_parseConfig_iff.mp hentry
    ⟨line, ⟨source, position + 1⟩, hline⟩

theorem ensures_loadFile (path : FilePath) :
    (loadFile path : Op σ (List ExpectedChip)).Ensures Declared :=
  ensures_andThen fun _ => ensures_andThen fun text => ensures_ofAct (ensures_readText text _)

theorem ensures_loadOptional (path : FilePath) :
    (loadOptional path : Op σ (List ExpectedChip)).Ensures Declared := by
  refine ensures_andThen fun answer => ?_
  cases answer with
  | ok text => exact ensures_ofAct (ensures_readText text _)
  | error failure =>
    dsimp only
    split
    · exact ensures_pure fun _ h => absurd h List.not_mem_nil
    · exact ensures_throw _

theorem ensures_loadFiles (dir : FilePath) (names : List String) :
    (loadFiles dir names : Op σ (List ExpectedChip)).Ensures Declared := by
  induction names with
  | nil => exact ensures_pure fun _ h => absurd h List.not_mem_nil
  | cons name rest ih =>
    refine (ensures_loadFile _).andThen fun entries hentries => ?_
    exact ih.andThen fun others hothers => ensures_pure (hentries.append hothers)

theorem ensures_loadDir (dir : FilePath) :
    (loadDir dir : Op σ (List ExpectedChip)).Ensures Declared := by
  refine ensures_andThen fun isDirectory => ?_
  split
  · exact ensures_pure fun _ h => absurd h List.not_mem_nil
  · exact ensures_andThen fun _ => ensures_andThen fun names => ensures_loadFiles dir _

/-- **What is loaded** was declared line by line. -/
theorem ensures_load (source : ConfigSource) :
    (source.load : Op σ (List ExpectedChip)).Ensures Declared := by
  cases source with
  | standard path dir =>
    refine (ensures_loadOptional path).andThen fun entries hentries => ?_
    exact (ensures_loadDir dir).andThen fun others hothers =>
      ensures_pure (hentries.append hothers)
  | file path => exact ensures_loadFile path
  | standardInput =>
    exact ensures_andThen fun answer => ensures_andThen fun text =>
      ensures_ofAct (ensures_readText text _)
  | nothing => exact ensures_pure fun _ h => absurd h List.not_mem_nil

end ConfigSource
end I2cTopology
