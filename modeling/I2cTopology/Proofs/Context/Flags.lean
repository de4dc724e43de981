import I2cTopology.Proofs.Context.Atomicity
import I2cTopology.Proofs.Context.History

/-!
# The flags of a configuration

The flags of an entry are set by a reconciliation with the forest, and the removal from one adapter marks
the entry of a chip before it asks for the chip to be removed.  Such a mark agrees with the forest as long
as the entry names its bus.  An entry for every bus is never matched by a reconciliation, so its mark stays
wrong until the forest is replaced.

* `Forest.Shows`: how far the flags of an entry can be relied on.
* `Flagged`, `UpToDate`: what holds of all flags, and what no removal from one adapter has disturbed.
* `flags_of_history`: the flags that a context hands out.
-/

namespace I2cTopology

namespace Forest

variable {forest other : Forest} {entry : ExpectedChip} {entries : List ExpectedChip} {chip : Chip}

/-! ## Flags that are set again -/

theorem reconcileEntry_idem (forest : Forest) (entry : ExpectedChip) :
    forest.reconcileEntry (forest.reconcileEntry entry) = forest.reconcileEntry entry := by
  -- Neither the adapter of an entry nor the chips that satisfy it depend on the flags.
  rw [reconcileEntry_eq, reconcileEntry_eq]
  rfl

/-- Setting the flags again changes nothing. -/
theorem reconcile_idem (forest : Forest) (entries : List ExpectedChip) :
    forest.reconcile (forest.reconcile entries) = forest.reconcile entries := by
  rw [reconcile, reconcile, List.map_map]
  exact List.map_congr_left fun entry _ => reconcileEntry_idem forest entry

@[simp] theorem bus_reconcileEntry (forest : Forest) (entry : ExpectedChip) :
    (forest.reconcileEntry entry).bus = entry.bus := by
  rw [reconcileEntry_eq]

/-! ## Flags that can be relied on -/

/-- The flags of an entry against a forest.  An entry for every bus may be marked without being matched by
a reconciliation, but not without a chip that satisfies it. -/
structure Shows (forest : Forest) (entry : ExpectedChip) : Prop where
  available : entry.available = (forest.reconcileEntry entry).available
  matched : entry.bus.isAny = false → entry.matched = (forest.reconcileEntry entry).matched
  satisfied : entry.matched = true → ∃ id, ∃ chip ∈ (forest.adapter id).chips, chip.satisfies entry

theorem shows_reconcileEntry (forest : Forest) (entry : ExpectedChip) :
    forest.Shows (forest.reconcileEntry entry) := by
  refine ⟨by rw [reconcileEntry_idem], fun _ => by rw [reconcileEntry_idem], fun hmatched => ?_⟩
  rw [reconcileEntry_eq, Option.any_eq_true] at hmatched
  obtain ⟨id, -, hmatched⟩ := hmatched
  obtain ⟨chip, hchip, hsatisfies⟩ := List.any_eq_true.mp hmatched
  rw [reconcileEntry_eq]
  exact ⟨id, chip, hchip, hsatisfies⟩

theorem Alike.shows (alike : forest.Alike other) (h : forest.Shows entry) : other.Shows entry := by
  obtain ⟨havailable, hmatched, hsatisfied⟩ := h
  rw [alike.reconcileEntry_eq] at havailable hmatched
  refine ⟨havailable, hmatched, fun h => ?_⟩
  obtain ⟨id, chip, hchip, hsatisfies⟩ := hsatisfied h
  exact ⟨id, chip, alike.chips id ▸ hchip, hsatisfies⟩

/-- A chip that is there satisfies an entry that is there. -/
structure Configured (forest : Forest) (entries : List ExpectedChip) (found : ConfiguredChip) : Prop where
  chip : (forest.adapter found.adapter).chips[found.position]? = some (forest.chipAt found)
  entry : ∃ entry, entries[found.entry]? = some entry ∧ (forest.chipAt found).satisfies entry = true

theorem chipAt_eq_of_getElem? {found : ConfiguredChip}
    (h : (forest.adapter found.adapter).chips[found.position]? = some chip) :
    forest.chipAt found = chip := by
  rw [chipAt, h, Option.getD_some]

theorem configured_of_getElem? {found : ConfiguredChip}
    (hchip : (forest.adapter found.adapter).chips[found.position]? = some chip)
    (hentry : entries[found.entry]? = some entry) (hsatisfies : chip.satisfies entry = true) :
    forest.Configured entries found := by
  obtain rfl := chipAt_eq_of_getElem? hchip
  exact ⟨hchip, entry, hentry, hsatisfies⟩

/-- The first configured chip of an adapter is one of the adapter's. -/
theorem configured_of_firstConfigured? {id : AdapterId} {found : ConfiguredChip}
    (h : forest.firstConfigured? entries id = some found) :
    found.adapter = id ∧ forest.Configured entries found := by
  obtain ⟨⟨chip, position⟩, hchip, hentry⟩ := List.exists_of_findSome?_eq_some h
  obtain ⟨index, hindex, rfl⟩ := Option.map_eq_some_iff.mp hentry
  obtain ⟨hlt, hsatisfies, -⟩ := List.findIdx?_eq_some_iff_getElem.mp hindex
  exact ⟨rfl, configured_of_getElem? (List.mem_zipIdx_iff_getElem?.mp hchip)
    (List.getElem?_eq_getElem hlt) hsatisfies⟩

/-- A mark for a chip on a surveyed forest can be relied on. -/
theorem Shows.mark (h : forest.Shows entry) (hsurveyed : forest.Surveyed)
    (hreadable : entry.bus.Readable) {id : AdapterId} {chip : Chip}
    (hchip : chip ∈ (forest.adapter id).chips) (hsatisfies : chip.satisfies entry) :
    forest.Shows { entry with matched := true } := by
  refine ⟨?_, fun hany => ?_, fun _ => ⟨id, chip, hchip, hsatisfies⟩⟩
  · have havailable := h.available
    rw [reconcileEntry_eq] at havailable ⊢
    exact havailable
  · -- The entry points at the adapter of the chip, so a reconciliation would match it, too.
    have hadapter : forest.entryAdapter? { entry with matched := true } = some id :=
      hsurveyed.entryAdapter?_eq_some hreadable hany hchip hsatisfies
    rw [reconcileEntry_eq, hadapter]
    exact (List.any_eq_true.mpr ⟨chip, hchip, hsatisfies⟩).symm

/-- What a marked configuration has that the one before it did not have is the marked entry. -/
theorem mem_markMatched {position : Nat} {marked : ExpectedChip}
    (h : marked ∈ markMatched entries position) :
    marked ∈ entries ∨ ∃ entry, entries[position]? = some entry ∧
      marked = { entry with matched := true } := by
  obtain ⟨index, hindex⟩ := List.mem_iff_getElem?.mp h
  rw [markMatched, List.getElem?_modify] at hindex
  obtain ⟨entry, hentry, rfl⟩ := Option.map_eq_some_iff.mp hindex
  split
  next heq =>
    subst heq
    exact .inr ⟨entry, hentry, rfl⟩
  next => exact .inl (List.mem_of_getElem? hentry)

end Forest

namespace Context

variable {scope : Scope} {before after context : Context} {talk : List Exchange}

/-! ## What every move preserves -/

/-- The chips of the forest know where they sit, the entries name their buses in a way that can be read,
and their flags can be relied on. -/
structure Flagged (context : Context) : Prop where
  surveyed : context.forest.Surveyed
  legible : ConfigSource.Legible context.config
  shows : ∀ entry ∈ context.config, context.forest.Shows entry

theorem flagged_of_empty (hforest : context.forest = .empty) (hconfig : context.config = []) :
    Flagged context where
  surveyed := hforest ▸ Forest.surveyed_empty
  legible := hconfig ▸ fun _ h => absurd h List.not_mem_nil
  shows := hconfig ▸ fun _ h => absurd h List.not_mem_nil

/-- Flags that were set at once can be relied on. -/
theorem flagged_of_reconciled {entries : List ExpectedChip} (hsurveyed : context.forest.Surveyed)
    (hlegible : ConfigSource.Legible entries)
    (hconfig : context.config = context.forest.reconcile entries) : Flagged context := by
  refine ⟨hsurveyed, fun entry hentry => ?_, fun entry hentry => ?_⟩
  · rw [hconfig] at hentry
    obtain ⟨origin, horigin, rfl⟩ := List.mem_map.mp hentry
    rw [Forest.bus_reconcileEntry]
    exact hlegible origin horigin
  · rw [hconfig] at hentry
    obtain ⟨origin, -, rfl⟩ := List.mem_map.mp hentry
    exact Forest.shows_reconcileEntry _ origin

/-- The flags of alike forests are alike. -/
theorem Flagged.of_alike (h : Flagged before) (alike : before.forest.Alike after.forest)
    (hconfig : after.config = before.config) : Flagged after where
  surveyed := alike.surveyed h.surveyed
  legible := hconfig ▸ h.legible
  shows := hconfig ▸ fun entry hentry => alike.shows (h.shows entry hentry)

theorem Flagged.mark (h : Flagged context) {id : AdapterId} {found : ConfiguredChip}
    (hfound : context.forest.firstConfigured? context.config id = some found) :
    Flagged { context with config := Forest.markMatched context.config found.entry } := by
  obtain ⟨-, hchip, entry, hentry, hsatisfies⟩ := Forest.configured_of_firstConfigured? hfound
  have hmem := List.mem_of_getElem? hentry
  refine ⟨h.surveyed, fun marked hmarked => ?_, fun marked hmarked => ?_⟩
  · obtain hold | ⟨other, hother, rfl⟩ := Forest.mem_markMatched hmarked
    · exact h.legible marked hold
    · exact h.legible other (List.mem_of_getElem? hother)
  · obtain hold | ⟨other, hother, rfl⟩ := Forest.mem_markMatched hmarked
    · exact h.shows marked hold
    · -- The entry that is marked is the one that the chip satisfies.
      obtain rfl : entry = other := Option.some.inj (hentry.symm.trans hother)
      exact (h.shows entry hmem).mark h.surveyed (h.legible entry hmem)
        (List.mem_of_getElem? hchip) hsatisfies

theorem Move.flagged (move : Move scope talk before after) (h : Flagged before) : Flagged after := by
  cases move with
  | cleanedUp => exact flagged_of_empty rfl rfl
  | invalidated => exact ⟨h.surveyed, h.legible, h.shows⟩
  | installed scan hdeclared =>
    have hforest := (Scan.ensures_scan before.settings).of_dialogue scan
    exact flagged_of_reconciled hforest.1 hdeclared.legible rfl
  | rescanned rescan =>
    cases rescan with
    | brokenOff => exact ⟨h.surveyed, h.legible, h.shows⟩
    | failed => exact h
    | succeeded scan =>
      have hforest := (Scan.ensures_scan before.settings).of_dialogue scan
      exact flagged_of_reconciled hforest.1 h.legible rfl
  | marked _ hfound => exact h.mark hfound
  | attached attached => exact h.of_alike attached.alike.1 attached.alike.2.1
  | used => exact h.of_alike (alike_setHandle _ _ before) rfl
  | closed => exact h.of_alike (alike_closed _ before) rfl

/-! ## What is disturbed by a mark -/

/-- The flags are what a reconciliation sets them to. -/
def UpToDate (context : Context) : Prop :=
  context.config = context.forest.reconcile context.config

theorem UpToDate.of_alike (h : UpToDate before) (alike : before.forest.Alike after.forest)
    (hconfig : after.config = before.config) : UpToDate after := by
  rw [UpToDate, hconfig, Forest.reconcile, ← alike.reconcileEntry_eq]
  exact h

/-- Flags that are up to date from some rescan on stay so without a mark. -/
theorem Move.upToDate {rescans : Nat} (hmarks : ¬ scope.marks)
    (move : Move scope talk before after) (h : rescans ≤ before.rescans → UpToDate before)
    (hafter : rescans ≤ after.rescans) : UpToDate after := by
  cases move with
  | cleanedUp => rfl
  | invalidated => exact h hafter
  | installed => exact (Forest.reconcile_idem _ _).symm
  | rescanned rescan =>
    cases rescan with
    | brokenOff => exact h hafter
    | failed => exact h hafter
    | succeeded => exact (Forest.reconcile_idem _ _).symm
  | marked hscope => exact absurd hscope hmarks
  | attached attached =>
    obtain ⟨alike, hconfig, hrescans⟩ := attached.alike
    exact (h (hrescans ▸ hafter)).of_alike alike hconfig
  | used => exact (h hafter).of_alike (alike_setHandle _ _ before) rfl
  | closed => exact (h hafter).of_alike (alike_closed _ before) rfl

/-! ## The flags in a history -/

/-- A step that leaves no mark in place: the forest and the configuration were replaced or dropped. -/
def Step.Settles (step : Step) : Prop :=
  step.call = .cleanup ∨ (∃ source, step.call = .init source) ∨ .succeeded ∈ step.ends

/-- The configured chips of one adapter were removed, and nothing was settled since. -/
def Disturbed (steps : List Step) : Prop :=
  Lasting (fun step => ∃ path moreRounds, step.call = .removeOn path moreRounds) Step.Settles steps

theorem Call.exists_removeOn {call : Call} (hmarks : call.scope.marks) :
    ∃ path moreRounds, call = .removeOn path moreRounds := by
  cases call with
  | removeOn path moreRounds => exact ⟨path, moreRounds, rfl⟩
  | _ => exact absurd hmarks id

namespace Moves

theorem flagged (moves : Moves scope talk before after) (h : Flagged before) : Flagged after :=
  moves.preserves (T := fun _ => True) (fun _ => ⟨trivial, trivial⟩)
    (fun move _ => move.flagged) trivial h

theorem upToDate (moves : Moves scope talk before after) (hmarks : ¬ scope.marks) {rescans : Nat}
    (h : rescans ≤ before.rescans → UpToDate before) (hafter : rescans ≤ after.rescans) :
    UpToDate after :=
  moves.preserves (P := fun context => rescans ≤ context.rescans → UpToDate context)
    (T := fun _ => True) (fun _ => ⟨trivial, trivial⟩) (fun move _ => move.upToDate hmarks) trivial h
    hafter

end Moves

/-- After a call that marks nothing the flags are up to date if they were before, or if the call settled
something. -/
theorem upToDate_of_call {call : Call} {asked : List Query} {ends : List RescanEnd}
    {result : Option (Except Failure call.Reply)}
    (run : Recorded call.op.run before asked ends result after) (hmarks : ¬ call.scope.marks)
    (hbusy : after.readiness ≠ .busy) (h : Step.Settles ⟨call, ends⟩ ∨ UpToDate before) :
    UpToDate after := by
  obtain ⟨talk, -, dialogue⟩ := Act.runs_iff_dialogue.mp run.runs
  have moves := (call.traced before _ _ _ dialogue).2
  obtain (hcleanup | ⟨source, hinit⟩ | hend) | hbefore := h
  · obtain rfl : call = .cleanup := hcleanup
    obtain ⟨-, -, rfl⟩ := Op.runs_modifyState_iff.mp run.runs
    rfl
  · obtain rfl : call = .init source := hinit
    have hcleanup : Call.init source ≠ .cleanup := nofun
    have hidle : before.readiness ≠ .busy := fun h => hbusy (Call.stays_busy h hcleanup run.runs)
    have moves : Moves {} talk before.cleanedUp after := moves_of_init hidle dialogue
    exact moves.upToDate id (fun _ => rfl) (Nat.zero_le _)
  · -- The counter went up in the call, so there was a rescan after which nothing was marked.
    have hcount : 0 < ends.count .succeeded := List.count_pos_iff.mpr hend
    have hrescans := run.rescans_eq
    have hbefore : before.rescans + 1 ≤ before.rescans → UpToDate before := fun h => by omega
    exact moves.upToDate hmarks hbefore (by omega)
  · exact moves.upToDate hmarks (fun _ => hbefore) (Nat.zero_le _)

namespace History

variable {settings : Settings} {steps : List Step}

theorem flagged (history : History settings steps context) : Flagged context := by
  induction history with
  | start => exact flagged_of_empty rfl rfl
  | @step _ before _ call _ _ _ _ run ih =>
    obtain ⟨talk, -, dialogue⟩ := Act.runs_iff_dialogue.mp run.runs
    exact (call.traced before _ _ _ dialogue).2.flagged ih

/-- A call in which the counter of rescans goes up has a rescan that succeeds. -/
theorem succeeded_mem {call : Call} {ends : List RescanEnd} (history : History settings steps before)
    (later : History settings (steps ++ [⟨call, ends⟩]) after) (hrescans : before.rescans < after.rescans) :
    .succeeded ∈ ends := by
  have hbefore := history.rescans_eq
  have hafter := later.rescans_eq
  rw [List.flatMap_append, List.count_append, ← hbefore, List.flatMap_singleton] at hafter
  have hpos : 0 < (Step.mk call ends).ends.count .succeeded := by omega
  exact List.count_pos_iff.mp hpos

theorem upToDate (history : History settings steps context) (hbusy : context.readiness ≠ .busy)
    (hdisturbed : ¬ Disturbed steps) : UpToDate context := by
  induction history with
  | start => rfl
  | @step steps before after call _ ends _ _ run ih =>
    rw [Disturbed, lasting_append_iff, not_or, not_and_not_right] at hdisturbed
    obtain ⟨hremoves, hsettles⟩ := hdisturbed
    refine upToDate_of_call run (fun h => hremoves (Call.exists_removeOn h)) hbusy ?_
    by_cases hdisturbed : Disturbed steps
    · exact .inl (hsettles hdisturbed)
    · by_cases hidle : before.readiness = .busy
      · -- Only a cleanup leads out of the busy state, and it settles everything.
        refine .inl (.inl ?_)
        by_contra hcleanup
        exact hbusy (Call.stays_busy hidle hcleanup run.runs)
      · exact .inr (ih hidle hdisturbed)

end History

/-- **The flags that are handed out.**  Whatever was answered before and whichever calls were broken off, a
ready context hands out its configuration as it stands, and in it

* every entry has its adapter exactly if the forest has it;
* every entry that names its bus is matched exactly if a chip on its adapter satisfies it, and an entry
  for every bus is matched only if some chip satisfies it;
* all flags are those of a reconciliation with the installed forest, unless the configured chips of one
  adapter were removed and neither a rescan nor an initialization nor a cleanup came after. -/
theorem flags_of_history {settings : Settings} {steps : List Step}
    (history : History settings steps context) (hready : context.readiness = .ready) :
    (∀ {μ : Type} (machine : Act.Machine μ) (world : μ),
      configuration.run.run machine context world = (some (.ok context.config), context, world)) ∧
    (∀ entry ∈ context.config, context.forest.Shows entry) ∧
    (¬ Disturbed steps → context.config = context.forest.reconcile context.config) := by
  refine ⟨fun machine world => ?_, history.flagged.shows, history.upToDate (by simp [hready])⟩
  rw [configuration, run_ensureReady_bind, Act.run, obstacle?_eq_none_iff.mpr hready]
  rfl

end Context

namespace Forest

/-- The bench with a temperature sensor on its adapter, which is expected on every bus. -/
def sensorMachine (query : Query) (files : FilePath → Option FileIdentity) :
    query.Answer × (FilePath → Option FileIdentity) :=
  match query with
  | .entries dir =>
    if dir.text = "/sys/devices/i2c-0" then (.names ["power", "0-0048", "name"], files)
    else Context.benchMachine (.entries dir) files
  | .canonical path =>
    if path.text = "/sys/devices/i2c-0/0-0048" then (.ok path, files)
    else Context.benchMachine (.canonical path) files
  | .standardInput => (.ok "*-i2c-*-72", files)
  | query => Context.benchMachine query files

/-- The sensor as a scan finds it. -/
def sensor : Chip where
  address := 0x48
  bus := ⟨.i2c, 0, "0"⟩
  name := some "bench"
  driver := none
  module := none
  subsystem := none
  location := ⟨"/sys/devices/i2c-0/0-0048"⟩
  adapter := 0

/-- The forest of that machine. -/
def sensorForest : Forest :=
  (Context.benchForest none).setChips 0 [sensor]

theorem exists_scan_sensorMachine :
    ∃ talk, (Scan.scan {}).run.Dialogue () talk (some (.ok sensorForest)) () := by
  have hrun : (Scan.scan {}).run.run sensorMachine () (fun _ => none) =
      (some (.ok sensorForest), (), fun _ => none) := by
    with_unfolding_all rfl
  obtain ⟨talk, scan, -⟩ := Act.run_eq_iff.mp hrun
  exact ⟨talk, scan⟩

end Forest

namespace Context

/-- The context of that machine, with the mark of a removal or without. -/
def anywhereContext (marked : Bool) (rescans : Nat) : Context where
  settings := {}
  readiness := .ready
  forest := .sensorForest
  config := [{
    name := none
    bus := {}
    address := some 0x48
    origin := ⟨"<stdin>", 1⟩
    matched := marked }]
  rescans := rescans

/-- An initialization, and a removal that the sensor survives, so that its mark stays. -/
theorem history_anywhereContext : ∃ first second,
    History {} [⟨.init .standardInput, first⟩, ⟨.removeOn "0" 2, second⟩] (anywhereContext true 1) := by
  have hinit : ((Call.init .standardInput).op.run.run Forest.sensorMachine (.fresh {})
      fun _ => none).2.1 = anywhereContext false 0 := by
    with_unfolding_all rfl
  have hremoveOn : ((Call.removeOn "0" 2).op.run.run Forest.sensorMachine (anywhereContext false 0)
      fun _ => none).2.1 = anywhereContext true 1 := by
    with_unfolding_all rfl
  obtain ⟨first, setup⟩ := History.start.run Forest.sensorMachine _ (.init .standardInput) hinit
  obtain ⟨second, history⟩ := setup.run Forest.sensorMachine _ (.removeOn "0" 2) hremoveOn
  exact ⟨first, second, history⟩

/-- After that removal the flags are not those of a reconciliation, and after one more rescan they are. -/
theorem flags_of_history_sensor : ∃ steps ends,
    History {} steps (anywhereContext true 1) ∧ Disturbed steps ∧
      (anywhereContext true 1).config ≠
        (anywhereContext true 1).forest.reconcile (anywhereContext true 1).config ∧
      History {} (steps ++ [⟨.rescan, ends⟩]) (anywhereContext false 2) ∧
      (anywhereContext false 2).readiness = .ready ∧ ¬ Disturbed (steps ++ [⟨.rescan, ends⟩]) ∧
      (anywhereContext false 2).config =
        (anywhereContext false 2).forest.reconcile (anywhereContext false 2).config := by
  obtain ⟨first, second, removal⟩ := history_anywhereContext
  have hrescan : (Call.rescan.op.run.run Forest.sensorMachine (anywhereContext true 1)
      fun _ => none).2.1 = anywhereContext false 2 := by
    with_unfolding_all rfl
  obtain ⟨ends, settled⟩ := removal.run Forest.sensorMachine _ .rescan hrescan
  have hends : .succeeded ∈ ends := removal.succeeded_mem settled (Nat.lt_succ_self 1)
  have hdisturbed : ¬ Disturbed ([⟨.init .standardInput, first⟩, ⟨.removeOn "0" 2, second⟩] ++
      [⟨.rescan, ends⟩]) := by
    rw [Disturbed, lasting_append_iff]
    rintro (⟨path, moreRounds, h⟩ | ⟨-, h⟩)
    · cases h
    · exact h (.inr (.inr hends))
  have hreconciled : ((anywhereContext true 1).forest.reconcile
      (anywhereContext true 1).config).map ExpectedChip.matched = [false] := by
    with_unfolding_all rfl
  refine ⟨_, ends, removal, ⟨[_], _, [], rfl, ⟨"0", 2, rfl⟩, nofun⟩, fun h => ?_, settled, rfl,
    hdisturbed, (flags_of_history settled rfl).2.2 hdisturbed⟩
  rw [← h] at hreconciled
  cases hreconciled

/-- The chip that the bench expects is missing, and its adapter is there. -/
def benchContext : Context where
  settings := {}
  readiness := .ready
  forest := benchForest none
  config := [{
    name := some "lm75"
    bus := { nr := some 0, path := some "0" }
    address := some 0x48
    origin := ⟨"<stdin>", 1⟩
    available := true }]

/-- The bench is set up by an initialization. -/
theorem history_benchContext : ∃ ends, History {} [⟨.init .standardInput, ends⟩] benchContext := by
  have hrun : ((Call.init .standardInput).op.run.run benchMachine (.fresh {}) fun _ => none).2.1 =
      benchContext := by
    with_unfolding_all rfl
  exact History.start.run benchMachine _ (.init .standardInput) hrun

end Context
end I2cTopology
